/-!
# Similarity of words

The Jaro similarity of two words counts the characters that they have in common within a window,
and those among them that are out of order.  A common beginning raises it.  All of it is computed
exactly, as fractions.
-/

namespace DatasetSearch.Text

/-- A fraction from zero to one. -/
structure Share where
  part : Nat
  whole : Nat
deriving DecidableEq, Repr

/-- Whether one fraction is less than another. -/
def Share.less (x y : Share) : Bool := decide (x.part * y.whole < y.part * x.whole)

namespace Similarity

/-- The first unused place from `low` to `high` that holds a character. -/
def findPlace (word : List Char) (used : List Nat) (low high : Nat) (c : Char) : Option Nat :=
  (List.range word.length).find? fun place =>
    decide (low ≤ place) && decide (place ≤ high) && word[place]? == some c && !used.contains place

/-- The places in one word of the characters of another, each looked for within `range` of its own
place; those found are counted from `place` on. -/
def commonPlaces (word : List Char) (range : Nat) : Nat → List Nat → List Char → List Nat
  | _, used, [] => used.reverse
  | place, used, c :: rest =>
    match findPlace word used (place - range) (min (word.length - 1) (place + range)) c with
    | some found => commonPlaces word range (place + 1) (found :: used) rest
    | none => commonPlaces word range (place + 1) used rest

/-- The number of places that lie before the one just before them in the list. -/
def steps : List Nat → Nat
  | first :: second :: rest =>
    (if second < first then 1 else 0) + steps (second :: rest)
  | _ => 0

def jaro (a b : List Char) : Share :=
  if a.isEmpty ∧ b.isEmpty then ⟨1, 1⟩
  else if a.isEmpty ∨ b.isEmpty then ⟨0, 1⟩
  else if a.length = 1 ∧ b.length = 1 then ⟨if a = b then 1 else 0, 1⟩
  else
    let places := commonPlaces b (max a.length b.length / 2 - 1) 0 [] a
    let common := places.length
    if common = 0 then ⟨0, 1⟩
    else
      let inOrder := common - steps places
      ⟨common * b.length * common + common * a.length * common + inOrder * a.length * b.length,
        3 * a.length * b.length * common⟩

def commonStart : List Char → List Char → Nat
  | c :: a, d :: b => if c = d then commonStart a b + 1 else 0
  | _, _ => 0

end Similarity

open Similarity in
/-- The similarity of two words: what the Jaro similarity leaves to one shrinks by a tenth for each
character of the common beginning. -/
def similarity (a b : String) : Share :=
  let base := jaro a.toList b.toList
  let start := commonStart a.toList b.toList
  let part := 10 * base.part + start * (base.whole - base.part)
  ⟨min part (10 * base.whole), 10 * base.whole⟩

/-- The candidate most similar to a word, of equals the last, if it is more similar than `least`. -/
def mostSimilar? (least : Share) (word : String) (candidates : List String) : Option String :=
  let close := candidates.filter (fun candidate => least.less (similarity word candidate))
  close.foldl
    (fun best candidate =>
      match best with
      | none => some candidate
      | some other =>
        if (similarity word candidate).less (similarity word other) then some other
        else some candidate)
    none

end DatasetSearch.Text
