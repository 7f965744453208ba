/-!
# Cutting and joining texts

Splitting at a separator character, joining with a separator text, and the search for a piece at
the start, at the end or anywhere in a text.  All of it works on lists of characters.
-/

namespace DatasetSearch.Text

/-- The pieces between the separators; one piece more than there are separators. -/
def splitChars (separator : Char) : List Char → List (List Char)
  | [] => [[]]
  | c :: rest =>
    if c = separator then [] :: splitChars separator rest
    else
      match splitChars separator rest with
      | [] => [[c]]
      | piece :: pieces => (c :: piece) :: pieces

theorem splitChars_of_notMem {separator : Char} {s : List Char} (h : separator ∉ s) :
    splitChars separator s = [s] := by
  induction s with
  | nil => rfl
  | cons c s ih =>
    rw [List.mem_cons, not_or] at h
    rw [splitChars, if_neg (Ne.symm h.1), ih h.2]

theorem splitChars_ne_nil (separator : Char) (s : List Char) : splitChars separator s ≠ [] := by
  cases s with
  | nil => exact List.cons_ne_nil _ _
  | cons c s =>
    unfold splitChars
    split
    · exact List.cons_ne_nil _ _
    · split <;> exact List.cons_ne_nil _ _

theorem splitChars_append_separator (separator : Char) (s t : List Char) :
    splitChars separator (s ++ separator :: t) =
      splitChars separator s ++ splitChars separator t := by
  induction s with
  | nil => simp [splitChars]
  | cons c s ih =>
    rw [List.cons_append, splitChars, splitChars, ih]
    by_cases hc : c = separator
    · rw [if_pos hc, if_pos hc, List.cons_append]
    · rw [if_neg hc, if_neg hc]
      cases hs : splitChars separator s with
      | nil => exact absurd hs (splitChars_ne_nil separator s)
      | cons piece pieces => rfl

theorem splitChars_cons_of_ne {separator c : Char} (hc : c ≠ separator) {s piece : List Char}
    {pieces : List (List Char)} (hs : splitChars separator s = piece :: pieces) :
    splitChars separator (c :: s) = (c :: piece) :: pieces := by
  rw [splitChars, if_neg hc, hs]

/-- Characters in front belong to the first piece. -/
theorem splitChars_append_left {separator : Char} {t : List Char} (h : separator ∉ t)
    (s : List Char) :
    ∃ first rest, splitChars separator s = first :: rest ∧
      splitChars separator (t ++ s) = (t ++ first) :: rest := by
  obtain ⟨first, rest, hs⟩ := List.exists_cons_of_ne_nil (splitChars_ne_nil separator s)
  refine ⟨first, rest, hs, ?_⟩
  induction t with
  | nil => exact hs
  | cons c t ih =>
    rw [List.mem_cons, not_or] at h
    exact splitChars_cons_of_ne (Ne.symm h.1) (ih h.2)

/-- Characters at the end belong to the last piece. -/
theorem splitChars_append_right {separator : Char} {t : List Char} (h : separator ∉ t)
    (s : List Char) :
    ∃ pieces last, splitChars separator s = pieces ++ [last] ∧
      splitChars separator (s ++ t) = pieces ++ [last ++ t] := by
  induction s with
  | nil => exact ⟨[], [], rfl, splitChars_of_notMem h⟩
  | cons c s ih =>
    obtain ⟨pieces, last, hs, hst⟩ := ih
    by_cases hc : c = separator
    · refine ⟨[] :: pieces, last, ?_, ?_⟩
      · rw [splitChars, if_pos hc, hs, List.cons_append]
      · rw [List.cons_append, splitChars, if_pos hc, hst, List.cons_append]
    · cases pieces with
      | nil =>
        exact ⟨[], c :: last, splitChars_cons_of_ne hc hs, splitChars_cons_of_ne hc hst⟩
      | cons piece pieces =>
        exact ⟨(c :: piece) :: pieces, last, splitChars_cons_of_ne hc hs,
          splitChars_cons_of_ne hc hst⟩

/-- The pieces of a text between the separators. -/
def split (separator : Char) (s : String) : List String :=
  (splitChars separator s.toList).map String.ofList

/-- The texts in order, with the separator between neighbours. -/
def join (separator : String) : List String → String
  | [] => ""
  | [piece] => piece
  | piece :: rest => piece ++ separator ++ join separator rest

theorem join_append {separator : String} {first second : List String} (hfirst : first ≠ [])
    (hsecond : second ≠ []) :
    join separator (first ++ second) =
      join separator first ++ separator ++ join separator second := by
  induction first with
  | nil => exact absurd rfl hfirst
  | cons piece first ih =>
    cases first with
    | nil =>
      obtain ⟨next, second, rfl⟩ := List.exists_cons_of_ne_nil hsecond
      rfl
    | cons next first =>
      have hrest := ih (List.cons_ne_nil _ _)
      simp only [List.cons_append, join] at hrest ⊢
      rw [hrest]
      simp only [String.append_assoc]

theorem join_eq_empty_iff {separator : String} {pieces : List String}
    (h : ∀ piece ∈ pieces, piece ≠ "") : join separator pieces = "" ↔ pieces = [] := by
  cases pieces with
  | nil => simp [join]
  | cons piece pieces =>
    have hpiece : piece ≠ "" := h piece List.mem_cons_self
    cases pieces with
    | nil => simpa [join] using hpiece
    | cons next pieces => simp [join, String.append_eq_empty_iff, hpiece]

/-- Whether the second list of characters holds the first as a contiguous piece. -/
def containsChars (piece : List Char) : List Char → Bool
  | [] => piece.isEmpty
  | c :: rest => piece.isPrefixOf (c :: rest) || containsChars piece rest

/-- Whether a text holds another as a contiguous piece. -/
def contains (s piece : String) : Bool := containsChars piece.toList s.toList

def startsWith (s start : String) : Bool := start.toList.isPrefixOf s.toList

/-- What follows `start` at the beginning of the characters, if they begin so. -/
def dropStart? (start : List Char) (s : List Char) : Option (List Char) :=
  if start.isPrefixOf s then some (s.drop start.length) else none

def dropEnd? (ending s : String) : Option String :=
  (dropStart? ending.toList.reverse s.toList.reverse).map (String.ofList ·.reverse)

/-- The characters with every separator piece replaced; pieces are found from left to right and do
not overlap.  The first argument bounds the number of characters read. -/
def replaceChars (piece replacement : List Char) : Nat → List Char → List Char
  | 0, s => s
  | _ + 1, [] => []
  | fuel + 1, c :: rest =>
    if piece ≠ [] ∧ piece.isPrefixOf (c :: rest) then
      replacement ++ replaceChars piece replacement fuel ((c :: rest).drop piece.length)
    else c :: replaceChars piece replacement fuel rest

/-- A text with every occurrence of a piece replaced. -/
def replace (piece replacement s : String) : String :=
  String.ofList (replaceChars piece.toList replacement.toList s.toList.length s.toList)

/-- Equality up to the case of the letters `A` to `Z`. -/
def sameIgnoringCase (s t : String) : Bool :=
  s.toList.map Char.toLower == t.toList.map Char.toLower

/-- The letters `a` to `z` in upper case, everything else unchanged. -/
def upper (s : String) : String := String.ofList (s.toList.map Char.toUpper)

/-- The letters `A` to `Z` in lower case, everything else unchanged. -/
def lower (s : String) : String := String.ofList (s.toList.map Char.toLower)

end DatasetSearch.Text
