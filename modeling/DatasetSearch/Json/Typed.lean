import DatasetSearch.Json.Reader

/-!
# Reading JSON text as a value of a known shape

A typed reader looks at the text from left to right and stops at the first thing that is wrong:
either the text is malformed there, or what stands there has the wrong shape.  Text after the value
is not looked at.

Values of unknown fields are skipped.  What is skipped has to be well formed, but nothing has to
come of it: it may be nested without limit, its numbers may be too large, and its strings may
hold lone surrogates.
-/

namespace DatasetSearch.Json

inductive TextFault where
  | malformed
  | wrongShape
deriving DecidableEq, Repr

/-- A reader of values of one shape: the value and the rest of the text. -/
abbrev Typed (α : Type) := List Char → Except TextFault (α × List Char)

/-- A reader whose failure means a malformed text. -/
def wellFormed {α : Type} (result : Option (α × List Char)) : Except TextFault (α × List Char) :=
  match result with
  | some read => .ok read
  | none => .error .malformed

/-! ### Skipping -/

/-- What follows a string, after its opening quotation mark.  The first argument bounds the
characters. -/
def skipString : Nat → List Char → Option (List Char)
  | 0, _ => none
  | fuel + 1, s =>
    match s with
    | '"' :: rest => some rest
    | '\\' :: 'u' :: rest => (hex4 rest).bind (fun (_, rest) => skipString fuel rest)
    | '\\' :: c :: rest => (simpleEscape? c).bind (fun _ => skipString fuel rest)
    | c :: rest => if c.toNat < 0x20 ∨ c = '\\' then none else skipString fuel rest
    | [] => none

/-- What follows the name of a field and its colon. -/
def skipName (s : List Char) : Option (List Char) :=
  match skipBlank s with
  | '"' :: rest =>
    match (skipString (rest.length + 1) rest).map skipBlank with
    | some (':' :: rest) => some rest
    | _ => none
  | _ => none

mutual

/-- What follows a value.  The first argument bounds the number of nested calls. -/
def skipValue : Nat → List Char → Option (List Char)
  | 0, _ => none
  | fuel + 1, s =>
    match skipBlank s with
    | 'n' :: rest => expect "ull" rest
    | 't' :: rest => expect "rue" rest
    | 'f' :: rest => expect "alse" rest
    | '"' :: rest => skipString (rest.length + 1) rest
    | '[' :: rest =>
      match skipBlank rest with
      | ']' :: rest => some rest
      | rest => skipItems fuel rest
    | '\x7b' :: rest =>
      match skipBlank rest with
      | '\x7d' :: rest => some rest
      | rest => skipFields fuel rest
    | s => (numberToken s).map (·.2)

def skipItems : Nat → List Char → Option (List Char)
  | 0, _ => none
  | fuel + 1, s =>
    match (skipValue fuel s).bind (afterItem ']') with
    | some (true, rest) => skipItems fuel rest
    | some (false, rest) => some rest
    | none => none

def skipFields : Nat → List Char → Option (List Char)
  | 0, _ => none
  | fuel + 1, s =>
    match ((skipName s).bind (skipValue fuel)).bind (afterItem '\x7d') with
    | some (true, rest) => skipFields fuel rest
    | some (false, rest) => some rest
    | none => none

end

/-! ### Simple values -/

/-- What is wrong where a value of another shape was expected: a literal, a number or a string has
to be well formed to its end, a container only begins. -/
def mismatch (s : List Char) : TextFault :=
  let wrongIf (wellFormed : Bool) : TextFault := if wellFormed then .wrongShape else .malformed
  match s with
  | 'n' :: rest => wrongIf (expect "ull" rest).isSome
  | 't' :: rest => wrongIf (expect "rue" rest).isSome
  | 'f' :: rest => wrongIf (expect "alse" rest).isSome
  | '"' :: rest => wrongIf (stringBody rest).isSome
  | '[' :: _ => .wrongShape
  | '\x7b' :: _ => .wrongShape
  | s => wrongIf (numberValue s).isSome

def typedString : Typed String := fun s =>
  match skipBlank s with
  | '"' :: rest => wellFormed (stringBody rest)
  | s => .error (mismatch s)

/-- A 32-bit word: an integer without fraction or exponent. -/
def typedWord32 : Typed UInt32 := fun s =>
  let s := skipBlank s
  match numberValue s with
  | some (.int n, rest) =>
    if 0 ≤ n ∧ n < UInt32.size then .ok (UInt32.ofNat n.toNat, rest) else .error .wrongShape
  | _ => .error (mismatch s)

def typedNullable {α : Type} (read : Typed α) : Typed (Option α) := fun s =>
  match skipBlank s with
  | 'n' :: rest => wellFormed ((expect "ull" rest).map (none, ·))
  | s => (read s).map (fun (value, rest) => (some value, rest))

/-- An object, in which containers nest at most `depth` deep, itself included. -/
def typedObject (depth : Nat) : Typed Fields := fun s =>
  match skipBlank s with
  | '\x7b' :: rest =>
    match value depth ('\x7b' :: rest) with
    | some (.object fields, rest) => .ok (fields, rest)
    | _ => .error .malformed
  | s => .error (mismatch s)

/-! ### Records -/

structure RecordField (σ : Type) where
  /-- The names of the field; any of them will do. -/
  names : List String
  take : σ → Typed σ
  /-- Whether it may be missing where records are written as arrays. -/
  hasDefault : Bool

section

variable {σ : Type}

def fieldIndex? (fields : List (RecordField σ)) (name : String) : Option Nat :=
  fields.findIdx? (·.names.contains name)

/-- The value of a field, after its name, taken up; a field that is not known is skipped. -/
def takeField (fields : List (RecordField σ)) (index : Option Nat) (record : σ) :
    Typed σ := fun s =>
  match skipBlank s with
  | ':' :: rest =>
    match index.bind (fields[·]?) with
    | some field => field.take record rest
    | none => wellFormed ((skipValue (callBound rest) rest).map (record, ·))
  | _ => .error .malformed

/-- The fields of a record written as an object, from a name on.  The first argument bounds their
number, `seen` holds the indices of those before.  A field given twice is wrong as soon as its name
has been read. -/
def typedFields (fields : List (RecordField σ)) : Nat → List Nat → σ → Typed σ
  | 0, _, _, _ => .error .malformed
  | fuel + 1, seen, record, s =>
    match skipBlank s with
    | '"' :: rest =>
      match stringBody rest with
      | none => .error .malformed
      | some (name, rest) =>
        let index := fieldIndex? fields name
        if index.any seen.contains then .error .wrongShape
        else
          match takeField fields index record rest with
          | .error fault => .error fault
          | .ok (record, rest) =>
            match afterItem '\x7d' rest with
            | some (true, rest) => typedFields fields fuel (index.toList ++ seen) record rest
            | some (false, rest) => .ok (record, rest)
            | none => .error .malformed
    | _ => .error .malformed

/-- The fields of a record written as an array, each but the first after a comma.  Fields that are
missing keep their defaults if they have one; more items than fields are malformed. -/
def typedItems : List (RecordField σ) → Bool → σ → Typed σ
  | [], _, record, s =>
    match skipBlank s with
    | ']' :: rest => .ok (record, rest)
    | _ => .error .malformed
  | field :: fields, first, record, s =>
    match skipBlank s with
    | ']' :: rest =>
      if (field :: fields).all (·.hasDefault) then .ok (record, rest) else .error .wrongShape
    | c :: rest =>
      let item? : Option (List Char) :=
        if first then some (c :: rest)
        else if c = ',' ∧ (skipBlank rest).head? ≠ some ']' then some rest
        else none
      match item? with
      | none => .error .malformed
      | some item =>
        match field.take record item with
        | .error fault => .error fault
        | .ok (record, rest) => typedItems fields false record rest
    | [] => .error .malformed

/-- A record with its defaults, written as an object or as an array. -/
def typedRecord (fields : List (RecordField σ)) (defaults : σ) : Typed σ := fun s =>
  match skipBlank s with
  | '\x7b' :: rest =>
    match skipBlank rest with
    | '\x7d' :: rest => .ok (defaults, rest)
    | rest => typedFields fields (rest.length + 1) [] defaults rest
  | '[' :: rest => typedItems fields true defaults rest
  | s => .error (mismatch s)

end

end DatasetSearch.Json
