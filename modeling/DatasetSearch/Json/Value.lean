import DatasetSearch.Decimal.Shortest

/-!
# JSON values

An object is a list of fields in order of insertion.  Setting a field that is present keeps its
place and replaces its value, so the fields of a built object have distinct names.  A number is an
integer from `-2^63` to `2^64 - 1` or a double.
-/

namespace DatasetSearch

inductive Number where
  | int (value : Int)
  | float (value : Binary64)
deriving DecidableEq, Repr

inductive Json where
  | null
  | bool (value : Bool)
  | number (value : Number)
  | string (value : String)
  | array (items : List Json)
  | object (fields : List (String × Json))
deriving Repr, Inhabited

/-- The fields of an object; also one row of a query result, by column name. -/
abbrev Fields := List (String × Json)

namespace Fields

def get? (fields : Fields) (name : String) : Option Json :=
  (fields.find? (·.1 == name)).map (·.2)

/-- The fields with one of them set: in place if it is present, else at the end. -/
def insert (name : String) (value : Json) : Fields → Fields
  | [] => [(name, value)]
  | (key, old) :: rest =>
    if key = name then (key, value) :: rest else (key, old) :: insert name value rest

/-- The object that results from setting the fields one after the other. -/
def ofPairs (pairs : List (String × Json)) : Fields :=
  pairs.foldl (fun fields (name, value) => insert name value fields) []

end Fields

namespace Number

/-- A double in text form: positional from `1e-5` up to `1e16`, always with a point, and outside
that range scientific with a signed exponent. -/
def floatText (x : Binary64) : List Char :=
  let d := Decimal.shortest x
  let body :=
    if x.isZero then ['0', '.', '0']
    else if -5 ≤ d.leading ∧ d.leading < 16 then
      let text := d.positional
      if 0 ≤ d.exponent then text ++ ['.', '0'] else text
    else d.scientific
  if x.negative then '-' :: body else body

def text : Number → String
  | .int value => toString value
  | .float value => String.ofList (floatText value)

end Number

namespace Json

def string? : Json → Option String
  | .string s => some s
  | _ => none

def object? : Json → Option Fields
  | .object fields => some fields
  | _ => none

/-- The value as a natural number of at most `limit`; only integers count. -/
def natUpTo? (limit : Nat) : Json → Option Nat
  | .number (.int value) => if 0 ≤ value ∧ value ≤ (limit : Int) then some value.toNat else none
  | _ => none

/-- An integer as a value. -/
def ofNat (n : Nat) : Json := .number (.int n)

/-- An optional value, absence being null. -/
def ofOption {α : Type} (encode : α → Json) : Option α → Json
  | none => .null
  | some a => encode a

end Json

end DatasetSearch
