import DatasetSearch.Json.Value

/-!
# Records in JSON

A record with named fields is written as an object, whose other fields are ignored, or as an array
of its fields in their order, in which trailing fields may be missing but none may be too many.
-/

namespace DatasetSearch.Json

/-- The fields of a record by name, as a look-up; none if the value is no form of a record. -/
def record? (names : List String) : Json → Option (String → Option Json)
  | .object fields => some (Fields.get? fields)
  | .array items =>
    if items.length ≤ names.length then some (fun name => (names.zip items).lookup name) else none
  | _ => none

/-- The name of a constant: a string, or an object whose only field has the value null. -/
def constant? : Json → Option String
  | .string name => some name
  | .object [(name, .null)] => some name
  | _ => none

def bool? : Json → Option Bool
  | .bool b => some b
  | _ => none

/-- The items of an array, each decoded. -/
def list? {α : Type} (decode : Json → Option α) : Json → Option (List α)
  | .array items => items.mapM decode
  | _ => none

def nullable? {α : Type} (decode : Json → Option α) : Json → Option (Option α)
  | .null => some none
  | value => (decode value).map some

/-- A field that may be missing: its default stands in for it. -/
def orDefault {α : Type} (default : α) (decode : Json → Option α) : Option Json → Option α
  | none => some default
  | some value => decode value

end DatasetSearch.Json
