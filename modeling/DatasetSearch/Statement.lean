import DatasetSearch.Json.Record
import DatasetSearch.Json.Writer
import DatasetSearch.Text.Integer
import DatasetSearch.Text.Pieces

/-!
# Statements and their results

What is sent to a warehouse, and the rows that come back with their timing and provenance.
-/

namespace DatasetSearch

/-- A value passed beside the text of a statement. -/
inductive Bind where
  | text (value : String)
  | textArray (values : List String)
deriving DecidableEq, Repr

namespace Bind

/-- A bind as an object with its type and its value. -/
def toJson : Bind → Json
  | .text value => .object [("type", .string "text"), ("value", .string value)]
  | .textArray values =>
    .object [("type", .string "text_array"), ("value", .array (values.map Json.string))]

/-- The bind that a value denotes: a record of type and value. -/
def ofJson? (json : Json) : Option Bind := do
  let field ← Json.record? ["type", "value"] json
  let type ← (field "type").bind Json.constant?
  let value ← field "value"
  match type with
  | "text" => value.string?.map Bind.text
  | "text_array" => (Json.list? Json.string? value).map Bind.textArray
  | _ => none

end Bind

structure Statement where
  sql : String
  binds : List Bind
deriving DecidableEq, Repr

abbrev Row := Fields

/-- The rows of an execution, with its duration and whether they come from a cache. -/
structure QueryResult where
  rows : List Row
  rowCount : Nat
  elapsedMs : UInt64
  cached : Bool
deriving Repr

namespace QueryResult

def ofRows (rows : List Row) (elapsedMs : UInt64) : QueryResult :=
  ⟨rows, rows.length, elapsedMs, false⟩

/-- The value of a column in a row; the case of ASCII letters does not matter, and the first of
several columns counts. -/
def column? (row : Row) (name : String) : Option Json :=
  (row.find? (fun (key, _) => Text.sameIgnoringCase key name)).map (·.2)

/-- The integer in a column of the first row: a 64-bit integer or the text of one. -/
def firstInt? (result : QueryResult) (name : String) : Option Int := do
  let row ← result.rows.head?
  match ← column? row name with
  | .number (.int value) => if Text.fitsInt64 value then some value else none
  | .string text => Text.int64? text
  | _ => none

def toJson (result : QueryResult) : Json :=
  .object
    [("rows", .array (result.rows.map Json.object)),
      ("row_count", .ofNat result.rowCount),
      ("execution_time_ms", .ofNat result.elapsedMs.toNat),
      ("cached", .bool result.cached)]

/-- The result that a value denotes: a record whose last field is false by default. -/
def ofJson? (json : Json) : Option QueryResult := do
  let field ← Json.record? ["rows", "row_count", "execution_time_ms", "cached"] json
  let rows ← (field "rows").bind (Json.list? Json.object?)
  let rowCount ← (field "row_count").bind (Json.natUpTo? (UInt64.size - 1))
  let elapsedMs ← (field "execution_time_ms").bind (Json.natUpTo? (UInt64.size - 1))
  let cached ← Json.orDefault false Json.bool? (field "cached")
  some ⟨rows, rowCount, .ofNat elapsedMs, cached⟩

end QueryResult

end DatasetSearch
