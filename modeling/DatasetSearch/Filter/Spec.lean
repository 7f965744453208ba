import DatasetSearch.Filter.Operator
import DatasetSearch.Json.Reader

/-!
# Filter specifications

A filter is asked for by the fields of a JSON object.  Three keys are reserved: `operator` names
the connective, `exact_values` holds exact conditions by column, and `dataAvailability` lists
columns that must hold data.
-/

namespace DatasetSearch

structure FilterSpec where
  fields : Fields
deriving Repr

namespace FilterSpec

def empty : FilterSpec := ⟨[]⟩

/-- The filter that a JSON value asks for; only an object has fields. -/
def ofJson : Json → FilterSpec
  | .object fields => ⟨fields⟩
  | _ => empty

/-- The parameters of a query string that are no filter fields. -/
def reservedParameters : List String :=
  ["page", "page_size", "pageSize", "search_keywords", "keywords", "order_by"]

/-- A value of a query string: the JSON value that it denotes, else the text itself. -/
def parameterValue (raw : String) : Json := (Json.parse? raw).getD (.string raw)

def ofQueryPairs (pairs : List (String × String)) : FilterSpec :=
  let kept := pairs.filter (fun (key, _) => !reservedParameters.contains key)
  ⟨Fields.ofPairs (kept.map (fun (key, raw) => (key, parameterValue raw)))⟩

def insert (spec : FilterSpec) (key : String) (value : Json) : FilterSpec :=
  ⟨Fields.insert key value spec.fields⟩

def get? (spec : FilterSpec) (key : String) : Option Json := Fields.get? spec.fields key

def isEmpty (spec : FilterSpec) : Bool := spec.fields.isEmpty

/-- The connective between the conditions: `and` unless the operator is a text that says `or`. -/
def connective (spec : FilterSpec) : Sql.Connective :=
  match (spec.get? "operator").bind Json.string? with
  | some raw => Filter.connectiveOf raw
  | none => .and

end FilterSpec

end DatasetSearch
