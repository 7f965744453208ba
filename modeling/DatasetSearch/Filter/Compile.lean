import DatasetSearch.Filter.Preset
import DatasetSearch.Filter.Spec
import DatasetSearch.Log.Event

/-!
# Compiling filters

The conditions of a filter come in a fixed order: presets, lower bounds, upper bounds, lists, data
availability, exact values; within each group they follow the fields.  A field that names no
allowed column, or whose value does not fit, contributes nothing.
-/

namespace DatasetSearch.Filter

open Sql

def reservedKeys : List String := ["operator", "exact_values", "dataAvailability"]

/-- Whether a key may name a column: it is neither reserved nor the key of an enabled preset. -/
def isGeneric (presets : List Preset) (key : String) : Bool :=
  !reservedKeys.contains key && !presets.any (·.key == key)

/-- The conditions of the enabled presets, in the order of the presets. -/
def presetConditions (allowlist : Allowlist) (presets : List Preset) (spec : FilterSpec) :
    List Condition :=
  presets.filterMap fun preset =>
    (spec.get? preset.key).bind (preset.condition? · allowlist)

/-- The bound that a field sets on the column before the ending of its key. -/
def bound? (allowlist : Allowlist) (presets : List Preset) (ending : String) (op : Comparison) :
    String × Json → Option Condition
  | (key, value) =>
    if isGeneric presets key then
      match Text.dropEnd? ending key with
      | some column =>
        if allowlist.contains column then
          (operand? value).map (fun operand => .atom (.compare column op operand))
        else none
      | none => none
    else none

/-- The list condition that a field sets on the column of its key. -/
def list? (allowlist : Allowlist) (presets : List Preset) : String × Json → Option Condition
  | (key, .array items) =>
    if isGeneric presets key ∧ allowlist.contains key then oneOf? key items else none
  | _ => none

/-- A column that holds data: it is not null and not the empty text. -/
def available (column : String) : Condition :=
  .chain .and [.atom (.isNotNull column), .atom (.textIsNotEmpty column)]

/-- The allowed columns that must hold data, as one group. -/
def availability (allowlist : Allowlist) (spec : FilterSpec) : List Condition :=
  match spec.get? "dataAvailability" with
  | some (.array items) =>
    match (items.filterMap Json.string?).filter allowlist.contains with
    | [] => []
    | columns => [.group (.chain spec.connective (columns.map available))]
  | _ => []

def exactConditions (allowlist : Allowlist) (spec : FilterSpec) : List Condition :=
  match spec.get? "exact_values" with
  | some (.object fields) =>
    fields.filterMap fun (column, value) =>
      if allowlist.contains column then exactCondition? column value else none
  | _ => []

def conditions (allowlist : Allowlist) (presets : List Preset) (spec : FilterSpec) :
    List Condition :=
  presetConditions allowlist presets spec ++
    spec.fields.filterMap (bound? allowlist presets "Min" .ge) ++
    spec.fields.filterMap (bound? allowlist presets "Max" .le) ++
    spec.fields.filterMap (list? allowlist presets) ++
    availability allowlist spec ++
    exactConditions allowlist spec

def compile (allowlist : Allowlist) (presets : List Preset) (spec : FilterSpec) : Clause :=
  ⟨spec.connective, conditions allowlist presets spec⟩

/-- What compiling a filter reports; a filter without fields reports nothing. -/
def events (spec : FilterSpec) (clause : Clause) : List Log.Event :=
  if spec.isEmpty then []
  else
    [{ level := .debug
       target := "fedspend_query::filter"
       message := "Built filter clause"
       fields := [("clause", .plain clause.text), ("operator", .quoted spec.connective.keyword)] }]

end DatasetSearch.Filter
