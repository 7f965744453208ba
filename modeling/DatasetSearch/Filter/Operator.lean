import DatasetSearch.Sql.Scalar
import DatasetSearch.Text.Blank

/-!
# Operators of a filter

The connective between the conditions of a filter, and the operators that an exact condition can
name.
-/

namespace DatasetSearch.Filter

open Sql

/-- The connective that a text names: `or` in any case and with any blanks around it, otherwise
`and`. -/
def connectiveOf (raw : String) : Connective :=
  if Text.sameIgnoringCase (Text.trim raw) "or" then .or else .and

inductive ExactOperator where
  | compare (op : Comparison)
  | contains
  | startsWith
  | endsWith
  | isNull
  | isNotNull
deriving DecidableEq, Repr

namespace ExactOperator

/-- The operator that a text names, in any case and with any blanks around it. -/
def ofText? (raw : String) : Option ExactOperator :=
  match Text.upper (Text.trim raw) with
  | "=" => some (.compare .eq)
  | "!=" => some (.compare .ne)
  | ">" => some (.compare .gt)
  | "<" => some (.compare .lt)
  | ">=" => some (.compare .ge)
  | "<=" => some (.compare .le)
  | "CONTAINS" => some .contains
  | "STARTS_WITH" => some .startsWith
  | "ENDS_WITH" => some .endsWith
  | "IS_NULL" => some .isNull
  | "IS_NOT_NULL" => some .isNotNull
  | _ => none

def matching? (column : String) (value : Json) (pattern : String → Pattern) : Option Condition :=
  (scalarText? value).map (fun text => .atom (.like column (pattern text)))

/-- The condition on a column; the null tests ignore the value, the others need a scalar. -/
def condition? (op : ExactOperator) (column : String) (value : Json) : Option Condition :=
  match op with
  | .isNull => some (.atom (.isNull column))
  | .isNotNull => some (.atom (.isNotNull column))
  | .contains => matching? column value Pattern.containing
  | .startsWith => matching? column value (⟨·, false, true⟩)
  | .endsWith => matching? column value (⟨·, true, false⟩)
  | .compare comparison =>
    (operand? value).map (fun operand => .atom (.compare column comparison operand))

end ExactOperator

/-- The condition of one exact entry: an object names its operator and its value, the empty text
by default; an array lists values; null asks for null; a scalar asks for equality. -/
def exactCondition? (column : String) : Json → Option Condition
  | .object fields => do
    let raw ← (Fields.get? fields "operator").bind Json.string?
    let op ← ExactOperator.ofText? raw
    op.condition? column ((Fields.get? fields "value").getD (.string ""))
  | .array items => oneOf? column items
  | .null => some (.atom (.isNull column))
  | scalar => (operand? scalar).map (fun operand => .atom (.compare column .eq operand))

end DatasetSearch.Filter
