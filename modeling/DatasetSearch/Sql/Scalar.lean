import DatasetSearch.Sql.Condition

/-!
# Scalars of a request

Which JSON values a condition can hold: a string, a number or a boolean.  Null, arrays and objects
are no scalars.
-/

namespace DatasetSearch.Sql

def scalarText? : Json → Option String
  | .string s => some s
  | .number n => some n.text
  | .bool true => some "true"
  | .bool false => some "false"
  | _ => none

def nonEmptyText? (value : Json) : Option String := (scalarText? value).filter (· ≠ "")

/-- A scalar as the operand of a comparison. -/
def operand? : Json → Option Operand
  | .string s => some (.text s)
  | .number n => some (.number n)
  | .bool b => some (.flag b)
  | _ => none

/-- A column with one of the scalars of an array; none if the array holds no scalar. -/
def oneOf? (column : String) (items : List Json) : Option Condition :=
  match items.filterMap scalarText? with
  | [] => none
  | values => some (.atom (.oneOf column values))

end DatasetSearch.Sql
