import DatasetSearch.Json.Value
import DatasetSearch.Sql.Quoting
import DatasetSearch.Text.Pieces

/-!
# Conditions on rows

The predicates that the compilers produce, and the one function that writes them as SQL text.
Every name and every text of a request reaches a statement through `Atom.text`, which quotes it.
A condition says itself where it carries parentheses, so its text follows its structure.
-/

namespace DatasetSearch.Sql

inductive Comparison where
  | eq
  | ne
  | gt
  | lt
  | ge
  | le
deriving DecidableEq, Repr

/-- The SQL spelling of a comparison operator. -/
def Comparison.text : Comparison → String
  | .eq => "="
  | .ne => "!="
  | .gt => ">"
  | .lt => "<"
  | .ge => ">="
  | .le => "<="

/-- What a column is compared with. -/
inductive Operand where
  | number (value : Number)
  | flag (value : Bool)
  | text (value : String)
  /-- A number written with exactly these digits. -/
  | digits (value : String)
deriving DecidableEq, Repr

def Operand.render : Operand → String
  | .number value => value.text
  | .flag true => "TRUE"
  | .flag false => "FALSE"
  | .text value => quoteLiteral value
  | .digits value => value

/-- A text to look for: anything may stand before it, after it, or both. -/
structure Pattern where
  value : String
  openStart : Bool
  openEnd : Bool
deriving DecidableEq, Repr

def Pattern.containing (value : String) : Pattern := ⟨value, true, true⟩

/-- The literal of a pattern, an open side being a percent sign. -/
def Pattern.literal (p : Pattern) : String :=
  "'" ++ (if p.openStart then "%" else "") ++ escapeLiteral p.value ++
    (if p.openEnd then "%" else "") ++ "'"

inductive Atom where
  | compare (column : String) (op : Comparison) (operand : Operand)
  | oneOf (column : String) (values : List String)
  | isNull (column : String)
  | isNotNull (column : String)
  | textIsEmpty (column : String)
  | textIsNotEmpty (column : String)
  /-- The column read as text matches a pattern, ignoring case. -/
  | like (column : String) (pattern : Pattern)
  /-- The column read as text does not match a pattern, ignoring case. -/
  | notLike (column : String) (pattern : Pattern)
  /-- Some column of the row holds the text. -/
  | rowContains (value : String)
  /-- No column of the row holds the text. -/
  | rowLacks (value : String)
deriving DecidableEq, Repr

def Atom.text : Atom → String
  | .compare column op operand => quoteIdentifier column ++ " " ++ op.text ++ " " ++ operand.render
  | .oneOf column values =>
    quoteIdentifier column ++ " IN (" ++ Text.join ", " (values.map quoteLiteral) ++ ")"
  | .isNull column => quoteIdentifier column ++ " IS NULL"
  | .isNotNull column => quoteIdentifier column ++ " IS NOT NULL"
  | .textIsEmpty column => textOperand column ++ " = ''"
  | .textIsNotEmpty column => textOperand column ++ " <> ''"
  | .like column pattern => textOperand column ++ " ILIKE " ++ pattern.literal
  | .notLike column pattern => textOperand column ++ " NOT ILIKE " ++ pattern.literal
  | .rowContains value => "CONTAINS_TEXT('*', " ++ quoteLiteral value ++ ")"
  | .rowLacks value => "NOT CONTAINS_TEXT('*', " ++ quoteLiteral value ++ ")"

/-- How conditions combine. -/
inductive Connective where
  | and
  | or
deriving DecidableEq, Repr

namespace Connective

def keyword : Connective → String
  | .and => "AND"
  | .or => "OR"

/-- The keyword between blanks. -/
def joiner : Connective → String
  | .and => " AND "
  | .or => " OR "

end Connective

/-- A condition: an atomic predicate, a chain of conditions, or a chain in parentheses. -/
inductive Condition where
  | atom (a : Atom)
  | chain (connective : Connective) (parts : List Condition)
  | group (inner : Condition)

mutual

def Condition.text : Condition → String
  | .atom a => a.text
  | .chain connective parts => Text.join connective.joiner (Condition.texts parts)
  | .group inner => "(" ++ inner.text ++ ")"

/-- The SQL texts of the parts of a chain. -/
def Condition.texts : List Condition → List String
  | [] => []
  | part :: rest => part.text :: Condition.texts rest

end

def Condition.pair (connective : Connective) (left right : Atom) : Condition :=
  .group (.chain connective [.atom left, .atom right])

/-- The conditions of a compiled filter or search, joined by one connective.  Without conditions a
clause restricts nothing. -/
structure Clause where
  connective : Connective
  conditions : List Condition

namespace Clause

def empty : Clause := ⟨.and, []⟩

def isEmpty (c : Clause) : Bool := c.conditions.isEmpty

def text (c : Clause) : String :=
  Text.join c.connective.joiner (Condition.texts c.conditions)

end Clause

end DatasetSearch.Sql
