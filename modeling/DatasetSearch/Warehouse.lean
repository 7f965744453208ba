import DatasetSearch.Statement

/-!
# Warehouses

A warehouse answers statements.  An answer is a list of rows or a chain of error texts, outermost
first, and it takes some time.  Two warehouses with fixed answers are given: one answers the k-th
execution of a statement from a script, the other serves the statements of the dataset service.
-/

namespace DatasetSearch

/-- What comes of one execution. -/
structure Reply where
  /-- The rows, or the texts of the error and its causes. -/
  outcome : Except (List String) (List Row)
  delayMs : Nat
deriving Repr

/-- The duration of an execution as it is measured: of the milliseconds the low 64 bits. -/
def Reply.elapsedMs (reply : Reply) : UInt64 := .ofNat reply.delayMs

abbrev Warehouse (σ : Type) := Statement → σ → Reply × σ

namespace Warehouse

/-! ### Scripted answers -/

/-- The replies to one statement text, whatever its binds, that are still to come. -/
structure Script where
  sql : String
  replies : List Reply
deriving Repr

/-- The script after one more execution: the last reply repeats. -/
def Script.advance (script : Script) : Script :=
  match script.replies with
  | _ :: next :: rest => { script with replies := next :: rest }
  | _ => script

/-- A warehouse that follows scripts.  A statement without one yields a single row that holds the
statement's text. -/
def scripted : Warehouse (List Script) := fun statement scripts =>
  match scripts.find? (·.sql == statement.sql) with
  | some script =>
    let reply := script.replies.head?.getD ⟨.ok [], 0⟩
    (reply, scripts.map (fun s => if s.sql = statement.sql then s.advance else s))
  | none => (⟨.ok [[("SQL", .string statement.sql)]], 0⟩, scripts)

/-! ### Fixed tables -/

/-- A warehouse with fixed rows for each kind of statement of the dataset service. -/
structure Fixture where
  /-- The column rows by lower-case `schema.table`. -/
  tables : List (String × List Row)
  count : List Row
  data : List Row
  version : List Row
  /-- A statement that contains one of these texts fails. -/
  fail : List String
  delayMs : Nat
deriving Repr

def bindTexts (binds : List Bind) : List String :=
  binds.filterMap fun
    | .text value => some value
    | .textArray _ => none

def Fixture.rows (fixture : Fixture) (statement : Statement) : List Row :=
  if Text.contains statement.sql "information_schema.columns" then
    let table := Text.join "." ((bindTexts statement.binds).map Text.lower)
    (fixture.tables.lookup table).getD []
  else if Text.startsWith statement.sql "SELECT version()" then fixture.version
  else if Text.startsWith statement.sql "SELECT COUNT(*)" then fixture.count
  else fixture.data

def fixed : Warehouse Fixture := fun statement fixture =>
  let outcome : Except (List String) (List Row) :=
    if fixture.fail.any (Text.contains statement.sql) then
      .error ["warehouse query failed", "connection refused"]
    else .ok (fixture.rows statement)
  (⟨outcome, fixture.delayMs⟩, fixture)

end Warehouse

end DatasetSearch
