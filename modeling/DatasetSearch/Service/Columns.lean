import DatasetSearch.Cache.Call
import DatasetSearch.Service.Error
import DatasetSearch.Sql.TableName

/-!
# The columns of tables

The columns of a table are looked up in the warehouse, through the cache under a label and with a
lifetime of their own.
-/

namespace DatasetSearch.Service

/-- A time that cannot be represented. -/
inductive Overflow where
  /-- When a cached entry expires. -/
  | expiry
  /-- How long the statements of a search took together. -/
  | elapsed
deriving DecidableEq, Repr

def Overflow.message : Overflow → String
  | .expiry => Cache.CallError.expiryOverflow.message
  | .elapsed => "attempt to add with overflow"

/-- What keeps a request from its result. -/
inductive Obstacle where
  | error (error : Error)
  | overflow (what : Overflow)
deriving DecidableEq, Repr

/-- Work on a session that may meet an obstacle; what has been done until then stays done. -/
abbrev Work (σ α : Type) := ExceptT Obstacle (StateM (Cache.Session σ)) α

section

variable {σ : Type}

def query (settings : Cache.Settings) (warehouse : Warehouse σ) (call : Cache.Call) :
    Work σ QueryResult := do
  match ← Cache.fetch settings warehouse call with
  | .ok result => return result
  | .error (.execution causes) => throw (.error (.execution causes))
  | .error .expiryOverflow => throw (.overflow .expiry)

/-- Work whose errors are results.  A time that cannot be represented remains an obstacle. -/
def attempt {α : Type} (work : Work σ α) : Work σ (Except Error α) :=
  ExceptT.mk do
    match ← work.run with
    | .ok value => return .ok (.ok value)
    | .error (.error error) => return .ok (.error error)
    | .error (.overflow what) => return .error (.overflow what)

def reportAll (events : List Log.Event) : Work σ Unit :=
  modify fun s => { s with journal := s.journal ++ events }

end

structure Column where
  name : String
  dataType : String
deriving DecidableEq, Repr

namespace Column

/-- The column that a row describes; a row without a name describes none. -/
def ofRow? (row : Row) : Option Column :=
  ((QueryResult.column? row "column_name").bind Json.string?).map fun name =>
    ⟨name, ((QueryResult.column? row "data_type").bind Json.string?).getD ""⟩

def toJson (c : Column) : Json :=
  .object [("name", .string c.name), ("data_type", .string c.dataType)]

def cacheLabel : String := "schema"

/-- The schema of a table whose name has none. -/
def standardSchema : String := "public"

/-- The statement text that looks up columns in their order. -/
def lookupText : String :=
  "SELECT column_name, data_type FROM information_schema.columns " ++
  "WHERE lower(table_schema) = lower($1) AND lower(table_name) = lower($2) " ++
  "ORDER BY ordinal_position"

def lookup (table : TableName) : Statement :=
  ⟨lookupText, [.text (table.schema?.getD standardSchema), .text table.table]⟩

def lookupCall (table : TableName) (ttl : Nat) : Cache.Call :=
  ⟨lookup table, cacheLabel, some ttl, false⟩

def loadedEvent (table : TableName) (count : Nat) (cached : Bool) : Log.Event where
  level := .debug
  target := "fedspend::db::schema"
  message := "Loaded table columns"
  fields := [("table", .plain table.text), ("columns", .number count), ("cached", .flag cached)]

/-- The columns of a table in their order; a table that is not known has none. -/
def ofTable {σ : Type} (settings : Cache.Settings) (warehouse : Warehouse σ) (ttl : Nat)
    (table : TableName) : Work σ (List Column) := do
  let result ← query settings warehouse (lookupCall table ttl)
  let columns := result.rows.filterMap ofRow?
  reportAll [loadedEvent table columns.length result.cached]
  return columns

end Column

end DatasetSearch.Service
