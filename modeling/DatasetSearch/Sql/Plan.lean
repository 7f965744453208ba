import DatasetSearch.Log.Event
import DatasetSearch.Sql.Allowlist
import DatasetSearch.Sql.Condition
import DatasetSearch.Sql.Pagination
import DatasetSearch.Sql.TableName

/-!
# Query plans

The two statements of a search: one counts the rows that a filter and a search select, the other
reads one page of them in the order of one column.
-/

namespace DatasetSearch.Sql

/-- The statements of a search. -/
structure Plan where
  dataQuery : String
  countQuery : String
  /-- The `WHERE` clause of both statements; empty if all rows are selected. -/
  restriction : String
deriving DecidableEq, Repr

/-- The column that orders the rows when there is no other. -/
def fallbackOrderColumn : String := "ID"

/-- The rows that satisfy both clauses; an empty clause restricts nothing. -/
def whereClause (filter search : Clause) : String :=
  match filter.isEmpty, search.isEmpty with
  | false, false => "WHERE (" ++ filter.text ++ ") AND (" ++ search.text ++ ")"
  | false, true => "WHERE " ++ filter.text
  | true, false => "WHERE " ++ search.text
  | true, true => ""

/-- The column that orders the rows: the requested one if it is allowed, else the first. -/
def orderColumn (allowlist : Allowlist) (requested : Option String) : String :=
  match requested.filter allowlist.contains with
  | some column => column
  | none => allowlist.first?.getD fallbackOrderColumn

namespace Plan

def assemble (table : TableName) (filter search : Clause) (pagination : Pagination)
    (allowlist : Allowlist) (orderBy : Option String) : Plan :=
  let restriction := Sql.whereClause filter search
  let order := quoteIdentifier (orderColumn allowlist orderBy)
  { dataQuery :=
      "SELECT * FROM " ++ table.text ++ " " ++ restriction ++ " ORDER BY " ++ order ++
        " LIMIT " ++ toString pagination.pageSize.toNat ++
        " OFFSET " ++ toString pagination.offset.toNat
    countQuery := "SELECT COUNT(*) AS total_count FROM " ++ table.text ++ " " ++ restriction
    restriction }

def events (table : TableName) (plan : Plan) : List Log.Event :=
  [{ level := .debug
     target := "fedspend_query::assemble"
     message := "Assembled query plan"
     fields := [("table", .plain table.text), ("data_query", .plain plan.dataQuery)] }]

end Plan

end DatasetSearch.Sql
