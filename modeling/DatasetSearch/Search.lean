import DatasetSearch.Log.Event
import DatasetSearch.Sql.Allowlist
import DatasetSearch.Sql.Condition
import DatasetSearch.Text.Blank

/-!
# Keyword search

Keywords are terms separated by commas.  A term asks for rows in which some searchable column
contains it; a term after a minus sign asks for rows in which no searchable column does.  Without
an allowlist the terms are looked for in the row as a whole.
-/

namespace DatasetSearch.Search

open Sql

inductive TermJoin where
  | any
  | all
deriving DecidableEq, Repr

namespace TermJoin

def connective : TermJoin → Connective
  | .any => .or
  | .all => .and

def name : TermJoin → String
  | .any => "any"
  | .all => "all"

def ofName? : String → Option TermJoin
  | "any" => some .any
  | "all" => some .all
  | _ => none

end TermJoin

/-- Pieces of a name that mark a column of dates or times. -/
def temporalPieces : List String := ["date", "time", "timestamp", "created", "updated", "modified"]

/-- Whether a column is searched: its name neither ends with `id` nor mentions a date or time, in
any case.  Only the letters A to Z matter for this: no other character has one of the letters of
these pieces as the whole of its lower-case form. -/
def isSearchable (name : String) : Bool :=
  let lowered := Text.lower name
  !(Text.dropEnd? "id" lowered).isSome && !temporalPieces.any (Text.contains lowered)

/-- The terms: the pieces between commas, without blanks around them, that are not empty. -/
def terms (keywords : String) : List String :=
  ((Text.split ',' keywords).map Text.trim).filter (· ≠ "")

/-- A term as it is to be looked for: wanted, or after a minus sign excluded. -/
inductive Term where
  | wanted (text : String)
  | excluded (text : String)
deriving DecidableEq, Repr

/-- A written term; a minus sign alone asks for nothing. -/
def Term.ofText? (raw : String) : Option Term :=
  match raw.toList with
  | ['-'] => none
  | '-' :: rest => some (.excluded (String.ofList rest))
  | _ => some (.wanted raw)

def columnCondition (columns : List String) : Term → Condition
  | .wanted text =>
    .group (.chain .or (columns.map (fun c => .atom (.like c (.containing text)))))
  | .excluded text => .chain .and (columns.map (fun c => .atom (.notLike c (.containing text))))

def rowCondition : Term → Condition
  | .wanted text => .atom (.rowContains text)
  | .excluded text => .atom (.rowLacks text)

def searchable (allowlist : Allowlist) : List String := allowlist.columns.filter isSearchable

/-- The conditions of the keywords; none if an allowlist has no searchable column. -/
def conditions (keywords : String) (allowlist : Option Allowlist) : List Condition :=
  let wanted := (terms keywords).filterMap Term.ofText?
  match allowlist with
  | none => wanted.map rowCondition
  | some allowlist =>
    match searchable allowlist with
    | [] => []
    | columns => wanted.map (columnCondition columns)

def compile (keywords : String) (allowlist : Option Allowlist) (termJoin : TermJoin) : Clause :=
  ⟨termJoin.connective, conditions keywords allowlist⟩

/-- What compiling keywords reports: nothing without terms, and a warning without columns. -/
def events (keywords : String) (allowlist : Option Allowlist) (clause : Clause) :
    List Log.Event :=
  let built : Log.Event :=
    { level := .debug
      target := "fedspend_query::search"
      message := "Built search clause"
      fields := [("clause", .plain clause.text)] }
  if (terms keywords).isEmpty then []
  else
    match allowlist with
    | none => [built]
    | some allowlist =>
      if (searchable allowlist).isEmpty then
        [{ level := .warn
           target := "fedspend_query::search"
           message := "No text-searchable columns found; keyword search skipped"
           fields := [("columns", .number allowlist.size)] }]
      else [built]

end DatasetSearch.Search
