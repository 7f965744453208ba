import DatasetSearch.Cache.Call
import DatasetSearch.Sql.Pagination
import DatasetSearch.Json.Value

/-!
# Errors of the service

Why a request has no answer, what of it a client learns, and with which status.  Of an error on the
side of the server a client learns its kind alone; its text goes to the log.
-/

namespace DatasetSearch.Service

/-- Why a request has no answer. -/
inductive Error where
  | datasetNotFound (name : String)
  | validation (reason : String)
  | pagination (reason : String)
  | tableName (raw : String)
  /-- The warehouse failed; the texts of the error and its causes, outermost first. -/
  | execution (causes : List String)
  | database (reason : String)
  | other (reason : String)
deriving DecidableEq, Repr

namespace Error

def text : Error → String
  | .datasetNotFound name => "Dataset not found: " ++ name
  | .validation reason => "Validation error: " ++ reason
  | .pagination reason => "Invalid pagination: " ++ reason
  | .tableName raw => "Invalid table name: " ++ raw
  | .execution causes => (Cache.CallError.execution causes).message
  | .database reason => "Database error: " ++ reason
  | .other reason => reason

def status : Error → Nat
  | .datasetNotFound _ => 404
  | .validation _ | .pagination _ => 400
  | .execution _ => 502
  | .tableName _ | .database _ | .other _ => 500

def isServerFault (e : Error) : Bool := decide (500 ≤ e.status)

def publicText (e : Error) : String :=
  if e.status = 502 then "Warehouse query failed"
  else if e.isServerFault then "Internal server error"
  else e.text

def body (e : Error) : Json :=
  .object
    [("error",
      .object [("status", .ofNat e.status), ("message", .string e.publicText)])]

/-- What is logged of an error: only faults of the server. -/
def events (e : Error) : List Log.Event :=
  if e.isServerFault then
    [{ level := .error
       target := "fedspend::error"
       message := "Request failed"
       fields := [("error", .plain e.text), ("status", .number e.status)] }]
  else []

end Error

end DatasetSearch.Service
