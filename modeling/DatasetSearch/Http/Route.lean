import DatasetSearch.Http.Request

/-!
# Routes

The paths that are served, and the methods that each of them knows.  A path matches as it is
written, without a slash at its end; a dataset is one segment that is not empty, and its name is the
segment with escapes decoded.
-/

namespace DatasetSearch.Http

/-- What a request is for.  Datasets are given by their segments as written. -/
inductive Endpoint where
  | root
  | health
  | searchByQuery (segment : String)
  | searchByBody (segment : String)
  | metadata (segment : String)
  | invalidate
  | stats
deriving DecidableEq, Repr

/-- A path that is served. -/
inductive Route where
  | root
  | health
  | dataset (segment : String)
  | metadata (segment : String)
  | invalidate
  | stats
deriving DecidableEq, Repr

namespace Route

def ofPath? (path : String) : Option Route :=
  match Text.split '/' path with
  | ["", ""] => some .root
  | ["", "health"] => some .health
  | ["", "api", "datasets", segment] => if segment = "" then none else some (.dataset segment)
  | ["", "api", "datasets", segment, "metadata"] =>
    if segment = "" then none else some (.metadata segment)
  | ["", "api", "cache", "invalidate"] => some .invalidate
  | ["", "api", "cache", "stats"] => some .stats
  | _ => none

/-- Whether a method asks to read; a request for headers alone is answered like one that reads. -/
def isRead (method : String) : Bool := method == "GET" || method == "HEAD"

def endpoint? (route : Route) (method : String) : Option Endpoint :=
  match route with
  | .root => if isRead method then some .root else none
  | .health => if isRead method then some .health else none
  | .dataset segment =>
    if isRead method then some (.searchByQuery segment)
    else if method == "POST" then some (.searchByBody segment)
    else none
  | .metadata segment => if isRead method then some (.metadata segment) else none
  | .invalidate => if method == "POST" then some .invalidate else none
  | .stats => if isRead method then some .stats else none

end Route

end DatasetSearch.Http
