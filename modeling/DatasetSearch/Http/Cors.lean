import DatasetSearch.Http.Request
import DatasetSearch.Log.Event

/-!
# Which origins may read answers

No origins, all of them, or the listed ones.  An origin is allowed by naming it in the answer, and
only if it is exactly the origin of the request.  A preflight request, of the method `OPTIONS`,
also learns that any method and any header may be used.
-/

namespace DatasetSearch.Http

/-- The origins that may read answers. -/
inductive OriginPolicy where
  | closed
  | any
  | listed (origins : List String)
deriving DecidableEq, Repr

/-- The headers of an answer that allow an origin to read it. -/
structure CorsHeaders where
  origin : Option String
  methods : Option String
  headers : Option String
deriving DecidableEq, Repr

def CorsHeaders.none : CorsHeaders := ⟨.none, .none, .none⟩

namespace OriginPolicy

/-- The text that stands for everything. -/
def wildcard : String := "*"

/-- Whether an origin can be the value of a header: no control characters but tabs. -/
def isHeaderValue (origin : String) : Bool :=
  origin.toList.all (fun c => c == '\t' || (0x20 ≤ c.toNat && c.toNat != 0x7F))

def ofOrigins (origins : List String) : OriginPolicy :=
  if origins.contains wildcard then .any
  else
    match origins.filter isHeaderValue with
    | [] => .closed
    | valid => .listed valid

/-- What setting up the policy reports: the origins that it leaves out. -/
def events (origins : List String) : List Log.Event :=
  if origins.contains wildcard then []
  else
    (origins.filter (!isHeaderValue ·)).map fun origin =>
      { level := .warn
        target := "fedspend::api::middleware::layers"
        message := "Ignoring invalid CORS origin"
        fields := [("origin", .plain origin)] }

def allowedOrigin (policy : OriginPolicy) (request : Request) : Option String :=
  match policy with
  | .closed => none
  | .any => some wildcard
  | .listed origins => (request.header? "origin").filter origins.contains

def isPreflight (request : Request) : Bool := request.method == "OPTIONS"

def headers (policy : OriginPolicy) (request : Request) : CorsHeaders :=
  let permission :=
    if isPreflight request ∧ policy ≠ .closed then some wildcard else none
  ⟨policy.allowedOrigin request, permission, permission⟩

end OriginPolicy

end DatasetSearch.Http
