import DatasetSearch.Http.Cors
import DatasetSearch.Http.Route
import DatasetSearch.Server.CommandLine
import DatasetSearch.Service.Search

/-!
# Answering requests

A request is answered on a session: its answer is a status, perhaps a JSON body, and the headers
for other origins.  Preflight requests are answered before anything else is looked at.  Texts that
merely explain a status are not part of an answer.
-/

namespace DatasetSearch.Http

open Service (SearchRequest Work)

structure Server where
  service : Service
  policy : OriginPolicy
  /-- The greatest size of a body in bytes. -/
  bodyLimit : Nat
deriving Repr

/-- The answer to a request. -/
structure Response where
  status : Nat
  body : Option Json
  cors : CorsHeaders
deriving Repr

/-- A status with a JSON body, if there is one. -/
structure Answer where
  status : Nat
  body : Option Json
deriving Repr

namespace Answer

def ok (body : Json) : Answer := ⟨200, some body⟩

/-- An answer whose status says everything. -/
def bare (status : Nat) : Answer := ⟨status, none⟩

def ofError (error : Service.Error) : Answer := ⟨error.status, some error.body⟩

end Answer

namespace Server

def ofConfig (config : Config) : Except Service.Error Server := do
  let service ← Service.ofConfig config
  return ⟨service, .ofOrigins config.server.corsOrigins, config.server.maxRequestBodySize.toNat⟩

/-- What setting up the server of a configuration reports. -/
def setupEvents (config : Config) : List Log.Event := OriginPolicy.events config.server.corsOrigins

/-! ### Bodies -/

/-- Why a body is of no use, by the status of the answer. -/
inductive BodyFault where
  | notJson
  | tooLarge
  | malformed
  | wrongShape
deriving DecidableEq, Repr

def BodyFault.status : BodyFault → Nat
  | .notJson => 415
  | .tooLarge => 413
  | .malformed => 400
  | .wrongShape => 422

/-- The value that a body denotes, if it is said to be JSON and is not too large. -/
def bodyValue {α : Type} (limit : Nat) (read : Json.Typed α) (request : Request) :
    Except BodyFault α :=
  if !request.isJson then .error .notJson
  else if limit < request.bodySize then .error .tooLarge
  else
    match read request.bodyChars with
    | .ok (value, _) => .ok value
    | .error .malformed => .error .malformed
    | .error .wrongShape => .error .wrongShape

def searchBody : Json.Typed SearchRequest :=
  Json.typedRecord SearchRequest.fields .empty

/-- The pattern of a body that asks for the eviction of cached results. -/
def patternBody : Json.Typed (Option String) :=
  Json.typedRecord
    [{ names := ["pattern"]
       take := fun _ => Json.typedNullable Json.typedString
       hasDefault := false }]
    none

/-! ### Endpoints -/

def serviceName : Json := .string "fedspend"

def aboutBody (server : Server) : Json :=
  .object
    [("service", serviceName), ("version", .string DatasetSearch.Server.programVersion),
      ("datasets", server.service.tables)]

/-- The event that the warehouse does not answer. -/
def unhealthyEvent (error : Service.Error) : Log.Event where
  level := .warn
  target := "fedspend::api::handlers::health"
  message := "Warehouse health check failed"
  fields := [("error", .plain error.text)]

section

variable {σ : Type}

def healthAnswer (server : Server) (warehouse : Warehouse σ) (now : String) : Work σ Answer := do
  match ← Service.attempt (server.service.warehouseVersion warehouse) with
  | .ok version =>
    return .ok (.object
      [("status", .string "healthy"), ("service", serviceName),
        ("warehouse", .ofOption Json.string version), ("datasets", server.service.tables),
        ("checked_at", .string now)])
  | .error error =>
    Service.reportAll [unhealthyEvent error]
    return ⟨503, some (.object
      [("status", .string "unhealthy"), ("service", serviceName), ("message", .string error.text),
        ("checked_at", .string now)])⟩

def searchAnswer (server : Server) (warehouse : Warehouse σ) (name : String)
    (request : Except Service.Error SearchRequest) : Work σ Answer := do
  let request ← Service.decided request
  let page ← server.service.search warehouse name request
  return .ok page.toJson

/-- The answer to a request that evicts cached results.  A pattern that is empty, and a body that is
of no use, evict everything. -/
def invalidateAnswer (server : Server) (request : Request) : Work σ Answer := do
  let pattern : Option String := match bodyValue server.bodyLimit patternBody request with
    | .ok pattern => pattern.filter (· ≠ "")
    | .error _ => none
  let evicted ← (Cache.invalidate pattern : Cache.Act σ Nat)
  return .ok (.object
    [("evicted", .ofNat evicted), ("pattern", .ofOption Json.string pattern)])

def statsAnswer : Work σ Answer := do
  let s ← get
  return .ok (.object
    [("hits", .ofNat s.store.hits), ("misses", .ofNat s.store.misses),
      ("entries", .ofNat s.store.size)])

/-- The answer that needs the name of a dataset; a segment that is no text has none. -/
def named (segment : String) (answer : String → Work σ Answer) : Work σ Answer :=
  match Text.Percent.decodeSegment? segment with
  | some name => answer name
  | none => pure (.bare 400)

def endpointAnswer (server : Server) (warehouse : Warehouse σ) (now : String) (request : Request) :
    Endpoint → Work σ Answer
  | .root => pure (.ok server.aboutBody)
  | .health => server.healthAnswer warehouse now
  | .searchByQuery segment =>
    named segment fun name =>
      server.searchAnswer warehouse name (SearchRequest.ofQueryPairs request.parameters)
  | .searchByBody segment =>
    named segment fun name =>
      match bodyValue server.bodyLimit searchBody request with
      | .ok asked => server.searchAnswer warehouse name (.ok asked)
      | .error fault => pure (.bare fault.status)
  | .metadata segment =>
    named segment fun name => do
      return .ok (← server.service.metadata warehouse name)
  | .invalidate => server.invalidateAnswer request
  | .stats => statsAnswer

/-! ### Requests -/

/-- The answer of an endpoint, an error being answered as such. -/
def answer (server : Server) (warehouse : Warehouse σ) (now : String) (request : Request)
    (endpoint : Endpoint) : Work σ Answer := do
  match ← Service.attempt (server.endpointAnswer warehouse now request endpoint) with
  | .ok answer => return answer
  | .error error =>
    Service.reportAll error.events
    return .ofError error

/-- The answer to a request for a path and a method: a path that is not served is not found, and a
method that it does not know is not allowed. -/
def dispatch (server : Server) (warehouse : Warehouse σ) (now : String) (request : Request) :
    Work σ Answer :=
  match Route.ofPath? request.path with
  | none => pure (.bare 404)
  | some route =>
    match route.endpoint? request.method with
    | none => pure (.bare 405)
    | some endpoint => server.answer warehouse now request endpoint

/-- The response to a request at a time.  A request for headers alone gets no body. -/
def respond (server : Server) (warehouse : Warehouse σ) (now : String) (request : Request) :
    Work σ Response := do
  let cors := server.policy.headers request
  if OriginPolicy.isPreflight request then return ⟨200, none, cors⟩
  else
    let answer ← server.dispatch warehouse now request
    let body := if request.method == "HEAD" then none else answer.body
    return ⟨answer.status, body, cors⟩

end

end Server

end DatasetSearch.Http
