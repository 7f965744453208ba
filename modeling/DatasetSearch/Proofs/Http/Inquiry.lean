import DatasetSearch.Proofs.Http.Moves

/-!
# What requests ask about datasets

A request that can be decoded asks for a page of a dataset or for a description of it.  Whether it
gets as far as the columns of the dataset depends on the request alone.  What comes of it is what
comes of the search or the description, as a response.
-/

namespace DatasetSearch

open Cache (Session)
open Service (Obstacle SearchRequest Work)

variable {σ α : Type}

/-- What is asked about a dataset. -/
inductive Inquiry where
  | search (request : SearchRequest)
  | metadata

/-- The dataset that an inquiry gets to, or why it is rejected. -/
def Service.subject (service : Service) (name : String) : Inquiry → Except Service.Error Dataset
  | .search request => do
    let d ← service.dataset name
    let _ ← service.pagination request
    return d
  | .metadata => service.dataset name

theorem Service.subject_search_eq_ok {service : Service} {name : String} {request : SearchRequest}
    {d : Dataset} (h : service.subject name (.search request) = .ok d) :
    service.dataset name = .ok d ∧ ∃ page, service.pagination request = .ok page := by
  cases hd : service.dataset name with
  | error e =>
    simp only [subject, hd] at h
    cases h
  | ok found =>
    cases hpage : service.pagination request with
    | error e =>
      simp only [subject, hd, hpage] at h
      cases h
    | ok page =>
      simp only [subject, hd, hpage] at h
      cases h
      exact ⟨rfl, page, rfl⟩

namespace Http.Server

/-- The dataset that a request names and what it asks about it, if the request can be decoded. -/
def inquiry? (server : Server) (request : Request) : Option (String × Inquiry) :=
  match request.endpoint? with
  | some (.searchByQuery segment) => do
    let name ← Text.Percent.decodeSegment? segment
    let asked ← (SearchRequest.ofQueryPairs request.parameters).toOption
    return (name, .search asked)
  | some (.searchByBody segment) => do
    let name ← Text.Percent.decodeSegment? segment
    let asked ← (bodyValue server.bodyLimit searchBody request).toOption
    return (name, .search asked)
  | some (.metadata segment) => do
    let name ← Text.Percent.decodeSegment? segment
    return (name, .metadata)
  | _ => none

/-- The dataset whose columns a request has looked up. -/
def lookup? (server : Server) (request : Request) : Option Dataset := do
  let (name, inquiry) ← server.inquiry? request
  (server.service.subject name inquiry).toOption

/-- What an inquiry is answered with if nothing is in the way. -/
def inquiryAnswer (server : Server) (warehouse : Warehouse σ) (name : String) :
    Inquiry → Work σ Answer
  | .search request => do return .ok (← server.service.search warehouse name request).toJson
  | .metadata => do return .ok (← server.service.metadata warehouse name)

variable {server : Server} {warehouse : Warehouse σ} {request : Request} {name : String}
  {inquiry : Inquiry}

theorem exists_ok_of_toOption {ε : Type} {result : Except ε α} {a : α}
    (h : result.toOption = some a) : result = .ok a := by
  cases result with
  | ok b => exact congrArg Except.ok (Option.some.inj h)
  | error e => cases h

/-- A request that asks about a dataset has an endpoint that answers the inquiry. -/
theorem exists_endpoint_of_inquiry? (h : server.inquiry? request = some (name, inquiry)) :
    ∃ endpoint, request.endpoint? = some endpoint ∧
      ∀ {σ : Type} (warehouse : Warehouse σ) (now : String),
        server.endpointAnswer warehouse now request endpoint =
          server.inquiryAnswer warehouse name inquiry := by
  unfold inquiry? at h
  split at h
  · next segment hendpoint =>
    obtain ⟨found, hname, h⟩ := Option.bind_eq_some_iff.mp h
    obtain ⟨asked, hasked, h⟩ := Option.bind_eq_some_iff.mp h
    cases h
    refine ⟨_, hendpoint, fun warehouse now => ?_⟩
    simp only [endpointAnswer, named, hname, exists_ok_of_toOption hasked]
    rfl
  · next segment hendpoint =>
    obtain ⟨found, hname, h⟩ := Option.bind_eq_some_iff.mp h
    obtain ⟨asked, hasked, h⟩ := Option.bind_eq_some_iff.mp h
    cases h
    refine ⟨_, hendpoint, fun warehouse now => ?_⟩
    simp only [endpointAnswer, named, hname, exists_ok_of_toOption hasked]
    rfl
  · next segment hendpoint =>
    obtain ⟨found, hname, h⟩ := Option.bind_eq_some_iff.mp h
    cases h
    refine ⟨_, hendpoint, fun warehouse now => ?_⟩
    simp only [endpointAnswer, named, hname]
    rfl
  · cases h

/-- What becomes of the outcome of an endpoint: a response with the answer or with the error. -/
def deliver (server : Server) (request : Request) :
    Except Obstacle Answer × Session σ → Except Obstacle Response × Session σ
  | (.ok answer, t) => (.ok (server.responseOf request answer), t)
  | (.error (.error error), t) =>
    (.ok (server.responseOf request (.ofError error)),
      { t with journal := t.journal ++ error.events })
  | (.error (.overflow what), t) => (.error (.overflow what), t)

/-- A response changes the journal at most. -/
theorem exists_journal_deliver (server : Server) (request : Request)
    (reached : Except Obstacle Answer × Session σ) :
    ∃ journal, (server.deliver request reached).2 = { reached.2 with journal := journal } := by
  obtain ⟨result, t⟩ := reached
  cases result with
  | ok answer => exact ⟨t.journal, rfl⟩
  | error obstacle =>
    cases obstacle with
    | error error => exact ⟨_, rfl⟩
    | overflow what => exact ⟨t.journal, rfl⟩

theorem on_respond_eq_deliver {endpoint : Endpoint} (h : request.endpoint? = some endpoint)
    (now : String) (s : Session σ) :
    (server.respond warehouse now request).on s =
      server.deliver request ((server.endpointAnswer warehouse now request endpoint).on s) := by
  rw [on_respond_of_endpoint? h]
  unfold answer
  rw [Work.on_bind, Service.on_attempt]
  generalize (server.endpointAnswer warehouse now request endpoint).on s = reached
  obtain ⟨result, t⟩ := reached
  cases result with
  | ok answer => rfl
  | error obstacle => cases obstacle <;> rfl

theorem on_respond_of_inquiry? (h : server.inquiry? request = some (name, inquiry))
    (now : String) (s : Session σ) :
    (server.respond warehouse now request).on s =
      server.deliver request ((server.inquiryAnswer warehouse name inquiry).on s) := by
  obtain ⟨endpoint, hendpoint, hanswer⟩ := exists_endpoint_of_inquiry? h
  rw [on_respond_eq_deliver hendpoint, hanswer]

theorem on_inquiryAnswer_search (asked : SearchRequest) (s : Session σ) :
    (server.inquiryAnswer warehouse name (.search asked)).on s =
      (((server.service.search warehouse name asked).on s).1.map fun page => .ok page.toJson,
        ((server.service.search warehouse name asked).on s).2) :=
  Work.on_bind_pure _ _ s

theorem on_inquiryAnswer_metadata (s : Session σ) :
    (server.inquiryAnswer warehouse name .metadata).on s =
      (((server.service.metadata warehouse name).on s).1.map .ok,
        ((server.service.metadata warehouse name).on s).2) :=
  Work.on_bind_pure _ _ s

/-- A search without parameters. -/
def openQuery : Request := ⟨"GET", "/api/datasets/budget", [], []⟩

theorem inquiry?_openQuery (server : Server) :
    server.inquiry? openQuery = some ("budget", .search .empty) := by
  have hendpoint : openQuery.endpoint? = some (.searchByQuery "budget") := by decide
  have hname : Text.Percent.decodeSegment? "budget" = some "budget" := by decide +kernel
  have hparameters : openQuery.parameters = [] := by decide +kernel
  simp only [inquiry?, hendpoint, hname, hparameters]
  rfl

end Http.Server

end DatasetSearch
