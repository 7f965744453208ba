import DatasetSearch.Proofs.Http.Inquiry
import DatasetSearch.Proofs.Service.Paging
import DatasetSearch.Proofs.Service.QueryPairs

/-!
# Requests that are rejected

What is wrong with a request is found before anything is looked up: in its path or its method, in
the name of a dataset or a body that cannot be decoded, in a parameter that should be a number, in
a dataset that there is not or a page that there cannot be.  Such a request is rejected in front of
every warehouse, and leaves the session as it is.  No other request is rejected.
-/

namespace DatasetSearch

open Cache (Session)
open Service (Obstacle SearchRequest Work)

variable {σ α : Type}

/-! ### Parameters that should be numbers -/

namespace Service.SearchRequest

/-- A parameter that should be a 32-bit word and is none. -/
def IsFaulty (parameter : String × String) : Prop :=
  parameter.1 ∈ numberParameters ∧ Text.word32? (Text.trim parameter.2) = none

theorem isFaulty_iff {parameter : String × String} :
    IsFaulty parameter ↔ ¬IsReadable parameter := by
  simp only [IsFaulty, IsReadable, isNumber_iff, Classical.not_imp, ← Option.isSome_iff_exists,
    Option.not_isSome_iff_eq_none]

end Service.SearchRequest

/-! ### Datasets and pages that there are not -/

namespace Service

theorem dataset_cases (service : Service) (name : String) :
    ((∀ d ∈ service.datasets, d.name ≠ name) ∧
        service.dataset name = .error (.datasetNotFound name)) ∨
      ∃ d ∈ service.datasets, d.name = name ∧ service.dataset name = .ok d := by
  unfold dataset
  cases hfound : service.datasets.find? (·.name == name) with
  | none => exact .inl ⟨by simpa using List.find?_eq_none.mp hfound, rfl⟩
  | some d =>
    have hname := List.find?_some hfound
    exact .inr ⟨d, List.mem_of_find?_eq_some hfound, by simpa using hname, rfl⟩

/-- A page that there cannot be: its number or its size is zero. -/
def IsEmptyPage (service : Service) (request : SearchRequest) : Prop :=
  request.page = some 0 ∨ request.pageSize.getD service.paging.defaultPageSize = 0

theorem pagination_cases (service : Service) (request : SearchRequest) :
    (service.IsEmptyPage request ∧
        ∃ reason, service.pagination request = .error (.pagination reason)) ∨
      (¬service.IsEmptyPage request ∧ ∃ page, service.pagination request = .ok page) := by
  have hnumber : request.page.getD 1 = 0 ↔ request.page = some 0 := getD_eq_zero_iff (by decide)
  rw [IsEmptyPage, ← hnumber, pagination_eq]
  split_ifs with hpage hsize
  · exact .inl ⟨.inl hpage, _, rfl⟩
  · exact .inl ⟨.inr hsize, _, rfl⟩
  · exact .inr ⟨not_or.mpr ⟨hpage, hsize⟩, _, rfl⟩

end Service

namespace Http

/-- A status that puts the blame on the request. -/
def IsRejection (status : Nat) : Prop := 400 ≤ status ∧ status < 500

instance (status : Nat) : Decidable (IsRejection status) :=
  inferInstanceAs (Decidable (_ ∧ _))

/-- The segment of a path that names a dataset. -/
def Endpoint.segment? : Endpoint → Option String
  | .searchByQuery segment | .searchByBody segment | .metadata segment => some segment
  | .root | .health | .invalidate | .stats => none

namespace Server

/-- Why a request is rejected, and with which status. -/
inductive Rejects (server : Server) (request : Request) : Nat → Prop
  | path (hmethod : ¬OriginPolicy.isPreflight request)
      (hpath : Route.ofPath? request.path = none) : Rejects server request 404
  | method (hmethod : ¬OriginPolicy.isPreflight request) {route : Route}
      (hpath : Route.ofPath? request.path = some route)
      (hunknown : route.endpoint? request.method = none) : Rejects server request 405
  | segment {endpoint : Endpoint} {segment : String}
      (hendpoint : request.endpoint? = some endpoint) (hsegment : endpoint.segment? = some segment)
      (hname : Text.Percent.decodeSegment? segment = none) : Rejects server request 400
  | number {segment name : String} {parameter : String × String}
      (hendpoint : request.endpoint? = some (.searchByQuery segment))
      (hname : Text.Percent.decodeSegment? segment = some name)
      (hparameter : parameter ∈ request.parameters)
      (hfaulty : SearchRequest.IsFaulty parameter) : Rejects server request 400
  | body {segment name : String} {fault : BodyFault}
      (hendpoint : request.endpoint? = some (.searchByBody segment))
      (hname : Text.Percent.decodeSegment? segment = some name)
      (hbody : bodyValue server.bodyLimit searchBody request = .error fault) :
      Rejects server request fault.status
  | dataset {name : String} {inquiry : Inquiry}
      (hinquiry : server.inquiry? request = some (name, inquiry))
      (hname : ∀ d ∈ server.service.datasets, d.name ≠ name) : Rejects server request 404
  | page {name : String} {asked : SearchRequest}
      (hinquiry : server.inquiry? request = some (name, .search asked))
      (hname : ∃ d ∈ server.service.datasets, d.name = name)
      (hpage : server.service.IsEmptyPage asked) : Rejects server request 400

variable {server : Server} {warehouse : Warehouse σ} {request : Request} {name : String}
  {inquiry : Inquiry}

/-- An error that is the client's leaves the session as it is. -/
theorem deliver_error {error : Service.Error} (h : error.status < 500) (s : Session σ) :
    server.deliver request (.error (.error error), s) =
      (.ok (server.responseOf request (.ofError error)), s) := by
  have hevents : error.events = [] := by
    rw [Service.Error.events, if_neg]
    simpa [Service.Error.isServerFault] using h
  rw [deliver, hevents, List.append_nil]

theorem on_inquiryAnswer_of_error {error : Service.Error}
    (h : server.service.subject name inquiry = .error error) (s : Session σ) :
    (server.inquiryAnswer warehouse name inquiry).on s = (.error (.error error), s) := by
  cases inquiry with
  | search asked =>
    rw [on_inquiryAnswer_search, Service.search]
    cases hd : server.service.dataset name with
    | error e =>
      simp only [Service.subject, hd] at h
      cases h
      rfl
    | ok d =>
      cases hpage : server.service.pagination asked with
      | error e =>
        simp only [Service.subject, hd, hpage] at h
        cases h
        rfl
      | ok page =>
        simp only [Service.subject, hd, hpage] at h
        cases h
  | metadata =>
    have hd : server.service.dataset name = .error error := h
    rw [on_inquiryAnswer_metadata, Service.metadata, hd]
    rfl

/-! ### Rejected requests -/

theorem on_respond_of_bare {endpoint : Endpoint} {status : Nat} {now : String}
    (hendpoint : request.endpoint? = some endpoint)
    (h : server.endpointAnswer warehouse now request endpoint = pure (.bare status))
    (s : Session σ) :
    ∃ response, (server.respond warehouse now request).on s = (.ok response, s) ∧
      response.status = status := by
  rw [on_respond_eq_deliver hendpoint, h]
  exact ⟨_, rfl, rfl⟩

theorem on_respond_of_error {endpoint : Endpoint} {error : Service.Error} {now : String}
    {s : Session σ} (hendpoint : request.endpoint? = some endpoint)
    (h : (server.endpointAnswer warehouse now request endpoint).on s = (.error (.error error), s))
    (hclient : error.status < 500) :
    ∃ response, (server.respond warehouse now request).on s = (.ok response, s) ∧
      response.status = error.status := by
  rw [on_respond_eq_deliver hendpoint, h, deliver_error hclient]
  exact ⟨_, rfl, rfl⟩

theorem on_respond_of_subject_error {error : Service.Error}
    (hinquiry : server.inquiry? request = some (name, inquiry))
    (h : server.service.subject name inquiry = .error error) (hclient : error.status < 500)
    (now : String) (s : Session σ) :
    ∃ response, (server.respond warehouse now request).on s = (.ok response, s) ∧
      response.status = error.status := by
  obtain ⟨endpoint, hendpoint, hanswer⟩ := exists_endpoint_of_inquiry? hinquiry
  refine on_respond_of_error hendpoint ?_ hclient
  rw [hanswer, on_inquiryAnswer_of_error h]

/-- What is wrong with a request shows in the response, in front of every warehouse and in every
session, and the session stays as it is. -/
theorem on_respond_of_rejects {status : Nat} (h : server.Rejects request status)
    (warehouse : Warehouse σ) (now : String) (s : Session σ) :
    ∃ response, (server.respond warehouse now request).on s = (.ok response, s) ∧
      response.status = status := by
  cases h with
  | path hmethod hpath =>
    rw [on_respond hmethod]
    simp only [dispatch, hpath]
    exact ⟨_, rfl, rfl⟩
  | method hmethod hpath hunknown =>
    rw [on_respond hmethod]
    simp only [dispatch, hpath, hunknown]
    exact ⟨_, rfl, rfl⟩
  | @segment endpoint segment hendpoint hsegment hname =>
    refine on_respond_of_bare hendpoint ?_ s
    cases endpoint with
    | searchByQuery | searchByBody | metadata =>
      cases hsegment
      simp only [endpointAnswer, named, hname]
    | root | health | invalidate | stats => cases hsegment
  | number hendpoint hname hparameter hfaulty =>
    rcases SearchRequest.withParameters_cases
        { SearchRequest.empty with filters := .ofQueryPairs request.parameters }
        request.parameters with ⟨p, -, hread⟩ | ⟨hreadable, -⟩
    · have hlt : Service.Error.status (SearchRequest.noNumber p) < 500 := show 400 < 500 by decide
      refine on_respond_of_error hendpoint ?_ hlt
      simp only [endpointAnswer, named, hname, searchAnswer, SearchRequest.ofQueryPairs, hread]
      rfl
    · exact absurd (hreadable _ hparameter) (SearchRequest.isFaulty_iff.mp hfaulty)
  | body hendpoint hname hbody =>
    refine on_respond_of_bare hendpoint ?_ s
    simp only [endpointAnswer, named, hname, hbody]
  | @dataset name inquiry hinquiry hname =>
    rcases server.service.dataset_cases name with ⟨-, hd⟩ | ⟨d, hmem, hd, -⟩
    · have hsubject : server.service.subject name inquiry = .error (.datasetNotFound name) := by
        cases inquiry with
        | search asked =>
          simp only [Service.subject, hd]
          rfl
        | metadata => exact hd
      have hlt : Service.Error.status (.datasetNotFound name) < 500 := show 404 < 500 by decide
      exact on_respond_of_subject_error hinquiry hsubject hlt now s
    · exact absurd hd (hname d hmem)
  | @page name asked hinquiry hname hpage =>
    obtain ⟨d, hmem, hd⟩ := hname
    rcases server.service.dataset_cases name with ⟨hnone, -⟩ | ⟨found, -, -, hfound⟩
    · exact absurd hd (hnone d hmem)
    · rcases server.service.pagination_cases asked with ⟨-, reason, herror⟩ | ⟨hsome, -⟩
      · have hsubject : server.service.subject name (.search asked) =
            .error (.pagination reason) := by
          simp only [Service.subject, hfound, herror]
          rfl
        have hlt : Service.Error.status (.pagination reason) < 500 := show 400 < 500 by decide
        exact on_respond_of_subject_error hinquiry hsubject hlt now s
      · exact absurd hpage hsome

theorem Rejects.isRejection {status : Nat} (h : server.Rejects request status) :
    IsRejection status := by
  cases h with
  | @body _ _ fault => cases fault <;> decide
  | path | method | segment | number | dataset | page => decide

/-! ### The other requests -/

theorem rejects_or_inquiry? {endpoint : Endpoint} {segment : String}
    (hendpoint : request.endpoint? = some endpoint) (hsegment : endpoint.segment? = some segment)
    (server : Server) :
    (∃ status, server.Rejects request status) ∨
      ∃ name inquiry, server.inquiry? request = some (name, inquiry) := by
  cases hname : Text.Percent.decodeSegment? segment with
  | none => exact .inl ⟨400, .segment hendpoint hsegment hname⟩
  | some name =>
    cases endpoint with
    | searchByQuery =>
      cases hsegment
      rcases SearchRequest.withParameters_cases
          { SearchRequest.empty with filters := .ofQueryPairs request.parameters }
          request.parameters with ⟨p, hfirst, -⟩ | ⟨-, asked, hasked⟩
      · have hfaulty := SearchRequest.isFaulty_iff.mpr hfirst.not_isReadable
        exact .inl ⟨400, .number hendpoint hname hfirst.mem hfaulty⟩
      · refine .inr ⟨name, .search asked, ?_⟩
        simp only [inquiry?, hendpoint, hname, SearchRequest.ofQueryPairs, hasked]
        rfl
    | searchByBody =>
      cases hsegment
      cases hbody : bodyValue server.bodyLimit searchBody request with
      | error fault => exact .inl ⟨fault.status, .body hendpoint hname hbody⟩
      | ok asked =>
        refine .inr ⟨name, .search asked, ?_⟩
        simp only [inquiry?, hendpoint, hname, hbody]
        rfl
    | metadata =>
      cases hsegment
      refine .inr ⟨name, .metadata, ?_⟩
      simp only [inquiry?, hendpoint, hname]
      rfl
    | root | health | invalidate | stats => cases hsegment

theorem rejects_or_subject (h : server.inquiry? request = some (name, inquiry)) :
    (∃ status, server.Rejects request status) ∨
      ∃ d, server.service.subject name inquiry = .ok d := by
  rcases server.service.dataset_cases name with ⟨hnone, -⟩ | ⟨d, hmem, hname, hd⟩
  · exact .inl ⟨404, .dataset h hnone⟩
  · cases inquiry with
    | metadata => exact .inr ⟨d, hd⟩
    | search asked =>
      rcases server.service.pagination_cases asked with ⟨hempty, -⟩ | ⟨-, page, hpage⟩
      · exact .inl ⟨400, .page h ⟨d, hmem, hname⟩ hempty⟩
      · refine .inr ⟨d, ?_⟩
        simp only [Service.subject, hd, hpage]
        rfl

/-- A request that is not rejected is a preflight, does not ask about a dataset, or asks about one
that there is. -/
theorem rejects_or (server : Server) (request : Request) :
    (∃ status, server.Rejects request status) ∨ OriginPolicy.isPreflight request = true ∨
      (∃ endpoint, request.endpoint? = some endpoint ∧ endpoint.segment? = none) ∨
      ∃ name inquiry d, server.inquiry? request = some (name, inquiry) ∧
        server.service.subject name inquiry = .ok d := by
  by_cases hpreflight : OriginPolicy.isPreflight request = true
  · exact .inr (.inl hpreflight)
  cases hroute : Route.ofPath? request.path with
  | none => exact .inl ⟨404, .path hpreflight hroute⟩
  | some route =>
    cases hmethod : route.endpoint? request.method with
    | none => exact .inl ⟨405, .method hpreflight hroute hmethod⟩
    | some endpoint =>
      have hendpoint : request.endpoint? = some endpoint := by
        rw [Request.endpoint?, hroute]
        exact hmethod
      cases hsegment : endpoint.segment? with
      | none => exact .inr (.inr (.inl ⟨endpoint, hendpoint, hsegment⟩))
      | some segment =>
        rcases rejects_or_inquiry? hendpoint hsegment server with hrejects | ⟨name, inquiry, h⟩
        · exact .inl hrejects
        · rcases rejects_or_subject h with hrejects | ⟨d, hd⟩
          · exact .inl hrejects
          · exact .inr (.inr (.inr ⟨name, inquiry, d, h, hd⟩))

/-- Work whose answers are no rejections, and that meets internal obstacles only. -/
def IsAccepting (work : Work σ Answer) : Prop :=
  work.RejectsNothing ∧ ∀ s answer, (work.on s).1 = .ok answer → ¬IsRejection answer.status

namespace IsAccepting

theorem pure {answer : Answer} (h : ¬IsRejection answer.status) :
    IsAccepting (pure answer : Work σ Answer) := by
  refine ⟨.pure answer, ?_⟩
  intro s given hgiven
  cases hgiven
  exact h

theorem bind {work : Work σ α} {next : α → Work σ Answer} (hwork : work.RejectsNothing)
    (hnext : ∀ a, IsAccepting (next a)) : IsAccepting (work >>= next) := by
  refine ⟨.bind hwork fun a => (hnext a).1, ?_⟩
  intro s answer hanswer
  cases hrun : work.on s with
  | mk result t =>
    cases result with
    | ok a =>
      rw [Work.on_bind_of_ok hrun] at hanswer
      exact (hnext a).2 t answer hanswer
    | error obstacle =>
      rw [Work.on_bind_of_error hrun] at hanswer
      cases hanswer

theorem deliver {work : Work σ Answer} (hwork : IsAccepting work) {s t : Session σ}
    {response : Response} (h : server.deliver request (work.on s) = (.ok response, t)) :
    ¬IsRejection response.status := by
  obtain ⟨hinternal, hanswers⟩ := hwork
  specialize hinternal s
  specialize hanswers s
  generalize work.on s = reached at h hinternal hanswers
  obtain ⟨result, u⟩ := reached
  cases result with
  | ok answer =>
    cases h
    exact hanswers answer rfl
  | error obstacle =>
    cases hinternal obstacle rfl with
    | execution causes =>
      cases h
      exact show ¬IsRejection 502 by decide
    | overflow what => cases h

end IsAccepting

theorem not_isRejection_ok (body : Json) : ¬IsRejection (Answer.ok body).status :=
  show ¬IsRejection 200 by decide

theorem isAccepting_inquiryAnswer {d : Dataset} (h : server.service.subject name inquiry = .ok d)
    (warehouse : Warehouse σ) : IsAccepting (server.inquiryAnswer warehouse name inquiry) := by
  cases inquiry with
  | search asked =>
    obtain ⟨hd, page, hpage⟩ := Service.subject_search_eq_ok h
    exact .bind (Service.rejectsNothing_search hd hpage warehouse) fun _ =>
      .pure (not_isRejection_ok _)
  | metadata =>
    exact .bind (Service.rejectsNothing_metadata h warehouse) fun _ => .pure (not_isRejection_ok _)

theorem isAccepting_endpointAnswer {endpoint : Endpoint} (h : endpoint.segment? = none)
    (server : Server) (warehouse : Warehouse σ) (now : String) (request : Request) :
    IsAccepting (server.endpointAnswer warehouse now request endpoint) := by
  cases endpoint with
  | root => exact .pure (not_isRejection_ok _)
  | health =>
    refine .bind (.attempt _) fun result => ?_
    cases result with
    | ok version => exact .pure (not_isRejection_ok _)
    | error error =>
      exact .bind (.reportAll _) fun _ => .pure (show ¬IsRejection 503 by decide)
  | invalidate =>
    refine ⟨fun s _ => nofun, ?_⟩
    intro s answer hanswer
    cases hanswer
    exact not_isRejection_ok _
  | stats =>
    refine ⟨fun s _ => nofun, ?_⟩
    intro s answer hanswer
    cases hanswer
    exact not_isRejection_ok _
  | searchByQuery | searchByBody | metadata => cases h

/-- A response is a rejection if and only if something is wrong with the request itself: its path,
its method, a name, a number or a body that cannot be read, a dataset that there is not, or a page
of zero.  It has the status of what is wrong, in front of every warehouse and in every session, and
the session stays as it is: no statement is sent, and the cache is neither read nor changed. -/
theorem respond_rejected (server : Server) (warehouse : Warehouse σ) (now : String)
    (request : Request) (s : Session σ) :
    (∀ response t, (server.respond warehouse now request).on s = (.ok response, t) →
      IsRejection response.status → t = s ∧ server.Rejects request response.status) ∧
    ∀ status, server.Rejects request status → IsRejection status ∧
      ∃ response, (server.respond warehouse now request).on s = (.ok response, s) ∧
        response.status = status := by
  refine ⟨?_, fun status h => ⟨h.isRejection, on_respond_of_rejects h warehouse now s⟩⟩
  intro response t hresponse hrejection
  rcases server.rejects_or request with ⟨status, h⟩ | hpreflight | ⟨endpoint, hendpoint, hnone⟩ |
    ⟨name, inquiry, d, hinquiry, hd⟩
  · obtain ⟨given, hgiven, hstatus⟩ := on_respond_of_rejects h warehouse now s
    rw [hgiven] at hresponse
    cases hresponse
    exact ⟨rfl, hstatus ▸ h⟩
  · rw [respond_of_isPreflight hpreflight] at hresponse
    cases hresponse
    exact absurd hrejection (show ¬IsRejection 200 by decide)
  · rw [on_respond_eq_deliver hendpoint] at hresponse
    exact absurd hrejection
      ((isAccepting_endpointAnswer hnone server warehouse now request).deliver hresponse)
  · rw [on_respond_of_inquiry? hinquiry] at hresponse
    exact absurd hrejection ((isAccepting_inquiryAnswer hd warehouse).deliver hresponse)

/-- A page that is no number is refused although a page follows, with columns in the cache. -/
theorem respond_rejected_page :
    let request : Request := ⟨"GET", "/api/datasets/budget?page=two&page=1", [], []⟩
    let s := standard.replay oneColumn (.start ()) [.request "" columnsRequest]
    s.store.size = 1 ∧ standard.Rejects request 400 ∧
      ∃ response t, (standard.respond oneColumn "" request).on s = (.ok response, t) ∧
        IsRejection response.status ∧ response.status = 400 ∧ t = s := by
  intro request s
  have hendpoint : request.endpoint? = some (.searchByQuery "budget") := by decide
  have hname : Text.Percent.decodeSegment? "budget" = some "budget" := by decide +kernel
  have hparameter : ("page", "two") ∈ request.parameters := by decide +kernel
  have hfaulty : SearchRequest.IsFaulty ("page", "two") := ⟨by decide, by decide⟩
  have hrejects : standard.Rejects request 400 := .number hendpoint hname hparameter hfaulty
  obtain ⟨hkept, hrejected⟩ := respond_rejected standard oneColumn "" request s
  obtain ⟨-, response, hresponse, hstatus⟩ := hrejected 400 hrejects
  have hrejection : IsRejection response.status := by
    rw [hstatus]
    decide
  obtain ⟨hsame, -⟩ := hkept response s hresponse hrejection
  exact ⟨by decide +kernel, hrejects, response, s, hresponse, hrejection, hstatus, hsame⟩

end Server

end Http

end DatasetSearch
