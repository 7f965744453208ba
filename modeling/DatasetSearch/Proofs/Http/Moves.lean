import Mathlib.Logic.Relation
import DatasetSearch.Http.Server
import DatasetSearch.Proofs.Cache.History
import DatasetSearch.Proofs.Service.Work
import DatasetSearch.Proofs.Text.Utf8

/-!
# What requests do to a session

A request makes calls of a few kinds, evicts cached results and reports events, and does nothing
else to a session.  It is left without a response only where one of its calls finds an entry whose
expiry cannot be represented, or where the times of two of its results do not add up to a word.
What every such move keeps, every sequence of requests keeps.
-/

namespace DatasetSearch

open Relation (ReflTransGen)
open Cache (Call Session)
open Service (Column Obstacle Work)

variable {σ α β : Type}

/-- A warehouse that always gives the same reply. -/
def Warehouse.steady (reply : Reply) : Warehouse Unit := fun _ _ => (reply, ())

namespace Service

/-- The calls that a service makes. -/
inductive Makes (service : Service) : Call → Prop
  | lookup {d : Dataset} (hd : d ∈ service.datasets) :
      Makes service (Column.lookupCall d.table service.columnTtl)
  | statement {d : Dataset} (hd : d ∈ service.datasets) (sql : String) :
      Makes service (service.call d sql)
  | version : Makes service versionCall

/-- What a request does to a session, one thing at a time. -/
inductive Moves (service : Service) (warehouse : Warehouse σ) : Session σ → Session σ → Prop
  | calls (s : Session σ) {call : Call} (hcall : service.Makes call) :
      Moves service warehouse s ((Cache.fetch service.settings warehouse call).run s).2
  | evicts (s : Session σ) (pattern : Option String) :
      Moves service warehouse s ((Cache.invalidate pattern).run s).2
  | reports (s : Session σ) (journal : List Log.Event) :
      Moves service warehouse s { s with journal := journal }

/-- A call of the service would find an entry whose expiry cannot be represented. -/
def IsBlocked (service : Service) (s : Session σ) : Prop :=
  ∃ call entry, service.Makes call ∧ call.bypass = false ∧
    s.store.entry? (call.key service.settings) = some entry ∧
      entry.freshness s.clock = .overflow

/-- A call of the service yields a result on the way from one session to another. -/
inductive Yields (service : Service) (warehouse : Warehouse σ) (s t : Session σ)
    (result : QueryResult) : Prop
  | intro (call : Call) (u v : Session σ) (hcall : service.Makes call)
    (hbefore : ReflTransGen (service.Moves warehouse) s u)
    (hfetch : (Cache.fetch service.settings warehouse call).run u = (.ok result, v))
    (hafter : ReflTransGen (service.Moves warehouse) v t)

/-- Why there is a time that cannot be represented, on the way from one session to another. -/
inductive Stops (service : Service) (warehouse : Warehouse σ) (s t : Session σ) :
    Service.Overflow → Prop
  | expiry (hblocked : service.IsBlocked t) : Stops service warehouse s t .expiry
  | elapsed {count data : QueryResult} (hcount : service.Yields warehouse s t count)
    (hdata : service.Yields warehouse s t data) (hlong : ¬TimesFit count data) :
    Stops service warehouse s t .elapsed

/-- Work that only moves a session as requests do, and that meets a time that cannot be represented
only where the calls of the service do. -/
def IsWork (service : Service) (warehouse : Warehouse σ) (work : Work σ α) : Prop :=
  ∀ s, ReflTransGen (service.Moves warehouse) s (work.on s).2 ∧
    ∀ what, (work.on s).1 = .error (.overflow what) →
      service.Stops warehouse s (work.on s).2 what

variable {service : Service} {warehouse : Warehouse σ}

theorem Yields.since {s t u : Session σ} {result : QueryResult}
    (hmoves : ReflTransGen (service.Moves warehouse) s t)
    (h : service.Yields warehouse t u result) : service.Yields warehouse s u result := by
  obtain ⟨call, v, w, hcall, hbefore, hfetch, hafter⟩ := h
  exact ⟨call, v, w, hcall, hmoves.trans hbefore, hfetch, hafter⟩

theorem Yields.until {s t u : Session σ} {result : QueryResult}
    (h : service.Yields warehouse s t result)
    (hmoves : ReflTransGen (service.Moves warehouse) t u) :
    service.Yields warehouse s u result := by
  obtain ⟨call, v, w, hcall, hbefore, hfetch, hafter⟩ := h
  exact ⟨call, v, w, hcall, hbefore, hfetch, hafter.trans hmoves⟩

theorem Yields.of_on_query {call : Call} (hcall : service.Makes call) {s t : Session σ}
    {result : QueryResult} (h : (query service.settings warehouse call).on s = (.ok result, t)) :
    service.Yields warehouse s t result :=
  ⟨call, s, t, hcall, .refl, run_fetch_of_on_query h, .refl⟩

theorem Stops.since {s t u : Session σ} {what : Overflow}
    (hmoves : ReflTransGen (service.Moves warehouse) s t)
    (h : service.Stops warehouse t u what) : service.Stops warehouse s u what := by
  cases h with
  | expiry hblocked => exact .expiry hblocked
  | elapsed hcount hdata hlong => exact .elapsed (hcount.since hmoves) (hdata.since hmoves) hlong

theorem Stops.of_totalled {s t : Session σ} {page : Pagination} {count data : QueryResult}
    {what : Overflow} (hcount : service.Yields warehouse s t count)
    (hdata : service.Yields warehouse s t data)
    (h : totalled page count data = .error (.overflow what)) :
    service.Stops warehouse s t what := by
  obtain ⟨hoverflow, hlong⟩ := not_timesFit_of_totalled h
  cases hoverflow
  exact .elapsed hcount hdata hlong

namespace IsWork

theorem pure (a : α) : service.IsWork warehouse (pure a : Work σ α) :=
  fun _ => ⟨.refl, nofun⟩

theorem bind {work : Work σ α} {next : α → Work σ β} (hwork : service.IsWork warehouse work)
    (hnext : ∀ a, service.IsWork warehouse (next a)) :
    service.IsWork warehouse (work >>= next) := by
  intro s
  obtain ⟨hmoves, hstops⟩ := hwork s
  generalize hrun : work.on s = reached at hmoves hstops
  obtain ⟨result, t⟩ := reached
  cases result with
  | ok a =>
    rw [Work.on_bind_of_ok hrun]
    obtain ⟨hlater, hlast⟩ := hnext a t
    exact ⟨hmoves.trans hlater, fun what hwhat => (hlast what hwhat).since hmoves⟩
  | error obstacle =>
    rw [Work.on_bind_of_error hrun]
    refine ⟨hmoves, fun what hwhat => hstops what ?_⟩
    cases hwhat
    rfl

theorem attempt {work : Work σ α} (hwork : service.IsWork warehouse work) :
    service.IsWork warehouse (attempt work) := by
  intro s
  obtain ⟨hmoves, hstops⟩ := hwork s
  rw [on_attempt]
  refine ⟨hmoves, fun what hwhat => hstops what ?_⟩
  revert hwhat
  cases (work.on s).1 with
  | ok value => exact nofun
  | error obstacle =>
    cases obstacle with
    | error error => exact nofun
    | overflow met =>
      intro hwhat
      cases hwhat
      rfl

theorem reportAll (events : List Log.Event) :
    service.IsWork warehouse (reportAll events : Work σ Unit) :=
  fun s => ⟨.single (.reports s _), nofun⟩

theorem decided (d : Except Error α) : service.IsWork warehouse (decided d : Work σ α) := by
  intro s
  cases d with
  | ok value => exact ⟨.refl, nofun⟩
  | error error => exact ⟨.refl, nofun⟩

theorem query {call : Call} (hcall : service.Makes call) :
    service.IsWork warehouse (query service.settings warehouse call) := by
  intro s
  rw [on_query]
  refine ⟨.single (.calls s hcall), fun what hwhat => ?_⟩
  have hfetches := Cache.fetches service.settings warehouse call s
  generalize (Cache.fetch service.settings warehouse call).run s = fetched at hfetches hwhat ⊢
  have hexecuted : ∀ reply, ofOutcome (Cache.executed reply) ≠ .error (.overflow what) := by
    intro reply
    unfold Cache.executed
    cases reply.outcome <;> nofun
  cases hfetches with
  | bypassed journal hbypass => exact absurd hwhat (hexecuted _)
  | hit journal hbypass hentry hfresh => cases hwhat
  | @overflow hbypass entry hentry hlate =>
    cases hwhat
    exact .expiry ⟨call, entry, hcall, hbypass, hentry, hlate⟩
  | missed journal hbypass hstale => exact absurd hwhat (hexecuted _)

end IsWork

/-! ### The work of the service -/

theorem mem_of_dataset {name : String} {d : Dataset} (h : service.dataset name = .ok d) :
    d ∈ service.datasets := by
  unfold dataset at h
  split at h
  · next found hfound =>
    cases h
    exact List.mem_of_find?_eq_some hfound
  · cases h

theorem isWork_columns {d : Dataset} (hd : d ∈ service.datasets) :
    service.IsWork warehouse (service.columns warehouse d) := by
  unfold columns Column.ofTable
  refine .bind (.query (.lookup hd)) fun result => ?_
  exact .bind (.reportAll _) fun _ => .pure _

section

variable {d : Dataset} (hd : d ∈ service.datasets) (page : Pagination) (allowlist : Allowlist)
  (request : SearchRequest)

include hd

theorem isWork_counts :
    service.IsWork warehouse (service.counts warehouse d page allowlist request) :=
  .bind (.reportAll _) fun _ => .query (.statement hd _)

theorem yields_counts {s t : Session σ} {count : QueryResult}
    (h : (service.counts warehouse d page allowlist request).on s = (.ok count, t)) :
    service.Yields warehouse s t count := by
  rw [on_counts] at h
  exact (Yields.of_on_query (.statement hd _) h).since (.single (.reports s _))

/-- A search stops at a query that does, or at the times of both its results. -/
theorem isWork_searchOver :
    service.IsWork warehouse (service.searchOver warehouse d page allowlist request) := by
  intro s
  have hcounts : service.IsWork warehouse (service.counts warehouse d page allowlist request) :=
    isWork_counts hd page allowlist request
  obtain ⟨hcounted, hstops⟩ := hcounts s
  rw [on_searchOver]
  generalize hcount : (service.counts warehouse d page allowlist request).on s = reached
    at hcounted hstops
  obtain ⟨result, t⟩ := reached
  cases result with
  | error obstacle =>
    refine ⟨hcounted, fun what hwhat => hstops what ?_⟩
    cases hwhat
    rfl
  | ok count =>
    have hcall := Makes.statement hd (service.plan d allowlist page request).dataQuery
    have hreads : service.IsWork warehouse (query service.settings warehouse _) := .query hcall
    obtain ⟨hread, hlast⟩ := hreads t
    dsimp only
    generalize hdata : (query service.settings warehouse
      (service.call d (service.plan d allowlist page request).dataQuery)).on t = reached
      at hread hlast
    obtain ⟨result, u⟩ := reached
    cases result with
    | error obstacle =>
      refine ⟨hcounted.trans hread, fun what hwhat => (hlast what ?_).since hcounted⟩
      cases hwhat
      rfl
    | ok data =>
      have hreport : ReflTransGen (service.Moves warehouse) u
          { u with
            journal := u.journal ++ [completedEvent d.name (pageOf page count data)] } :=
        .single (.reports u _)
      have hfirst := yields_counts hd page allowlist request hcount
      have hsecond := Yields.of_on_query hcall hdata
      refine ⟨(hcounted.trans hread).trans hreport, fun what hwhat => ?_⟩
      exact .of_totalled (hfirst.until (hread.trans hreport))
        ((hsecond.since hcounted).until hreport) hwhat

end

/-- Work on a dataset that the service has, if it has it. -/
theorem isWork_dataset {name : String} {next : Dataset → Work σ α}
    (hnext : ∀ d ∈ service.datasets, service.IsWork warehouse (next d)) :
    service.IsWork warehouse (decided (service.dataset name) >>= next) := by
  cases hd : service.dataset name with
  | ok d => exact hnext d (mem_of_dataset hd)
  | error error => exact fun s => ⟨.refl, nofun⟩

theorem isWork_search (name : String) (request : SearchRequest) :
    service.IsWork warehouse (service.search warehouse name request) := by
  unfold search
  refine isWork_dataset fun d hd => ?_
  refine .bind (.decided _) fun page => ?_
  refine .bind (isWork_columns hd) fun columns => ?_
  cases columns.isEmpty with
  | true => exact .bind (.reportAll _) fun _ => .pure _
  | false => exact isWork_searchOver hd page _ request

theorem isWork_metadata (name : String) :
    service.IsWork warehouse (service.metadata warehouse name) := by
  unfold metadata
  refine isWork_dataset fun d hd => ?_
  exact .bind (isWork_columns hd) fun columns => .pure _

theorem isWork_warehouseVersion :
    service.IsWork warehouse (service.warehouseVersion warehouse) := by
  unfold warehouseVersion
  exact .bind (.query .version) fun result => .pure _

end Service

/-- What is left when entries have been evicted. -/
theorem Cache.run_invalidate (pattern : Option String) (s : Session σ) :
    ∃ journal, (Cache.invalidate pattern).run s =
      ((s.store.invalidate pattern).1,
        { s with store := (s.store.invalidate pattern).2, journal := journal }) := ⟨_, rfl⟩

/-! ### The answers of a server -/

/-- The characters of a body that is a text are those of the text. -/
theorem Http.Request.bodyChars_of_encode {request : Http.Request} {text : String}
    (h : request.body = Text.Utf8.encode text) : request.bodyChars = text.toList := by
  rw [bodyChars, h, Text.Utf8.read_encode, List.flatMap_map]
  exact List.flatMap_singleton' _

/-- What a request is for, if its path is served and knows its method. -/
def Http.Request.endpoint? (request : Http.Request) : Option Http.Endpoint :=
  (Http.Route.ofPath? request.path).bind (·.endpoint? request.method)

/-- The methods of requests for an endpoint. -/
def Http.Endpoint.methods : Http.Endpoint → List String
  | .searchByBody _ | .invalidate => ["POST"]
  | .root | .health | .searchByQuery _ | .metadata _ | .stats => ["GET", "HEAD"]

theorem Http.Request.method_mem {request : Http.Request} {endpoint : Http.Endpoint}
    (h : request.endpoint? = some endpoint) : request.method ∈ endpoint.methods := by
  obtain ⟨route, -, hendpoint⟩ := Option.bind_eq_some_iff.mp h
  have hread : Http.Route.isRead request.method = true → request.method ∈ ["GET", "HEAD"] := by
    simp [Http.Route.isRead]
  cases route with
  | dataset segment =>
    simp only [Http.Route.endpoint?] at hendpoint
    split_ifs at hendpoint with hmethod hpost
    · cases hendpoint
      exact hread hmethod
    · cases hendpoint
      simpa [Http.Endpoint.methods] using hpost
  | invalidate =>
    simp only [Http.Route.endpoint?] at hendpoint
    split_ifs at hendpoint with hpost
    cases hendpoint
    simpa [Http.Endpoint.methods] using hpost
  | root | health | metadata _ | stats =>
    simp only [Http.Route.endpoint?] at hendpoint
    split_ifs at hendpoint with hmethod
    cases hendpoint
    exact hread hmethod

/-- A request for an endpoint is not a preflight. -/
theorem Http.Request.not_isPreflight {request : Http.Request} {endpoint : Http.Endpoint}
    (h : request.endpoint? = some endpoint) : ¬Http.OriginPolicy.isPreflight request := by
  intro hpreflight
  have hoptions : request.method = "OPTIONS" := by
    simpa [Http.OriginPolicy.isPreflight] using hpreflight
  have hmethod := Http.Request.method_mem h
  rw [hoptions] at hmethod
  cases endpoint <;> simp [Http.Endpoint.methods] at hmethod

namespace Http.Server

open Service (IsWork)

variable {server : Server} {warehouse : Warehouse σ}

theorem isWork_healthAnswer (now : String) :
    server.service.IsWork warehouse (server.healthAnswer warehouse now) := by
  unfold healthAnswer
  refine .bind (.attempt Service.isWork_warehouseVersion) fun result => ?_
  cases result with
  | ok version => exact .pure _
  | error error => exact .bind (.reportAll _) fun _ => .pure _

theorem isWork_searchAnswer (name : String)
    (request : Except Service.Error Service.SearchRequest) :
    server.service.IsWork warehouse (server.searchAnswer warehouse name request) := by
  unfold searchAnswer
  refine .bind (.decided _) fun request => ?_
  exact .bind (Service.isWork_search name request) fun page => .pure _

/-- The pattern of the keys that a request evicts; without one it evicts everything. -/
def pattern? (server : Server) (request : Request) : Option String :=
  match bodyValue server.bodyLimit patternBody request with
  | .ok pattern => pattern.filter (· ≠ "")
  | .error _ => none

theorem on_invalidateAnswer (request : Request) (s : Session σ) :
    (server.invalidateAnswer request : Work σ Answer).on s =
      (.ok (.ok (.object
        [("evicted", .ofNat (s.store.invalidate (server.pattern? request)).1),
          ("pattern", .ofOption Json.string (server.pattern? request))])),
        ((Cache.invalidate (server.pattern? request)).run s).2) := rfl

theorem isWork_invalidateAnswer (request : Request) :
    server.service.IsWork warehouse (server.invalidateAnswer request : Work σ Answer) :=
  fun s => ⟨.single (.evicts s _), nofun⟩

theorem on_statsAnswer (s : Session σ) :
    (statsAnswer : Work σ Answer).on s =
      (.ok (.ok (.object
        [("hits", .ofNat s.store.hits), ("misses", .ofNat s.store.misses),
          ("entries", .ofNat s.store.size)])), s) := rfl

theorem isWork_statsAnswer : server.service.IsWork warehouse (statsAnswer : Work σ Answer) :=
  fun _ => ⟨.refl, nofun⟩

theorem isWork_named {segment : String} {answer : String → Work σ Answer}
    (hanswer : ∀ name, server.service.IsWork warehouse (answer name)) :
    server.service.IsWork warehouse (named segment answer) := by
  unfold named
  split
  · exact hanswer _
  · exact .pure _

theorem isWork_endpointAnswer (now : String) (request : Request) (endpoint : Endpoint) :
    server.service.IsWork warehouse (server.endpointAnswer warehouse now request endpoint) := by
  cases endpoint with
  | root => exact .pure _
  | health => exact isWork_healthAnswer now
  | searchByQuery segment => exact isWork_named fun name => isWork_searchAnswer name _
  | searchByBody segment =>
    refine isWork_named fun name => ?_
    cases bodyValue server.bodyLimit searchBody request with
    | ok asked => exact isWork_searchAnswer name _
    | error fault => exact .pure _
  | metadata segment =>
    exact isWork_named fun name => .bind (Service.isWork_metadata name) fun _ => .pure _
  | invalidate => exact isWork_invalidateAnswer request
  | stats => exact isWork_statsAnswer

theorem isWork_answer (now : String) (request : Request) (endpoint : Endpoint) :
    server.service.IsWork warehouse (server.answer warehouse now request endpoint) := by
  unfold answer
  refine .bind (.attempt (isWork_endpointAnswer now request endpoint)) fun result => ?_
  cases result with
  | ok answer => exact .pure _
  | error error => exact .bind (.reportAll _) fun _ => .pure _

theorem dispatch_of_endpoint? {request : Request} {endpoint : Endpoint}
    (h : request.endpoint? = some endpoint) (now : String) :
    server.dispatch warehouse now request = server.answer warehouse now request endpoint := by
  obtain ⟨route, hroute, hendpoint⟩ := Option.bind_eq_some_iff.mp h
  simp only [dispatch, hroute, hendpoint]

theorem dispatch_of_endpoint?_eq_none {request : Request} (h : request.endpoint? = none) :
    ∃ status, ∀ {σ : Type} (server : Server) (warehouse : Warehouse σ) (now : String),
      server.dispatch warehouse now request = pure (.bare status) := by
  unfold Request.endpoint? at h
  cases hroute : Route.ofPath? request.path with
  | none =>
    refine ⟨404, ?_⟩
    intro σ server warehouse now
    simp only [dispatch, hroute]
  | some route =>
    refine ⟨405, ?_⟩
    intro σ server warehouse now
    rw [hroute, Option.bind_some] at h
    simp only [dispatch, hroute, h]

theorem isWork_dispatch (now : String) (request : Request) :
    server.service.IsWork warehouse (server.dispatch warehouse now request) := by
  cases h : request.endpoint? with
  | none =>
    obtain ⟨status, hdispatch⟩ := dispatch_of_endpoint?_eq_none h
    rw [hdispatch]
    exact .pure _
  | some endpoint =>
    rw [dispatch_of_endpoint? h]
    exact isWork_answer now request endpoint

/-- The response that carries an answer. -/
def responseOf (server : Server) (request : Request) (answer : Answer) : Response :=
  ⟨answer.status, if request.method == "HEAD" then none else answer.body,
    server.policy.headers request⟩

theorem respond_of_isPreflight {request : Request} (h : OriginPolicy.isPreflight request)
    (now : String) :
    server.respond warehouse now request = pure ⟨200, none, server.policy.headers request⟩ := by
  unfold respond
  rw [if_pos h]

theorem on_respond {request : Request} (h : ¬OriginPolicy.isPreflight request) (now : String)
    (s : Session σ) :
    (server.respond warehouse now request).on s =
      (((server.dispatch warehouse now request).on s).1.map (server.responseOf request),
        ((server.dispatch warehouse now request).on s).2) := by
  unfold respond
  rw [if_neg h, Work.on_bind]
  generalize (server.dispatch warehouse now request).on s = reached
  obtain ⟨result, t⟩ := reached
  cases result <;> rfl

theorem on_respond_of_endpoint? {request : Request} {endpoint : Endpoint}
    (h : request.endpoint? = some endpoint) (now : String) (s : Session σ) :
    (server.respond warehouse now request).on s =
      (((server.answer warehouse now request endpoint).on s).1.map (server.responseOf request),
        ((server.answer warehouse now request endpoint).on s).2) := by
  rw [on_respond (Request.not_isPreflight h), dispatch_of_endpoint? h]

theorem isWork_respond (now : String) (request : Request) :
    server.service.IsWork warehouse (server.respond warehouse now request) := by
  unfold respond
  split
  · exact .pure _
  · exact .bind (isWork_dispatch now request) fun answer => .pure _

theorem on_answer_of_ok {now : String} {request : Request} {endpoint : Endpoint} {s t : Session σ}
    {given : Answer} (h : (server.endpointAnswer warehouse now request endpoint).on s =
      (.ok given, t)) :
    (server.answer warehouse now request endpoint).on s = (.ok given, t) := by
  unfold answer
  rw [Work.on_bind, Service.on_attempt, h]
  rfl

/-! ### Obstacles -/

/-- An answer is there, or a time cannot be represented. -/
theorem answer_cases (now : String) (request : Request) (endpoint : Endpoint) (s : Session σ) :
    (∃ what, ((server.answer warehouse now request endpoint).on s).1 = .error (.overflow what)) ∨
      ∃ answer, ((server.answer warehouse now request endpoint).on s).1 = .ok answer := by
  unfold answer
  rw [Work.on_bind, Service.on_attempt]
  cases ((server.endpointAnswer warehouse now request endpoint).on s).1 with
  | ok answer => exact .inr ⟨answer, rfl⟩
  | error obstacle =>
    cases obstacle with
    | error error => exact .inr ⟨.ofError error, rfl⟩
    | overflow what => exact .inl ⟨what, rfl⟩

theorem dispatch_cases (now : String) (request : Request) (s : Session σ) :
    (∃ what, ((server.dispatch warehouse now request).on s).1 = .error (.overflow what)) ∨
      ∃ answer, ((server.dispatch warehouse now request).on s).1 = .ok answer := by
  cases h : request.endpoint? with
  | none =>
    obtain ⟨status, hdispatch⟩ := dispatch_of_endpoint?_eq_none h
    rw [hdispatch]
    exact .inr ⟨_, rfl⟩
  | some endpoint =>
    rw [dispatch_of_endpoint? h]
    exact answer_cases now request endpoint s

/-- A request gets a response, or a time cannot be represented. -/
theorem respond_cases (now : String) (request : Request) (s : Session σ) :
    (∃ what, ((server.respond warehouse now request).on s).1 = .error (.overflow what)) ∨
      ∃ response, ((server.respond warehouse now request).on s).1 = .ok response := by
  by_cases hpreflight : OriginPolicy.isPreflight request
  · rw [respond_of_isPreflight hpreflight]
    exact .inr ⟨_, rfl⟩
  · rw [on_respond hpreflight]
    rcases @dispatch_cases _ server warehouse now request s with ⟨what, h⟩ | ⟨answer, h⟩
    · exact .inl ⟨what, by rw [h]; rfl⟩
    · exact .inr ⟨server.responseOf request answer, by rw [h]; rfl⟩

end Http.Server

/-! ### Runs -/

namespace Http

/-- What happens to a server: time passes, or it gets a request at a time of day. -/
inductive Incident where
  | wait (ms : Nat)
  | request (now : String) (request : Request)
deriving DecidableEq, Repr

namespace Server

variable (server : Server) (warehouse : Warehouse σ)

def after (s : Session σ) : Incident → Session σ
  | .wait ms => { s with clock := s.clock + ms }
  | .request now request => ((server.respond warehouse now request).on s).2

/-- The session after some incidents. -/
def replay (s : Session σ) (incidents : List Incident) : Session σ :=
  incidents.foldl (server.after warehouse) s

variable {server warehouse}

/-- What every move keeps, every request keeps. -/
theorem respond_invariant {invariant : Session σ → Prop}
    (hmoves : ∀ s t, server.service.Moves warehouse s t → invariant s → invariant t)
    {s : Session σ} (now : String) (request : Request) (hs : invariant s) :
    invariant ((server.respond warehouse now request).on s).2 := by
  obtain ⟨hpath, -⟩ := @isWork_respond _ server warehouse now request s
  generalize ((server.respond warehouse now request).on s).2 = t at hpath ⊢
  induction hpath with
  | refl => exact hs
  | tail _ hstep ih => exact hmoves _ _ hstep ih

/-- What every move keeps, and what stays when time passes, holds after every run. -/
theorem replay_invariant {invariant : Session σ → Prop}
    (hmoves : ∀ s t, server.service.Moves warehouse s t → invariant s → invariant t)
    (hwait : ∀ s ms, invariant s → invariant { s with clock := s.clock + ms })
    {s : Session σ} (incidents : List Incident) (hs : invariant s) :
    invariant (server.replay warehouse s incidents) := by
  induction incidents generalizing s with
  | nil => exact hs
  | cons incident incidents ih =>
    apply ih
    cases incident with
    | wait ms => exact hwait s ms hs
    | request now request => exact respond_invariant hmoves now request hs

/-! ### The standard server -/

/-- The server of the standard settings. -/
def standard : Server :=
  ⟨⟨[⟨"budget", ⟨["public", "budget"]⟩, false, none⟩,
      ⟨"opportunities", ⟨["public", "opportunities"]⟩, true, none⟩],
    .standard, true, .standard, 3600000⟩, .closed, 1048576⟩

theorem ofConfig_standard : ofConfig .standard = .ok standard := rfl

/-- A warehouse with one column in every table. -/
def oneColumn : Warehouse Unit := .steady ⟨.ok [[("column_name", .string "ID")]], 2⟩

end Server

end Http

end DatasetSearch
