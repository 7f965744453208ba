import DatasetSearch.Proofs.Http.Moves
import DatasetSearch.Proofs.Json.Binds

/-!
# What responses show of errors

Two warehouses agree if they yield the same rows at the same time and fail on the same statements;
the texts of their errors may differ.  Two servers in front of them go through the same sessions up
to the events that they report, and give the same responses.  The one exception is a request for
the health of the service: its response shows the text of the error, if there is one.
-/

namespace DatasetSearch

open Cache (Call Outcome Session Settings)
open Service (Column Obstacle Work)

variable {σ τ α β : Type}

/-! ### Warehouses that agree -/

/-- Replies that differ at most in the texts of an error. -/
inductive Reply.Agrees : Reply → Reply → Prop
  | rows (rows : List Row) (delayMs : Nat) : Agrees ⟨.ok rows, delayMs⟩ ⟨.ok rows, delayMs⟩
  | failures (causes others : List String) (delayMs : Nat) :
      Agrees ⟨.error causes, delayMs⟩ ⟨.error others, delayMs⟩

theorem Reply.Agrees.delayMs_eq {reply second : Reply} (h : reply.Agrees second) :
    reply.delayMs = second.delayMs := by
  cases h <;> rfl

/-- Warehouses whose replies agree, and whose states remain related, as long as these are. -/
def Warehouse.Agrees (related : σ → τ → Prop) (warehouse : Warehouse σ) (other : Warehouse τ) :
    Prop :=
  ∀ ⦃x : σ⦄ ⦃y : τ⦄, related x y → ∀ statement : Statement,
    (warehouse statement x).1.Agrees (other statement y).1 ∧
      related (warehouse statement x).2 (other statement y).2

/-- Sessions in front of warehouses in related states that differ only in what they reported. -/
structure Cache.Session.Agrees (related : σ → τ → Prop) (s : Session σ) (t : Session τ) : Prop where
  store : s.store = t.store
  clock : s.clock = t.clock
  warehouse : related s.warehouse t.warehouse
  statements : s.statements = t.statements

/-- Results that differ at most in the texts of a failed execution. -/
inductive Service.Agree : Except Obstacle α → Except Obstacle α → Prop
  | same (result : Except Obstacle α) : Agree result result
  | failures (causes others : List String) :
      Agree (.error (.error (.execution causes))) (.error (.error (.execution others)))

variable {related : σ → τ → Prop} {warehouse : Warehouse σ} {other : Warehouse τ}

namespace Cache

theorem Call.entry?_of_agrees {reply second : Reply} (h : reply.Agrees second)
    (settings : Settings) (call : Call) (time : Nat) :
    call.entry? settings reply time = call.entry? settings second time := by
  cases h <;> rfl

theorem Session.Agrees.reply (hwarehouse : warehouse.Agrees related other) {s : Session σ}
    {t : Session τ} (h : s.Agrees related t) (call : Call) :
    (s.reply warehouse call).Agrees (t.reply other call) :=
  (hwarehouse h.warehouse call.statement).1

theorem Session.Agrees.journal {s : Session σ} {t : Session τ} (h : s.Agrees related t)
    (events others : List Log.Event) :
    Agrees related { s with journal := events } { t with journal := others } :=
  ⟨h.store, h.clock, h.warehouse, h.statements⟩

/-- Sessions still agree when a statement has been sent and its reply is there. -/
theorem Session.Agrees.sent (hwarehouse : warehouse.Agrees related other) {s : Session σ}
    {t : Session τ} (h : s.Agrees related t) (call : Call) {store second : Store}
    (hstore : store = second) (events others : List Log.Event) :
    Agrees related
      { s.sent warehouse call store events with
        clock := s.clock + (s.reply warehouse call).delayMs }
      { t.sent other call second others with
        clock := t.clock + (t.reply other call).delayMs } := by
  have hdelay := (h.reply hwarehouse call).delayMs_eq
  refine ⟨hstore, ?_, (hwarehouse h.warehouse call.statement).2, ?_⟩
  · simp only [h.clock, hdelay]
  · simp only [Session.sent, h.statements]

end Cache

theorem Service.agree_executed {reply second : Reply} (h : reply.Agrees second) :
    Agree (ofOutcome (Cache.executed reply)) (ofOutcome (Cache.executed second)) := by
  cases h with
  | rows rows delayMs => exact .same _
  | failures causes others delayMs => exact .failures causes others

/-! ### Work that conceals the texts -/

namespace Service

/-- Work that comes to the same on sessions that agree, up to the texts of a failed execution. -/
def Conceals (related : σ → τ → Prop) (work : Work σ α) (second : Work τ α) : Prop :=
  ∀ ⦃s : Session σ⦄ ⦃t : Session τ⦄, s.Agrees related t →
    Agree (work.on s).1 (second.on t).1 ∧ (work.on s).2.Agrees related (second.on t).2

namespace Conceals

theorem pure (a : α) : Conceals related (pure a) (pure a) := fun _ _ h => ⟨.same _, h⟩

theorem bind {work : Work σ α} {second : Work τ α} {next : α → Work σ β} {later : α → Work τ β}
    (hwork : Conceals related work second) (hnext : ∀ a, Conceals related (next a) (later a)) :
    Conceals related (work >>= next) (second >>= later) := by
  intro s t hst
  obtain ⟨hresult, hsession⟩ := hwork hst
  rw [Work.on_bind, Work.on_bind]
  generalize work.on s = reached at hresult hsession ⊢
  generalize second.on t = arrived at hresult hsession ⊢
  obtain ⟨result, s⟩ := reached
  obtain ⟨outcome, t⟩ := arrived
  cases hresult with
  | same result =>
    cases result with
    | ok a => exact hnext a hsession
    | error obstacle => exact ⟨.same _, hsession⟩
  | failures causes others => exact ⟨.failures causes others, hsession⟩

theorem reportAll (events others : List Log.Event) :
    Conceals related (reportAll events) (reportAll others) :=
  fun _ _ h => ⟨.same _, h.journal _ _⟩

theorem overflow (what : Overflow) :
    Conceals related (throw (.overflow what) : Work σ α) (throw (.overflow what)) :=
  fun _ _ h => ⟨.same _, h⟩

theorem decided (d : Except Error α) : Conceals related (decided d) (decided d) := by
  intro s t h
  cases d <;> exact ⟨.same _, h⟩

/-- What is done with an error may depend on its text only in what it reports. -/
theorem attempt {work : Work σ α} {second : Work τ α} {next : Except Error α → Work σ β}
    {later : Except Error α → Work τ β} (hwork : Conceals related work second)
    (hnext : ∀ result, Conceals related (next result) (later result))
    (hfailures : ∀ causes others, Conceals related (next (.error (.execution causes)))
      (later (.error (.execution others)))) :
    Conceals related (attempt work >>= next) (attempt second >>= later) := by
  intro s t hst
  obtain ⟨hresult, hsession⟩ := hwork hst
  rw [Work.on_bind, Work.on_bind, on_attempt, on_attempt]
  generalize (work.on s).1 = result at hresult ⊢
  generalize (second.on t).1 = outcome at hresult ⊢
  cases hresult with
  | same result =>
    cases result with
    | ok a => exact hnext (.ok a) hsession
    | error obstacle =>
      cases obstacle with
      | error error => exact hnext (.error error) hsession
      | overflow what => exact ⟨.same _, hsession⟩
  | failures causes others => exact hfailures causes others hsession

theorem query (hwarehouse : warehouse.Agrees related other) (settings : Settings) (call : Call) :
    Conceals related (query settings warehouse call) (query settings other call) := by
  intro s t hst
  rw [on_query, on_query]
  have hreply := hst.reply hwarehouse call
  have hfetches := Cache.fetches settings warehouse call s
  have hfetched := Cache.fetches settings other call t
  generalize (Cache.fetch settings warehouse call).run s = fetched at hfetches ⊢
  generalize (Cache.fetch settings other call).run t = second at hfetched ⊢
  cases hfetches with
  | bypassed events hbypass =>
    obtain ⟨others, rfl⟩ := hfetched.of_bypass hbypass
    exact ⟨agree_executed hreply, hst.sent hwarehouse call hst.store events others⟩
  | hit events hbypass hentry hfresh =>
    rw [hst.store] at hentry
    rw [hst.clock] at hfresh
    obtain ⟨others, rfl⟩ := hfetched.of_fresh hbypass hentry hfresh
    exact ⟨.same _, congrArg Cache.Store.countHit hst.store, hst.clock, hst.warehouse,
      hst.statements⟩
  | overflow hbypass hentry hoverflow =>
    rw [hst.store] at hentry
    rw [hst.clock] at hoverflow
    rw [hfetched.of_overflow hbypass hentry hoverflow]
    exact ⟨.same _, hst⟩
  | missed events hbypass hstale =>
    rw [hst.store, hst.clock] at hstale
    obtain ⟨others, rfl⟩ := hfetched.of_stale hbypass hstale
    refine ⟨agree_executed hreply, hst.sent hwarehouse call ?_ events others⟩
    rw [hst.store, hst.clock, hreply.delayMs_eq, Cache.Call.entry?_of_agrees hreply]

end Conceals

/-! ### The work of the service -/

theorem conceals_columns (hwarehouse : warehouse.Agrees related other) (service : Service)
    (d : Dataset) :
    Conceals related (service.columns warehouse d) (service.columns other d) := by
  unfold columns Column.ofTable
  refine .bind (.query hwarehouse _ _) fun result => ?_
  exact .bind (.reportAll _ _) fun _ => .pure _

theorem conceals_searchOver (hwarehouse : warehouse.Agrees related other) (service : Service)
    (d : Dataset) (page : Pagination) (allowlist : Allowlist) (request : SearchRequest) :
    Conceals related (service.searchOver warehouse d page allowlist request)
      (service.searchOver other d page allowlist request) := by
  unfold searchOver
  refine .bind (.reportAll _ _) fun _ => ?_
  refine .bind (.query hwarehouse _ _) fun count => ?_
  refine .bind (.query hwarehouse _ _) fun data => ?_
  refine .bind (.reportAll _ _) fun _ => ?_
  split
  · exact .pure _
  · exact .overflow .elapsed

theorem conceals_search (hwarehouse : warehouse.Agrees related other) (service : Service)
    (name : String) (request : SearchRequest) :
    Conceals related (service.search warehouse name request)
      (service.search other name request) := by
  unfold search
  refine .bind (.decided _) fun d => ?_
  refine .bind (.decided _) fun page => ?_
  refine .bind (conceals_columns hwarehouse service d) fun columns => ?_
  cases columns.isEmpty with
  | true => exact .bind (.reportAll _ _) fun _ => .pure _
  | false => exact conceals_searchOver hwarehouse service d page _ request

theorem conceals_metadata (hwarehouse : warehouse.Agrees related other) (service : Service)
    (name : String) :
    Conceals related (service.metadata warehouse name) (service.metadata other name) := by
  unfold metadata
  refine .bind (.decided _) fun d => ?_
  exact .bind (conceals_columns hwarehouse service d) fun columns => .pure _

theorem conceals_warehouseVersion (hwarehouse : warehouse.Agrees related other)
    (service : Service) :
    Conceals related (service.warehouseVersion warehouse) (service.warehouseVersion other) := by
  unfold warehouseVersion
  exact .bind (.query hwarehouse _ _) fun result => .pure _

end Service

/-! ### The answers of a server -/

namespace Http.Server

open Service (Conceals)

variable {server : Server}

theorem conceals_searchAnswer (hwarehouse : warehouse.Agrees related other) (name : String)
    (request : Except Service.Error Service.SearchRequest) :
    Conceals related (server.searchAnswer warehouse name request)
      (server.searchAnswer other name request) := by
  unfold searchAnswer
  refine .bind (.decided _) fun request => ?_
  exact .bind (Service.conceals_search hwarehouse _ name request) fun page => .pure _

theorem conceals_invalidateAnswer (request : Request) :
    Conceals related (server.invalidateAnswer request : Work σ Answer)
      (server.invalidateAnswer request : Work τ Answer) := by
  intro s t h
  rw [on_invalidateAnswer, on_invalidateAnswer, h.store]
  obtain ⟨journal, hrun⟩ := Cache.run_invalidate (server.pattern? request) s
  obtain ⟨events, hsecond⟩ := Cache.run_invalidate (server.pattern? request) t
  rw [hrun, hsecond, h.store]
  exact ⟨.same _, rfl, h.clock, h.warehouse, h.statements⟩

theorem conceals_statsAnswer :
    Conceals related (statsAnswer : Work σ Answer) (statsAnswer : Work τ Answer) := by
  intro s t h
  rw [on_statsAnswer, on_statsAnswer, h.store]
  exact ⟨.same _, h⟩

theorem conceals_named {segment : String} {answer : String → Work σ Answer}
    {second : String → Work τ Answer}
    (hanswer : ∀ name, Conceals related (answer name) (second name)) :
    Conceals related (named segment answer) (named segment second) := by
  unfold named
  split
  · exact hanswer _
  · exact .pure _

/-- Every endpoint but that for the health of the service conceals the texts of errors. -/
theorem conceals_endpointAnswer (hwarehouse : warehouse.Agrees related other) (now : String)
    (request : Request) {endpoint : Endpoint} (hendpoint : endpoint ≠ .health) :
    Conceals related (server.endpointAnswer warehouse now request endpoint)
      (server.endpointAnswer other now request endpoint) := by
  cases endpoint with
  | root => exact .pure _
  | health => exact absurd rfl hendpoint
  | searchByQuery segment =>
    exact conceals_named fun name => conceals_searchAnswer hwarehouse name _
  | searchByBody segment =>
    refine conceals_named fun name => ?_
    cases bodyValue server.bodyLimit searchBody request with
    | ok asked => exact conceals_searchAnswer hwarehouse name _
    | error fault => exact .pure _
  | metadata segment =>
    exact conceals_named fun name =>
      .bind (Service.conceals_metadata hwarehouse _ name) fun _ => .pure _
  | invalidate => exact conceals_invalidateAnswer request
  | stats => exact conceals_statsAnswer

theorem conceals_answer (hwarehouse : warehouse.Agrees related other) (now : String)
    (request : Request) {endpoint : Endpoint} (hendpoint : endpoint ≠ .health) :
    Conceals related (server.answer warehouse now request endpoint)
      (server.answer other now request endpoint) := by
  unfold answer
  refine .attempt (conceals_endpointAnswer hwarehouse now request hendpoint) (fun result => ?_) ?_
  · cases result with
    | ok answer => exact .pure _
    | error error => exact .bind (.reportAll _ _) fun _ => .pure _
  · -- What is answered depends on the kind of the error only, which is the same.
    intro causes others
    exact .bind (.reportAll _ _) fun _ => .pure (Answer.ofError (.execution causes))

/-! ### The health of the service -/

section

/-- The text of the error with which the warehouse answers a request for its version, if it
fails. -/
def versionError? (warehouse : Warehouse σ) (s : Session σ) : Option String :=
  match (s.reply warehouse Service.versionCall).outcome with
  | .ok _ => none
  | .error causes => some (Service.Error.text (.execution causes))

def unhealthyBody (now text : String) : Json :=
  .object
    [("status", .string "unhealthy"), ("service", serviceName), ("message", .string text),
      ("checked_at", .string now)]

theorem text_unhealthyBody_inj {now text second : String} :
    (unhealthyBody now text).text = (unhealthyBody now second).text ↔ text = second := by
  constructor
  · intro h
    have hlist := congrArg String.toList h
    simp only [unhealthyBody, Json.text, Json.fieldsText, String.toList_append,
      List.append_assoc, List.append_cancel_left_eq] at hlist
    obtain ⟨hsame, -⟩ := isReadBack_quote hlist
    exact hsame
  · intro h
    rw [h]

theorem on_warehouseVersion (service : Service) (warehouse : Warehouse σ) (s : Session σ) :
    (∃ version, ((service.warehouseVersion warehouse).on s).1 = .ok version ∧
      versionError? warehouse s = none) ∨
    ∃ error, ((service.warehouseVersion warehouse).on s).1 = .error (.error error) ∧
      versionError? warehouse s = some error.text := by
  unfold Service.warehouseVersion
  rw [Work.on_bind, Service.on_query]
  obtain ⟨journal, hfetch⟩ :=
    (Cache.fetches service.settings warehouse Service.versionCall s).of_bypass rfl
  rw [hfetch]
  unfold versionError? Cache.executed
  rcases (s.reply warehouse Service.versionCall).outcome with causes | rows
  · exact .inr ⟨.execution causes, rfl, rfl⟩
  · exact .inl ⟨_, rfl, rfl⟩

/-- The answers about the health of the service differ only where the texts of an error do. -/
theorem agrees_healthAnswer (server : Server) (hwarehouse : warehouse.Agrees related other)
    (now : String) {s : Session σ} {t : Session τ} (hst : s.Agrees related t) :
    ((server.healthAnswer warehouse now).on s).2.Agrees related
        ((server.healthAnswer other now).on t).2 ∧
      ∃ answer second, ((server.healthAnswer warehouse now).on s).1 = .ok answer ∧
        ((server.healthAnswer other now).on t).1 = .ok second ∧ answer.status = second.status ∧
        (answer.body.map Json.text = second.body.map Json.text ↔
          versionError? warehouse s = versionError? other t) := by
  obtain ⟨hresult, hsession⟩ := Service.conceals_warehouseVersion hwarehouse server.service hst
  have hfirst := on_warehouseVersion server.service warehouse s
  have hsecond := on_warehouseVersion server.service other t
  unfold healthAnswer
  rw [Work.on_bind, Work.on_bind, Service.on_attempt, Service.on_attempt]
  rcases hfirst with ⟨version, hfirst, hnone⟩ | ⟨error, hfirst, hsome⟩
  · rcases hsecond with ⟨found, hsecond, hno⟩ | ⟨failure, hsecond, -⟩
    · rw [hfirst, hsecond] at hresult
      rw [hfirst, hsecond, hnone, hno]
      cases hresult
      exact ⟨hsession, _, _, rfl, rfl, rfl, by simp⟩
    · rw [hfirst, hsecond] at hresult
      cases hresult
  · rcases hsecond with ⟨found, hsecond, -⟩ | ⟨failure, hsecond, hmore⟩
    · rw [hfirst, hsecond] at hresult
      cases hresult
    · rw [hfirst, hsecond, hsome, hmore]
      refine ⟨hsession.journal _ _, ⟨503, some (unhealthyBody now error.text)⟩,
        ⟨503, some (unhealthyBody now failure.text)⟩, rfl, rfl, rfl, ?_⟩
      simp only [Option.map_some, Option.some_inj, text_unhealthyBody_inj]

end

/-! ### Requests -/

/-- What comes of two requests: a time that cannot be represented, or answers with one status whose
bodies are the same if and only if a condition holds. -/
inductive Match (condition : Prop) : Except Obstacle Answer → Except Obstacle Answer → Prop
  | overflow (what : Service.Overflow) :
    Match condition (.error (.overflow what)) (.error (.overflow what))
  | answers (answer second : Answer) (hstatus : answer.status = second.status)
      (hbody : answer.body.map Json.text = second.body.map Json.text ↔ condition) :
      Match condition (.ok answer) (.ok second)

theorem Match.refl {condition : Prop} (h : condition) (answer : Answer) :
    Match condition (.ok answer) (.ok answer) := .answers answer answer rfl (by simp [h])

theorem match_answer (server : Server) (hwarehouse : warehouse.Agrees related other)
    (now : String) (request : Request) (endpoint : Endpoint) {s : Session σ} {t : Session τ}
    (hst : s.Agrees related t) :
    ((server.answer warehouse now request endpoint).on s).2.Agrees related
        ((server.answer other now request endpoint).on t).2 ∧
      Match (endpoint = .health → versionError? warehouse s = versionError? other t)
        ((server.answer warehouse now request endpoint).on s).1
        ((server.answer other now request endpoint).on t).1 := by
  by_cases hhealth : endpoint = .health
  · subst hhealth
    obtain ⟨hsession, shown, seen, hshown, hseen, hstatus, hbody⟩ :=
      agrees_healthAnswer server hwarehouse now hst
    have hfirst := @on_answer_of_ok _ server warehouse now request .health s _ shown
      (Prod.ext hshown rfl)
    have hsecond := @on_answer_of_ok _ server other now request .health t _ seen
      (Prod.ext hseen rfl)
    rw [hfirst, hsecond]
    exact ⟨hsession, .answers shown seen hstatus (by simpa using hbody)⟩
  · obtain ⟨hresult, hsession⟩ := conceals_answer hwarehouse now request hhealth hst
    refine ⟨hsession, ?_⟩
    rcases answer_cases now request endpoint s with ⟨what, h⟩ | ⟨shown, h⟩
    · rw [h] at hresult ⊢
      generalize ((server.answer other now request endpoint).on t).1 = result at hresult ⊢
      cases hresult
      exact .overflow what
    · rw [h] at hresult ⊢
      generalize ((server.answer other now request endpoint).on t).1 = result at hresult ⊢
      cases hresult
      exact .refl (fun h => absurd h hhealth) shown

theorem match_dispatch (server : Server) (hwarehouse : warehouse.Agrees related other)
    (now : String) (request : Request) {s : Session σ} {t : Session τ}
    (hst : s.Agrees related t) :
    ((server.dispatch warehouse now request).on s).2.Agrees related
        ((server.dispatch other now request).on t).2 ∧
      Match (request.endpoint? = some .health → versionError? warehouse s = versionError? other t)
        ((server.dispatch warehouse now request).on s).1
        ((server.dispatch other now request).on t).1 := by
  cases hendpoint : request.endpoint? with
  | none =>
    obtain ⟨status, hdispatch⟩ := dispatch_of_endpoint?_eq_none hendpoint
    rw [hdispatch, hdispatch]
    exact ⟨hst, .refl nofun _⟩
  | some endpoint =>
    rw [dispatch_of_endpoint? hendpoint, dispatch_of_endpoint? hendpoint, Option.some_inj]
    exact match_answer server hwarehouse now request endpoint hst

theorem agrees_respond (server : Server) (hwarehouse : warehouse.Agrees related other)
    (now : String) (request : Request) {s : Session σ} {t : Session τ}
    (hst : s.Agrees related t) :
    ((server.respond warehouse now request).on s).2.Agrees related
        ((server.respond other now request).on t).2 ∧
      ((∃ what, ((server.respond warehouse now request).on s).1 = .error (.overflow what) ∧
          ((server.respond other now request).on t).1 = .error (.overflow what)) ∨
        ∃ response second, ((server.respond warehouse now request).on s).1 = .ok response ∧
          ((server.respond other now request).on t).1 = .ok second ∧
          response.status = second.status ∧ response.cors = second.cors ∧
          (response.body.map Json.text = second.body.map Json.text ↔
            (request.method = "GET" ∧ request.endpoint? = some .health →
              versionError? warehouse s = versionError? other t))) := by
  by_cases hpreflight : OriginPolicy.isPreflight request
  · rw [respond_of_isPreflight hpreflight, respond_of_isPreflight hpreflight]
    refine ⟨hst, .inr ⟨_, _, rfl, rfl, rfl, rfl, iff_of_true rfl ?_⟩⟩
    rintro ⟨-, hhealth⟩
    exact absurd hpreflight (Request.not_isPreflight hhealth)
  · obtain ⟨hsession, hmatch⟩ := match_dispatch server hwarehouse now request hst
    rw [on_respond hpreflight, on_respond hpreflight]
    generalize (server.dispatch warehouse now request).on s = reached at hsession hmatch ⊢
    generalize (server.dispatch other now request).on t = arrived at hsession hmatch ⊢
    obtain ⟨result, u⟩ := reached
    obtain ⟨found, v⟩ := arrived
    refine ⟨hsession, ?_⟩
    cases hmatch with
    | overflow what => exact .inl ⟨what, rfl, rfl⟩
    | answers shown seen hstatus hbody =>
      refine .inr ⟨_, _, rfl, rfl, hstatus, rfl, ?_⟩
      by_cases hhead : request.method = "HEAD"
      · simp [responseOf, hhead]
      · simp only [responseOf, beq_iff_eq, hhead, if_false, hbody]
        constructor
        · rintro h ⟨-, hhealth⟩
          exact h hhealth
        · intro h hhealth
          have hmethod : request.method = "GET" ∨ request.method = "HEAD" := by
            simpa [Endpoint.methods] using Request.method_mem hhealth
          exact h ⟨hmethod.resolve_right hhead, hhealth⟩

/-! ### Warehouses that always fail -/

def failing (text : String) : Warehouse Unit := .steady ⟨.error [text], 0⟩

theorem failing_agrees (text second : String) :
    (failing text).Agrees (fun _ _ => True) (failing second) :=
  fun _ _ _ _ => ⟨.failures [text] [second] 0, trivial⟩

theorem start_agrees : (Session.start ()).Agrees (fun _ _ => True) (Session.start ()) :=
  ⟨rfl, rfl, trivial, rfl⟩

/-! ### Runs -/

theorem agrees_replay (server : Server) (hwarehouse : warehouse.Agrees related other)
    {s : Session σ} {t : Session τ} (hst : s.Agrees related t) (incidents : List Incident) :
    (server.replay warehouse s incidents).Agrees related (server.replay other t incidents) := by
  induction incidents generalizing s t with
  | nil => exact hst
  | cons incident incidents ih =>
    apply ih
    cases incident with
    | wait ms => exact ⟨hst.store, by rw [after, after, hst.clock], hst.warehouse, hst.statements⟩
    | request now request => exact (agrees_respond server hwarehouse now request hst).1

/-- After the same incidents in front of warehouses that agree, a request gets responses with the
same status and headers.  Their bodies are the same, unless the request asks for the health of the
service and the warehouses fail with different texts. -/
theorem body_respond_replay_eq_iff (server : Server) (hwarehouse : warehouse.Agrees related other)
    {s : Session σ} {t : Session τ} (hst : s.Agrees related t) (incidents : List Incident)
    (now : String) (request : Request) :
    let first := server.replay warehouse s incidents
    let second := server.replay other t incidents
    ((server.respond warehouse now request).on first).2.Agrees related
        ((server.respond other now request).on second).2 ∧
      ((∃ what, ((server.respond warehouse now request).on first).1 = .error (.overflow what) ∧
          ((server.respond other now request).on second).1 = .error (.overflow what)) ∨
        ∃ shown seen, ((server.respond warehouse now request).on first).1 = .ok shown ∧
          ((server.respond other now request).on second).1 = .ok seen ∧
          shown.status = seen.status ∧ shown.cors = seen.cors ∧
          (shown.body.map Json.text = seen.body.map Json.text ↔
            (request.method = "GET" ∧ request.endpoint? = some .health →
              versionError? warehouse first = versionError? other second))) := by
  intro first second
  exact agrees_respond server hwarehouse now request
    (agrees_replay server hwarehouse hst incidents)

/-- A search fails after a failed search, and shows the text of neither warehouse. -/
theorem body_respond_replay_eq_iff_search :
    let search : Request := ⟨"GET", "/api/datasets/budget?status=open", [], []⟩
    let first := standard.replay (failing "timeout") (.start ()) [.request "" search, .wait 5]
    let second := standard.replay (failing "refused") (.start ()) [.request "" search, .wait 5]
    (failing "timeout").Agrees (fun _ _ => True) (failing "refused") ∧
      (Session.start ()).Agrees (fun _ _ => True) (Session.start ()) ∧
      ∃ shown seen, ((standard.respond (failing "timeout") "" search).on first).1 = .ok shown ∧
        ((standard.respond (failing "refused") "" search).on second).1 = .ok seen ∧
        shown.status = seen.status ∧ shown.body.map Json.text = seen.body.map Json.text := by
  intro search first second
  refine ⟨failing_agrees _ _, start_agrees, ?_⟩
  have hanswered :
      ((standard.respond (failing "timeout") "" search).on first).1.toOption.isSome = true := by
    decide +kernel
  obtain ⟨-, ⟨what, hoverflow, -⟩ | ⟨shown, seen, hshown, hseen, hstatus, -, hbody⟩⟩ :=
    body_respond_replay_eq_iff standard (failing_agrees "timeout" "refused") start_agrees
      [.request "" search, .wait 5] "" search
  · rw [hoverflow] at hanswered
    cases hanswered
  · exact ⟨shown, seen, hshown, hseen, hstatus, hbody.mpr fun h => absurd h.2 (by decide)⟩

/-- What a request for the health of the service shows. -/
theorem respond_health_shows_cause :
    let health : Request := ⟨"GET", "/health", [], []⟩
    (failing "timeout").Agrees (fun _ _ => True) (failing "refused") ∧
      (Session.start ()).Agrees (fun _ _ => True) (Session.start ()) ∧
      ∃ shown seen,
        ((standard.respond (failing "timeout") "" health).on (.start ())).1 = .ok shown ∧
        ((standard.respond (failing "refused") "" health).on (.start ())).1 = .ok seen ∧
        shown.body.map Json.text ≠ seen.body.map Json.text :=
  ⟨failing_agrees _ _, start_agrees, _, _, rfl, rfl, by decide⟩

end Http.Server

end DatasetSearch
