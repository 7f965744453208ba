import DatasetSearch.Proofs.Http.Rejected
import DatasetSearch.Proofs.Service.Findings

/-!
# Without a cache for searches

With the cache disabled, the statements of datasets pass it by, as the call for the version of the
warehouse always does.  What is left in it are the columns of tables: they alone are stored, and
their look-ups alone are counted, one for each request that gets as far.  A search that finds
columns sends its statements whatever has been asked before.
-/

namespace DatasetSearch

open Cache (Call Outcome Session Settings Store instantLimit)
open Service (Column SearchRequest Work)

variable {σ α β : Type}

/-! ### What is counted -/

/-- The calls that a store has counted. -/
def Cache.Store.lookups (store : Store) : Nat := store.hits + store.misses

theorem Cache.Store.lookups_refreshed (store : Store) (settings : Settings) (call : Call)
    (entry : Option Cache.Entry) :
    (store.refreshed settings call entry).lookups = store.lookups + 1 := by
  cases entry <;> rfl

/-- A call that is not bypassed counts once, unless it finds an expiry that cannot be
represented. -/
theorem Cache.Fetches.lookups_eq {settings : Settings} {warehouse : Warehouse σ} {call : Call}
    {s t : Session σ} {outcome : Outcome} (h : Fetches settings warehouse call s (outcome, t))
    (hbypass : call.bypass = false)
    (hlimit : ∀ entry, s.store.entry? (call.key settings) = some entry →
      entry.freshness s.clock ≠ .overflow) :
    t.store.lookups = s.store.lookups + 1 := by
  cases h with
  | bypassed _ hused => exact absurd hused (by simp [hbypass])
  | hit _ _ _ _ =>
    simp only [Store.lookups, Store.countHit]
    omega
  | overflow _ hentry hoverflow => exact absurd hoverflow (hlimit _ hentry)
  | missed _ _ _ => exact s.store.lookups_refreshed settings call _

namespace Service

/-- Work that counts nothing. -/
def Work.CountsNothing (work : Work σ α) : Prop :=
  ∀ s, (work.on s).2.store.lookups = s.store.lookups

namespace Work.CountsNothing

theorem pure (a : α) : CountsNothing (pure a : Work σ α) := fun _ => rfl

/-- After the first part nothing is counted any more. -/
theorem lookups_bind {work : Work σ α} {next : α → Work σ β}
    (hnext : ∀ a, (next a).CountsNothing) (s : Session σ) :
    (Work.on (work >>= next) s).2.store.lookups = (work.on s).2.store.lookups := by
  rw [on_bind]
  generalize work.on s = reached
  obtain ⟨result, t⟩ := reached
  cases result with
  | ok a => exact hnext a t
  | error obstacle => rfl

theorem bind {work : Work σ α} {next : α → Work σ β} (hwork : work.CountsNothing)
    (hnext : ∀ a, (next a).CountsNothing) : CountsNothing (work >>= next) :=
  fun s => (lookups_bind hnext s).trans (hwork s)

theorem reportAll (events : List Log.Event) :
    CountsNothing (Service.reportAll events : Work σ Unit) := fun _ => rfl

theorem overflow (what : Overflow) : CountsNothing (throw (.overflow what) : Work σ α) :=
  fun _ => rfl

theorem attempt {work : Work σ α} (hwork : work.CountsNothing) :
    CountsNothing (Service.attempt work) := by
  intro s
  rw [on_attempt]
  exact hwork s

theorem query {call : Call} (hbypass : call.bypass = true) (settings : Settings)
    (warehouse : Warehouse σ) : CountsNothing (Service.query settings warehouse call) := by
  intro s
  obtain ⟨journal, hquery⟩ := on_query_of_bypass hbypass settings warehouse s
  rw [hquery]
  rfl

end Work.CountsNothing

variable {service : Service} {warehouse : Warehouse σ} {name : String} {asked : SearchRequest}
  {d : Dataset} {s t : Session σ}

theorem bypass_call_of_disabled (hdisabled : service.cacheEnabled = false) (d : Dataset)
    (sql : String) : (service.call d sql).bypass = true := by
  simp [call, hdisabled]

theorem countsNothing_warehouseVersion (service : Service) (warehouse : Warehouse σ) :
    (service.warehouseVersion warehouse).CountsNothing :=
  .bind (.query rfl _ _) fun _ => .pure _

theorem countsNothing_searchOver (hdisabled : service.cacheEnabled = false)
    (warehouse : Warehouse σ) (d : Dataset) (page : Pagination) (allowlist : Allowlist)
    (request : SearchRequest) :
    (service.searchOver warehouse d page allowlist request).CountsNothing := by
  unfold searchOver
  refine .bind (.reportAll _) fun _ => ?_
  refine .bind (.query (bypass_call_of_disabled hdisabled _ _) _ _) fun count => ?_
  refine .bind (.query (bypass_call_of_disabled hdisabled _ _) _ _) fun data => ?_
  refine .bind (.reportAll _) fun _ => ?_
  split
  · exact .pure _
  · exact .overflow .elapsed

theorem lookups_columns (hd : d ∈ service.datasets) (hfree : ¬service.IsBlocked s)
    (warehouse : Warehouse σ) :
    ((service.columns warehouse d).on s).2.store.lookups = s.store.lookups + 1 := by
  have hfetches := Cache.fetches service.settings warehouse
    (Column.lookupCall d.table service.columnTtl) s
  have hlimit : ∀ entry, s.store.entry?
      ((Column.lookupCall d.table service.columnTtl).key service.settings) = some entry →
        entry.freshness s.clock ≠ .overflow :=
    fun entry hentry hoverflow => hfree ⟨_, entry, .lookup hd, rfl, hentry, hoverflow⟩
  unfold columns Column.ofTable
  rw [Work.CountsNothing.lookups_bind (fun _ => .bind (.reportAll _) fun _ => .pure _), on_query]
  exact hfetches.lookups_eq rfl hlimit

theorem on_query_of_failure {call : Call} (hbypass : call.bypass = true) {settings : Settings}
    {causes : List String} (h : (s.reply warehouse call).outcome = .error causes) :
    ∃ t, (query settings warehouse call).on s = (.error (.error (.execution causes)), t) ∧
      t.statements = s.statements ++ [call.statement] := by
  obtain ⟨journal, hquery⟩ := on_query_of_bypass hbypass settings warehouse s
  rw [hquery, Cache.executed, h]
  exact ⟨_, rfl, rfl⟩

theorem on_query_of_success {call : Call} (hbypass : call.bypass = true) {settings : Settings}
    {rows : List Row} (h : (s.reply warehouse call).outcome = .ok rows) :
    ∃ t, (query settings warehouse call).on s =
        (.ok (.ofRows rows (s.reply warehouse call).elapsedMs), t) ∧
      t.statements = s.statements ++ [call.statement] := by
  obtain ⟨journal, hquery⟩ := on_query_of_bypass hbypass settings warehouse s
  rw [hquery, Cache.executed, h]
  exact ⟨_, rfl, rfl⟩

/-- Without the cache, a search sends the statement that counts and, if that succeeds, the one that
reads the rows. -/
theorem statements_searchOver (hdisabled : service.cacheEnabled = false) (warehouse : Warehouse σ)
    (d : Dataset) (page : Pagination) (allowlist : Allowlist) (asked : SearchRequest)
    (s : Session σ) :
    let plan := service.plan d allowlist page asked
    let sent := ((service.searchOver warehouse d page allowlist asked).on s).2.statements
    (∀ causes, (warehouse ⟨plan.countQuery, []⟩ s.warehouse).1.outcome = .error causes →
      sent = s.statements ++ [⟨plan.countQuery, []⟩]) ∧
    ∀ rows, (warehouse ⟨plan.countQuery, []⟩ s.warehouse).1.outcome = .ok rows →
      sent = s.statements ++ [⟨plan.countQuery, []⟩, ⟨plan.dataQuery, []⟩] := by
  intro plan sent
  have hbypass := bypass_call_of_disabled hdisabled d
  let r : Session σ :=
    { s with journal := s.journal ++ service.planEvents d allowlist page asked }
  have hover := on_searchOver service warehouse d page allowlist asked s
  rw [on_counts] at hover
  constructor
  · intro causes hcauses
    obtain ⟨t, hcount, hsent⟩ := on_query_of_failure (s := r) (hbypass plan.countQuery) hcauses
    rw [hcount] at hover
    change ((service.searchOver warehouse d page allowlist asked).on s).2.statements = _
    rw [hover]
    exact hsent
  · intro rows hrows
    obtain ⟨t, hcount, hsent⟩ := on_query_of_success (s := r) (hbypass plan.countQuery) hrows
    obtain ⟨journal, hdata⟩ :=
      on_query_of_bypass (hbypass plan.dataQuery) service.settings warehouse t
    rw [hcount] at hover
    dsimp only at hover
    rw [hdata] at hover
    have hlast : (t.sent warehouse (service.call d plan.dataQuery) t.store journal).statements =
        s.statements ++ [⟨plan.countQuery, []⟩, ⟨plan.dataQuery, []⟩] := by
      change t.statements ++ _ = _
      rw [hsent, List.append_assoc]
      rfl
    change ((service.searchOver warehouse d page allowlist asked).on s).2.statements = _
    rw [hover]
    cases ofOutcome (Cache.executed (t.reply warehouse (service.call d plan.dataQuery))) with
    | ok data => exact hlast
    | error obstacle => exact hlast

theorem cached_of_bypass {settings : Settings} {call : Call} {result : QueryResult}
    (h : (query settings warehouse call).on s = (.ok result, t)) (hbypass : call.bypass = true) :
    result.cached = false := by
  obtain ⟨journal, hfetched⟩ := (fetches_of_on_query h).of_bypass hbypass
  have hresult : Cache.isCached (.ok result) = false := by
    rw [(Prod.mk.inj hfetched).1]
    exact Cache.isCached_executed _
  exact hresult

/-- Without the cache, no page comes from it. -/
theorem cached_of_on_search (hdisabled : service.cacheEnabled = false) {page : Page}
    (h : (service.search warehouse name asked).on s = (.ok page, t)) : page.cached = false := by
  obtain ⟨d, p, columns, u, hd, hpage, hcolumns, hempty⟩ := exists_columns_of_on_search h
  by_cases hne : columns = []
  · rw [hempty hne]
    rfl
  · obtain ⟨count, data, hfinds, rfl⟩ := (on_search_eq_ok_iff hd hpage hcolumns hne).mp h
    cases hfinds with
    | intro _ _ _ _ _ hdata _ =>
      have hread := cached_of_bypass hdata (bypass_call_of_disabled hdisabled _ _)
      change (data.cached && count.cached) = false
      change data.cached = false at hread
      rw [hread, Bool.false_and]

end Service

/-! ### Requests -/

namespace Http.Server

variable {server : Server} {warehouse : Warehouse σ} {request : Request} {name : String}
  {inquiry : Inquiry} {asked : SearchRequest} {s t : Session σ}

theorem lookups_deliver (request : Request) (reached : Except Service.Obstacle Answer × Session σ) :
    (server.deliver request reached).2.store.lookups = reached.2.store.lookups := by
  obtain ⟨journal, hdelivered⟩ := server.exists_journal_deliver request reached
  rw [hdelivered]

/-- An inquiry that gets to the columns of a dataset counts once. -/
theorem lookups_inquiryAnswer (hdisabled : server.service.cacheEnabled = false) {d : Dataset}
    (hd : server.service.subject name inquiry = .ok d) (hfree : ¬server.service.IsBlocked s)
    (warehouse : Warehouse σ) :
    ((server.inquiryAnswer warehouse name inquiry).on s).2.store.lookups =
      s.store.lookups + 1 := by
  cases inquiry with
  | search asked =>
    obtain ⟨hdataset, page, hpage⟩ := Service.subject_search_eq_ok hd
    rw [on_inquiryAnswer_search, Service.search, hdataset, hpage,
      Work.on_bind_of_ok (Service.on_decided_ok d s),
      Work.on_bind_of_ok (Service.on_decided_ok page s), Work.CountsNothing.lookups_bind]
    · exact Service.lookups_columns (Service.mem_of_dataset hdataset) hfree warehouse
    · intro columns
      split
      · exact .bind (.reportAll _) fun _ => .pure _
      · exact Service.countsNothing_searchOver hdisabled warehouse d page _ asked
  | metadata =>
    have hdataset : server.service.dataset name = .ok d := hd
    rw [on_inquiryAnswer_metadata, Service.metadata, hdataset,
      Work.on_bind_of_ok (Service.on_decided_ok d s),
      Work.CountsNothing.lookups_bind fun _ => .pure _]
    exact Service.lookups_columns (Service.mem_of_dataset hdataset) hfree warehouse

/-- An endpoint that does not look at a dataset counts nothing. -/
theorem countsNothing_endpointAnswer {endpoint : Endpoint} (h : endpoint.segment? = none)
    (server : Server) (warehouse : Warehouse σ) (now : String) (request : Request) :
    (server.endpointAnswer warehouse now request endpoint).CountsNothing := by
  cases endpoint with
  | root => exact .pure _
  | health =>
    refine .bind (.attempt (Service.countsNothing_warehouseVersion _ _)) fun result => ?_
    cases result with
    | ok version => exact .pure _
    | error error => exact .bind (.reportAll _) fun _ => .pure _
  | invalidate => exact fun s => rfl
  | stats => exact fun s => rfl
  | searchByQuery | searchByBody | metadata => cases h

/-- A request counts once if it has columns looked up, and otherwise not at all. -/
theorem lookups_respond (hdisabled : server.service.cacheEnabled = false)
    (hfree : ¬server.service.IsBlocked s) (warehouse : Warehouse σ) (now : String)
    (request : Request) :
    ((server.respond warehouse now request).on s).2.store.lookups =
      s.store.lookups + if (server.lookup? request).isSome then 1 else 0 := by
  cases hlookup : server.lookup? request with
  | some d =>
    obtain ⟨⟨name, inquiry⟩, hinquiry, hsubject⟩ := Option.bind_eq_some_iff.mp hlookup
    rw [on_respond_of_inquiry? hinquiry, lookups_deliver]
    exact lookups_inquiryAnswer hdisabled (exists_ok_of_toOption hsubject) hfree warehouse
  | none =>
    change _ = s.store.lookups
    rcases server.rejects_or request with ⟨status, hrejects⟩ | hpreflight |
      ⟨endpoint, hendpoint, hnone⟩ | ⟨name, inquiry, d, hinquiry, hd⟩
    · obtain ⟨response, hresponse, -⟩ := on_respond_of_rejects hrejects warehouse now s
      rw [hresponse]
    · rw [respond_of_isPreflight hpreflight]
      rfl
    · rw [on_respond_eq_deliver hendpoint, lookups_deliver]
      exact countsNothing_endpointAnswer hnone server warehouse now request s
    · have hsome : server.lookup? request = some d := by
        simp only [lookup?, hinquiry, Option.bind_eq_bind, Option.bind_some, hd]
        rfl
      cases hlookup.symm.trans hsome

/-- An answer to a search is a page. -/
theorem exists_page_of_respond (hinquiry : server.inquiry? request = some (name, .search asked))
    {now : String} {response : Response}
    (h : (server.respond warehouse now request).on s = (.ok response, t))
    (hstatus : response.status = 200) :
    ∃ page, (server.service.search warehouse name asked).on s = (.ok page, t) ∧
      response = server.responseOf request (.ok page.toJson) := by
  rw [on_respond_of_inquiry? hinquiry, on_inquiryAnswer_search] at h
  generalize (server.service.search warehouse name asked).on s = reached at h ⊢
  obtain ⟨result, u⟩ := reached
  cases result with
  | ok page =>
    cases h
    exact ⟨page, rfl, rfl⟩
  | error obstacle =>
    cases obstacle with
    | error error =>
      cases h
      cases error <;> cases hstatus
    | overflow what => cases h

/-! ### Runs -/

/-- Whether an incident has columns looked up. -/
def looksUp (server : Server) : Incident → Bool
  | .wait _ => false
  | .request _ request => (server.lookup? request).isSome

theorem lookups_after (hdisabled : server.service.cacheEnabled = false)
    (hfree : ¬server.service.IsBlocked s) (warehouse : Warehouse σ) (incident : Incident) :
    (server.after warehouse s incident).store.lookups =
      s.store.lookups + if server.looksUp incident then 1 else 0 := by
  cases incident with
  | wait ms => rfl
  | request now request => exact lookups_respond hdisabled hfree warehouse now request

/-- As long as the expiry of columns can be represented, what is counted are their look-ups. -/
theorem lookups_replay (hdisabled : server.service.cacheEnabled = false)
    (hbounds : server.service.Bounds s) (incidents : List Incident)
    (hlimit : (server.replay warehouse s incidents).clock + server.service.longest <
      instantLimit) :
    (server.replay warehouse s incidents).store.lookups =
      s.store.lookups + incidents.countP server.looksUp := by
  induction incidents generalizing s with
  | nil => rfl
  | cons incident incidents ih =>
    have hclock : s.clock ≤ (server.replay warehouse s (incident :: incidents)).clock :=
      clock_le_replay s (incident :: incidents)
    have hfree : ¬server.service.IsBlocked s := by
      intro hblocked
      have hlate := hbounds.le_of_isBlocked hblocked
      omega
    have hnext : server.service.Bounds (server.after warehouse s incident) :=
      bounds_replay_of_bounds hbounds [incident]
    have hrest := ih hnext hlimit
    rw [lookups_after hdisabled hfree] at hrest
    rw [List.countP_cons]
    change (server.replay warehouse (server.after warehouse s incident) incidents).store.lookups = _
    omega

/-- Without the cache, what a service stores are the columns of tables. -/
theorem prefix_of_areKeyed (hdisabled : server.service.cacheEnabled = false)
    (h : server.service.AreKeyed s) :
    ∀ p ∈ s.store.entries, "schema:".toList <+: p.1.toList := by
  intro p hp
  obtain ⟨call, hcall, hused, hkey⟩ := h p hp
  cases hcall with
  | lookup hd =>
    have hparts : p.1 = "schema:" ++ Cache.digestPart server.service.settings.keyDigest _ := hkey
    rw [hparts, String.toList_append]
    exact List.prefix_append _ _
  | statement hd sql =>
    rw [Service.bypass_call_of_disabled hdisabled] at hused
    cases hused
  | version => cases hused

/-- With the cache disabled, whatever has been asked, every key is that of the columns of a table,
and as long as the expiry of columns can be represented, the hits and misses are as many as the
requests that have had columns looked up.  A search that finds columns sends the statement that
counts and, if that succeeds, the one that reads the rows, and no page is marked as cached. -/
theorem replay_uncached {config : Config} (hserver : ofConfig config = .ok server)
    (hdisabled : config.cache.enabled = false) (warehouse : Warehouse σ) (state : σ)
    (incidents : List Incident) :
    let s := server.replay warehouse (.start state) incidents
    (∀ p ∈ s.store.entries, "schema:".toList <+: p.1.toList) ∧
    (s.clock + config.cache.schemaTtl < instantLimit →
      s.store.hits + s.store.misses = incidents.countP server.looksUp) ∧
    ∀ now request name asked, server.inquiry? request = some (name, .search asked) →
      (∀ response t, (server.respond warehouse now request).on s = (.ok response, t) →
        response.status = 200 → ∃ page : Service.Page, page.cached = false ∧
          response = server.responseOf request (.ok page.toJson)) ∧
      ∀ d page columns t, server.service.dataset name = .ok d →
        server.service.pagination asked = .ok page →
        (server.service.columns warehouse d).on s = (.ok columns, t) → columns ≠ [] →
        let plan := server.service.plan d (.ofList (columns.map (·.name))) page asked
        let sent := ((server.respond warehouse now request).on s).2.statements
        (∀ causes, (warehouse ⟨plan.countQuery, []⟩ t.warehouse).1.outcome = .error causes →
          sent = t.statements ++ [⟨plan.countQuery, []⟩]) ∧
        ∀ rows, (warehouse ⟨plan.countQuery, []⟩ t.warehouse).1.outcome = .ok rows →
          sent = t.statements ++ [⟨plan.countQuery, []⟩, ⟨plan.dataQuery, []⟩] := by
  intro s
  obtain ⟨henabled, httl⟩ := service_of_ofConfig hserver
  rw [hdisabled] at henabled
  refine ⟨prefix_of_areKeyed henabled (areKeyed_replay state incidents), ?_, ?_⟩
  · intro hlimit
    have hlongest : server.service.longest = config.cache.schemaTtl := by
      simp [Service.longest, henabled, httl]
    rw [← hlongest] at hlimit
    have hcount := lookups_replay henabled (.start _ state) incidents hlimit
    have hstart : (Session.start state).store.lookups = 0 := rfl
    rw [hstart, Nat.zero_add] at hcount
    exact hcount
  · intro now request name asked hinquiry
    constructor
    · intro response t hresponse hstatus
      obtain ⟨page, hpage, rfl⟩ := exists_page_of_respond hinquiry hresponse hstatus
      exact ⟨page, Service.cached_of_on_search henabled hpage, rfl⟩
    · intro d page columns t hd hpage hcolumns hne plan sent
      have hsent : sent = ((server.service.searchOver warehouse d page
          (.ofList (columns.map (·.name))) asked).on t).2.statements := by
        obtain ⟨journal, hdelivered⟩ := server.exists_journal_deliver request
          ((server.inquiryAnswer warehouse name (.search asked)).on s)
        rw [← on_respond_of_inquiry? hinquiry now, on_inquiryAnswer_search,
          Service.on_search_of_columns hd hpage hcolumns hne] at hdelivered
        have hstatements := congrArg Session.statements hdelivered
        exact hstatements
      rw [hsent]
      exact Service.statements_searchOver henabled warehouse d page _ asked t

/-- The standard server without a cache for searches. -/
def uncachedServer : Server := { standard with service := Service.uncachedService }

/-- A search, a request for the columns and a search of a dataset that there is not: the columns are
looked up twice.  The page of the next search is not marked as cached. -/
theorem replay_uncached_search :
    let incidents : List Incident :=
      [.request "" openQuery, .wait 5, .request "" columnsRequest,
        .request "" ⟨"GET", "/api/datasets/none", [], []⟩]
    let s := uncachedServer.replay oneColumn (.start ()) incidents
    ofConfig Service.uncached = .ok uncachedServer ∧ Service.uncached.cache.enabled = false ∧
      s.store.size = 1 ∧ (∀ p ∈ s.store.entries, "schema:".toList <+: p.1.toList) ∧
      s.store.hits + s.store.misses = 2 ∧
      ∃ (page : Service.Page) (t : Session Unit), page.cached = false ∧
        (uncachedServer.respond oneColumn "" openQuery).on s =
          (.ok (uncachedServer.responseOf openQuery (.ok page.toJson)), t) ∧
        s.statements.length = 3 ∧ t.statements.length = 5 := by
  intro incidents s
  have hserver : ofConfig Service.uncached = .ok uncachedServer := rfl
  obtain ⟨hkeys, hcounted, hsearch⟩ := replay_uncached hserver rfl oneColumn () incidents
  obtain ⟨hsize, hlimit, hlookups, hstatements, hstatus, hlength⟩ :
      s.store.size = 1 ∧ s.clock + Service.uncached.cache.schemaTtl < instantLimit ∧
        incidents.countP uncachedServer.looksUp = 2 ∧ s.statements.length = 3 ∧
        ((uncachedServer.respond oneColumn "" openQuery).on s).1.map Response.status = .ok 200 ∧
        ((uncachedServer.respond oneColumn "" openQuery).on s).2.statements.length = 5 := by
    decide +kernel
  obtain ⟨response, hresponse, h200⟩ := Work.exists_on_of_map hstatus
  obtain ⟨page, hpage, rfl⟩ := (hsearch "" openQuery "budget" .empty
    (inquiry?_openQuery uncachedServer)).1 response _ hresponse h200
  exact ⟨hserver, rfl, hsize, hkeys, (hcounted hlimit).trans hlookups, page, _, hpage,
    hresponse, hstatements, hlength⟩

end Http.Server

end DatasetSearch
