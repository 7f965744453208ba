import DatasetSearch.Proofs.Cache.Key
import DatasetSearch.Proofs.Http.Entries
import DatasetSearch.Proofs.Sql.Pagination

/-!
# Requests are answered

With acceptable settings there is a server, its arithmetic stays in range, and a request gets a
response unless it meets a time that cannot be represented.  No entry outlives its storing by more
than the settings say, so an expiry is out of range only with a time or a lifetime near the end of
all instants; the settings may give such a lifetime.  No execution took longer than the clock has
run, so two of them are out of range only at a time past half of what a word holds.
-/

namespace DatasetSearch

open Relation (ReflTransGen)
open Cache (Call Entry Session Store instantLimit)

variable {σ : Type}

/-! ### Acceptable settings -/

namespace Config

structure IsAcceptable (c : Config) : Prop where
  defaultPageSize : c.search.defaultPageSize ≠ 0
  maxPageSize : c.search.defaultPageSize ≤ c.search.maxPageSize
  keyLength : c.cache.keyLength ≠ 0
  datasets : c.datasets ≠ []
  tables : ∀ p ∈ c.datasets, (TableName.parse? p.2.table).isSome
  bodySize : c.server.maxRequestBodySize ≠ 0

theorem isAcceptable_of_validate {c : Config} (h : c.validate = .ok ()) : c.IsAcceptable := by
  unfold validate at h
  split_ifs at h with hdefault hmax hkey hdatasets hbody
  · split at h <;> cases h
  · split at h
    · cases h
    · next htable =>
      refine ⟨hdefault, by simpa using hmax, hkey, by simpa using hdatasets, ?_, hbody⟩
      intro p hp
      have hfound := List.find?_eq_none.mp (Option.map_eq_none_iff.mp htable) p hp
      simpa [Option.isSome_iff_ne_none] using hfound

theorem IsAcceptable.max_maxPageSize {c : Config} (h : c.IsAcceptable) :
    max c.search.maxPageSize 1 = c.search.maxPageSize := by
  have hdefault : c.search.defaultPageSize.toNat ≠ 0 :=
    fun hzero => h.defaultPageSize (UInt32.toNat_inj.mp hzero)
  have hle := UInt32.le_iff_toNat_le.mp h.maxPageSize
  rw [← UInt32.toNat_inj, UInt32.toNat_max, UInt32.toNat_one]
  omega

/-- The longest time in milliseconds that an entry stays fresh. -/
def longestTtl (c : Config) : Nat :=
  max c.cache.schemaTtl (if c.cache.enabled then c.cache.settings.defaultTtl else 0)

end Config

/-- Acceptable tables make datasets. -/
theorem Service.exists_datasets {datasets : List (String × Config.Dataset)}
    (h : ∀ p ∈ datasets, (TableName.parse? p.2.table).isSome) :
    ∃ known, datasets.mapM (fun (name, d) => datasetOf name d) = .ok known := by
  induction datasets with
  | nil => exact ⟨[], rfl⟩
  | cons p datasets ih =>
    obtain ⟨known, hknown⟩ := ih fun q hq => h q (List.mem_cons_of_mem p hq)
    obtain ⟨name, d⟩ := p
    obtain ⟨table, htable⟩ := Option.isSome_iff_exists.mp (h (name, d) List.mem_cons_self)
    have hdataset : datasetOf name d = .ok ⟨name, table, d.presets, d.orderBy⟩ := by
      simp only [datasetOf, htable]
    rw [List.mapM_cons]
    dsimp only
    rw [hdataset, hknown]
    exact ⟨_, rfl⟩

theorem Http.Server.exists_ofConfig {c : Config} (h : c.IsAcceptable) :
    ∃ server, ofConfig c = .ok server ∧ server.service.paging = c.search ∧
      server.service.settings = c.cache.settings ∧ server.service.columnTtl = c.cache.schemaTtl ∧
      server.service.cacheEnabled = c.cache.enabled := by
  obtain ⟨known, hknown⟩ := Service.exists_datasets h.tables
  unfold ofConfig Service.ofConfig
  rw [hknown]
  exact ⟨_, rfl, rfl, rfl, rfl, rfl⟩

theorem Http.Server.service_of_ofConfig {c : Config} {server : Server}
    (h : ofConfig c = .ok server) :
    server.service.cacheEnabled = c.cache.enabled ∧
      server.service.columnTtl = c.cache.schemaTtl := by
  unfold ofConfig Service.ofConfig at h
  cases hknown : c.datasets.mapM (fun (name, d) => Service.datasetOf name d) with
  | error e =>
    rw [hknown] at h
    cases h
  | ok known =>
    rw [hknown] at h
    cases h
    exact ⟨rfl, rfl⟩

/-! ### Arithmetic -/

/-- A page that is asked for is at least the first, and its size is within its bounds. -/
theorem Service.pagination_bounds {service : Service} {request : SearchRequest} {page : Pagination}
    (h : service.pagination request = .ok page) :
    page.page ≠ 0 ∧ page.pageSize ≠ 0 ∧ page.pageSize ≤ max service.paging.maxPageSize 1 := by
  unfold pagination at h
  dsimp only at h
  split at h
  · next p hmake =>
    obtain ⟨hpage, hsize, rfl⟩ := Pagination.make_eq_ok hmake
    cases h
    refine ⟨hpage, ?_, Std.min_le_right⟩
    intro hzero
    have hnat := congrArg UInt32.toNat hzero
    simp only [Pagination.clamped, UInt32.toNat_min, UInt32.toNat_max, UInt32.toNat_one,
      UInt32.toNat_zero] at hnat
    have hasked : (request.pageSize.getD service.paging.defaultPageSize).toNat ≠ 0 :=
      fun h => hsize (UInt32.toNat_inj.mp h)
    omega
  · cases h

/-- Keys hold as many characters of the digest as the settings say, if it has as many. -/
theorem Config.length_digestPart {c : Caching} (h : c.keyLength ≠ 0) (statement : Statement) :
    (Cache.digestPart c.keyDigest statement).toList.length = min c.keyLength.toNat 64 := by
  have hlength :=
    (Text.Sha256.isDigest_hex (Text.Utf8.encode (Cache.digestInput statement))).1
  have hkey : c.keyLength.toNat ≠ 0 := fun hzero => h (UInt64.toNat_inj.mp hzero)
  unfold Cache.digestPart Caching.keyDigest
  split_ifs with hfull
  · rw [Cache.KeyDigest.cut, hlength]
    exact (Nat.min_eq_right hfull).symm
  · rw [Cache.KeyDigest.cut, String.toList_ofList, List.length_take, hlength,
      Nat.max_eq_left (Nat.one_le_iff_ne_zero.mpr hkey)]

/-! ### Lifetimes -/

/-- The longest time in milliseconds that an entry of a service stays fresh. -/
def Service.longest (service : Service) : Nat :=
  max service.columnTtl (if service.cacheEnabled then service.settings.defaultTtl else 0)

/-- No entry was stored later than now, or for longer than any call of the service asks, or took
longer than the clock has run. -/
def Service.Bounds (service : Service) (s : Session σ) : Prop :=
  ∀ p ∈ s.store.entries, p.2.storedAt ≤ s.clock ∧ p.2.ttl ≤ service.longest ∧
    p.2.value.elapsedMs.toNat ≤ s.clock

namespace Service

variable {service : Service} {warehouse : Warehouse σ}

/-- What a call of the service stores stays fresh no longer than the longest lifetime. -/
theorem Makes.lifetime_le {call : Call} (h : service.Makes call) (hused : call.bypass = false) :
    call.lifetime service.settings ≤ service.longest := by
  cases h with
  | lookup hd => exact Nat.le_max_left _ _
  | statement hd sql =>
    have henabled : service.cacheEnabled = true := by simpa [Service.call] using hused
    have hlongest : service.longest = max service.columnTtl service.settings.defaultTtl := by
      rw [longest, if_pos henabled]
    rw [hlongest]
    exact Nat.le_max_right _ _
  | version => cases hused

theorem Bounds.start (service : Service) (state : σ) : service.Bounds (.start state) :=
  List.forall_mem_nil _

theorem Bounds.moves {s t : Session σ} (hmoves : service.Moves warehouse s t)
    (h : service.Bounds s) : service.Bounds t := by
  intro p hp
  rcases hmoves.mem_entries hp with
    hold | ⟨call, hcall, hbypass, -, hstored, httl, helapsed⟩
  · obtain ⟨hstored, httl, helapsed⟩ := h p hold
    exact ⟨Nat.le_trans hstored hmoves.clock_le, httl, Nat.le_trans helapsed hmoves.clock_le⟩
  · rw [hstored, httl]
    exact ⟨Nat.le_refl _, hcall.lifetime_le hbypass, helapsed⟩

theorem Bounds.path {s t : Session σ} (hpath : ReflTransGen (service.Moves warehouse) s t)
    (h : service.Bounds s) : service.Bounds t ∧ s.clock ≤ t.clock := by
  induction hpath with
  | refl => exact ⟨h, Nat.le_refl _⟩
  | tail _ hmoves ih => exact ⟨ih.1.moves hmoves, Nat.le_trans ih.2 hmoves.clock_le⟩

/-- No result took longer than the clock has run when it is there. -/
theorem Bounds.elapsedMs_le {s t : Session σ} {result : QueryResult} (h : service.Bounds s)
    (hyields : service.Yields warehouse s t result) : result.elapsedMs.toNat ≤ t.clock := by
  obtain ⟨call, u, v, hcall, hbefore, hfetch, hafter⟩ := hyields
  obtain ⟨hbounds, -⟩ := h.path hbefore
  have hfetches := Cache.fetches service.settings warehouse call u
  have hmoves : service.Moves warehouse u _ := .calls u hcall
  rw [hfetch] at hfetches hmoves
  have hresult := hfetches.elapsedMs_le fun p hp => (hbounds p hp).2.2
  exact Nat.le_trans hresult ((hbounds.moves hmoves).path hafter).2

/-- What blocks a call is an entry near the end of all instants. -/
theorem Bounds.le_of_isBlocked {s : Session σ} (h : service.Bounds s)
    (hblocked : service.IsBlocked s) : instantLimit ≤ s.clock + service.longest := by
  obtain ⟨call, entry, -, -, hentry, hoverflow⟩ := hblocked
  obtain ⟨hstored, httl, -⟩ := h _ (Store.mem_of_entry? hentry)
  have hexpiry : instantLimit ≤ entry.storedAt + entry.ttl := by
    by_contra hlater
    exact Entry.freshness_ne_overflow (Nat.lt_of_not_le hlater) s.clock hoverflow
  exact Nat.le_trans hexpiry (Nat.add_le_add hstored httl)

end Service

/-! ### Runs -/

namespace Http.Server

variable {server : Server} {warehouse : Warehouse σ}

theorem bounds_replay_of_bounds {s : Session σ} (hs : server.service.Bounds s)
    (incidents : List Incident) : server.service.Bounds (server.replay warehouse s incidents) := by
  refine replay_invariant (fun s t hmoves h => h.moves hmoves) ?_ incidents hs
  intro s ms h p hp
  obtain ⟨hstored, httl, helapsed⟩ := h p hp
  exact ⟨Nat.le_trans hstored (Nat.le_add_right _ _), httl,
    Nat.le_trans helapsed (Nat.le_add_right _ _)⟩

theorem bounds_replay (state : σ) (incidents : List Incident) :
    server.service.Bounds (server.replay warehouse (.start state) incidents) :=
  bounds_replay_of_bounds (.start _ state) incidents

/-- A request is answered, or it is so late that a lifetime reaches past the end of all instants, or
that the times of two executions may not add up to a word. -/
theorem respond_eq_ok_or_le {s : Session σ} (h : server.service.Bounds s) (now : String)
    (request : Request) :
    (∃ response, ((server.respond warehouse now request).on s).1 = .ok response) ∨
      ((server.respond warehouse now request).on s).1 = .error (.overflow .expiry) ∧
        instantLimit ≤
          ((server.respond warehouse now request).on s).2.clock + server.service.longest ∨
      ((server.respond warehouse now request).on s).1 = .error (.overflow .elapsed) ∧
        UInt64.size ≤ 2 * ((server.respond warehouse now request).on s).2.clock := by
  rcases respond_cases now request s with ⟨what, hoverflow⟩ | hresponse
  · have hwork : server.service.IsWork warehouse (server.respond warehouse now request) :=
      isWork_respond now request
    obtain ⟨hpath, hstops⟩ := hwork s
    cases hstops what hoverflow with
    | expiry hblocked =>
      have hlate := (h.path hpath).1.le_of_isBlocked hblocked
      exact .inr (.inl ⟨hoverflow, hlate⟩)
    | elapsed hcount hdata hlong =>
      have hfirst := h.elapsedMs_le hcount
      have hsecond := h.elapsedMs_le hdata
      unfold Service.TimesFit at hlong
      exact .inr (.inr ⟨hoverflow, by omega⟩)
  · exact .inl hresponse

/-- With acceptable settings there is a server.  Its offsets and keys are in range, it evicts no more
than there is, and after every run it answers a request unless the clock and the longest lifetime
together reach the end of all instants, or twice the clock reaches past what a word holds. -/
theorem respond_isAnswered {config : Config} (h : config.validate = .ok ()) :
    ∃ server, ofConfig config = .ok server ∧
      (∀ request page, server.service.pagination request = .ok page →
        page.page ≠ 0 ∧ page.pageSize ≠ 0 ∧ page.pageSize ≤ config.search.maxPageSize ∧
        page.offset.toNat = (page.page.toNat - 1) * page.pageSize.toNat) ∧
      (∀ statement,
        (Cache.digestPart server.service.settings.keyDigest statement).toList.length =
          min config.cache.keyLength.toNat 64) ∧
      (∀ (store : Store) (pattern : Option String),
        (store.invalidate pattern).1 + (store.invalidate pattern).2.size = store.size) ∧
      ∀ {σ : Type} (warehouse : Warehouse σ) (state : σ) (incidents : List Incident)
        (now : String) (request : Request),
        let reached := (server.respond warehouse now request).on
          (server.replay warehouse (.start state) incidents)
        (∃ response, reached.1 = .ok response) ∨
          reached.1 = .error (.overflow .expiry) ∧
            instantLimit ≤ reached.2.clock + config.longestTtl ∨
          reached.1 = .error (.overflow .elapsed) ∧ UInt64.size ≤ 2 * reached.2.clock := by
  have hacceptable := Config.isAcceptable_of_validate h
  obtain ⟨server, hserver, hpaging, hsettings, hcolumns, henabled⟩ := exists_ofConfig hacceptable
  have hlongest : server.service.longest = config.longestTtl := by
    simp only [Service.longest, Config.longestTtl, hsettings, hcolumns, henabled]
  refine ⟨server, hserver, ?_, ?_, ?_, ?_⟩
  · intro request page hpage
    obtain ⟨hfirst, hsize, hgreatest⟩ := Service.pagination_bounds hpage
    refine ⟨hfirst, hsize, ?_, Pagination.toNat_offset hfirst⟩
    rwa [hpaging, hacceptable.max_maxPageSize] at hgreatest
  · intro statement
    rw [hsettings]
    exact Config.length_digestPart hacceptable.keyLength statement
  · intro store pattern
    obtain ⟨kept, -, hinvalidate⟩ := store.invalidate_eq pattern
    have hsplit := List.length_eq_length_filter_add kept (l := store.entries)
    rw [hinvalidate, List.countP_eq_length_filter]
    simp only [Store.size]
    omega
  · intro σ warehouse state incidents now request
    rw [← hlongest]
    exact respond_eq_ok_or_le (bounds_replay state incidents) now request

/-- A request for the columns of the table. -/
def columnsRequest : Request := ⟨"GET", "/api/datasets/budget/metadata", [], []⟩

/-- The columns are shown five milliseconds after a request for the health of the service. -/
theorem respond_isAnswered_columns :
    Config.standard.validate = .ok () ∧
      ∃ response, ((standard.respond oneColumn "" columnsRequest).on
        (standard.replay oneColumn (.start ())
          [.request "" ⟨"GET", "/health", [], []⟩, .wait 5])).1 = .ok response := by
  have hvalid : Config.standard.validate = .ok () := by decide
  refine ⟨hvalid, ?_⟩
  obtain ⟨server, hserver, -, -, -, hanswered⟩ := respond_isAnswered hvalid
  have hstandard : server = standard := Except.ok.inj (hserver.symm.trans ofConfig_standard)
  subst hstandard
  rcases hanswered oneColumn () [.request "" ⟨"GET", "/health", [], []⟩, .wait 5] ""
    columnsRequest with hresponse | ⟨-, hlate⟩ | ⟨-, hlate⟩
  · exact hresponse
  · exact absurd hlate (by decide +kernel)
  · exact absurd hlate (by decide +kernel)

/-- Acceptable settings with the longest lifetime leave the second of two requests unanswered. -/
theorem respond_unanswered :
    let config := { Config.standard with
      cache := { Config.Caching.standard with schemaTtlSeconds := 18446744073709551615 } }
    config.validate = .ok () ∧
      (ofConfig config).map (fun server =>
        ((server.respond oneColumn "" columnsRequest).on
          (server.replay oneColumn (.start ()) [.request "" columnsRequest])).1.map
            Response.status) = .ok (.error (.overflow .expiry)) := by
  intro config
  exact ⟨by decide, by decide +kernel⟩

/-- Statements that take half of what a word holds each: two of their times do not add up to one. -/
example :
    let slow : Warehouse Unit := fun statement _ =>
      (⟨(oneColumn statement ()).1.outcome, 9223372036854775808⟩, ())
    ((standard.respond slow "" ⟨"GET", "/api/datasets/budget", [], []⟩).on (.start ())).1.map
      Response.status = .error (.overflow .elapsed) := by
  decide +kernel

end Http.Server

end DatasetSearch
