import DatasetSearch.Proofs.Cache.Fetch
import DatasetSearch.Service.Search

/-!
# Running work

What work comes to on a session, by its parts: the session is handed on from one part to the next,
and the first obstacle ends it.
-/

namespace DatasetSearch.Service

open Cache (Call Outcome Session Settings)

variable {σ α β : Type}

/-- What work comes to on a session, and the session that it leaves. -/
def Work.on (work : Work σ α) (s : Session σ) : Except Obstacle α × Session σ := work.run.run s

namespace Work

theorem on_bind (work : Work σ α) (next : α → Work σ β) (s : Session σ) :
    Work.on (work >>= next) s =
      match work.on s with
      | (.ok a, t) => (next a).on t
      | (.error obstacle, t) => (.error obstacle, t) := by
  unfold on
  rw [ExceptT.run_bind, StateT.run_bind]
  generalize work.run.run s = reached
  obtain ⟨result, t⟩ := reached
  cases result <;> rfl

theorem on_bind_of_ok {work : Work σ α} {next : α → Work σ β} {s t : Session σ} {a : α}
    (h : work.on s = (.ok a, t)) : Work.on (work >>= next) s = (next a).on t := by
  rw [on_bind, h]

theorem on_bind_of_error {work : Work σ α} {next : α → Work σ β} {s t : Session σ}
    {obstacle : Obstacle} (h : work.on s = (.error obstacle, t)) :
    Work.on (work >>= next) s = (.error obstacle, t) := by
  rw [on_bind, h]

/-- Work whose outcome shows something of a value has that value. -/
theorem exists_on_of_map {work : Work σ α} {s : Session σ} {f : α → β} {b : β}
    (h : (work.on s).1.map f = .ok b) :
    ∃ a, work.on s = (.ok a, (work.on s).2) ∧ f a = b := by
  generalize work.on s = reached at h
  obtain ⟨result, t⟩ := reached
  cases result with
  | ok a => exact ⟨a, rfl, Except.ok.inj h⟩
  | error obstacle => cases h

/-- Work whose result is only shown in another form. -/
theorem on_bind_pure (work : Work σ α) (f : α → β) (s : Session σ) :
    Work.on (work >>= fun a => pure (f a)) s = ((work.on s).1.map f, (work.on s).2) := by
  rw [on_bind]
  generalize work.on s = reached
  obtain ⟨result, t⟩ := reached
  cases result <;> rfl

end Work

/-- What an outcome of the cache is to work. -/
def ofOutcome : Outcome → Except Obstacle QueryResult
  | .ok result => .ok result
  | .error (.execution causes) => .error (.error (.execution causes))
  | .error .expiryOverflow => .error (.overflow .expiry)

theorem on_query (settings : Settings) (warehouse : Warehouse σ) (call : Call) (s : Session σ) :
    (query settings warehouse call).on s =
      (ofOutcome ((Cache.fetch settings warehouse call).run s).1,
        ((Cache.fetch settings warehouse call).run s).2) := by
  have hlift : (liftM (Cache.fetch settings warehouse call) : Work σ Outcome).on s =
      (.ok ((Cache.fetch settings warehouse call).run s).1,
        ((Cache.fetch settings warehouse call).run s).2) := rfl
  unfold query
  rw [Work.on_bind_of_ok hlift]
  cases ((Cache.fetch settings warehouse call).run s).1 with
  | ok result => rfl
  | error e => cases e <;> rfl

section

variable {settings : Settings} {warehouse : Warehouse σ} {call : Call} {s t : Session σ}
  {result : QueryResult}

theorem run_fetch_of_on_query (h : (query settings warehouse call).on s = (.ok result, t)) :
    (Cache.fetch settings warehouse call).run s = (.ok result, t) := by
  rw [on_query] at h
  obtain ⟨houtcome, rfl⟩ := Prod.mk.inj h
  generalize (Cache.fetch settings warehouse call).run s = fetched at houtcome ⊢
  obtain ⟨outcome, u⟩ := fetched
  cases outcome with
  | ok value =>
    cases houtcome
    rfl
  | error e => cases e <;> cases houtcome

theorem fetches_of_on_query (h : (query settings warehouse call).on s = (.ok result, t)) :
    Cache.Fetches settings warehouse call s (.ok result, t) := by
  rw [← run_fetch_of_on_query h]
  exact Cache.fetches settings warehouse call s

/-- A query that is bypassed sends its statement and leaves the store as it is. -/
theorem on_query_of_bypass (hbypass : call.bypass = true) (settings : Settings)
    (warehouse : Warehouse σ) (s : Session σ) :
    ∃ journal, (query settings warehouse call).on s =
      (ofOutcome (Cache.executed (s.reply warehouse call)),
        { s.sent warehouse call s.store journal with
          clock := s.clock + (s.reply warehouse call).delayMs }) := by
  obtain ⟨journal, hfetched⟩ := (Cache.fetches settings warehouse call s).of_bypass hbypass
  rw [on_query, hfetched]
  exact ⟨journal, rfl⟩

/-- A stored result that is fresh is the result of a query. -/
theorem on_query_of_holds (warehouse : Warehouse σ) (s : Session σ)
    (hbypass : call.bypass = false) (hheld : s.store.Holds (call.key settings) result)
    (hfresh : s.store.IsFreshAt (call.key settings) s.clock) :
    ∃ journal, (query settings warehouse call).on s =
      (.ok { result with cached := true },
        { s with store := s.store.countHit, journal := journal }) := by
  obtain ⟨journal, hfetched⟩ :=
    (Cache.fetches settings warehouse call s).of_holds hbypass hheld hfresh
  rw [on_query, hfetched]
  exact ⟨journal, rfl⟩

end

/-- The result of an attempt, given that of the work: errors are values. -/
def attempted : Except Obstacle α → Except Obstacle (Except Error α)
  | .ok value => .ok (.ok value)
  | .error (.error error) => .ok (.error error)
  | .error (.overflow what) => .error (.overflow what)

theorem on_attempt (work : Work σ α) (s : Session σ) :
    (attempt work).on s = (attempted (work.on s).1, (work.on s).2) := by
  unfold attempt Work.on
  rw [ExceptT.run_mk, StateT.run_bind]
  generalize work.run.run s = reached
  obtain ⟨result, t⟩ := reached
  cases result with
  | ok value => rfl
  | error obstacle => cases obstacle <;> rfl

theorem on_reportAll (events : List Log.Event) (s : Session σ) :
    (reportAll events).on s = (.ok (), { s with journal := s.journal ++ events }) := rfl

theorem on_decided_ok {α : Type} (a : α) (s : Session σ) :
    (decided (.ok a)).on s = (.ok a, s) := rfl

theorem on_decided_error {α : Type} (error : Error) (s : Session σ) :
    (decided (.error error) : Work σ α).on s = (.error (.error error), s) := rfl

/-- The columns of a table are what its look-up yields. -/
theorem on_columns (service : Service) (warehouse : Warehouse σ) (d : Dataset) (s : Session σ) :
    (service.columns warehouse d).on s =
      match (query service.settings warehouse
        (Column.lookupCall d.table service.columnTtl)).on s with
      | (.ok result, t) =>
        (.ok (result.rows.filterMap Column.ofRow?),
          { t with
            journal := t.journal ++ [Column.loadedEvent d.table
              (result.rows.filterMap Column.ofRow?).length result.cached] })
      | (.error obstacle, t) => (.error obstacle, t) := by
  unfold columns Column.ofTable
  rw [Work.on_bind]
  generalize (query service.settings warehouse
    (Column.lookupCall d.table service.columnTtl)).on s = reached
  obtain ⟨result, t⟩ := reached
  cases result <;> rfl

/-- The look-up behind a list of columns. -/
theorem exists_lookup_of_columns {service : Service} {warehouse : Warehouse σ} {d : Dataset}
    {columns : List Column} {s t : Session σ}
    (h : (service.columns warehouse d).on s = (.ok columns, t)) :
    ∃ lookup u journal,
      (query service.settings warehouse (Column.lookupCall d.table service.columnTtl)).on s =
        (.ok lookup, u) ∧
      lookup.rows.filterMap Column.ofRow? = columns ∧ t = { u with journal := journal } := by
  rw [on_columns] at h
  generalize (query service.settings warehouse
    (Column.lookupCall d.table service.columnTtl)).on s = reached at h ⊢
  obtain ⟨outcome, u⟩ := reached
  cases outcome with
  | ok lookup =>
    cases h
    exact ⟨lookup, u, _, rfl, rfl, rfl⟩
  | error obstacle => cases h

theorem on_columns_of_lookup {service : Service} {warehouse : Warehouse σ} {d : Dataset}
    {lookup : QueryResult} {s t : Session σ}
    (h : (query service.settings warehouse (Column.lookupCall d.table service.columnTtl)).on s =
      (.ok lookup, t)) :
    ∃ journal, (service.columns warehouse d).on s =
      (.ok (lookup.rows.filterMap Column.ofRow?), { t with journal := journal }) := by
  rw [on_columns, h]
  exact ⟨_, rfl⟩

/-! ### Searching -/

section

variable {service : Service} {warehouse : Warehouse σ} {d : Dataset} {page : Pagination}
  {allowlist : Allowlist} {request : SearchRequest} {t u : Session σ}

/-- The page that two results make up, or their times do not add up to a word. -/
def totalled (page : Pagination) (count data : QueryResult) : Except Obstacle Page :=
  if TimesFit count data then .ok (pageOf page count data) else .error (.overflow .elapsed)

theorem totalled_of_timesFit {count data : QueryResult} (h : TimesFit count data)
    (page : Pagination) : totalled page count data = .ok (pageOf page count data) := if_pos h

theorem totalled_of_not_timesFit {count data : QueryResult} (h : ¬TimesFit count data)
    (page : Pagination) : totalled page count data = .error (.overflow .elapsed) := if_neg h

theorem not_timesFit_of_totalled {count data : QueryResult} {obstacle : Obstacle}
    (h : totalled page count data = .error obstacle) :
    obstacle = .overflow .elapsed ∧ ¬TimesFit count data := by
  unfold totalled at h
  split at h
  · cases h
  · next hlong =>
    cases h
    exact ⟨rfl, hlong⟩

theorem totalled_eq_ok_iff {count data : QueryResult} {result : Page} :
    totalled page count data = .ok result ↔
      TimesFit count data ∧ pageOf page count data = result := by
  unfold totalled
  split
  · next h => simp [h]
  · next h => simp [h]

/-- The part of a search that counts the rows that it selects. -/
def counts (service : Service) (warehouse : Warehouse σ) (d : Dataset) (page : Pagination)
    (allowlist : Allowlist) (request : SearchRequest) : Work σ QueryResult := do
  reportAll (service.planEvents d allowlist page request)
  query service.settings warehouse
    (service.call d (service.plan d allowlist page request).countQuery)

theorem on_counts (service : Service) (warehouse : Warehouse σ) (d : Dataset) (page : Pagination)
    (allowlist : Allowlist) (request : SearchRequest) (s : Session σ) :
    (service.counts warehouse d page allowlist request).on s =
      (query service.settings warehouse
        (service.call d (service.plan d allowlist page request).countQuery)).on
          { s with
            journal := s.journal ++ service.planEvents d allowlist page request } :=
  Work.on_bind_of_ok (on_reportAll _ _)

/-- The rows of the page are read once the rows have been counted. -/
theorem on_searchOver (service : Service) (warehouse : Warehouse σ) (d : Dataset)
    (page : Pagination) (allowlist : Allowlist) (request : SearchRequest) (s : Session σ) :
    (service.searchOver warehouse d page allowlist request).on s =
      match (service.counts warehouse d page allowlist request).on s with
      | (.ok count, t) =>
        match (query service.settings warehouse
          (service.call d (service.plan d allowlist page request).dataQuery)).on t with
        | (.ok data, u) =>
          (totalled page count data,
            { u with
              journal := u.journal ++ [completedEvent d.name (pageOf page count data)] })
        | (.error obstacle, u) => (.error obstacle, u)
      | (.error obstacle, t) => (.error obstacle, t) := by
  rw [on_counts]
  unfold searchOver
  rw [Work.on_bind_of_ok (on_reportAll _ _), Work.on_bind]
  generalize (query service.settings warehouse
    (service.call d (service.plan d allowlist page request).countQuery)).on _ = counted
  obtain ⟨result, t⟩ := counted
  cases result with
  | error obstacle => rfl
  | ok count =>
    dsimp only
    rw [Work.on_bind]
    generalize (query service.settings warehouse
      (service.call d (service.plan d allowlist page request).dataQuery)).on t = reached
    obtain ⟨result, u⟩ := reached
    cases result with
    | error obstacle => rfl
    | ok data =>
      dsimp only
      rw [Work.on_bind_of_ok (on_reportAll _ _)]
      unfold totalled
      split <;> rfl

/-- When the rows have been counted, the outcome is that of the statement that reads them. -/
theorem on_searchOver_of_counts {count : QueryResult}
    (h : (service.counts warehouse d page allowlist request).on t = (.ok count, u)) :
    (service.searchOver warehouse d page allowlist request).on t =
      match (query service.settings warehouse
        (service.call d (service.plan d allowlist page request).dataQuery)).on u with
      | (.ok data, v) =>
        (totalled page count data,
          { v with
            journal := v.journal ++ [completedEvent d.name (pageOf page count data)] })
      | (.error obstacle, v) => (.error obstacle, v) := by
  rw [on_searchOver, h]

end

/-! ### Work that rejects nothing -/

/-- An obstacle that is not in what was asked: the warehouse fails, or a time cannot be
represented. -/
inductive Obstacle.IsInternal : Obstacle → Prop
  | execution (causes : List String) : IsInternal (.error (.execution causes))
  | overflow (what : Overflow) : IsInternal (.overflow what)

namespace Work

/-- Work that meets internal obstacles only. -/
def RejectsNothing (work : Work σ α) : Prop :=
  ∀ s obstacle, (work.on s).1 = .error obstacle → obstacle.IsInternal

namespace RejectsNothing

theorem pure (a : α) : RejectsNothing (pure a : Work σ α) := fun _ _ => nofun

theorem bind {work : Work σ α} {next : α → Work σ β} (hwork : work.RejectsNothing)
    (hnext : ∀ a, (next a).RejectsNothing) : RejectsNothing (work >>= next) := by
  intro s obstacle hobstacle
  cases hrun : work.on s with
  | mk result t =>
    cases result with
    | ok a =>
      rw [on_bind_of_ok hrun] at hobstacle
      exact hnext a t obstacle hobstacle
    | error met =>
      rw [on_bind_of_error hrun] at hobstacle
      cases hobstacle
      exact hwork s obstacle (by rw [hrun])

theorem reportAll (events : List Log.Event) :
    RejectsNothing (Service.reportAll events : Work σ Unit) := fun _ _ => nofun

theorem query (settings : Settings) (warehouse : Warehouse σ) (call : Call) :
    RejectsNothing (Service.query settings warehouse call) := by
  intro s obstacle hobstacle
  rw [on_query] at hobstacle
  cases houtcome : ((Cache.fetch settings warehouse call).run s).1 with
  | ok result =>
    rw [houtcome] at hobstacle
    cases hobstacle
  | error e =>
    rw [houtcome] at hobstacle
    cases e with
    | execution causes =>
      cases hobstacle
      exact .execution causes
    | expiryOverflow =>
      cases hobstacle
      exact .overflow .expiry

theorem overflow (what : Overflow) : RejectsNothing (throw (.overflow what) : Work σ α) := by
  intro s obstacle hobstacle
  cases hobstacle
  exact .overflow what

theorem attempt (work : Work σ α) : RejectsNothing (Service.attempt work) := by
  intro s obstacle hobstacle
  rw [on_attempt] at hobstacle
  revert hobstacle
  cases (work.on s).1 with
  | ok value => exact nofun
  | error met =>
    cases met with
    | error error => exact nofun
    | overflow what =>
      intro hoverflow
      cases hoverflow
      exact .overflow what

end RejectsNothing

end Work

theorem rejectsNothing_columns (service : Service) (warehouse : Warehouse σ) (d : Dataset) :
    (service.columns warehouse d).RejectsNothing := by
  unfold columns Column.ofTable
  refine .bind (.query _ _ _) fun result => ?_
  exact .bind (.reportAll _) fun _ => .pure _

theorem rejectsNothing_searchOver (service : Service) (warehouse : Warehouse σ) (d : Dataset)
    (page : Pagination) (allowlist : Allowlist) (request : SearchRequest) :
    (service.searchOver warehouse d page allowlist request).RejectsNothing := by
  unfold searchOver
  refine .bind (.reportAll _) fun _ => ?_
  refine .bind (.query _ _ _) fun count => ?_
  refine .bind (.query _ _ _) fun data => ?_
  refine .bind (.reportAll _) fun _ => ?_
  split
  · exact .pure _
  · exact .overflow .elapsed

/-- A search that has a dataset and a page rejects nothing any more. -/
theorem rejectsNothing_search {service : Service} {name : String} {request : SearchRequest}
    {d : Dataset} {page : Pagination} (hd : service.dataset name = .ok d)
    (hpage : service.pagination request = .ok page) (warehouse : Warehouse σ) :
    (service.search warehouse name request).RejectsNothing := by
  unfold search
  rw [hd, hpage]
  refine .bind (.pure d) fun d => ?_
  refine .bind (.pure page) fun page => ?_
  refine .bind (rejectsNothing_columns service warehouse d) fun columns => ?_
  split
  · exact .bind (.reportAll _) fun _ => .pure _
  · exact rejectsNothing_searchOver service warehouse d page _ request

theorem rejectsNothing_metadata {service : Service} {name : String} {d : Dataset}
    (hd : service.dataset name = .ok d) (warehouse : Warehouse σ) :
    (service.metadata warehouse name).RejectsNothing := by
  unfold metadata
  rw [hd]
  refine .bind (.pure d) fun d => ?_
  exact .bind (rejectsNothing_columns service warehouse d) fun _ => .pure _

end DatasetSearch.Service
