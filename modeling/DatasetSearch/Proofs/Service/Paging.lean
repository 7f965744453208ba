import DatasetSearch.Proofs.Http.Answered

/-!
# From a request to a page

With acceptable settings there is a service.  It rejects a search of a configured dataset because of
its page only if a page or a page size of zero is asked for.  Otherwise the rows are read by a
statement that ends with an order and a page: the order is by a column of the table, the size of the
page is within its bounds, and the page of the answer is the page that was read.
-/

namespace DatasetSearch

open Cache (Session)

variable {σ : Type}

/-! ### The column that orders the rows -/

/-- The column that was asked for, or if none was, the one that is configured, as long as there is
such a column; otherwise the first. -/
def sortColumn? (names : List String) (asked configured : Option String) : Option String :=
  match asked with
  | some column => if column ∈ names then some column else names.head?
  | none =>
    match configured with
    | some column => if column ∈ names then some column else names.head?
    | none => names.head?

theorem Sql.orderColumn_ofList {names : List String} (hne : names ≠ [])
    (asked configured : Option String) :
    ∃ column ∈ names, sortColumn? names asked configured = some column ∧
      orderColumn (.ofList names) (asked.or configured) = column := by
  obtain ⟨first, hfirst⟩ : ∃ first, names.head? = some first := by
    rw [← Option.isSome_iff_exists, List.isSome_head?]
    exact hne
  have hmem : first ∈ names := List.mem_of_head? hfirst
  have hleft : orderColumn (.ofList names) none = first := by
    simp [orderColumn, Allowlist.first?_ofList, hfirst]
  have hnamed : ∀ column, ∃ chosen ∈ names,
      (if column ∈ names then some column else names.head?) = some chosen ∧
        orderColumn (.ofList names) (some column) = chosen := by
    intro column
    by_cases hcolumn : column ∈ names
    · refine ⟨column, hcolumn, if_pos hcolumn, ?_⟩
      have hcontains : (Allowlist.ofList names).contains column = true :=
        Allowlist.contains_iff.mpr (Allowlist.mem_ofList.mpr hcolumn)
      rw [orderColumn, Option.filter_some, if_pos hcontains]
    · refine ⟨first, hmem, by rw [if_neg hcolumn, hfirst], ?_⟩
      have hcontains : (Allowlist.ofList names).contains column = false := by
        rw [← Bool.not_eq_true, Allowlist.contains_iff, Allowlist.mem_ofList]
        exact hcolumn
      rw [orderColumn, Option.filter_some, hcontains, Allowlist.first?_ofList, hfirst]
      rfl
  cases asked with
  | some column => exact hnamed column
  | none =>
    cases configured with
    | some column => exact hnamed column
    | none => exact ⟨first, hmem, hfirst, hleft⟩

namespace Service

/-! ### The service of a configuration -/

/-- The datasets of a service are those of its configuration, under their names. -/
theorem find?_of_mapM {datasets : List (String × Config.Dataset)} {known : List Dataset}
    (hknown : datasets.mapM (fun (name, d) => datasetOf name d) = .ok known) {name : String}
    {configured : Config.Dataset} (h : datasets.lookup name = some configured) :
    ∃ table, TableName.parse? configured.table = some table ∧
      known.find? (·.name == name) =
        some ⟨name, table, configured.presets, configured.orderBy⟩ := by
  induction datasets generalizing known with
  | nil => cases h
  | cons p datasets ih =>
    obtain ⟨key, d⟩ := p
    rw [List.mapM_cons] at hknown
    cases htable : TableName.parse? d.table with
    | none =>
      simp only [datasetOf, htable] at hknown
      cases hknown
    | some table =>
      have hfirst : datasetOf key d = .ok ⟨key, table, d.presets, d.orderBy⟩ := by
        simp only [datasetOf, htable]
      cases hrest : datasets.mapM (fun (name, d) => datasetOf name d) with
      | error e =>
        simp only [hfirst, hrest] at hknown
        cases hknown
      | ok rest =>
        simp only [hfirst, hrest] at hknown
        cases hknown
        rw [List.lookup_cons] at h
        by_cases hkey : name = key
        · subst hkey
          simp only [beq_self_eq_true] at h
          cases h
          exact ⟨table, htable, by simp⟩
        · have hother : (name == key) = false := by simpa using hkey
          rw [hother] at h
          obtain ⟨found, hparse, hfind⟩ := ih hrest h
          refine ⟨found, hparse, ?_⟩
          rw [List.find?_cons_of_neg (by simpa using Ne.symm hkey)]
          exact hfind

theorem ofConfig_spec {config : Config} (h : config.IsAcceptable) :
    ∃ service, ofConfig config = .ok service ∧ service.paging = config.search ∧
      ∀ name configured, config.datasets.lookup name = some configured →
        ∃ d, service.dataset name = .ok d ∧ d.orderBy = configured.orderBy ∧
          TableName.parse? configured.table = some d.table := by
  obtain ⟨known, hknown⟩ := exists_datasets h.tables
  refine ⟨_, by unfold ofConfig; rw [hknown]; rfl, rfl, ?_⟩
  intro name configured hconfigured
  obtain ⟨table, htable, hfind⟩ := find?_of_mapM hknown hconfigured
  refine ⟨⟨name, table, configured.presets, configured.orderBy⟩, ?_, rfl, htable⟩
  simp only [dataset, hfind]

/-! ### The page of a request -/

section

variable {service : Service} {request : SearchRequest}

theorem pagination_eq (service : Service) (request : SearchRequest) :
    service.pagination request =
      if request.page.getD 1 = 0 then .error (.pagination PaginationError.pageZero.message)
      else if request.pageSize.getD service.paging.defaultPageSize = 0 then
        .error (.pagination PaginationError.pageSizeZero.message)
      else
        .ok ⟨request.page.getD 1,
          min (request.pageSize.getD service.paging.defaultPageSize)
            (max service.paging.maxPageSize 1)⟩ := by
  unfold pagination Pagination.make
  dsimp only
  split_ifs <;> rfl

/-- Only a zero that is asked for makes a page zero. -/
theorem getD_eq_zero_iff {asked : Option UInt32} {default : UInt32} (h : default ≠ 0) :
    asked.getD default = 0 ↔ asked = some 0 := by
  cases asked with
  | none => simp [h]
  | some n => simp

theorem pagination_eq_error_iff (hdefault : service.paging.defaultPageSize ≠ 0) :
    (∃ reason, service.pagination request = .error (.pagination reason)) ↔
      request.page = some 0 ∨ request.pageSize = some 0 := by
  have hpage : request.page.getD 1 = 0 ↔ request.page = some 0 := getD_eq_zero_iff (by decide)
  have hsize : request.pageSize.getD service.paging.defaultPageSize = 0 ↔
      request.pageSize = some 0 := getD_eq_zero_iff hdefault
  rw [pagination_eq, ← hpage, ← hsize]
  split_ifs with hzero hnone
  · simp [hzero]
  · simp [hnone]
  · simp [hzero, hnone]

theorem pagination_eq_ok (hdefault : service.paging.defaultPageSize ≠ 0)
    (hpage : request.page ≠ some 0) (hsize : request.pageSize ≠ some 0) :
    service.pagination request =
      .ok ⟨request.page.getD 1,
        min (request.pageSize.getD service.paging.defaultPageSize)
          (max service.paging.maxPageSize 1)⟩ := by
  have hfirst : request.page.getD 1 ≠ 0 := fun h => hpage ((getD_eq_zero_iff (by decide)).mp h)
  have hasked : request.pageSize.getD service.paging.defaultPageSize ≠ 0 :=
    fun h => hsize ((getD_eq_zero_iff hdefault).mp h)
  rw [pagination_eq, if_neg hfirst, if_neg hasked]

end

/-- The page that a request asks for under some settings, and the number of rows in front of it. -/
structure IsPageOf (search : Config.Search) (request : SearchRequest) (page : Pagination)
    (offset : Nat) : Prop where
  number : page.page = request.page.getD 1
  size : page.pageSize.toNat =
    min (request.pageSize.getD search.defaultPageSize).toNat search.maxPageSize.toNat
  one_le_size : 1 ≤ page.pageSize.toNat
  size_le : page.pageSize.toNat ≤ search.maxPageSize.toNat
  offset_eq : (offset : Int) = ((request.page.getD 1).toNat - 1) * page.pageSize.toNat

/-- With acceptable settings there is a page unless a zero is given. -/
theorem exists_isPageOf {config : Config} (h : config.IsAcceptable) {service : Service}
    (hpaging : service.paging = config.search) {request : SearchRequest}
    (hpage : request.page ≠ some 0) (hsize : request.pageSize ≠ some 0) :
    ∃ page, service.pagination request = .ok page ∧
      IsPageOf config.search request page page.offset.toNat := by
  have hdefault : service.paging.defaultPageSize ≠ 0 := by
    rw [hpaging]
    exact h.defaultPageSize
  have hfirst : request.page.getD 1 ≠ 0 :=
    fun hzero => hpage ((getD_eq_zero_iff (by decide)).mp hzero)
  have hone : 1 ≤ (request.page.getD 1).toNat := by
    rw [Nat.one_le_iff_ne_zero]
    exact fun hzero => hfirst (UInt32.toNat_inj.mp hzero)
  have hlimit : (min (request.pageSize.getD service.paging.defaultPageSize)
      (max service.paging.maxPageSize 1)).toNat =
        min (request.pageSize.getD config.search.defaultPageSize).toNat
          config.search.maxPageSize.toNat := by
    rw [hpaging, h.max_maxPageSize, UInt32.toNat_min]
  have hasked : (request.pageSize.getD config.search.defaultPageSize).toNat ≠ 0 :=
    fun hzero => hsize ((getD_eq_zero_iff h.defaultPageSize).mp (UInt32.toNat_inj.mp hzero))
  have hgreatest : config.search.maxPageSize.toNat ≠ 0 := by
    have hle := UInt32.le_iff_toNat_le.mp h.maxPageSize
    have hpositive : config.search.defaultPageSize.toNat ≠ 0 :=
      fun hzero => h.defaultPageSize (UInt32.toNat_inj.mp hzero)
    omega
  refine ⟨_, pagination_eq_ok hdefault hpage hsize, rfl, hlimit, ?_, ?_, ?_⟩
  · rw [hlimit]
    omega
  · rw [hlimit]
    exact Nat.min_le_right _ _
  · rw [Pagination.toNat_offset hfirst, Nat.cast_mul, Nat.cast_sub hone, Nat.cast_one]

/-! ### Searching -/

section

variable {service : Service} {warehouse : Warehouse σ} {d : Dataset} {name : String}
  {page : Pagination} {allowlist : Allowlist} {request : SearchRequest} {s t u : Session σ}

theorem on_search_of_columns (hd : service.dataset name = .ok d)
    (hpage : service.pagination request = .ok page) {columns : List Column}
    (hcolumns : (service.columns warehouse d).on s = (.ok columns, t)) (hne : columns ≠ []) :
    (service.search warehouse name request).on s =
      (service.searchOver warehouse d page (.ofList (columns.map (·.name))) request).on t := by
  have hsome : columns.isEmpty = false := List.isEmpty_eq_false_iff.mpr hne
  unfold search
  rw [hd, hpage, Work.on_bind_of_ok (on_decided_ok d s),
    Work.on_bind_of_ok (on_decided_ok page s), Work.on_bind_of_ok hcolumns, hsome]
  rfl

/-- A search of a dataset that there is rejects its page exactly if there is no such page: what
comes after rejects nothing. -/
theorem search_eq_pagination_error_iff (hd : service.dataset name = .ok d) (s : Session σ) :
    (∃ reason, ((service.search warehouse name request).on s).1 =
      .error (.error (.pagination reason))) ↔
        ∃ reason, service.pagination request = .error (.pagination reason) := by
  cases hpage : service.pagination request with
  | error error =>
    unfold search
    rw [hd, hpage, Work.on_bind_of_ok (on_decided_ok d s),
      Work.on_bind_of_error (on_decided_error error s)]
    simp
  | ok page =>
    constructor
    · rintro ⟨reason, hreason⟩
      cases rejectsNothing_search hd hpage warehouse s _ hreason
    · rintro ⟨reason, hreason⟩
      cases hreason

end

/-- The statement that reads a page ends with its order and its page. -/
theorem dataQuery_plan (service : Service) (d : Dataset) (page : Pagination)
    (request : SearchRequest) {names : List String} (hne : names ≠ []) :
    ∃ front, ∃ column ∈ names, sortColumn? names request.orderBy d.orderBy = some column ∧
      (service.plan d (.ofList names) page request).dataQuery =
        front ++ " ORDER BY " ++ Sql.quoteIdentifier column ++ " LIMIT " ++
          toString page.pageSize.toNat ++ " OFFSET " ++ toString page.offset.toNat := by
  obtain ⟨column, hmem, hsort, horder⟩ := Sql.orderColumn_ofList hne request.orderBy d.orderBy
  obtain ⟨front, hquery⟩ : ∃ front, (service.plan d (.ofList names) page request).dataQuery =
      front ++ " ORDER BY " ++
        Sql.quoteIdentifier (Sql.orderColumn (.ofList names) (request.orderBy.or d.orderBy)) ++
        " LIMIT " ++ toString page.pageSize.toNat ++ " OFFSET " ++ toString page.offset.toNat :=
    ⟨_, rfl⟩
  rw [horder] at hquery
  exact ⟨front, column, hmem, hsort, hquery⟩

/-- With acceptable settings there is a service, which has every configured dataset.  It rejects the
page of a search exactly if its number or its size is given as zero.  Otherwise, once a table has
columns and its rows have been counted, the outcome is that of the statement that reads the page,
unless the times of both statements do not add up to a word. -/
theorem search_reads_page {config : Config} (h : config.validate = .ok ()) :
    ∃ service, ofConfig config = .ok service ∧
      ∀ {name : String} {configured : Config.Dataset},
        config.datasets.lookup name = some configured →
        ∃ d, service.dataset name = .ok d ∧ TableName.parse? configured.table = some d.table ∧
          ∀ {σ : Type} (warehouse : Warehouse σ) (request : SearchRequest) (s : Session σ),
            ((∃ reason, ((service.search warehouse name request).on s).1 =
                .error (.error (.pagination reason))) ↔
              request.page = some 0 ∨ request.pageSize = some 0) ∧
            (request.page ≠ some 0 → request.pageSize ≠ some 0 →
              ∀ columns t, (service.columns warehouse d).on s = (.ok columns, t) → columns ≠ [] →
              let names := columns.map Column.name
              ∃ (page : Pagination) (offset : Nat) (front column : String),
                IsPageOf config.search request page offset ∧ column ∈ names ∧
                sortColumn? names request.orderBy configured.orderBy = some column ∧
                let plan := service.plan d (.ofList names) page request
                plan.dataQuery =
                  front ++ " ORDER BY " ++ Sql.quoteIdentifier column ++ " LIMIT " ++
                    toString page.pageSize.toNat ++ " OFFSET " ++ toString offset ∧
                ∀ count u,
                  (service.counts warehouse d page (.ofList names) request).on t =
                    (.ok count, u) →
                  let reached := (query service.settings warehouse
                    (service.call d plan.dataQuery)).on u
                  (∀ data, reached.1 = .ok data →
                    (TimesFit count data → ∃ result w,
                      (service.search warehouse name request).on s = (.ok result, w) ∧
                        result.page = page.page ∧ result.pageSize = page.pageSize ∧
                        result.rows = data.rows) ∧
                    (¬TimesFit count data →
                      ((service.search warehouse name request).on s).1 =
                        .error (.overflow .elapsed))) ∧
                  ∀ obstacle, reached.1 = .error obstacle →
                    (service.search warehouse name request).on s =
                      (.error obstacle, reached.2)) := by
  have hacceptable := Config.isAcceptable_of_validate h
  obtain ⟨service, hservice, hpaging, hdatasets⟩ := ofConfig_spec hacceptable
  refine ⟨service, hservice, ?_⟩
  intro name configured hconfigured
  obtain ⟨d, hd, horder, htable⟩ := hdatasets name configured hconfigured
  have hdefault : service.paging.defaultPageSize ≠ 0 := by
    rw [hpaging]
    exact hacceptable.defaultPageSize
  refine ⟨d, hd, htable, ?_⟩
  intro σ warehouse request s
  constructor
  · rw [search_eq_pagination_error_iff hd, pagination_eq_error_iff hdefault]
  · intro hpage hsize columns t hcolumns hne names
    obtain ⟨page, hasked, hpageOf⟩ := exists_isPageOf hacceptable hpaging hpage hsize
    have hnames : names ≠ [] := fun hnil => hne (List.map_eq_nil_iff.mp hnil)
    obtain ⟨front, column, hmem, hsort, hquery⟩ := dataQuery_plan service d page request hnames
    rw [horder] at hsort
    refine ⟨page, _, front, column, hpageOf, hmem, hsort, hquery, ?_⟩
    intro count u hcounts reached
    have hsearch := on_search_of_columns hd hasked hcolumns hne
    rw [on_searchOver_of_counts hcounts] at hsearch
    cases hdata : (query service.settings warehouse
      (service.call d (service.plan d (.ofList names) page request).dataQuery)).on u with
    | mk outcome v =>
      have hreached : reached = (outcome, v) := hdata
      rw [hdata] at hsearch
      rw [hreached]
      constructor
      · rintro data rfl
        dsimp only at hsearch
        constructor
        · intro hfit
          rw [totalled_of_timesFit hfit] at hsearch
          exact ⟨_, _, hsearch, rfl, rfl, rfl⟩
        · intro hlong
          rw [hsearch, totalled_of_not_timesFit hlong]
      · rintro obstacle rfl
        exact hsearch

/-- The standard settings without a cache for the results of searches. -/
def uncached : Config :=
  { Config.standard with cache := { Config.Caching.standard with enabled := false } }

def uncachedService : Service := { Http.Server.standard.service with cacheEnabled := false }

def budget : Dataset := ⟨"budget", ⟨["public", "budget"]⟩, false, none⟩

/-- A request for too large a page, in the order of a column that there is not. -/
def oversizedRequest : SearchRequest :=
  { SearchRequest.empty with page := some 3, pageSize := some 5000, orderBy := some "TITLE" }

/-- The session when the columns of the table have been found. -/
def found : Session Unit :=
  ((uncachedService.columns Http.Server.oneColumn budget).on (.start ())).2

/-- The part of the request's search that counts the rows. -/
def counting : Work Unit QueryResult :=
  uncachedService.counts Http.Server.oneColumn budget ⟨3, 1000⟩ (.ofList ["ID"]) oversizedRequest

/-- The part of the request's search that reads the page. -/
def reading : Work Unit QueryResult :=
  query uncachedService.settings Http.Server.oneColumn (uncachedService.call budget
    (uncachedService.plan budget (.ofList ["ID"]) ⟨3, 1000⟩ oversizedRequest).dataQuery)

/-- The third page has the greatest size, and is read in the order of the first column. -/
theorem search_reads_page_oversized :
    let query := "SELECT * FROM public.budget  ORDER BY \"ID\" LIMIT 1000 OFFSET 2000"
    let sent : List Statement :=
      [Column.lookup budget.table, ⟨"SELECT COUNT(*) AS total_count FROM public.budget ", []⟩,
        ⟨query, []⟩]
    uncached.validate = .ok () ∧
      uncached.datasets.lookup "budget" = some ⟨"public.budget", false, none⟩ ∧
      ofConfig uncached = .ok uncachedService ∧ uncachedService.dataset "budget" = .ok budget ∧
      (uncachedService.plan budget (.ofList ["ID"]) ⟨3, 1000⟩ oversizedRequest).dataQuery =
        query ∧
      ∃ result w,
        (uncachedService.search Http.Server.oneColumn "budget" oversizedRequest).on (.start ()) =
          (.ok result, w) ∧
        result.page = 3 ∧ result.pageSize = 1000 ∧
        result.rows = [[("column_name", .string "ID")]] ∧ w.statements = sent := by
  intro query sent
  have hvalid : uncached.validate = .ok () := by decide
  have hconfigured : uncached.datasets.lookup "budget" = some ⟨"public.budget", false, none⟩ := by
    decide
  have hservice : ofConfig uncached = .ok uncachedService := rfl
  have hdataset : uncachedService.dataset "budget" = .ok budget := rfl
  refine ⟨hvalid, hconfigured, hservice, hdataset, by decide, ?_⟩
  obtain ⟨service, hgiven, hsearch⟩ := search_reads_page hvalid
  cases Except.ok.inj (hgiven.symm.trans hservice)
  obtain ⟨d, hfound, -, hpages⟩ := hsearch hconfigured
  cases Except.ok.inj (hfound.symm.trans hdataset)
  have hcolumns : ((uncachedService.columns Http.Server.oneColumn budget).on (.start ())).1 =
      .ok [⟨"ID", ""⟩] := by decide +kernel
  obtain ⟨page, offset, front, column, hpage, -, -, -, houtcome⟩ :=
    (hpages Http.Server.oneColumn oversizedRequest (.start ())).2 (by decide) (by decide)
      [⟨"ID", ""⟩] found (Prod.ext hcolumns rfl) (List.cons_ne_nil _ _)
  have hsame : page = ⟨3, 1000⟩ := by
    obtain ⟨number, size⟩ := page
    have hnumber : number = 3 := hpage.number
    have hsize : size.toNat = (1000 : UInt32).toNat := hpage.size
    rw [hnumber, UInt32.toNat_inj.mp hsize]
  subst hsame
  have hcounts : (counting.on found).1.map (·.elapsedMs) = .ok 2 := by decide +kernel
  obtain ⟨count, hcount, hfirst⟩ := Work.exists_on_of_map hcounts
  obtain ⟨hread, -⟩ := houtcome count (counting.on found).2 hcount
  have hreads : (reading.on (counting.on found).2).1.map (fun data => (data.elapsedMs, data.rows)) =
      .ok (2, [[("column_name", .string "ID")]]) := rfl
  obtain ⟨data, hdata, hsecond⟩ := Work.exists_on_of_map hreads
  obtain ⟨htime, hrows⟩ := Prod.mk.inj hsecond
  have hfit : TimesFit count data := by
    rw [TimesFit, hfirst, htime]
    decide
  obtain ⟨result, w, hrun, hnumber, hsize, hgiven⟩ :=
    (hread data (congrArg Prod.fst hdata)).1 hfit
  refine ⟨result, w, hrun, hnumber, hsize, hgiven.trans hrows, ?_⟩
  have hsent : ((uncachedService.search Http.Server.oneColumn "budget" oversizedRequest).on
      (.start ())).2.statements = sent := by decide +kernel
  rwa [hrun] at hsent

end Service

end DatasetSearch
