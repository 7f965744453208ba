import DatasetSearch.Proofs.Service.Paging

/-!
# What a search finds

A search makes three calls: one looks up the columns of the table, one counts the rows and one reads
a page.  Its statements come from the columns, and its page is made of the other two results.
-/

namespace DatasetSearch.Service

open Cache (Call Session)

variable {σ : Type}

/-- What a search finds that gets past the columns of its table. -/
structure Findings where
  dataset : Dataset
  page : Pagination
  columns : List Column
  count : QueryResult
  data : QueryResult

namespace Findings

def allowlist (f : Findings) : Allowlist := .ofList (f.columns.map (·.name))

def lookupCall (f : Findings) (service : Service) : Call :=
  Column.lookupCall f.dataset.table service.columnTtl

def countCall (f : Findings) (service : Service) (asked : SearchRequest) : Call :=
  service.call f.dataset (service.plan f.dataset f.allowlist f.page asked).countQuery

def dataCall (f : Findings) (service : Service) (asked : SearchRequest) : Call :=
  service.call f.dataset (service.plan f.dataset f.allowlist f.page asked).dataQuery

/-- The keys of the three calls of a search. -/
def keys (f : Findings) (service : Service) (asked : SearchRequest) : List String :=
  [f.lookupCall service, f.countCall service asked, f.dataCall service asked].map
    (Call.key service.settings)

def result (f : Findings) : Page := pageOf f.page f.count f.data

end Findings

/-- A search finds its dataset and its page, the columns of the table, and the results of both
statements, whose times add up; it leaves a session. -/
inductive Finds (service : Service) (warehouse : Warehouse σ) (name : String)
    (asked : SearchRequest) (s : Session σ) : Findings → Session σ → Prop
  | intro {f : Findings} {t u v : Session σ} (hd : service.dataset name = .ok f.dataset)
      (hpage : service.pagination asked = .ok f.page)
      (hcolumns : (service.columns warehouse f.dataset).on s = (.ok f.columns, t))
      (hne : f.columns ≠ [])
      (hcount : (service.counts warehouse f.dataset f.page f.allowlist asked).on t =
        (.ok f.count, u))
      (hdata : (query service.settings warehouse (f.dataCall service asked)).on u =
        (.ok f.data, v)) (hfit : TimesFit f.count f.data) :
      Finds service warehouse name asked s f
        { v with journal := v.journal ++ [completedEvent f.dataset.name f.result] }

variable {service : Service} {warehouse : Warehouse σ} {name : String} {asked : SearchRequest}
  {s t : Session σ} {f : Findings}

theorem Finds.on_search (h : service.Finds warehouse name asked s f t) :
    (service.search warehouse name asked).on s = (.ok f.result, t) := by
  cases h with
  | intro hd hpage hcolumns hne hcount hdata hfit =>
    have hover := on_searchOver_of_counts hcount
    change (query service.settings warehouse (service.call f.dataset
      (service.plan f.dataset f.allowlist f.page asked).dataQuery)).on _ = _ at hdata
    rw [hdata] at hover
    dsimp only at hover
    rw [totalled_of_timesFit hfit] at hover
    rw [on_search_of_columns hd hpage hcolumns hne]
    exact hover

/-- A search that succeeds has a dataset and a page, and has the columns of the table. -/
theorem exists_columns_of_on_search {result : Page} {u : Session σ}
    (h : (service.search warehouse name asked).on s = (.ok result, u)) :
    ∃ d page columns t, service.dataset name = .ok d ∧ service.pagination asked = .ok page ∧
      (service.columns warehouse d).on s = (.ok columns, t) ∧
      (columns = [] → result = .empty page ("No columns found in " ++ name ++ " table")) := by
  unfold search at h
  cases hd : service.dataset name with
  | error e =>
    rw [hd] at h
    cases h
  | ok d =>
    cases hpage : service.pagination asked with
    | error e =>
      rw [hd, hpage] at h
      cases h
    | ok page =>
      rw [hd, hpage, Work.on_bind_of_ok (on_decided_ok d s),
        Work.on_bind_of_ok (on_decided_ok page s), Work.on_bind] at h
      cases hcolumns : (service.columns warehouse d).on s with
      | mk looked t =>
        rw [hcolumns] at h
        cases looked with
        | error obstacle => cases h
        | ok columns =>
          refine ⟨d, page, columns, t, rfl, rfl, hcolumns, ?_⟩
          rintro rfl
          cases h
          rfl

/-- A search that gets past the columns succeeds exactly if it finds what its page is made of. -/
theorem on_search_eq_ok_iff {d : Dataset} {page : Pagination} {columns : List Column}
    {result : Page} {u : Session σ} (hd : service.dataset name = .ok d)
    (hpage : service.pagination asked = .ok page)
    (hcolumns : (service.columns warehouse d).on s = (.ok columns, t)) (hne : columns ≠ []) :
    (service.search warehouse name asked).on s = (.ok result, u) ↔
      ∃ count data, service.Finds warehouse name asked s ⟨d, page, columns, count, data⟩ u ∧
        result = pageOf page count data := by
  constructor
  · intro h
    rw [on_search_of_columns hd hpage hcolumns hne, on_searchOver] at h
    cases hcount :
        (service.counts warehouse d page (.ofList (columns.map (·.name))) asked).on t with
    | mk counted v =>
      rw [hcount] at h
      cases counted with
      | error obstacle => cases h
      | ok count =>
        dsimp only at h
        cases hdata : (query service.settings warehouse (service.call d
            (service.plan d (.ofList (columns.map (·.name))) page asked).dataQuery)).on v with
        | mk reached w =>
          rw [hdata] at h
          cases reached with
          | error obstacle => cases h
          | ok data =>
            obtain ⟨htotal, rfl⟩ := Prod.mk.inj h
            obtain ⟨hfit, rfl⟩ := totalled_eq_ok_iff.mp htotal
            exact ⟨count, data, .intro hd hpage hcolumns hne hcount hdata hfit, rfl⟩
  · rintro ⟨count, data, hfinds, rfl⟩
    exact hfinds.on_search

end DatasetSearch.Service
