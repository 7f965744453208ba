import DatasetSearch.Proofs.Http.Inquiry
import DatasetSearch.Proofs.Service.Findings

/-!
# Searches that are repeated

With the cache enabled, each of the three calls of a search leaves its result under its key unless
there are no rows in it.  While the three results are fresh, the same search makes the same calls
again, as its statements come from the same columns, and finds the same results.
-/

namespace DatasetSearch

open Cache (Call Session)
open Service (Work)

variable {σ : Type}

namespace Service

variable {service : Service} {warehouse : Warehouse σ} {name : String} {asked : SearchRequest}
  {s t : Session σ} {f : Findings}

/-- The same findings, with both results taken from the cache. -/
def Findings.recalled (f : Findings) : Findings :=
  { f with count := { f.count with cached := true }, data := { f.data with cached := true } }

theorem bypass_call (henabled : service.cacheEnabled = true) (d : Dataset) (sql : String) :
    (service.call d sql).bypass = false := by
  simp [call, henabled]

/-- With the cache enabled, the results of the three calls are stored after the search. -/
theorem Finds.holds (h : service.Finds warehouse name asked s f t)
    (henabled : service.cacheEnabled = true) (hcount : f.count.rows ≠ [])
    (hdata : f.data.rows ≠ []) (hkeys : (f.keys service asked).Nodup) :
    ∃ lookup : QueryResult, lookup.rows.filterMap Column.ofRow? = f.columns ∧
      t.store.Holds ((f.lookupCall service).key service.settings) lookup ∧
      t.store.Holds ((f.countCall service asked).key service.settings) f.count ∧
      t.store.Holds ((f.dataCall service asked).key service.settings) f.data := by
  cases h with
  | @intro t u v hd hpage hcolumns hne hcounted hread hfit =>
    obtain ⟨lookup, w, journal, hlookup, hrows, rfl⟩ := exists_lookup_of_columns hcolumns
    rw [on_counts] at hcounted
    have hsome : lookup.rows ≠ [] := by
      intro hnil
      rw [hnil] at hrows
      exact hne hrows.symm
    simp only [Findings.keys, List.map_cons, List.map_nil, List.nodup_cons, List.mem_cons,
      List.not_mem_nil, or_false, not_or] at hkeys
    obtain ⟨⟨hfirst, hsecond⟩, hthird, -⟩ := hkeys
    have hlooked := fetches_of_on_query hlookup
    have hcounts := fetches_of_on_query hcounted
    have hreads := fetches_of_on_query hread
    -- What a call leaves, the later calls do not touch.
    have hlast := hreads.holds (bypass_call henabled _ _) hdata
    have hmiddle := hcounts.holds (bypass_call henabled _ _) hcount
    have hearly := hlooked.holds rfl hsome
    refine ⟨lookup, hrows, ?_, ?_, hlast⟩
    · exact hreads.holds_of_ne hsecond (hcounts.holds_of_ne hfirst hearly)
    · exact hreads.holds_of_ne hthird hmiddle

/-- While the three results are stored and fresh, the same search finds them and sends nothing. -/
theorem Finds.again {r : Session σ} (h : service.Finds warehouse name asked r f t)
    (henabled : service.cacheEnabled = true) {lookup : QueryResult}
    (hcolumns : lookup.rows.filterMap Column.ofRow? = f.columns)
    (hlookup : s.store.Holds ((f.lookupCall service).key service.settings) lookup)
    (hcount : s.store.Holds ((f.countCall service asked).key service.settings) f.count)
    (hdata : s.store.Holds ((f.dataCall service asked).key service.settings) f.data)
    (hfresh : ∀ key ∈ f.keys service asked, s.store.IsFreshAt key s.clock) :
    ∃ journal, service.Finds warehouse name asked s f.recalled
      { s with store := { s.store with hits := s.store.hits + 3 }, journal := journal } := by
  cases h with
  | intro hd hpage _ hne _ _ hfit =>
    obtain ⟨hfirst, hsecond, hthird⟩ : s.store.IsFreshAt _ s.clock ∧
        s.store.IsFreshAt _ s.clock ∧ s.store.IsFreshAt _ s.clock := by
      simpa only [Findings.keys, List.map_cons, List.map_nil, List.forall_mem_cons,
        List.not_mem_nil, false_implies, implies_true, and_true] using hfresh
    obtain ⟨first, hlooked⟩ := on_query_of_holds warehouse s rfl hlookup hfirst
    obtain ⟨reported, hfound⟩ := on_columns_of_lookup hlooked
    have hlist : ({ lookup with cached := true } : QueryResult).rows.filterMap Column.ofRow? =
        f.columns := hcolumns
    rw [hlist] at hfound
    -- A hit leaves the entries and the clock, so the next two results are still there and fresh.
    have hcounts := on_counts service warehouse f.dataset f.page f.allowlist asked
      { s with store := s.store.countHit, journal := reported }
    obtain ⟨second, hcounted⟩ := on_query_of_holds warehouse
      { s with
        store := s.store.countHit
        journal := reported ++ service.planEvents f.dataset f.allowlist f.page asked }
      (bypass_call henabled _ _) hcount hsecond
    obtain ⟨third, hread⟩ := on_query_of_holds warehouse
      { s with store := s.store.countHit.countHit, journal := second }
      (bypass_call henabled _ _) hdata hthird
    have hfinds : service.Finds warehouse name asked s f.recalled _ :=
      .intro hd hpage hfound hne (hcounts.trans hcounted) hread hfit
    exact ⟨_, hfinds⟩

end Service

namespace Http.Server

variable {server : Server} {warehouse : Warehouse σ}

end Http.Server

end DatasetSearch
