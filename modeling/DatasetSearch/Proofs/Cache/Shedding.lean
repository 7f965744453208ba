import DatasetSearch.Proofs.Cache.Freshness

/-!
# Stale entries do not show

Two caches that differ only in stale entries do the same for every call.  A stale entry is never
read: a look-up evicts it, an execution replaces it, an invalidation removes it, and time does not
make it fresh again.  So the difference stays one of stale entries, whatever happens to both.
-/

namespace DatasetSearch.Cache

variable {σ : Type}

/-! ### Entries without some that are stale -/

theorem Entry.stale_of_le {entry : Entry} {now later : Nat} (h : entry.freshness now = .stale)
    (hle : now ≤ later) : entry.freshness later = .stale := by
  have hpast := Entry.le_of_stale h
  simp only [freshness] at h ⊢
  split_ifs at h ⊢ with hoverflow hnow hlater
  · omega
  · rfl

/-- Entries with distinct keys, and those of them that are kept; the others are stale. -/
structure OmitsStale (now : Nat) (entries kept : List (String × Entry)) : Prop where
  distinct : (entries.map Prod.fst).Nodup
  sublist : kept.Sublist entries
  stale : ∀ p ∈ entries, p ∉ kept → p.2.freshness now = .stale

namespace OmitsStale

variable {now : Nat} {entries kept : List (String × Entry)} {key : String} {entry : Entry}

theorem refl (h : (entries.map Prod.fst).Nodup) (now : Nat) : OmitsStale now entries entries where
  distinct := h
  sublist := List.Sublist.refl entries
  stale _ hp hgone := absurd hp hgone

theorem later (h : OmitsStale now entries kept) {time : Nat} (hle : now ≤ time) :
    OmitsStale time entries kept where
  distinct := h.distinct
  sublist := h.sublist
  stale p hp hgone := Entry.stale_of_le (h.stale p hp hgone) hle

theorem filter (h : OmitsStale now entries kept) (keep : String × Entry → Bool) :
    OmitsStale now (entries.filter keep) (kept.filter keep) where
  distinct := h.distinct.sublist (List.filter_sublist.map Prod.fst)
  sublist := h.sublist.filter keep
  stale p hp hgone := by
    obtain ⟨hmem, hkeep⟩ := List.mem_filter.mp hp
    exact h.stale p hmem fun hkept => hgone (List.mem_filter.mpr ⟨hkept, hkeep⟩)

/-- More stale entries may go. -/
theorem drop (h : OmitsStale now entries kept) {keep : String × Entry → Bool}
    (hstale : ∀ p ∈ kept, keep p = false → p.2.freshness now = .stale) :
    OmitsStale now entries (kept.filter keep) where
  distinct := h.distinct
  sublist := List.filter_sublist.trans h.sublist
  stale p hp hgone := by
    by_cases hkept : p ∈ kept
    · apply hstale p hkept
      rw [← Bool.not_eq_true]
      exact fun hkeep => hgone (List.mem_filter.mpr ⟨hkept, hkeep⟩)
    · exact h.stale p hp hkept

theorem insert {store other : Store} (h : OmitsStale now store.entries other.entries)
    (key : String) (entry : Entry) :
    OmitsStale now (store.insert key entry).entries (other.insert key entry).entries where
  distinct := Store.HasDistinctKeys.insert h.distinct key entry
  sublist := (h.sublist.filter _).cons_cons (key, entry)
  stale p hp hgone := by
    rcases List.mem_cons.mp hp with rfl | hold
    · exact absurd List.mem_cons_self hgone
    · exact (h.filter _).stale p hold fun hkept => hgone (List.mem_cons_of_mem _ hkept)

theorem lookup_of_kept (h : OmitsStale now entries kept) (hentry : kept.lookup key = some entry) :
    entries.lookup key = some entry :=
  lookup_of_mem h.distinct (h.sublist.subset (mem_of_lookup hentry))

theorem lookup_of_ne_stale (h : OmitsStale now entries kept)
    (hentry : entries.lookup key = some entry) (hstale : entry.freshness now ≠ .stale) :
    kept.lookup key = some entry := by
  have hmem : (key, entry) ∈ kept := by
    by_contra hgone
    exact hstale (h.stale _ (mem_of_lookup hentry) hgone)
  exact lookup_of_mem (h.distinct.sublist (h.sublist.map Prod.fst)) hmem

end OmitsStale

/-! ### Sessions without some stale entries -/

/-- The second session has the entries of the first but for some that are stale.  It may have
reported something else; in all other respects it is the same. -/
inductive Session.Sheds (s : Session σ) : Session σ → Prop
  | intro {kept : List (String × Entry)} (journal : List Log.Event)
      (h : OmitsStale s.clock s.store.entries kept) :
      s.Sheds { s with store := { s.store with entries := kept }, journal := journal }

theorem Session.Sheds.refl {s : Session σ} (h : s.store.HasDistinctKeys) : s.Sheds s :=
  .intro s.journal (.refl h s.clock)

theorem Session.Sheds.wake {s t : Session σ} (h : s.Sheds t) (time : Nat) :
    Session.Sheds { s with clock := max s.clock time } { t with clock := max t.clock time } := by
  obtain ⟨journal, hkept⟩ := h
  exact .intro journal (hkept.later (Nat.le_max_left _ _))

/-- An act comes to the same where stale entries are missing, and leaves it at that difference. -/
def IgnoresStale {α : Type} (act : Act σ α) : Prop :=
  ∀ ⦃s t : Session σ⦄, s.Sheds t →
    (act.run t).1 = (act.run s).1 ∧ (act.run s).2.Sheds (act.run t).2

namespace IgnoresStale

theorem exists_run {α : Type} {act : Act σ α} (hact : IgnoresStale act) {s t : Session σ}
    (h : s.Sheds t) :
    ∃ a s' t', act.run s = (a, s') ∧ act.run t = (a, t') ∧ s'.Sheds t' := by
  obtain ⟨hresult, hsession⟩ := hact h
  exact ⟨(act.run s).1, (act.run s).2, (act.run t).2, rfl, Prod.ext hresult rfl, hsession⟩

/-! ### Acts that do not see stale entries -/

theorem pure {α : Type} (a : α) : IgnoresStale (σ := σ) (pure a) := fun _ _ h => ⟨rfl, h⟩

theorem bind {α β : Type} {act : Act σ α} {next : α → Act σ β} (hact : IgnoresStale act)
    (hnext : ∀ a, IgnoresStale (next a)) : IgnoresStale (act >>= next) := by
  intro s t h
  obtain ⟨a, s', t', hs, ht, hsession⟩ := hact.exists_run h
  rw [StateT.run_bind, StateT.run_bind, hs, ht]
  exact hnext a hsession

theorem note (level : Log.Level) (message : String) (fields : List (String × Log.FieldValue)) :
    IgnoresStale (σ := σ) (note level message fields) := by
  rintro s _ ⟨journal, hkept⟩
  exact ⟨rfl, .intro _ hkept⟩

/-- What does not read the entries. -/
theorem onStore {change : Store → Store}
    (hchange : ∀ (store : Store) (entries : List (String × Entry)),
      change { store with entries := entries } = { change store with entries := entries }) :
    IgnoresStale (σ := σ) (onStore change) := by
  rintro s _ ⟨journal, hkept⟩
  refine ⟨rfl, ?_⟩
  have hsame : change s.store = { change s.store with entries := s.store.entries } :=
    hchange s.store s.store.entries
  have hentries : (change s.store).entries = s.store.entries := by rw [hsame]
  rw [← hentries] at hkept
  have hsheds := Session.Sheds.intro (s := { s with store := change s.store }) journal hkept
  rw [← hchange] at hsheds
  exact hsheds

theorem countHit : IgnoresStale (σ := σ) (Cache.onStore (·.countHit)) := onStore fun _ _ => rfl

theorem countMiss : IgnoresStale (σ := σ) (Cache.onStore (·.countMiss)) := onStore fun _ _ => rfl

theorem openGate (key : String) : IgnoresStale (σ := σ) (Cache.onStore (·.openGate key)) := by
  refine onStore fun store entries => ?_
  unfold Store.openGate
  split <;> rfl

theorem leaveGate (key : String) (alone : Bool) :
    IgnoresStale (σ := σ) (Cache.onStore (·.leaveGate key alone)) := by
  refine onStore fun store entries => ?_
  unfold Store.leaveGate
  split <;> rfl

theorem wait (ms : Nat) : IgnoresStale (σ := σ) (wait ms) := by
  rintro s _ ⟨journal, hkept⟩
  exact ⟨rfl, .intro journal (hkept.later (Nat.le_add_right _ _))⟩

theorem send (warehouse : Warehouse σ) (statement : Statement) :
    IgnoresStale (send warehouse statement) := by
  rintro s _ ⟨journal, hkept⟩
  exact ⟨rfl, .intro journal hkept⟩

end IgnoresStale

/-! ### Looking up -/

section

variable {s : Session σ} {key : String}

theorem run_peek_of_fresh {entry : Entry} (hentry : s.store.entry? key = some entry)
    (hfresh : entry.freshness s.clock = .fresh) :
    (peek key).run s = (.ok (some entry.value), s) := by
  unfold peek
  simp only [StateT.run_bind, StateT.run_get, pure_bind, hentry, hfresh]
  rfl

theorem run_peek_of_overflow {entry : Entry} (hentry : s.store.entry? key = some entry)
    (hoverflow : entry.freshness s.clock = .overflow) :
    (peek key).run s = (.error .expiryOverflow, s) := by
  unfold peek
  simp only [StateT.run_bind, StateT.run_get, pure_bind, hentry, hoverflow]
  rfl

theorem run_peek_of_stale
    (hstale : ∀ entry, s.store.entry? key = some entry → entry.freshness s.clock = .stale) :
    ∃ journal, (peek key).run s =
      (.ok none, { s with store := s.store.evict key, journal := journal }) := by
  have hfinds := finds_peek s key
  generalize (peek key).run s = found at hfinds ⊢
  cases hfinds with
  | fresh hentry hfresh => cases (hstale _ hentry).symm.trans hfresh
  | overflow hentry hoverflow => cases (hstale _ hentry).symm.trans hoverflow
  | nothing journal _ => exact ⟨journal, rfl⟩

end

namespace IgnoresStale

theorem peek (key : String) : IgnoresStale (σ := σ) (peek key) := by
  rintro s _ (@⟨kept, journal, hkept⟩)
  let t : Session σ := { s with store := { s.store with entries := kept }, journal := journal }
  change ((Cache.peek key).run t).1 = _ ∧ Session.Sheds _ ((Cache.peek key).run t).2
  have hfinds := finds_peek s key
  generalize (Cache.peek key).run s = found at hfinds ⊢
  cases hfinds with
  | fresh hentry hfresh =>
    have hthere : t.store.entry? key = _ := hkept.lookup_of_ne_stale hentry (by rw [hfresh]; nofun)
    rw [run_peek_of_fresh hthere hfresh]
    exact ⟨rfl, .intro journal hkept⟩
  | overflow hentry hoverflow =>
    have hthere : t.store.entry? key = _ :=
      hkept.lookup_of_ne_stale hentry (by rw [hoverflow]; nofun)
    rw [run_peek_of_overflow hthere hoverflow]
    exact ⟨rfl, .intro journal hkept⟩
  | nothing _ hstale =>
    have hthere (entry : Entry) (hentry : t.store.entry? key = some entry) :
        entry.freshness t.clock = .stale := hstale entry (hkept.lookup_of_kept hentry)
    obtain ⟨reported, hrun⟩ := run_peek_of_stale hthere
    rw [hrun]
    exact ⟨rfl, .intro reported (hkept.filter _)⟩

/-! ### Calls -/

theorem recordHit (key : String) (value : QueryResult) :
    IgnoresStale (σ := σ) (recordHit key value) :=
  countHit.bind fun _ => (note _ _ _).bind fun _ => pure _

theorem missed (warehouse : Warehouse σ) (key : String) (statement : Statement) :
    IgnoresStale (missed warehouse key statement) :=
  (countMiss.bind fun _ => note _ _ _).bind fun _ =>
    (send warehouse statement).bind fun _ => pure _

theorem arrive (settings : Settings) (warehouse : Warehouse σ) (call : Call) :
    IgnoresStale (arrive settings warehouse call) := by
  unfold Cache.arrive
  split
  · exact (note _ _ _).bind fun _ => (send _ _).bind fun _ => pure _
  · refine (peek _).bind fun found => ?_
    split
    · exact pure _
    · exact (recordHit _ _).bind fun _ => pure _
    · split
      · exact (openGate _).bind fun _ => pure _
      · exact (missed _ _ _).bind fun _ => pure _

theorem enter (settings : Settings) (warehouse : Warehouse σ) (call : Call) (alone : Bool) :
    IgnoresStale (enter settings warehouse call alone) := by
  unfold Cache.enter
  refine (peek _).bind fun found => ?_
  split
  · exact pure _
  · exact (recordHit _ _).bind fun _ => (leaveGate _ _).bind fun _ => pure _
  · exact missed _ _ _

/-- What is stored replaces what is there for the key, stale or not. -/
theorem conclude (settings : Settings) (call : Call) (reply : Reply) :
    IgnoresStale (σ := σ) (conclude settings call reply) := by
  rintro s _ ⟨journal, hkept⟩
  cases houtcome : reply.outcome with
  | error causes =>
    rw [run_conclude_of_error houtcome, run_conclude_of_error houtcome]
    exact ⟨rfl, .intro journal hkept⟩
  | ok rows =>
    unfold Cache.conclude
    simp only [houtcome, StateT.run_bind, StateT.run_get, pure_bind]
    split
    · exact ⟨rfl, .intro _ (hkept.insert _ _)⟩
    · exact ⟨rfl, .intro _ hkept⟩

theorem finish (settings : Settings) (call : Call) (reply : Reply) (alone : Bool) :
    IgnoresStale (σ := σ) (finish settings call reply alone) := by
  unfold Cache.finish
  refine (conclude settings call reply).bind fun outcome => ?_
  split
  · exact (leaveGate _ _).bind fun _ => pure _
  · exact pure _

theorem fetch (settings : Settings) (warehouse : Warehouse σ) (call : Call) :
    IgnoresStale (fetch settings warehouse call) := by
  have hsettle (progress : Progress) : IgnoresStale (σ := σ) (settle settings call progress) := by
    cases progress with
    | answered outcome => exact pure _
    | executing reply => exact (wait _).bind fun _ => finish _ _ _ _
  rw [fetch_eq]
  refine (arrive settings warehouse call).bind fun arrival => ?_
  cases arrival with
  | moved progress => exact hsettle progress
  | atGate => exact (enter _ _ _ _).bind hsettle

end IgnoresStale

end DatasetSearch.Cache
