import DatasetSearch.Proofs.Cache.Fetch
import DatasetSearch.Proofs.Cache.History

/-!
# What a cache answers from

Calls follow one another, with waits, invalidations and purges between them.  Such a call is
answered from the cache just where the last successful execution for its key that had rows is still
fresh and was not invalidated since.  The law speaks of all that has happened, the store holds only
some of it: an entry goes when it is looked up stale, replaced, purged or invalidated.  What is in
the store is the last such execution for its key, and as long as that is fresh it is in the store.
-/

namespace DatasetSearch.Cache

variable {σ : Type}

/-! ### Runs in which nothing overlaps -/

inductive Turn where
  | get (call : Call)
  | between (interlude : Interlude)
deriving DecidableEq, Repr

/-- What is noted of a turn. -/
inductive Passage (σ : Type) where
  /-- A call, the session before it, what it yields and the session after it. -/
  | get (call : Call) (s : Session σ) (outcome : Outcome) (t : Session σ)
  | between (interlude : Interlude)

def Turn.after (settings : Settings) (warehouse : Warehouse σ) (s : Session σ) : Turn → Session σ
  | .get call => ((fetch settings warehouse call).run s).2
  | .between interlude => (interlude.run.run s).2

def Turn.passage (settings : Settings) (warehouse : Warehouse σ) (s : Session σ) :
    Turn → Passage σ
  | .get call =>
    .get call s ((fetch settings warehouse call).run s).1 ((fetch settings warehouse call).run s).2
  | .between interlude => .between interlude

/-- The passages of a run from a session on. -/
def passages (settings : Settings) (warehouse : Warehouse σ) :
    Session σ → List Turn → List (Passage σ)
  | _, [] => []
  | s, turn :: turns =>
    turn.passage settings warehouse s ::
      passages settings warehouse (turn.after settings warehouse s) turns

/-! ### What the law speaks of -/

namespace Passage

/-- A call that uses the cache and executes a statement that yields rows: its key, its result, the
time of its end and how long it stays fresh. -/
def success? (settings : Settings) : Passage σ → Option (String × Entry)
  | .get call s (.ok result) t =>
    if call.bypass ∨ t.statements.length = s.statements.length ∨ result.rows.isEmpty then none
    else some (call.key settings, ⟨result, t.clock, call.lifetime settings⟩)
  | _ => none

def Invalidates (key : String) : Passage σ → Prop
  | .between interlude => interlude.Invalidates key
  | .get _ _ _ _ => False

end Passage

/-- An entry is that of the last success for a key, and no invalidation of the key came after it. -/
def IsLatest (settings : Settings) (trace : List (Passage σ)) (key : String) (entry : Entry) :
    Prop :=
  ∃ older success newer, trace = older ++ success :: newer ∧
    success.success? settings = some (key, entry) ∧
    ∀ p ∈ newer, (∀ later, p.success? settings ≠ some (key, later)) ∧ ¬p.Invalidates key

/-- Whether an outcome is a result that is marked as cached. -/
def isCached : Outcome → Bool
  | .ok result => result.cached
  | .error _ => false

theorem isLatest_append_singleton {settings : Settings} {trace : List (Passage σ)}
    {p : Passage σ} {key : String} {entry : Entry} :
    IsLatest settings (trace ++ [p]) key entry ↔
      p.success? settings = some (key, entry) ∨
        (∀ later, p.success? settings ≠ some (key, later)) ∧ ¬p.Invalidates key ∧
          IsLatest settings trace key entry := by
  constructor
  · rintro ⟨older, success, newer, htrace, hsuccess, hnewer⟩
    rcases List.eq_nil_or_concat newer with rfl | ⟨newer, last, rfl⟩
    · obtain ⟨-, hlast⟩ := List.append_inj' htrace rfl
      rw [(List.cons.inj hlast).1]
      exact .inl hsuccess
    · have hsplit : trace ++ [p] = (older ++ success :: newer) ++ [last] := by
        rw [htrace]
        simp
      obtain ⟨hrest, hlast⟩ := List.append_inj' hsplit rfl
      obtain ⟨hother, hkept⟩ := hnewer last (by simp)
      rw [(List.cons.inj hlast).1]
      refine .inr ⟨hother, hkept, older, success, newer, hrest, hsuccess, ?_⟩
      intro q hq
      exact hnewer q (by simp [hq])
  · rintro (hsuccess | ⟨hother, hkept, older, success, newer, rfl, hsuccess, hnewer⟩)
    · exact ⟨trace, p, [], by simp, hsuccess, by simp⟩
    · refine ⟨older, success, newer ++ [p], by simp, hsuccess, ?_⟩
      intro q hq
      rcases List.mem_append.mp hq with hold | hnew
      · exact hnewer q hold
      · rw [List.mem_singleton.mp hnew]
        exact ⟨hother, hkept⟩

/-! ### The entries of a store, by key -/

namespace Store

def HasDistinctKeys (store : Store) : Prop := (store.entries.map Prod.fst).Nodup

theorem entry?_eq_some_iff {store : Store} (h : store.HasDistinctKeys) {key : String}
    {entry : Entry} : store.entry? key = some entry ↔ (key, entry) ∈ store.entries := by
  constructor
  · exact mem_of_entry?
  · exact lookup_of_mem h

theorem HasDistinctKeys.sublist {store kept : Store} (h : store.HasDistinctKeys)
    (hsub : kept.entries.Sublist store.entries) : kept.HasDistinctKeys :=
  List.Nodup.sublist (hsub.map Prod.fst) h

theorem HasDistinctKeys.insert {store : Store} (h : store.HasDistinctKeys) (key : String)
    (entry : Entry) : (store.insert key entry).HasDistinctKeys := by
  have hevicted : (store.evict key).HasDistinctKeys := h.sublist List.filter_sublist
  refine List.nodup_cons.mpr ⟨?_, hevicted⟩
  intro hmem
  obtain ⟨p, hp, hkey⟩ := List.mem_map.mp hmem
  exact absurd hkey (by simpa using (List.mem_filter.mp hp).2)

theorem entries_refreshed (store : Store) (settings : Settings) (call : Call)
    (entry : Option Entry) :
    (store.refreshed settings call entry).entries =
      ((store.evict (call.key settings)).keep (call.key settings) entry).entries := by
  cases entry <;> rfl

theorem HasDistinctKeys.refreshed {store : Store} (h : store.HasDistinctKeys) (settings : Settings)
    (call : Call) (entry : Option Entry) :
    (store.refreshed settings call entry).HasDistinctKeys := by
  have hevicted : (store.evict (call.key settings)).HasDistinctKeys :=
    h.sublist List.filter_sublist
  unfold HasDistinctKeys
  rw [entries_refreshed]
  cases entry with
  | none => exact hevicted
  | some entry => exact hevicted.insert _ entry

theorem mem_refreshed {store : Store} {settings : Settings} {call : Call} {entry : Option Entry}
    {key : String} {found : Entry} :
    (key, found) ∈ (store.refreshed settings call entry).entries ↔
      key = call.key settings ∧ entry = some found ∨
        key ≠ call.key settings ∧ (key, found) ∈ store.entries := by
  rw [entries_refreshed]
  cases entry with
  | none => simp [keep, evict, and_comm]
  | some entry =>
    simp [keep, insert, evict]
    grind

end Store

/-! ### What a store remembers of a run -/

/-- The entries of a store are those of the last success for their keys, and every last success that
is still fresh has its entry. -/
structure Remembers (settings : Settings) (trace : List (Passage σ)) (s : Session σ) : Prop where
  distinct : s.store.HasDistinctKeys
  latest : ∀ key entry, (key, entry) ∈ s.store.entries → IsLatest settings trace key entry
  fresh : ∀ key entry, IsLatest settings trace key entry →
    s.clock < entry.storedAt + entry.ttl → (key, entry) ∈ s.store.entries

variable {settings : Settings} {warehouse : Warehouse σ} {trace : List (Passage σ)}

/-- A passage that is no success and invalidates nothing, and after which the entries are the same,
changes nothing in this. -/
theorem Remembers.same {s t : Session σ} (h : Remembers settings trace s) {p : Passage σ}
    (hsuccess : p.success? settings = none) (hkept : ∀ key, ¬p.Invalidates key)
    (hentries : t.store.entries = s.store.entries) (hclock : s.clock ≤ t.clock) :
    Remembers settings (trace ++ [p]) t := by
  have hother : ∀ key later, p.success? settings ≠ some (key, later) := by
    intro key later
    rw [hsuccess]
    nofun
  refine ⟨?_, ?_, ?_⟩
  · unfold Store.HasDistinctKeys
    rw [hentries]
    exact h.distinct
  · intro key entry hmem
    rw [hentries] at hmem
    exact isLatest_append_singleton.mpr (.inr ⟨hother key, hkept key, h.latest key entry hmem⟩)
  · intro key entry hlatest hfresh
    rw [hentries]
    rcases isLatest_append_singleton.mp hlatest with hnew | ⟨-, -, hold⟩
    · exact absurd hnew (hother key entry)
    · exact h.fresh key entry hold (Nat.lt_of_le_of_lt hclock hfresh)

theorem Entry.lt_of_fresh {entry : Entry} {now : Nat} (h : entry.freshness now = .fresh) :
    now < entry.storedAt + entry.ttl := by
  simp only [freshness] at h
  split_ifs at h with hoverflow hfresh
  exact hfresh

theorem Entry.le_of_stale {entry : Entry} {now : Nat} (h : entry.freshness now = .stale) :
    entry.storedAt + entry.ttl ≤ now := by
  simp only [freshness] at h
  split_ifs at h with hoverflow hfresh
  exact Nat.le_of_not_lt hfresh

theorem Entry.freshness_eq_fresh {entry : Entry} {now : Nat}
    (hlimit : entry.storedAt + entry.ttl < instantLimit) (h : now < entry.storedAt + entry.ttl) :
    entry.freshness now = .fresh := by
  simp only [freshness, if_neg (Nat.not_le.mpr hlimit), if_pos h]

/-- What is noted of a call that found nothing fresh is what its execution leaves. -/
theorem success?_executed (settings : Settings) (call : Call) (s t : Session σ) (reply : Reply)
    (hstatements : t.statements = s.statements ++ [call.statement]) :
    (Passage.get call s (executed reply) t).success? settings =
      (call.entry? settings reply t.clock).map (call.key settings, ·) := by
  unfold executed Call.entry?
  cases reply.outcome with
  | error causes => rfl
  | ok rows =>
    cases rows with
    | nil => simp [Passage.success?, QueryResult.ofRows]
    | cons row rows =>
      cases hbypass : call.bypass <;>
        simp [Passage.success?, QueryResult.ofRows, hstatements, hbypass]

theorem Remembers.get {s : Session σ} (h : Remembers settings trace s) (call : Call) :
    Remembers settings (trace ++ [(Turn.get call).passage settings warehouse s])
      ((Turn.get call).after settings warehouse s) := by
  have hfetches := fetches settings warehouse call s
  simp only [Turn.passage, Turn.after]
  generalize (fetch settings warehouse call).run s = fetched at hfetches
  have hkept : ∀ key outcome t, ¬(Passage.get call s outcome t).Invalidates key :=
    fun key outcome t => nofun
  cases hfetches with
  | bypassed journal hbypass =>
    refine h.same ?_ (fun key => hkept key _ _) rfl (Nat.le_add_right _ _)
    rw [success?_executed settings call s _ _ rfl, Call.entry?_of_bypass hbypass]
    rfl
  | hit journal hbypass hentry hfresh =>
    exact h.same (by simp [Passage.success?]) (fun key => hkept key _ _) rfl (Nat.le_refl _)
  | overflow hbypass hentry hoverflow =>
    exact h.same rfl (fun key => hkept key _ _) rfl (Nat.le_refl _)
  | missed journal hbypass hstale =>
    have hsuccess := success?_executed settings call s
      { s.sent warehouse call
          (s.store.refreshed settings call (call.entry? settings (s.reply warehouse call)
            (s.clock + (s.reply warehouse call).delayMs))) journal with
        clock := s.clock + (s.reply warehouse call).delayMs }
      (s.reply warehouse call) rfl
    refine ⟨h.distinct.refreshed settings call _, ?_, ?_⟩
    · intro key entry hmem
      rw [isLatest_append_singleton, hsuccess]
      rcases Store.mem_refreshed.mp hmem with ⟨rfl, hnew⟩ | ⟨hkey, hold⟩
      · left
        simp only [hnew, Option.map_some]
      · refine .inr ⟨?_, hkept key _ _, h.latest key entry hold⟩
        intro later hlater
        obtain ⟨_, -, heq⟩ := Option.map_eq_some_iff.mp hlater
        exact hkey (Prod.mk.inj heq).1.symm
    · intro key entry hlatest hfresh
      apply Store.mem_refreshed.mpr
      rw [isLatest_append_singleton, hsuccess] at hlatest
      rcases hlatest with hnew | ⟨-, -, hold⟩
      · obtain ⟨entry, hnew, heq⟩ := Option.map_eq_some_iff.mp hnew
        cases heq
        exact .inl ⟨rfl, hnew⟩
      · have hbefore : s.clock < entry.storedAt + entry.ttl :=
          Nat.lt_of_le_of_lt (Nat.le_add_right _ _) hfresh
        have hmem := h.fresh key entry hold hbefore
        refine .inr ⟨?_, hmem⟩
        -- The call has found its own entry stale, if there was one.
        rintro rfl
        have hpast := (hstale entry ((Store.entry?_eq_some_iff h.distinct).mpr hmem))
        exact absurd (Entry.le_of_stale hpast) (Nat.not_le.mpr hbefore)

theorem Remembers.between {s : Session σ} (h : Remembers settings trace s)
    (interlude : Interlude) :
    Remembers settings (trace ++ [(Turn.between interlude).passage settings warehouse s])
      ((Turn.between interlude).after settings warehouse s) := by
  obtain ⟨keep, clock, journal, hrun, hclock, hgone, hkept⟩ := interlude.run_eq s
  simp only [Turn.passage, Turn.after, hrun]
  refine ⟨h.distinct.sublist List.filter_sublist, ?_, ?_⟩
  · intro key entry hmem
    obtain ⟨hold, hkeep⟩ := List.mem_filter.mp hmem
    exact isLatest_append_singleton.mpr
      (.inr ⟨fun later => nofun, hgone _ hkeep, h.latest key entry hold⟩)
  · intro key entry hlatest hfresh
    rcases isLatest_append_singleton.mp hlatest with hnew | ⟨-, hvalid, hold⟩
    · cases hnew
    · have hnow : s.clock < entry.storedAt + entry.ttl := Nat.lt_of_le_of_lt hclock hfresh
      have hmem := h.fresh key entry hold hnow
      refine List.mem_filter.mpr ⟨hmem, hkept _ hmem hvalid ?_⟩
      intro hstale
      exact absurd (Entry.le_of_stale hstale) (Nat.not_le.mpr hnow)

theorem Remembers.turn {s : Session σ} (h : Remembers settings trace s) (turn : Turn) :
    Remembers settings (trace ++ [turn.passage settings warehouse s])
      (turn.after settings warehouse s) := by
  cases turn with
  | get call => exact h.get call
  | between interlude => exact h.between interlude

/-- At every call of a run, the store remembers the passages before it. -/
theorem Remembers.passages {s s' t : Session σ} {turns : List Turn}
    {before after : List (Passage σ)} {call : Call} {outcome : Outcome}
    (h : Remembers settings trace s)
    (hpassages : Cache.passages settings warehouse s turns =
      before ++ .get call s' outcome t :: after) :
    Remembers settings (trace ++ before) s' ∧
      (fetch settings warehouse call).run s' = (outcome, t) := by
  induction turns generalizing s trace before with
  | nil => simp [Cache.passages] at hpassages
  | cons turn turns ih =>
    unfold Cache.passages at hpassages
    cases before with
    | nil =>
      obtain ⟨hfirst, -⟩ := List.cons.inj hpassages
      cases turn with
      | get asked =>
        unfold Turn.passage at hfirst
        cases hfirst
        exact ⟨by rwa [List.append_nil], rfl⟩
      | between interlude => cases hfirst
    | cons p before =>
      obtain ⟨hfirst, hrest⟩ := List.cons.inj hpassages
      have hstep := ih (h.turn turn) hrest
      rw [hfirst] at hstep
      simpa using hstep

/-! ### The law -/

/-- An entry is that of the last success for a key, was not invalidated since, and is fresh. -/
def IsFreshAt (settings : Settings) (trace : List (Passage σ)) (key : String) (time : Nat)
    (entry : Entry) : Prop :=
  IsLatest settings trace key entry ∧ time < entry.storedAt + entry.ttl

theorem isCached_executed (reply : Reply) : isCached (executed reply) = false := by
  unfold executed
  cases reply.outcome <;> rfl

end DatasetSearch.Cache
