import DatasetSearch.Cache.Overlap

/-!
# What each stage of a call can do

One relation for each stage lists all that the stage can come to: its result and the session after
it, up to the events that it reports.  What holds of runs is derived from these lists, without
opening the stages again.
-/

namespace DatasetSearch.Cache

variable {σ : Type} {settings : Settings} {warehouse : Warehouse σ} {call : Call}

/-! ### Looking keys up in a list -/

theorem mem_of_lookup {α : Type} {l : List (String × α)} {key : String} {a : α}
    (h : l.lookup key = some a) : (key, a) ∈ l := by
  obtain ⟨before, after, hl, -⟩ := List.lookup_eq_some_iff.mp h
  rw [hl]
  simp

theorem lookup_of_mem {α : Type} {l : List (String × α)} {key : String} {a : α}
    (h : (l.map Prod.fst).Nodup) (hmem : (key, a) ∈ l) : l.lookup key = some a := by
  obtain ⟨before, after, rfl⟩ := List.append_of_mem hmem
  refine List.lookup_eq_some_iff.mpr ⟨before, after, rfl, ?_⟩
  intro p hp
  rw [List.map_append, List.map_cons, List.nodup_append] at h
  have hne : p.1 ≠ key := h.2.2 p.1 (List.mem_map_of_mem hp) key List.mem_cons_self
  simpa using hne.symm

theorem ne_of_lookup_eq_none {α : Type} {l : List (String × α)} {key : String}
    (h : l.lookup key = none) : ∀ p ∈ l, p.1 ≠ key := by
  intro p hp hkey
  have hne := List.lookup_eq_none_iff.mp h p hp
  simp [hkey] at hne

theorem lookup_filter_of_pos {α : Type} {l : List (String × α)} {key : String} {a : α}
    {p : String × α → Bool} (h : l.lookup key = some a) (hp : p (key, a) = true) :
    (l.filter p).lookup key = some a := by
  obtain ⟨before, after, rfl, hbefore⟩ := List.lookup_eq_some_iff.mp h
  refine List.lookup_eq_some_iff.mpr ⟨before.filter p, after.filter p, ?_, ?_⟩
  · rw [List.filter_append, List.filter_cons_of_pos hp]
  · intro q hq
    exact hbefore q (List.mem_filter.mp hq).1

theorem lookup_filter_of_none {α : Type} {l : List (String × α)} {key : String}
    (h : l.lookup key = none) (p : String × α → Bool) : (l.filter p).lookup key = none := by
  rw [List.lookup_eq_none_iff] at h ⊢
  intro q hq
  exact h q (List.mem_filter.mp hq).1

theorem lookup_filter_ne {α : Type} (l : List (String × α)) {key other : String}
    (hne : other ≠ key) : (l.filter (·.1 ≠ key)).lookup other = l.lookup other := by
  cases h : l.lookup other with
  | none => exact lookup_filter_of_none h _
  | some a => exact lookup_filter_of_pos h (by simpa using hne)

theorem lookup_filter_self {α : Type} (l : List (String × α)) (key : String) :
    (l.filter (·.1 ≠ key)).lookup key = none := by
  rw [List.lookup_eq_none_iff]
  intro p hp
  have hne : p.1 ≠ key := by simpa using (List.mem_filter.mp hp).2
  simpa using hne.symm

/-! ### The store -/

/-- The expiry of every entry can be represented. -/
def Store.IsRepresentable (store : Store) : Prop :=
  ∀ p ∈ store.entries, p.2.storedAt + p.2.ttl < instantLimit

instance (store : Store) : Decidable store.IsRepresentable :=
  inferInstanceAs (Decidable (∀ p ∈ store.entries, p.2.storedAt + p.2.ttl < instantLimit))

theorem Entry.freshness_ne_overflow {entry : Entry} (h : entry.storedAt + entry.ttl < instantLimit)
    (now : Nat) : entry.freshness now ≠ .overflow := by
  unfold Entry.freshness
  simp only [if_neg (Nat.not_le.mpr h)]
  split
  · nofun
  · nofun

namespace Store

theorem mem_of_entry? {store : Store} {key : String} {entry : Entry}
    (h : store.entry? key = some entry) : (key, entry) ∈ store.entries := mem_of_lookup h

theorem IsRepresentable.ne_overflow {store : Store} (h : store.IsRepresentable) {key : String}
    {entry : Entry} (hentry : store.entry? key = some entry) (now : Nat) :
    entry.freshness now ≠ .overflow :=
  Entry.freshness_ne_overflow (h _ (Store.mem_of_entry? hentry)) now

theorem IsRepresentable.mono {store kept : Store} (h : store.IsRepresentable)
    (hsub : ∀ p ∈ kept.entries, p ∈ store.entries) : kept.IsRepresentable :=
  fun p hp => h p (hsub p hp)

theorem evict_of_entry?_eq_none {store : Store} {key : String} (h : store.entry? key = none) :
    store.evict key = store := by
  have hkept : store.entries.filter (·.1 ≠ key) = store.entries := by
    rw [List.filter_eq_self]
    intro other hother
    simpa using ne_of_lookup_eq_none h other hother
  rw [evict, hkept]

theorem entry?_congr {store other : Store} (h : store.entries = other.entries) (key : String) :
    store.entry? key = other.entry? key := congrArg (List.lookup key) h

theorem entry?_eq_none_of_subset {store kept : Store} {key : String}
    (h : store.entry? key = none) (hsub : ∀ p ∈ kept.entries, p ∈ store.entries) :
    kept.entry? key = none := by
  unfold entry? at *
  rw [List.lookup_eq_none_iff] at *
  intro p hp
  exact h p (hsub p hp)

theorem entry?_evict_self (store : Store) (key : String) :
    Store.entry? (store.evict key) key = none := lookup_filter_self store.entries key

theorem entry?_evict_of_ne (store : Store) {key other : String} (hne : other ≠ key) :
    Store.entry? (store.evict key) other = store.entry? other :=
  lookup_filter_ne store.entries hne

theorem entry?_insert_self (store : Store) (key : String) (entry : Entry) :
    Store.entry? (store.insert key entry) key = some entry := List.lookup_cons_self

theorem entry?_insert_of_ne (store : Store) (entry : Entry) {key other : String}
    (hne : other ≠ key) : Store.entry? (store.insert key entry) other = store.entry? other := by
  unfold entry? insert
  rw [List.lookup_cons, beq_false_of_ne hne]
  exact lookup_filter_ne store.entries hne

theorem mem_evict {store : Store} {key : String} {p : String × Entry}
    (h : p ∈ (store.evict key).entries) : p ∈ store.entries :=
  (List.mem_filter.mp h).1

theorem mem_insert {store : Store} {key : String} {entry : Entry} {p : String × Entry}
    (h : p ∈ (store.insert key entry).entries) : p = (key, entry) ∨ p ∈ store.entries := by
  rcases List.mem_cons.mp h with hnew | hold
  · exact .inl hnew
  · exact .inr (List.mem_filter.mp hold).1

@[simp] theorem entries_countHit (store : Store) : store.countHit.entries = store.entries := rfl

@[simp] theorem entries_countMiss (store : Store) : store.countMiss.entries = store.entries := rfl

@[simp] theorem entries_openGate (store : Store) (key : String) :
    (store.openGate key).entries = store.entries := by
  unfold openGate
  split <;> rfl

@[simp] theorem entries_leaveGate (store : Store) (key : String) (alone : Bool) :
    (store.leaveGate key alone).entries = store.entries := by
  unfold leaveGate
  split <;> rfl

end Store

/-! ### Looking up -/

/-- What looking up a key can come to. -/
inductive Finds (s : Session σ) (key : String) :
    Except CallError (Option QueryResult) × Session σ → Prop
  | fresh {entry : Entry} (hentry : s.store.entry? key = some entry)
      (hfresh : entry.freshness s.clock = .fresh) : Finds s key (.ok (some entry.value), s)
  | overflow {entry : Entry} (hentry : s.store.entry? key = some entry)
      (hoverflow : entry.freshness s.clock = .overflow) :
      Finds s key (.error .expiryOverflow, s)
  | nothing (journal : List Log.Event)
      (hstale : ∀ entry, s.store.entry? key = some entry → entry.freshness s.clock = .stale) :
      Finds s key (.ok none, { s with store := s.store.evict key, journal := journal })

theorem finds_peek (s : Session σ) (key : String) : Finds s key ((peek key).run s) := by
  unfold peek
  simp only [StateT.run_bind, StateT.run_get, pure_bind]
  cases hentry : s.store.entry? key with
  | none =>
    have hnothing : Finds s key
        (.ok none, { s with store := s.store.evict key, journal := s.journal }) :=
      .nothing s.journal (by rw [hentry]; intro entry h; cases h)
    rw [Store.evict_of_entry?_eq_none hentry] at hnothing
    exact hnothing
  | some entry =>
    simp only
    cases hfreshness : entry.freshness s.clock with
    | fresh => exact .fresh hentry hfreshness
    | overflow => exact .overflow hentry hfreshness
    | stale =>
      refine .nothing _ ?_
      intro other hother
      rw [hentry] at hother
      cases hother
      exact hfreshness

/-! ### Arriving, entering and finishing -/

def Session.reply (s : Session σ) (warehouse : Warehouse σ) (call : Call) : Reply :=
  (warehouse call.statement s.warehouse).1

/-- The session after the statement of a call has been sent, with a store and a journal. -/
def Session.sent (s : Session σ) (warehouse : Warehouse σ) (call : Call) (store : Store)
    (journal : List Log.Event) : Session σ :=
  { s with
    store := store
    warehouse := (warehouse call.statement s.warehouse).2
    statements := s.statements ++ [call.statement]
    journal := journal }

/-- What the arrival of a call can come to. -/
inductive Arrives (settings : Settings) (warehouse : Warehouse σ) (call : Call) (s : Session σ) :
    Arrival × Session σ → Prop
  | bypassed (journal : List Log.Event) (hbypass : call.bypass = true) :
      Arrives settings warehouse call s
        (.moved (.executing (s.reply warehouse call)), s.sent warehouse call s.store journal)
  | hit (journal : List Log.Event) (hbypass : call.bypass = false) {entry : Entry}
      (hentry : s.store.entry? (call.key settings) = some entry)
      (hfresh : entry.freshness s.clock = .fresh) :
      Arrives settings warehouse call s
        (.moved (.answered (.ok { entry.value with cached := true })),
          { s with store := s.store.countHit, journal := journal })
  | overflow (hbypass : call.bypass = false) {entry : Entry}
      (hentry : s.store.entry? (call.key settings) = some entry)
      (hoverflow : entry.freshness s.clock = .overflow) :
      Arrives settings warehouse call s (.moved (.answered (.error .expiryOverflow)), s)
  | gated (journal : List Log.Event) (hbypass : call.bypass = false)
      (hsingle : settings.singleFlight = true)
      (hstale : ∀ entry, s.store.entry? (call.key settings) = some entry →
        entry.freshness s.clock = .stale) :
      Arrives settings warehouse call s
        (.atGate,
          { s with
            store := (s.store.evict (call.key settings)).openGate (call.key settings)
            journal := journal })
  | missed (journal : List Log.Event) (hbypass : call.bypass = false)
      (hsingle : settings.singleFlight = false)
      (hstale : ∀ entry, s.store.entry? (call.key settings) = some entry →
        entry.freshness s.clock = .stale) :
      Arrives settings warehouse call s
        (.moved (.executing (s.reply warehouse call)),
          s.sent warehouse call (s.store.evict (call.key settings)).countMiss journal)

theorem arrives (settings : Settings) (warehouse : Warehouse σ) (call : Call) (s : Session σ) :
    Arrives settings warehouse call s ((arrive settings warehouse call).run s) := by
  unfold arrive
  cases hbypass : call.bypass with
  | true => exact .bypassed _ hbypass
  | false =>
    have hfound := finds_peek s (call.key settings)
    generalize hpeek : (peek (call.key settings)).run s = found at hfound
    simp only [Bool.false_eq_true, if_false, StateT.run_bind, hpeek]
    cases hfound with
    | fresh hentry hfresh => exact .hit _ hbypass hentry hfresh
    | overflow hentry hoverflow => exact .overflow hbypass hentry hoverflow
    | nothing journal hstale =>
      cases hsingle : settings.singleFlight with
      | true => exact .gated journal hbypass hsingle hstale
      | false => exact .missed _ hbypass hsingle hstale

/-- What passing the gate of a key can come to. -/
inductive Enters (settings : Settings) (warehouse : Warehouse σ) (call : Call) (alone : Bool)
    (s : Session σ) : Progress × Session σ → Prop
  | hit (journal : List Log.Event) {entry : Entry}
      (hentry : s.store.entry? (call.key settings) = some entry)
      (hfresh : entry.freshness s.clock = .fresh) :
      Enters settings warehouse call alone s
        (.answered (.ok { entry.value with cached := true }),
          { s with
            store := s.store.countHit.leaveGate (call.key settings) alone
            journal := journal })
  | overflow {entry : Entry} (hentry : s.store.entry? (call.key settings) = some entry)
      (hoverflow : entry.freshness s.clock = .overflow) :
      Enters settings warehouse call alone s (.answered (.error .expiryOverflow), s)
  | missed (journal : List Log.Event)
      (hstale : ∀ entry, s.store.entry? (call.key settings) = some entry →
        entry.freshness s.clock = .stale) :
      Enters settings warehouse call alone s
        (.executing (s.reply warehouse call),
          s.sent warehouse call (s.store.evict (call.key settings)).countMiss journal)

theorem enters (settings : Settings) (warehouse : Warehouse σ) (call : Call) (alone : Bool)
    (s : Session σ) :
    Enters settings warehouse call alone s ((enter settings warehouse call alone).run s) := by
  unfold enter
  have hfound := finds_peek s (call.key settings)
  generalize hpeek : (peek (call.key settings)).run s = found at hfound
  simp only [StateT.run_bind, hpeek]
  cases hfound with
  | fresh hentry hfresh => exact .hit _ hentry hfresh
  | overflow hentry hoverflow => exact .overflow hentry hoverflow
  | nothing journal hstale => exact .missed _ hstale

/-- The store after a call that executed has let go of its gate, if it had one. -/
def Store.released (store : Store) (settings : Settings) (call : Call) (alone : Bool) : Store :=
  if call.isGated settings then store.leaveGate (call.key settings) alone else store

@[simp] theorem Store.entries_released (store : Store) (settings : Settings) (call : Call)
    (alone : Bool) : (store.released settings call alone).entries = store.entries := by
  unfold released
  split
  · exact entries_leaveGate _ _ _
  · rfl

/-- What the end of an execution can come to. -/
inductive Finishes (settings : Settings) (call : Call) (reply : Reply) (alone : Bool)
    (s : Session σ) : Outcome × Session σ → Prop
  | failed {causes : List String} (houtcome : reply.outcome = .error causes) :
      Finishes settings call reply alone s
        (.error (.execution causes), { s with store := s.store.released settings call alone })
  | stored (journal : List Log.Event) {rows : List Row} (houtcome : reply.outcome = .ok rows)
      (hbypass : call.bypass = false) (hrows : rows ≠ []) :
      Finishes settings call reply alone s
        (.ok (.ofRows rows reply.elapsedMs),
          { s with
            store :=
              (s.store.insert (call.key settings)
                ⟨.ofRows rows reply.elapsedMs, s.clock, call.lifetime settings⟩).released
                settings call alone
            journal := journal })
  | unstored (journal : List Log.Event) {rows : List Row} (houtcome : reply.outcome = .ok rows)
      (hreason : call.bypass = true ∨ rows = []) :
      Finishes settings call reply alone s
        (.ok (.ofRows rows reply.elapsedMs),
          { s with store := s.store.released settings call alone, journal := journal })

theorem run_finish {reply : Reply} {alone : Bool} {s t : Session σ} {outcome : Outcome}
    (h : (conclude settings call reply).run s = (outcome, t)) :
    (finish settings call reply alone).run s =
      (outcome, { t with store := t.store.released settings call alone }) := by
  unfold finish
  simp only [StateT.run_bind, h, Store.released]
  cases call.isGated settings <;> rfl

theorem run_conclude_of_error {reply : Reply} {causes : List String}
    (houtcome : reply.outcome = .error causes) (s : Session σ) :
    (conclude settings call reply).run s = (.error (.execution causes), s) := by
  unfold conclude
  rw [houtcome]
  rfl

/-- A reply with rows that is to be cached replaces the entry of its key. -/
theorem run_conclude_of_stored {reply : Reply} {rows : List Row}
    (houtcome : reply.outcome = .ok rows)
    (hstored : (!call.bypass) = true ∧ 0 < (QueryResult.ofRows rows reply.elapsedMs).rowCount)
    (s : Session σ) :
    ∃ journal, (conclude settings call reply).run s =
      (.ok (.ofRows rows reply.elapsedMs),
        { s with
          store := s.store.insert (call.key settings)
            ⟨.ofRows rows reply.elapsedMs, s.clock, call.lifetime settings⟩
          journal := journal }) := by
  unfold conclude
  simp only [houtcome, StateT.run_bind, StateT.run_get, pure_bind, if_pos hstored]
  exact ⟨_, rfl⟩

theorem run_conclude_of_unstored {reply : Reply} {rows : List Row}
    (houtcome : reply.outcome = .ok rows)
    (hstored : ¬((!call.bypass) = true ∧ 0 < (QueryResult.ofRows rows reply.elapsedMs).rowCount))
    (s : Session σ) :
    ∃ journal, (conclude settings call reply).run s =
      (.ok (.ofRows rows reply.elapsedMs), { s with journal := journal }) := by
  unfold conclude
  simp only [houtcome, StateT.run_bind, StateT.run_get, pure_bind, if_neg hstored]
  exact ⟨_, rfl⟩

theorem finishes (settings : Settings) (call : Call) (reply : Reply) (alone : Bool)
    (s : Session σ) :
    Finishes settings call reply alone s ((finish settings call reply alone).run s) := by
  cases houtcome : reply.outcome with
  | error causes =>
    rw [run_finish (run_conclude_of_error houtcome s)]
    exact .failed houtcome
  | ok rows =>
    by_cases hstored :
        (!call.bypass) = true ∧ 0 < (QueryResult.ofRows rows reply.elapsedMs).rowCount
    · obtain ⟨journal, hrun⟩ := run_conclude_of_stored houtcome hstored s
      rw [run_finish hrun]
      exact .stored journal houtcome (by simpa using hstored.1) (List.length_pos_iff.mp hstored.2)
    · obtain ⟨journal, hrun⟩ := run_conclude_of_unstored houtcome hstored s
      rw [run_finish hrun]
      refine .unstored journal houtcome ?_
      cases hbypass : call.bypass with
      | true => exact .inl rfl
      | false =>
        refine .inr (List.length_eq_zero_iff.mp ?_)
        simp only [hbypass, Bool.not_false, true_and, QueryResult.ofRows] at hstored
        omega

end DatasetSearch.Cache
