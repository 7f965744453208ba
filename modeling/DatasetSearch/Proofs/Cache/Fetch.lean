import DatasetSearch.Proofs.Cache.Overlap

/-!
# A call that nothing overlaps

Such a call finds a fresh entry and executes nothing, or it executes its statement once.  What it
comes to is the same whether calls for one key wait for one another or not, except for the gates:
the call opens the gate of its key, finds nothing more behind it, and closes it at the end.
-/

namespace DatasetSearch.Cache

variable {σ : Type} {settings : Settings} {warehouse : Warehouse σ} {call : Call}

/-- What a call yields that executes its statement. -/
def executed (reply : Reply) : Outcome :=
  match reply.outcome with
  | .error causes => .error (.execution causes)
  | .ok rows => .ok (.ofRows rows reply.elapsedMs)

/-- The entry that an execution leaves, given the time of its end. -/
def Call.entry? (settings : Settings) (call : Call) (reply : Reply) (time : Nat) : Option Entry :=
  match reply.outcome with
  | .error _ => none
  | .ok [] => none
  | .ok (row :: rows) =>
    if call.bypass then none
    else some ⟨.ofRows (row :: rows) reply.elapsedMs, time, call.lifetime settings⟩

def Store.keep (store : Store) (key : String) : Option Entry → Store
  | none => store
  | some entry => store.insert key entry

/-- The end of an execution, in one line. -/
theorem Finishes.eq {reply : Reply} {alone : Bool} {s t : Session σ} {outcome : Outcome}
    (h : Finishes settings call reply alone s (outcome, t)) :
    outcome = executed reply ∧ ∃ journal, t =
      { s with
        store := (s.store.keep (call.key settings)
          (call.entry? settings reply s.clock)).released settings call alone
        journal := journal } := by
  cases h with
  | failed houtcome =>
    simp only [executed, Call.entry?, houtcome, Store.keep]
    exact ⟨trivial, s.journal, rfl⟩
  | @stored journal rows houtcome hbypass hrows =>
    obtain ⟨row, rest, rfl⟩ := List.exists_cons_of_ne_nil hrows
    simp only [executed, Call.entry?, houtcome, hbypass, Store.keep]
    exact ⟨trivial, journal, rfl⟩
  | @unstored journal rows houtcome hreason =>
    have hnone : call.entry? settings reply s.clock = none := by
      cases rows with
      | nil => simp only [Call.entry?, houtcome]
      | cons row rest =>
        have hbypass : call.bypass = true := by simpa using hreason
        simp only [Call.entry?, houtcome, hbypass, if_true]
    rw [hnone]
    simp only [executed, houtcome, Store.keep]
    exact ⟨trivial, journal, rfl⟩

/-- The store after a call that has found nothing fresh, given the entry that its execution leaves;
no other call refers to the gate of its key. -/
def Store.refreshed (store : Store) (settings : Settings) (call : Call) (entry : Option Entry) :
    Store :=
  { (store.evict (call.key settings)).countMiss.keep (call.key settings) entry with
    gates := if settings.singleFlight then store.gates.filter (· ≠ call.key settings)
      else store.gates }

/-- Evicting the entry of a key a second time changes nothing. -/
@[simp] theorem Store.evict_evict (store : Store) (key : String) :
    (store.evict key).evict key = store.evict key := by
  simp [evict]

theorem Store.evict_openGate (store : Store) (key other : String) :
    (store.openGate key).evict other = (store.evict other).openGate key := by
  unfold openGate evict
  split <;> rfl

theorem Store.openGate_eq (store : Store) (key : String) :
    ∃ gates, store.openGate key = { store with gates := gates } ∧
      gates.filter (· ≠ key) = store.gates.filter (· ≠ key) := by
  unfold openGate
  split
  · exact ⟨store.gates, rfl, rfl⟩
  · exact ⟨key :: store.gates, rfl, List.filter_cons_of_neg (by simp)⟩

/-- A gate that is opened and left alone is gone. -/
theorem Store.refreshed_of_gated (hgated : call.isGated settings = true) (store : Store)
    (entry : Option Entry) :
    store.refreshed settings call entry =
      (((store.evict (call.key settings)).openGate (call.key settings)).countMiss.keep
        (call.key settings) entry).released settings call true := by
  have hsingle : settings.singleFlight = true := (Bool.and_eq_true_iff.mp hgated).1
  obtain ⟨gates, hopen, hfilter⟩ :=
    (store.evict (call.key settings)).openGate_eq (call.key settings)
  unfold refreshed released
  rw [if_pos hgated, if_pos hsingle, hopen]
  have hgates : store.gates.filter (· ≠ call.key settings) =
      gates.filter (· ≠ call.key settings) := hfilter.symm
  rw [hgates]
  cases entry <;> rfl

theorem Store.refreshed_of_plain (hsingle : settings.singleFlight = false) (store : Store)
    (entry : Option Entry) :
    store.refreshed settings call entry =
      (store.evict (call.key settings)).countMiss.keep (call.key settings) entry := by
  unfold refreshed
  rw [hsingle]
  cases entry <;> rfl

/-- What a call can come to that nothing overlaps. -/
inductive Fetches (settings : Settings) (warehouse : Warehouse σ) (call : Call) (s : Session σ) :
    Outcome × Session σ → Prop
  | bypassed (journal : List Log.Event) (hbypass : call.bypass = true) :
      Fetches settings warehouse call s
        (executed (s.reply warehouse call),
          { s.sent warehouse call s.store journal with
            clock := s.clock + (s.reply warehouse call).delayMs })
  | hit (journal : List Log.Event) (hbypass : call.bypass = false) {entry : Entry}
      (hentry : s.store.entry? (call.key settings) = some entry)
      (hfresh : entry.freshness s.clock = .fresh) :
      Fetches settings warehouse call s
        (.ok { entry.value with cached := true },
          { s with store := s.store.countHit, journal := journal })
  | overflow (hbypass : call.bypass = false) {entry : Entry}
      (hentry : s.store.entry? (call.key settings) = some entry)
      (hoverflow : entry.freshness s.clock = .overflow) :
      Fetches settings warehouse call s (.error .expiryOverflow, s)
  | missed (journal : List Log.Event) (hbypass : call.bypass = false)
      (hstale : ∀ entry, s.store.entry? (call.key settings) = some entry →
        entry.freshness s.clock = .stale) :
      Fetches settings warehouse call s
        (executed (s.reply warehouse call),
          { s.sent warehouse call
              (s.store.refreshed settings call (call.entry? settings (s.reply warehouse call)
                (s.clock + (s.reply warehouse call).delayMs))) journal with
            clock := s.clock + (s.reply warehouse call).delayMs })

theorem Call.entry?_of_bypass (h : call.bypass = true) (reply : Reply) (time : Nat) :
    call.entry? settings reply time = none := by
  unfold entry?
  split <;> simp [h]

theorem settle_executing (reply : Reply) (s : Session σ) :
    (settle settings call (.executing reply)).run s =
      (finish settings call reply true).run { s with clock := s.clock + reply.delayMs } := rfl

/-- The rest of a call whose statement has been sent. -/
theorem settle_sent (settings : Settings) (warehouse : Warehouse σ) (call : Call)
    (s t : Session σ) :
    ∃ journal, (settle settings call (.executing (s.reply warehouse call))).run t =
      (executed (s.reply warehouse call),
        { t with
          store := (t.store.keep (call.key settings)
            (call.entry? settings (s.reply warehouse call)
              (t.clock + (s.reply warehouse call).delayMs))).released settings call true
          clock := t.clock + (s.reply warehouse call).delayMs
          journal := journal }) := by
  have hfinishes := finishes settings call (s.reply warehouse call) true
    { t with clock := t.clock + (s.reply warehouse call).delayMs }
  rw [settle_executing]
  obtain ⟨houtcome, journal, hsession⟩ := hfinishes.eq
  exact ⟨journal, Prod.ext houtcome hsession⟩

theorem fetches (settings : Settings) (warehouse : Warehouse σ) (call : Call) (s : Session σ) :
    Fetches settings warehouse call s ((fetch settings warehouse call).run s) := by
  have harrives := arrives settings warehouse call s
  generalize hrun : (arrive settings warehouse call).run s = arrived at harrives
  rw [fetch_eq, StateT.run_bind, hrun]
  cases harrives with
  | bypassed journal hbypass =>
    have hgated : call.isGated settings = false := by simp [Call.isGated, hbypass]
    obtain ⟨later, hsettle⟩ := settle_sent settings warehouse call s
      (s.sent warehouse call s.store journal)
    rw [Call.entry?_of_bypass hbypass, Store.released, hgated] at hsettle
    change Fetches settings warehouse call s
      ((settle settings call (.executing (s.reply warehouse call))).run _)
    rw [hsettle]
    exact .bypassed later hbypass
  | hit journal hbypass hentry hfresh => exact .hit journal hbypass hentry hfresh
  | overflow hbypass hentry hoverflow => exact .overflow hbypass hentry hoverflow
  | gated journal hbypass hsingle hstale =>
    have hgated : call.isGated settings = true := by simp [Call.isGated, hsingle, hbypass]
    -- The entry went on arrival: behind the gate there is nothing to be found.
    have hgone : Store.entry? ((s.store.evict (call.key settings)).openGate (call.key settings))
        (call.key settings) = none := by
      unfold Store.entry?
      rw [Store.entries_openGate]
      exact s.store.entry?_evict_self _
    have henters := enters settings warehouse call true
      { s with
        store := (s.store.evict (call.key settings)).openGate (call.key settings)
        journal := journal }
    generalize hrun : (enter settings warehouse call true).run _ = entered at henters
    change Fetches settings warehouse call s
      ((enter settings warehouse call true >>= settle settings call).run _)
    rw [StateT.run_bind, hrun]
    cases henters with
    | hit _ hentry _ =>
      rw [hgone] at hentry
      cases hentry
    | overflow hentry _ =>
      rw [hgone] at hentry
      cases hentry
    | missed later _ =>
      rw [Store.evict_openGate, Store.evict_evict] at hrun ⊢
      obtain ⟨last, hsettle⟩ := settle_sent settings warehouse call s
        (s.sent warehouse call
          ((s.store.evict (call.key settings)).openGate (call.key settings)).countMiss later)
      change Fetches settings warehouse call s
        ((settle settings call (.executing (s.reply warehouse call))).run
          (s.sent warehouse call
            ((s.store.evict (call.key settings)).openGate (call.key settings)).countMiss later))
      rw [hsettle]
      have hmissed : Fetches settings warehouse call s _ := .missed last hbypass hstale
      rw [Store.refreshed_of_gated hgated] at hmissed
      exact hmissed
  | missed journal hbypass hsingle hstale =>
    have hgated : call.isGated settings = false := by simp [Call.isGated, hsingle]
    obtain ⟨later, hsettle⟩ := settle_sent settings warehouse call s
      (s.sent warehouse call (s.store.evict (call.key settings)).countMiss journal)
    rw [Store.released, hgated] at hsettle
    change Fetches settings warehouse call s
      ((settle settings call (.executing (s.reply warehouse call))).run _)
    rw [hsettle]
    have hmissed : Fetches settings warehouse call s _ := .missed later hbypass hstale
    rw [Store.refreshed_of_plain hsingle] at hmissed
    exact hmissed

/-! ### What a call comes to, by what it finds -/

namespace Fetches

variable {s : Session σ} {fetched : Outcome × Session σ}

theorem of_bypass (h : Fetches settings warehouse call s fetched) (hbypass : call.bypass = true) :
    ∃ journal, fetched =
      (executed (s.reply warehouse call),
        { s.sent warehouse call s.store journal with
          clock := s.clock + (s.reply warehouse call).delayMs }) := by
  cases h with
  | bypassed journal _ => exact ⟨journal, rfl⟩
  | hit _ hused | overflow hused | missed _ hused => exact absurd hused (by simp [hbypass])

theorem of_fresh (h : Fetches settings warehouse call s fetched) (hbypass : call.bypass = false)
    {entry : Entry} (hentry : s.store.entry? (call.key settings) = some entry)
    (hfresh : entry.freshness s.clock = .fresh) :
    ∃ journal, fetched =
      (.ok { entry.value with cached := true },
        { s with store := s.store.countHit, journal := journal }) := by
  cases h with
  | bypassed _ hused => exact absurd hused (by simp [hbypass])
  | hit journal _ hfound _ =>
    cases hentry.symm.trans hfound
    exact ⟨journal, rfl⟩
  | overflow _ hfound hoverflow =>
    cases hentry.symm.trans hfound
    exact absurd hoverflow (by simp [hfresh])
  | missed _ _ hstale => exact absurd (hstale entry hentry) (by simp [hfresh])

theorem of_overflow (h : Fetches settings warehouse call s fetched)
    (hbypass : call.bypass = false) {entry : Entry}
    (hentry : s.store.entry? (call.key settings) = some entry)
    (hoverflow : entry.freshness s.clock = .overflow) :
    fetched = (.error .expiryOverflow, s) := by
  cases h with
  | bypassed _ hused => exact absurd hused (by simp [hbypass])
  | hit _ _ hfound hfresh =>
    cases hentry.symm.trans hfound
    exact absurd hfresh (by simp [hoverflow])
  | overflow _ _ _ => rfl
  | missed _ _ hstale => exact absurd (hstale entry hentry) (by simp [hoverflow])

theorem of_stale (h : Fetches settings warehouse call s fetched) (hbypass : call.bypass = false)
    (hstale : ∀ entry, s.store.entry? (call.key settings) = some entry →
      entry.freshness s.clock = .stale) :
    ∃ journal, fetched =
      (executed (s.reply warehouse call),
        { s.sent warehouse call
            (s.store.refreshed settings call (call.entry? settings (s.reply warehouse call)
              (s.clock + (s.reply warehouse call).delayMs))) journal with
          clock := s.clock + (s.reply warehouse call).delayMs }) := by
  cases h with
  | bypassed _ hused => exact absurd hused (by simp [hbypass])
  | hit _ _ hfound hfresh => exact absurd (hstale _ hfound) (by simp [hfresh])
  | overflow _ hfound hoverflow => exact absurd (hstale _ hfound) (by simp [hoverflow])
  | missed journal _ _ => exact ⟨journal, rfl⟩

end Fetches

/-! ### What a call leaves under a key -/

theorem Store.entry?_refreshed_self (store : Store) (settings : Settings) (call : Call)
    (entry : Entry) :
    Store.entry? (store.refreshed settings call (some entry)) (call.key settings) = some entry :=
  Store.entry?_insert_self _ _ _

theorem Store.entry?_refreshed_of_ne (store : Store) (settings : Settings) (call : Call)
    (entry : Option Entry) {key : String} (hne : key ≠ call.key settings) :
    Store.entry? (store.refreshed settings call entry) key = store.entry? key := by
  cases entry with
  | none => exact store.entry?_evict_of_ne hne
  | some entry =>
    have hinsert := (store.evict (call.key settings)).countMiss.entry?_insert_of_ne entry hne
    exact hinsert.trans (store.entry?_evict_of_ne hne)

/-- A result is stored under a key, be it one that came from the cache or one that did not. -/
def Store.Holds (store : Store) (key : String) (result : QueryResult) : Prop :=
  ∃ entry, store.entry? key = some entry ∧
    { entry.value with cached := true } = { result with cached := true }

/-- Whatever is stored under a key is fresh at a time. -/
def Store.IsFreshAt (store : Store) (key : String) (now : Nat) : Prop :=
  ∀ entry, store.entry? key = some entry → entry.freshness now = .fresh

namespace Fetches

variable {s t : Session σ} {outcome : Outcome} {result : QueryResult}

/-- A call changes at most the entry of its own key. -/
theorem entry?_of_ne (h : Fetches settings warehouse call s (outcome, t)) {key : String}
    (hne : key ≠ call.key settings) : t.store.entry? key = s.store.entry? key := by
  cases h with
  | bypassed _ _ | hit _ _ _ _ | overflow _ _ _ => rfl
  | missed _ _ _ => exact s.store.entry?_refreshed_of_ne settings call _ hne

/-- A result with rows is under the key of its call, whether it was found there or left there. -/
theorem holds (h : Fetches settings warehouse call s (.ok result, t))
    (hbypass : call.bypass = false) (hrows : result.rows ≠ []) :
    t.store.Holds (call.key settings) result := by
  generalize hfetched : ((.ok result, t) : Outcome × Session σ) = fetched at h
  cases h with
  | bypassed _ hused => exact absurd hused (by simp [hbypass])
  | @hit _ _ entry hentry _ =>
    cases hfetched
    exact ⟨entry, hentry, rfl⟩
  | overflow _ _ _ => cases hfetched
  | missed journal _ _ =>
    obtain ⟨houtcome, rfl⟩ := Prod.mk.inj hfetched
    unfold executed at houtcome
    cases hreply : (s.reply warehouse call).outcome with
    | error causes =>
      rw [hreply] at houtcome
      cases houtcome
    | ok rows =>
      rw [hreply] at houtcome
      cases houtcome
      obtain ⟨row, rest, rfl⟩ := List.exists_cons_of_ne_nil hrows
      have hleft : call.entry? settings (s.reply warehouse call)
          (s.clock + (s.reply warehouse call).delayMs) =
            some ⟨.ofRows (row :: rest) (s.reply warehouse call).elapsedMs,
              s.clock + (s.reply warehouse call).delayMs, call.lifetime settings⟩ := by
        simp only [Call.entry?, hreply, hbypass, Bool.false_eq_true, if_false]
      rw [hleft]
      exact ⟨_, s.store.entry?_refreshed_self settings call _, rfl⟩

theorem holds_of_ne (h : Fetches settings warehouse call s (outcome, t)) {key : String}
    (hne : key ≠ call.key settings) (hheld : s.store.Holds key result) :
    t.store.Holds key result := by
  unfold Store.Holds
  rw [h.entry?_of_ne hne]
  exact hheld

/-- A stored result that is fresh is found. -/
theorem of_holds {fetched : Outcome × Session σ} (h : Fetches settings warehouse call s fetched)
    (hbypass : call.bypass = false) (hheld : s.store.Holds (call.key settings) result)
    (hfresh : s.store.IsFreshAt (call.key settings) s.clock) :
    ∃ journal, fetched =
      (.ok { result with cached := true },
        { s with store := s.store.countHit, journal := journal }) := by
  obtain ⟨entry, hentry, hvalue⟩ := hheld
  rw [← hvalue]
  exact h.of_fresh hbypass hentry (hfresh entry hentry)

end Fetches

end DatasetSearch.Cache
