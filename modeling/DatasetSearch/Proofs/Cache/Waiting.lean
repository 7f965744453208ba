import DatasetSearch.Proofs.Cache.Freshness
import DatasetSearch.Proofs.Cache.GateSchedule

/-!
# Waiting at a gate

What a call that waits at a gate can count on meanwhile.  Calls for other keys change neither the
entry of its key nor its line nor who executes for the key.  Rows stay there until they expire or
are invalidated, and then whoever passes is answered with them.  Where there are no rows and nobody
executes, nothing happens until the first in line moves, and it executes.
-/

namespace DatasetSearch.Cache

open Relation

variable {σ : Type} {settings : Settings} {warehouse : Warehouse σ} {call : Call} {index : Nat}
  {key : String}

/-! ### Time -/

theorem Entry.fresh_of_le {entry : Entry} {now later : Nat}
    (h : entry.freshness later = .fresh) (hle : now ≤ later) : entry.freshness now = .fresh := by
  have hlimit : entry.storedAt + entry.ttl < instantLimit := by
    simp only [freshness] at h
    split_ifs at h with hoverflow hfresh
    exact Nat.lt_of_not_le hoverflow
  exact freshness_eq_fresh hlimit (Nat.lt_of_le_of_lt hle (lt_of_fresh h))

namespace Gated

variable {m m' : Gated σ}

theorem clock_of_arrives {s t : Session σ} {arrival : Arrival}
    (h : Arrives settings warehouse call s (arrival, t)) : t.clock = s.clock := by
  cases h <;> rfl

theorem clock_of_enters {s t : Session σ} {alone : Bool} {progress : Progress}
    (h : Enters settings warehouse call alone s (progress, t)) : t.clock = s.clock := by
  cases h <;> rfl

theorem clock_of_finishes {s t : Session σ} {alone : Bool} {reply : Reply} {outcome : Outcome}
    (h : Finishes settings call reply alone s (outcome, t)) : t.clock = s.clock := by
  cases h <;> rfl

theorem Moves.clock_le (h : Moves settings warehouse index call m m') :
    m.run.session.clock ≤ m'.run.session.clock := by
  cases h with
  | arriving htask harrives =>
    exact (clock_of_arrives harrives).symm ▸ Nat.le_max_left _ _
  | queueing htask harrives hwaits =>
    exact (clock_of_arrives harrives).symm ▸ Nat.le_max_left _ _
  | starting htask harrives hfirst henters =>
    refine Nat.le_trans ?_ (Nat.le_of_eq (clock_of_enters henters).symm)
    exact (clock_of_arrives harrives).symm ▸ Nat.le_max_left _ _
  | entering htask hfirst henters => exact Nat.le_of_eq (clock_of_enters henters).symm
  | finishing htask hfinishes =>
    exact (clock_of_finishes hfinishes).symm ▸ Nat.le_max_left _ _

/-! ### Calls for other keys -/

theorem entry?_of_arrives_ne {s t : Session σ} {arrival : Arrival}
    (h : Arrives settings warehouse call s (arrival, t))
    (hother : call.bypass = true ∨ key ≠ call.key settings) :
    t.store.entry? key = s.store.entry? key := by
  cases h with
  | bypassed journal hbypass => rfl
  | hit journal hbypass hentry hfresh => rfl
  | overflow hbypass hentry hoverflow => rfl
  | gated journal hbypass hsingle hstale =>
    have hne : key ≠ call.key settings := by simpa [hbypass] using hother
    exact (Store.entry?_congr (Store.entries_openGate _ _) key).trans
      (s.store.entry?_evict_of_ne hne)
  | missed journal hbypass hsingle hstale =>
    have hne : key ≠ call.key settings := by simpa [hbypass] using hother
    exact s.store.entry?_evict_of_ne hne

theorem entry?_of_enters_ne {s t : Session σ} {alone : Bool} {progress : Progress}
    (h : Enters settings warehouse call alone s (progress, t)) (hne : key ≠ call.key settings) :
    t.store.entry? key = s.store.entry? key := by
  cases h with
  | hit journal hentry hfresh => exact Store.entry?_congr (Store.entries_leaveGate _ _ _) key
  | overflow hentry hoverflow => rfl
  | missed journal hstale => exact s.store.entry?_evict_of_ne hne

theorem lineOf_leave_of_ne {g : Gates} (hg : g.IsSound) {other : String}
    (hmem : index ∈ g.lineOf other) (hne : key ≠ other) :
    (g.lineOf key).filter (· ≠ index) = g.lineOf key :=
  Gates.filter_of_notMem fun h => hne (Gates.eq_of_mem_lineOf hg hmem h)

/-- A move of a call with another key, or of one that does not use the cache, changes neither the
entry of a key nor its line. -/
theorem Moves.frame (hm : m.IsOrderly settings) (h : Moves settings warehouse index call m m')
    (hother : call.bypass = true ∨ key ≠ call.key settings) :
    m'.run.session.store.entry? key = m.run.session.store.entry? key ∧
      m'.gates.lineOf key = m.gates.lineOf key := by
  have hne : call.isGated settings = true → key ≠ call.key settings := by
    intro hgated hsame
    have hused := (Bool.and_eq_true_iff.mp hgated).2
    simp [hsame] at hother
    simp [hother] at hused
  cases h with
  | arriving htask harrives =>
    have hentry := entry?_of_arrives_ne harrives hother
    exact ⟨hentry, rfl⟩
  | queueing htask harrives hwaits =>
    have hentry := entry?_of_arrives_ne harrives hother
    refine ⟨hentry, ?_⟩
    change (m.gates.join _ _).lineOf key = _
    rw [Gates.lineOf_join hm.sound, Function.update_of_ne (hne (isGated_of_arrives harrives))]
  | starting htask harrives hfirst henters =>
    have hkey := hne (isGated_of_arrives harrives)
    have harrived := entry?_of_arrives_ne harrives hother
    have hentered := entry?_of_enters_ne henters hkey
    refine ⟨hentered.trans harrived, ?_⟩
    change (m.gates.join _ _).lineOf key = _
    rw [Gates.lineOf_join hm.sound, Function.update_of_ne hkey]
  | @entering ticket progress t htask hfirst henters =>
    have hkey := hne (hm.uses _ _ _ htask)
    have hmem : index ∈ m.gates.lineOf (call.key settings) :=
      (hm.lines _ index).mpr ⟨_, htask, rfl⟩
    have hentry := entry?_of_enters_ne henters hkey
    refine ⟨hentry, ?_⟩
    cases progress with
    | executing reply => rfl
    | answered outcome =>
      cases outcome with
      | ok result =>
        exact (Gates.lineOf_leave hm.sound hmem key).trans (lineOf_leave_of_ne hm.sound hmem hkey)
      | error error =>
        exact (Gates.lineOf_drop m.gates index key).trans (lineOf_leave_of_ne hm.sound hmem hkey)
  | finishing htask hfinishes =>
    refine ⟨hfinishes.entry?_of_ne hother, ?_⟩
    unfold Gates.finished
    cases hgated : call.isGated settings with
    | false => rfl
    | true =>
      have hmem : index ∈ m.gates.lineOf (call.key settings) :=
        (hm.lines _ index).mpr ⟨_, htask, by simp [Task.key?, hgated]⟩
      exact (Gates.lineOf_leave hm.sound hmem key).trans
        (lineOf_leave_of_ne hm.sound hmem (hne hgated))

/-- Nobody executes for a key. -/
def IsFree (settings : Settings) (m : Gated σ) (key : String) : Prop :=
  ∀ task ∈ m.run.tasks, task.holds settings key = false

theorem IsFree.move {before after : Phase} {gates : Gates} {t : Session σ} {ticket : Nat}
    (h : m.IsFree settings key) (htask : m.run.tasks[index]? = some ⟨call, before⟩)
    (hafter : Task.holds settings key ⟨call, after⟩ = false) :
    (⟨{ m.run.move index t after with ticket := ticket }, gates⟩ : Gated σ).IsFree settings
      key := by
  apply forall_mem_modify h
  intro other hother
  rw [htask] at hother
  cases hother
  exact hafter

theorem holds_eq_false (hother : call.bypass = true ∨ key ≠ call.key settings) (phase : Phase) :
    Task.holds settings key ⟨call, phase⟩ = false := by
  cases phase with
  | executing reply due =>
    rcases hother with hbypass | hne
    · simp [Task.holds, Call.isGated, hbypass]
    · simp [Task.holds, hne.symm]
  | scheduled start => rfl
  | queued ticket => rfl
  | answered outcome => rfl

theorem IsFree.moves (h : m.IsFree settings key)
    (hmove : Moves settings warehouse index call m m')
    (hother : call.bypass = true ∨ key ≠ call.key settings) : m'.IsFree settings key := by
  have hnew : ∀ phase, Task.holds settings key ⟨call, phase⟩ = false := holds_eq_false hother
  cases hmove with
  | arriving htask harrives => exact h.move htask (hnew _)
  | queueing htask harrives hwaits => exact h.move htask (hnew _)
  | starting htask harrives hfirst henters => exact h.move htask (hnew _)
  | entering htask hfirst henters => exact h.move htask (hnew _)
  | finishing htask hfinishes => exact h.move htask (hnew _)

/-! ### After an execution with rows -/

/-- An entry is in the store and nobody executes for its key. -/
structure Serves (settings : Settings) (m : Gated σ) (key : String) (entry : Entry) : Prop where
  entry : m.run.session.store.entry? key = some entry
  free : m.IsFree settings key

theorem Serves.moves {entry : Entry} (hsingle : settings.singleFlight = true)
    (hm : m.IsOrderly settings) (h : m.Serves settings key entry)
    (hmove : Moves settings warehouse index call m m')
    (hfresh : entry.freshness m'.run.session.clock = .fresh) : m'.Serves settings key entry := by
  by_cases hother : call.bypass = true ∨ key ≠ call.key settings
  · exact ⟨(hmove.frame hm hother).1.trans h.entry, h.free.moves hmove hother⟩
  push Not at hother
  obtain ⟨hused, rfl⟩ := hother
  -- A call for the key: whatever it looks up is fresh, and nobody has a reply to take up.
  cases hmove with
  | arriving htask harrives =>
    cases harrives with
    | bypassed journal hbypass => exact absurd hbypass hused
    | hit journal hbypass hentry _ => exact ⟨h.entry, h.free.move htask rfl⟩
    | overflow hbypass hentry hoverflow =>
      rw [h.entry] at hentry
      cases hentry
      exact absurd (hoverflow.symm.trans hfresh) nofun
    | missed journal hbypass hplain hstale =>
      rw [hsingle] at hplain
      cases hplain
  | queueing htask harrives hwaits =>
    cases harrives with
    | gated journal hbypass _ hstale =>
      exact absurd ((hstale entry h.entry).symm.trans hfresh) nofun
  | starting htask harrives hfirst henters =>
    cases harrives with
    | gated journal hbypass _ hstale =>
      cases henters with
      | missed later _ => exact absurd ((hstale entry h.entry).symm.trans hfresh) nofun
  | entering htask hfirst henters =>
    cases henters with
    | hit journal hentry _ =>
      exact ⟨(Store.entry?_congr (Store.entries_leaveGate _ _ _) _).trans h.entry,
        h.free.move htask rfl⟩
    | overflow hentry hoverflow =>
      rw [h.entry] at hentry
      cases hentry
      exact absurd (hoverflow.symm.trans hfresh) nofun
    | missed journal hstale =>
      exact absurd ((hstale entry h.entry).symm.trans hfresh) nofun
  | finishing htask hfinishes =>
    have hidle := h.free _ (List.mem_iff_getElem?.mpr ⟨index, htask⟩)
    simp [Task.holds, Call.isGated, hsingle, hused] at hidle

theorem Serves.between {entry : Entry} (h : m.Serves settings key entry) (warehouse : Warehouse σ)
    {interlude : Interlude} (hvalid : ¬interlude.Invalidates key)
    (hfresh : entry.freshness m.run.session.clock = .fresh) :
    (m.after settings warehouse (.between interlude)).Serves settings key entry := by
  obtain ⟨keep, clock, journal, hrun, -, -, hkept⟩ := interlude.run_eq m.run.session
  refine ⟨?_, h.free⟩
  change (interlude.run.run m.run.session).2.store.entry? key = some entry
  rw [hrun]
  have hmem := Store.mem_of_entry? h.entry
  exact lookup_filter_of_pos h.entry (hkept _ hmem hvalid (by rw [hfresh]; nofun))

/-- An entry that is served is still served after events that do not invalidate its key, as long as
it is fresh. -/
theorem Serves.replay {entry : Entry} {events : List Event}
    (hsingle : settings.singleFlight = true) (hm : m.IsOrderly settings)
    (h : m.Serves settings key entry) (warehouse : Warehouse σ)
    (hvalid : ∀ interlude, .between interlude ∈ events → ¬interlude.Invalidates key)
    (hfresh : entry.freshness
      (m.replay settings warehouse events).run.session.clock = .fresh) :
    (m.replay settings warehouse events).Serves settings key entry := by
  suffices hserves : (m.replay settings warehouse events).IsOrderly settings ∧
      (entry.freshness (m.replay settings warehouse events).run.session.clock = .fresh →
        (m.replay settings warehouse events).Serves settings key entry) from hserves.2 hfresh
  refine replay_invariant (fun m => m.IsOrderly settings ∧
    (entry.freshness m.run.session.clock = .fresh → m.Serves settings key entry)) ?_ ?_
    ⟨hm, fun _ => h⟩
  · rintro m m' index call ⟨hm, hserves⟩ hmove
    refine ⟨hm.moves hmove, fun hfresh => ?_⟩
    have hnow := Entry.fresh_of_le hfresh hmove.clock_le
    exact (hserves hnow).moves hsingle hm hmove hfresh
  · rintro m interlude hmem ⟨hm, hserves⟩
    refine ⟨hm.between warehouse interlude, fun hfresh => ?_⟩
    obtain ⟨keep, clock, journal, hrun, hclock, -⟩ := interlude.run_eq m.run.session
    have hnow : entry.freshness m.run.session.clock = .fresh := by
      refine Entry.fresh_of_le hfresh ?_
      change _ ≤ (interlude.run.run m.run.session).2.clock
      rw [hrun]
      exact hclock
    exact (hserves hnow).between warehouse (hvalid interlude hmem) hnow

/-- A call that its gate lets pass while the entry of its key is fresh executes nothing. -/
theorem perform_of_fresh {ticket : Nat} {entry : Entry}
    (htask : m.run.tasks[index]? = some ⟨call, .queued ticket⟩)
    (hfirst : m.gates.isFirst index = true)
    (hentry : m.run.session.store.entry? (call.key settings) = some entry)
    (hfresh : entry.freshness m.run.session.clock = .fresh) :
    let r := (m.perform settings warehouse index).run
    r.tasks[index]? = some ⟨call, .answered (.ok { entry.value with cached := true })⟩ ∧
      r.session.statements = m.run.session.statements ∧
      r.session.warehouse = m.run.session.warehouse := by
  unfold perform pass
  simp only [htask, if_pos hfirst]
  have henters := enters settings warehouse call (m.gates.isLast index) m.run.session
  generalize (enter settings warehouse call (m.gates.isLast index)).run m.run.session = entered
    at henters
  cases henters with
  | hit journal hfound _ =>
    rw [hentry] at hfound
    cases hfound
    exact ⟨getElem?_move_self htask _ _, rfl, rfl⟩
  | overflow hfound hoverflow =>
    rw [hentry] at hfound
    cases hfound
    exact absurd (hoverflow.symm.trans hfresh) nofun
  | missed journal hstale => exact absurd ((hstale entry hentry).symm.trans hfresh) nofun

/-! ### After an execution without rows -/

/-- There is no entry for a key, nobody executes for it, and a call stands first in its line. -/
structure IsNext (settings : Settings) (m : Gated σ) (key : String) (index : Nat) : Prop where
  vacant : m.run.session.store.entry? key = none
  free : m.IsFree settings key
  next : ∃ rest, m.gates.lineOf key = index :: rest

/-- Until the call that is next moves, no other call of the key can: it is answered from no entry
and passes no gate. -/
theorem IsNext.moves {next : Nat} (hsingle : settings.singleFlight = true)
    (hm : m.IsOrderly settings) (h : m.IsNext settings key next)
    (hmove : Moves settings warehouse index call m m') (hne : index ≠ next) :
    m'.IsNext settings key next := by
  by_cases hother : call.bypass = true ∨ key ≠ call.key settings
  · obtain ⟨hentry, hline⟩ := hmove.frame hm hother
    exact ⟨hentry.trans h.vacant, h.free.moves hmove hother, hline ▸ h.next⟩
  push Not at hother
  obtain ⟨hused, rfl⟩ := hother
  obtain ⟨rest, hnext⟩ := h.next
  -- A call for the key that is not next: all it can do is to come and stand last in the line.
  cases hmove with
  | arriving htask harrives =>
    cases harrives with
    | bypassed journal hbypass => exact absurd hbypass hused
    | hit journal hbypass hentry _ => exact absurd (h.vacant.symm.trans hentry) nofun
    | overflow hbypass hentry _ => exact absurd (h.vacant.symm.trans hentry) nofun
    | missed journal hbypass hplain hstale =>
      rw [hsingle] at hplain
      cases hplain
  | queueing htask harrives hwaits =>
    refine ⟨Store.entry?_eq_none_of_subset h.vacant harrives.mem_of_mem, h.free.move htask rfl,
      rest ++ [index], ?_⟩
    change (m.gates.join _ _).lineOf _ = _
    rw [Gates.lineOf_join hm.sound, Function.update_self, hnext, List.cons_append]
  | starting htask harrives hfirst henters =>
    have hempty := (hm.isFirst_join_iff htask _).mp hfirst
    rw [hnext] at hempty
    cases hempty
  | entering htask hfirst henters =>
    obtain ⟨_, hline⟩ := hm.head_of_isFirst htask rfl hfirst
    rw [hnext] at hline
    exact absurd (List.cons.inj hline).1.symm hne
  | finishing htask hfinishes =>
    have hidle := h.free _ (List.mem_iff_getElem?.mpr ⟨index, htask⟩)
    simp [Task.holds, Call.isGated, hsingle, hused] at hidle

theorem IsNext.between {next : Nat} (h : m.IsNext settings key next) (warehouse : Warehouse σ)
    (interlude : Interlude) :
    (m.after settings warehouse (.between interlude)).IsNext settings key next :=
  ⟨Store.entry?_eq_none_of_subset h.vacant fun _ => Interlude.mem_of_mem_run, h.free, h.next⟩

theorem Moves.getElem?_of_ne (h : Moves settings warehouse index call m m') {i : Nat}
    (hne : i ≠ index) : m'.run.tasks[i]? = m.run.tasks[i]? := by
  obtain ⟨before, after, htask, htasks, -⟩ := h.tasks
  rw [htasks, List.getElem?_modify]
  simp [hne.symm]

/-- Who waits at a gate moves only if the gate lets it pass. -/
theorem Moves.isFirst (h : Moves settings warehouse index call m m') {called : Call} {ticket : Nat}
    (htask : m.run.tasks[index]? = some ⟨called, .queued ticket⟩) :
    m.gates.isFirst index = true := by
  cases h with
  | arriving hold harrives =>
    rw [htask] at hold
    cases hold
  | queueing hold harrives hwaits =>
    rw [htask] at hold
    cases hold
  | starting hold harrives hfirst henters =>
    rw [htask] at hold
    cases hold
  | entering hold hfirst henters => exact hfirst
  | finishing hold hfinishes =>
    rw [htask] at hold
    cases hold

theorem exists_ticket_of_awaits {task : Task} (h : task.awaits settings key = true) :
    ∃ called ticket, task = ⟨called, .queued ticket⟩ ∧ called.key settings = key := by
  obtain ⟨called, phase⟩ := task
  cases phase with
  | queued ticket => exact ⟨called, ticket, rfl, by simpa [Task.awaits] using h⟩
  | scheduled start => cases h
  | executing reply due => cases h
  | answered outcome => cases h

/-- Who waits behind the call that is next waits on. -/
theorem IsNext.waits {next : Nat} (hm : m.IsOrderly settings) (h : m.IsNext settings key next)
    (hmove : Moves settings warehouse index call m m') (hne : index ≠ next) {i : Nat} {task : Task}
    (htask : m.run.tasks[i]? = some task) (hawaits : task.awaits settings key = true) :
    m'.run.tasks[i]? = some task := by
  by_cases hi : i = index
  · subst hi
    obtain ⟨called, ticket, rfl, rfl⟩ := exists_ticket_of_awaits hawaits
    obtain ⟨rest, hnext⟩ := h.next
    obtain ⟨_, hline⟩ := hm.head_of_isFirst htask rfl (hmove.isFirst htask)
    rw [hnext] at hline
    exact absurd (List.cons.inj hline).1.symm hne
  · rw [hmove.getElem?_of_ne hi]
    exact htask

/-- A call is next and some others wait on, or the call has moved. -/
def StaysNext (settings : Settings) (key : String) (next : Nat) (waiting : Nat → Task → Prop)
    (m : Gated σ) : Prop :=
  (m.IsNext settings key next ∧ ∀ i task, waiting i task → m.run.tasks[i]? = some task) ∨
    ∃ task, m.run.tasks[next]? = some task ∧ task.phase.rank < 2

variable {next : Nat} {waiting : Nat → Task → Prop}

/-- Who has a place in a line is past its arrival. -/
theorem rank_le_of_key? {task : Task} (h : task.key? settings = some key) :
    task.phase.rank ≤ 2 := by
  obtain ⟨called, phase⟩ := task
  cases phase with
  | scheduled start => cases h
  | queued ticket => exact Nat.le_refl 2
  | executing reply due => exact Nat.le_succ 1
  | answered outcome => exact Nat.zero_le 2

theorem StaysNext.moves (hsingle : settings.singleFlight = true) (hm : m.IsOrderly settings)
    (hwaiting : ∀ i task, waiting i task → task.awaits settings key = true)
    (h : m.StaysNext settings key next waiting)
    (hmove : Moves settings warehouse index call m m') :
    m'.StaysNext settings key next waiting := by
  by_cases hindex : index = next
  · subst hindex
    obtain ⟨before, after, htask, htasks, hrank⟩ := hmove.tasks
    have hbefore : before.rank ≤ 2 := by
      rcases h with ⟨hnext, -⟩ | ⟨task, htask', hless⟩
      · obtain ⟨rest, hline⟩ := hnext.next
        obtain ⟨task, htask', hkey⟩ := (hm.lines key index).mp (by simp [hline])
        rw [htask] at htask'
        cases htask'
        exact rank_le_of_key? hkey
      · rw [htask] at htask'
        cases htask'
        exact Nat.le_of_lt hless
    refine .inr ⟨⟨call, after⟩, ?_, Nat.lt_of_lt_of_le hrank hbefore⟩
    simp [htasks, htask]
  · rcases h with ⟨hnext, hbehind⟩ | ⟨task, htask, hless⟩
    · refine .inl ⟨hnext.moves hsingle hm hmove hindex, ?_⟩
      intro i task hi
      exact hnext.waits hm hmove hindex (hbehind i task hi) (hwaiting i task hi)
    · refine .inr ⟨task, ?_, hless⟩
      rw [hmove.getElem?_of_ne (Ne.symm hindex)]
      exact htask

theorem StaysNext.between (h : m.StaysNext settings key next waiting) (warehouse : Warehouse σ)
    (interlude : Interlude) :
    (m.after settings warehouse (.between interlude)).StaysNext settings key next waiting := by
  rcases h with ⟨hnext, hbehind⟩ | hmoved
  · exact .inl ⟨hnext.between warehouse interlude, hbehind⟩
  · exact .inr hmoved

/-- The call that is next stays so, and those behind it wait on, until it moves. -/
theorem IsNext.replay {ticket : Nat} {events : List Event} (hsingle : settings.singleFlight = true)
    (hm : m.IsOrderly settings) (h : m.IsNext settings key next) (warehouse : Warehouse σ)
    (hwaiting : ∀ i task, waiting i task →
      task.awaits settings key = true ∧ m.run.tasks[i]? = some task)
    (hstill : (m.replay settings warehouse events).run.tasks[next]? =
      some ⟨call, .queued ticket⟩) :
    (m.replay settings warehouse events).IsNext settings key next ∧
      ∀ i task, waiting i task →
        (m.replay settings warehouse events).run.tasks[i]? = some task := by
  have hstays : (m.replay settings warehouse events).IsOrderly settings ∧
      (m.replay settings warehouse events).StaysNext settings key next waiting := by
    refine replay_invariant
      (fun m => m.IsOrderly settings ∧ m.StaysNext settings key next waiting) ?_ ?_
      ⟨hm, .inl ⟨h, fun i task hi => (hwaiting i task hi).2⟩⟩
    · rintro m m' index call ⟨hm, hstays⟩ hmove
      have hawaits := fun i task hi => (hwaiting i task hi).1
      exact ⟨hm.moves hmove, hstays.moves hsingle hm hawaits hmove⟩
    · rintro m interlude - ⟨hm, hstays⟩
      exact ⟨hm.between warehouse interlude, hstays.between warehouse interlude⟩
  rcases hstays.2 with hnext | ⟨task, htask, hrank⟩
  · exact hnext
  · rw [hstill] at htask
    cases htask
    exact absurd hrank (Nat.lt_irrefl 2)

theorem statements_of_finishes {s t : Session σ} {alone : Bool} {reply : Reply}
    {outcome : Outcome} (h : Finishes settings call reply alone s (outcome, t)) :
    t.statements = s.statements := by
  cases h <;> rfl

/-- A call that its gate lets pass where there is no entry for its key executes. -/
theorem perform_of_vacant {ticket : Nat}
    (htask : m.run.tasks[index]? = some ⟨call, .queued ticket⟩)
    (hfirst : m.gates.isFirst index = true)
    (hvacant : m.run.session.store.entry? (call.key settings) = none) :
    (m.perform settings warehouse index).run.session.statements =
      m.run.session.statements ++ [call.statement] := by
  unfold perform pass
  simp only [htask, if_pos hfirst]
  have henters := enters settings warehouse call (m.gates.isLast index) m.run.session
  generalize (enter settings warehouse call (m.gates.isLast index)).run m.run.session = entered
    at henters
  cases henters with
  | hit journal hentry _ => exact absurd (hvacant.symm.trans hentry) nofun
  | overflow hentry _ => exact absurd (hvacant.symm.trans hentry) nofun
  | missed journal hstale =>
    unfold advance
    simp only
    split
    · exact statements_of_finishes (finishes settings call _ _ _)
    · rfl

end Gated

end DatasetSearch.Cache
