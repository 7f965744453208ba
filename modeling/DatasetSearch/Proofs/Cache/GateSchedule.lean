import DatasetSearch.Proofs.Cache.GateOrder

/-!
# The schedule at the gates

`Run.perform` knows of no gates and asks which other calls there are; a gate counts references and
asks who came first.  They decide alike, so calls at their gates go through the stages of
`Run.perform`, and the schedule names only calls that their gates let pass.
-/

namespace DatasetSearch.Cache

variable {σ : Type} {settings : Settings} {warehouse : Warehouse σ} {call : Call} {index : Nat}
  {m : Gated σ}

namespace Gated

/-! ### The gates decide as the other calls do -/

theorem IsOrderly.alone_iff (hm : m.IsOrderly settings) (index : Nat) (key : String) :
    m.run.alone settings index key = true ↔ ∀ i ∈ m.gates.lineOf key, i = index := by
  unfold Run.alone Run.others
  rw [Bool.not_eq_true', List.any_eq_false]
  constructor
  · intro hnone i hi
    obtain ⟨task, htask, hkey⟩ := (hm.lines key i).mp hi
    by_contra hne
    refine hnone task (List.mem_eraseIdx_iff_getElem?.mpr ⟨i, hne, htask⟩) ?_
    exact Task.refers_iff.mpr hkey
  · intro hall task hmem hrefers
    obtain ⟨i, hne, htask⟩ := List.mem_eraseIdx_iff_getElem?.mp hmem
    exact hne (hall i ((hm.lines key i).mpr ⟨task, htask, Task.refers_iff.mp hrefers⟩))

theorem eq_singleton_iff {line : List Nat} (hnodup : line.Nodup) (hmem : index ∈ line) :
    line = [index] ↔ ∀ i ∈ line, i = index := by
  constructor
  · intro hline
    simp [hline]
  · intro hall
    obtain ⟨first, rest, rfl⟩ := List.exists_cons_of_ne_nil (List.ne_nil_of_mem hmem)
    have hfirst := hall first List.mem_cons_self
    cases rest with
    | nil => rw [hfirst]
    | cons second rest =>
      have hsecond := hall second (by simp)
      simp [hfirst, hsecond] at hnodup

/-- The last reference to a gate is that of a call alone. -/
theorem IsOrderly.isLast_eq_alone (hm : m.IsOrderly settings) {key : String}
    (hmem : index ∈ m.gates.lineOf key) :
    m.gates.isLast index = m.run.alone settings index key := by
  rw [Bool.eq_iff_iff, Gates.isLast_iff hm.sound hmem, hm.alone_iff,
    eq_singleton_iff (Gates.nodup_lineOf hm.sound key) hmem]

/-- A gate lets a call pass on arrival if the call is alone, and then its reference is the last. -/
theorem IsOrderly.join_eq_alone (hm : m.IsOrderly settings) {start : Nat}
    (htask : m.run.tasks[index]? = some ⟨call, .scheduled start⟩) (key : String) :
    (m.gates.join key index).isFirst index = m.run.alone settings index key ∧
      (m.gates.join key index).isLast index = m.run.alone settings index key := by
  have hnotin := hm.notMem_of_key?_eq_none htask rfl key
  have hline : (m.gates.join key index).lineOf key = m.gates.lineOf key ++ [index] := by
    rw [Gates.lineOf_join hm.sound, Function.update_self]
  have hmem : index ∈ (m.gates.join key index).lineOf key := by simp [hline]
  have hempty : m.run.alone settings index key = true ↔ m.gates.lineOf key = [] := by
    rw [hm.alone_iff]
    constructor
    · intro hall
      refine List.eq_nil_iff_forall_not_mem.mpr fun i hi => hnotin ?_
      rw [← hall i hi]
      exact hi
    · intro hnil
      simp [hnil]
  constructor
  · rw [Bool.eq_iff_iff, hm.isFirst_join_iff htask, hempty]
  · rw [Bool.eq_iff_iff, Gates.isLast_iff (hm.sound.join key (hm.refs_ne htask rfl)) hmem, hempty,
      hline]
    simp

theorem finish_congr (reply : Reply) {alone other : Bool}
    (h : call.isGated settings = true → alone = other) :
    finish (σ := σ) settings call reply alone = finish settings call reply other := by
  cases hgated : call.isGated settings with
  | true => rw [h hgated]
  | false =>
    unfold finish
    simp only [hgated]
    rfl

theorem run_advance {progress : Progress} {s : Session σ}
    (h : ∀ reply, progress = .executing reply → call.isGated settings = true →
      m.gates.isLast index = m.run.alone settings index (call.key settings)) :
    (m.advance settings index call progress s).run =
      m.run.advance settings index call progress s := by
  cases progress with
  | answered outcome => rfl
  | executing reply =>
    unfold advance Run.advance takeUp
    simp only
    rw [finish_congr reply (h reply rfl)]
    split <;> rfl

theorem run_pass {s : Session σ}
    (h : m.gates.isLast index = m.run.alone settings index (call.key settings)) :
    (m.pass settings warehouse index call s).run =
      m.run.pass settings warehouse index call s := by
  unfold pass Run.pass
  rw [h]
  generalize (enter settings warehouse call _).run s = entered
  obtain ⟨progress, t⟩ := entered
  apply run_advance
  rintro reply rfl -
  exact h

/-- A call that its gate lets pass, or that has no gate to pass, goes through the stages that the
other calls leave open to it. -/
theorem run_perform (hm : m.IsOrderly settings)
    (hturn : ∀ (called : Call) (ticket : Nat), m.run.tasks[index]? = some ⟨called, .queued ticket⟩ →
      m.gates.isFirst index = true) :
    (m.perform settings warehouse index).run = m.run.perform settings warehouse index := by
  unfold perform Run.perform
  cases htask : m.run.tasks[index]? with
  | none => rfl
  | some task =>
    obtain ⟨called, phase⟩ := task
    cases phase with
    | answered outcome => rfl
    | scheduled start =>
      simp only
      have harrives := arrives settings warehouse called
        { m.run.session with clock := max m.run.session.clock start }
      generalize (arrive settings warehouse called).run
        { m.run.session with clock := max m.run.session.clock start } = arrived at harrives
      obtain ⟨arrival, t⟩ := arrived
      cases arrival with
      | moved progress =>
        apply run_advance
        rintro reply rfl hgated
        obtain ⟨hsingle, hbypass⟩ := Bool.and_eq_true_iff.mp hgated
        cases harrives with
        | bypassed journal hused => simp [hused] at hbypass
        | missed journal _ hplain _ => simp [hplain] at hsingle
      | atGate =>
        obtain ⟨hfirst, hlast⟩ := hm.join_eq_alone htask (called.key settings)
        simp only [hfirst]
        split
        · exact run_pass (m := { m with gates := m.gates.join (called.key settings) index }) hlast
        · rfl
    | queued ticket =>
      simp only [if_pos (hturn called ticket htask)]
      exact run_pass (hm.isLast_eq_alone ((hm.lines _ index).mpr ⟨_, htask, rfl⟩))
    | executing reply due =>
      have hlast : called.isGated settings = true →
          m.gates.isLast index = m.run.alone settings index (called.key settings) := by
        intro hgated
        exact hm.isLast_eq_alone ((hm.lines _ index).mpr ⟨_, htask, by simp [Task.key?, hgated]⟩)
      simp only [takeUp]
      rw [finish_congr reply hlast]
      rfl

/-! ### Runs -/

/-- Calls at their gates run as they do without, except that some turns come to nothing. -/
theorem exists_replay_eq (hm : m.IsOrderly settings) (warehouse : Warehouse σ)
    (events : List Event) :
    ∃ kept, kept.Sublist events ∧
      (m.replay settings warehouse events).run = m.run.replay settings warehouse kept := by
  induction events generalizing m with
  | nil => exact ⟨[], .slnil, rfl⟩
  | cons event events ih =>
    obtain ⟨kept, hkept, hrun⟩ := ih (hm.after warehouse event)
    have hgoes : (m.after settings warehouse event).run = m.run.after settings warehouse event →
        ∃ kept, kept.Sublist (event :: events) ∧
          (m.replay settings warehouse (event :: events)).run =
            m.run.replay settings warehouse kept := by
      intro hafter
      rw [hafter] at hrun
      exact ⟨event :: kept, hkept.cons_cons event, hrun⟩
    cases event with
    | between interlude => exact hgoes rfl
    | stage index =>
      by_cases hturn : ∀ (called : Call) (ticket : Nat),
          m.run.tasks[index]? = some ⟨called, .queued ticket⟩ → m.gates.isFirst index = true
      · exact hgoes (run_perform hm hturn)
      · push Not at hturn
        obtain ⟨called, ticket, htask, hwaits⟩ := hturn
        have hsame : m.after settings warehouse (.stage index) = m :=
          perform_of_waits htask (Bool.not_eq_true _ ▸ hwaits)
        rw [hsame] at hrun
        refine ⟨kept, hkept.cons _, ?_⟩
        rw [← hrun]
        exact congrArg (fun m => (replay settings warehouse m events).run) hsame

theorem le_of_least {ranks : List (Nat × Nat)} {p : Nat × Nat} (h : Run.least ranks = some p) :
    ∀ q ∈ ranks, p.1 ≤ q.1 := by
  induction ranks generalizing p with
  | nil => nofun
  | cons first rest ih =>
    obtain ⟨rank, i⟩ := first
    intro q hq
    unfold Run.least at h
    cases hrest : Run.least rest with
    | none =>
      rw [hrest] at h
      cases h
      rw [Run.least_eq_none hrest] at hq
      exact Nat.le_of_eq (congrArg Prod.fst (List.mem_singleton.mp hq)).symm
    | some other =>
      obtain ⟨least, j⟩ := other
      simp only [hrest] at h
      have hle := ih hrest
      rcases List.mem_cons.mp hq with rfl | hmem
      · split at h <;> cases h <;> simp only <;> omega
      · have hother := hle q hmem
        split at h <;> cases h <;> simp only at hother ⊢ <;> omega

theorem mem_released {r : Run σ} {ticket : Nat} : (ticket, index) ∈ r.released settings ↔
    ∃ called, r.tasks[index]? = some ⟨called, .queued ticket⟩ ∧
      ∀ task ∈ r.tasks, task.holds settings (called.key settings) = false := by
  unfold Run.released
  rw [List.mem_filterMap]
  constructor
  · rintro ⟨⟨⟨called, phase⟩, i⟩, hmem, hsome⟩
    have htask := List.mem_zipIdx_iff_getElem?.mp hmem
    cases phase with
    | queued ticket' =>
      simp only at hsome
      split_ifs at hsome with hheld
      cases hsome
      exact ⟨called, htask, by simpa using hheld⟩
    | scheduled start => cases hsome
    | executing reply due => cases hsome
    | answered outcome => cases hsome
  · rintro ⟨called, htask, hfree⟩
    refine ⟨(⟨called, .queued ticket⟩, index), List.mem_zipIdx_iff_getElem?.mpr htask, ?_⟩
    have hheld : ¬r.tasks.any (Task.holds settings (called.key settings)) = true := by
      simpa using hfree
    simp only [if_neg hheld]

/-- Whoever the schedule names is let pass: nobody executes for its key, and it has the lowest
ticket in its line. -/
theorem isFirst_of_next? (hm : m.IsOrderly settings) (h : m.run.next? settings = some index)
    {ticket : Nat} (htask : m.run.tasks[index]? = some ⟨call, .queued ticket⟩) :
    m.gates.isFirst index = true := by
  unfold Run.next? at h
  split at h
  · next rank found hleast =>
    cases h
    obtain ⟨called, htask', hfree⟩ := mem_released.mp (Run.mem_of_least hleast)
    rw [htask] at htask'
    cases htask'
    have hmem : index ∈ m.gates.lineOf (call.key settings) :=
      (hm.lines _ index).mpr ⟨_, htask, rfl⟩
    rw [Gates.isFirst_iff hm.sound hmem]
    obtain ⟨front, behind, hline⟩ := List.append_of_mem hmem
    cases front with
    | nil => rw [hline, List.nil_append, List.head?_cons]
    | cons first front =>
      -- Whoever stands before it would wait with a lower ticket.
      have hpairs := hm.inOrder (call.key settings)
      rw [hline, List.cons_append, List.pairwise_cons] at hpairs
      obtain ⟨_, _, hwaits, hearlier⟩ := hpairs.1 index (by simp)
      rw [htask] at hwaits
      cases hwaits
      obtain ⟨⟨called, phase⟩, hfirst, hkey⟩ := (hm.lines (call.key settings) first).mp
        (by simp [hline])
      have hsame := Task.key_of_key? hkey
      have hidle := hfree _ (List.mem_iff_getElem?.mpr ⟨first, hfirst⟩)
      cases phase with
      | scheduled start => cases hkey
      | answered outcome => cases hkey
      | executing reply due =>
        rw [Task.holds_iff.mpr ⟨⟨reply, due, rfl⟩, hkey⟩] at hidle
        cases hidle
      | queued other =>
        have hreleased : (other, first) ∈ m.run.released settings :=
          mem_released.mpr ⟨called, hfirst, by rw [hsame]; exact hfree⟩
        have hle := le_of_least hleast _ hreleased
        have hlt := hearlier called other hfirst
        exact absurd hlt (Nat.not_lt.mpr hle)
  · obtain ⟨⟨time, found⟩, hleast, rfl⟩ := Option.map_eq_some_iff.mp h
    obtain ⟨⟨task, i⟩, hmem, hsome⟩ := List.mem_filterMap.mp (Run.mem_of_least hleast)
    have hi := List.mem_zipIdx_iff_getElem?.mp hmem
    simp only at hsome hi htask
    split at hsome
    · next start hphase =>
      cases hsome
      rw [htask] at hi
      cases hi
      cases hphase
    · next reply due hphase =>
      cases hsome
      rw [htask] at hi
      cases hi
      cases hphase
    · cases hsome

theorem run_replay_schedule (hm : m.IsOrderly settings) (warehouse : Warehouse σ) (count : Nat) :
    (m.replay settings warehouse (m.run.schedule settings warehouse count)).run =
      m.run.stages settings warehouse count := by
  induction count generalizing m with
  | zero => rfl
  | succ count ih =>
    unfold Run.schedule Run.stages
    cases hnext : m.run.next? settings with
    | none => rfl
    | some index =>
      have hrun : (m.perform settings warehouse index).run =
          m.run.perform settings warehouse index :=
        run_perform hm fun _ _ htask => isFirst_of_next? hm hnext htask
      have hrest := ih (hm.perform warehouse index)
      rw [hrun] at hrest
      exact hrest

/-- Completing a run is one way to go on with it at the gates. -/
theorem run_replay_remaining (hm : m.IsOrderly settings) (warehouse : Warehouse σ) :
    (m.replay settings warehouse (m.run.remaining settings warehouse)).run =
      m.run.complete settings warehouse :=
  run_replay_schedule hm warehouse _

end Gated

/-- Overlapping calls until all have ended are calls that pass their gates. -/
theorem fetchAll_eq (settings : Settings) (warehouse : Warehouse σ) (members : List (Call × Nat))
    (s : Session σ) :
    let m := (Gated.start s members).replay settings warehouse
      ((Run.start s members).remaining settings warehouse)
    (fetchAll settings warehouse members).run s = (m.run.outcomes, m.run.session) := by
  intro m
  have hrun : m.run = (Run.start s members).complete settings warehouse :=
    Gated.run_replay_remaining (Gated.isOrderly_start settings s members) warehouse
  rw [hrun]
  rfl

end DatasetSearch.Cache
