import Mathlib.Logic.Relation
import DatasetSearch.Proofs.Cache.Stages

/-!
# Overlapping calls move forward

A call that runs goes through one to three stages before it waits again, whether other calls overlap
it or not.  Each stage brings it closer to its outcome, and as long as some call has no outcome the
schedule names one that can run; so a run that is completed has answered all its calls.
-/

namespace DatasetSearch.Cache

open Relation

variable {σ : Type} {settings : Settings} {warehouse : Warehouse σ} {call : Call}

/-! ### One stage -/

def Progress.phase (progress : Progress) (s : Session σ) : Phase :=
  match progress with
  | .answered outcome => .answered outcome
  | .executing reply => .executing reply (s.clock + reply.delayMs)

/-- What one stage can make of a session and of the phase of a call; `alone` says that no other call
refers to the gate of the key. -/
inductive Stage (settings : Settings) (warehouse : Warehouse σ) (call : Call) (alone : Bool) :
    Session σ × Phase → Session σ × Phase → Prop
  | arriving {s t : Session σ} {start : Nat} {progress : Progress}
      (h : Arrives settings warehouse call { s with clock := max s.clock start }
        (.moved progress, t)) :
      Stage settings warehouse call alone (s, .scheduled start) (t, progress.phase t)
  | queueing {s t : Session σ} {start : Nat} (ticket : Nat)
      (h : Arrives settings warehouse call { s with clock := max s.clock start } (.atGate, t)) :
      Stage settings warehouse call alone (s, .scheduled start) (t, .queued ticket)
  | entering {s t : Session σ} {ticket : Nat} {progress : Progress}
      (h : Enters settings warehouse call alone s (progress, t)) :
      Stage settings warehouse call alone (s, .queued ticket) (t, progress.phase t)
  | finishing {s t : Session σ} {reply : Reply} {due : Nat} {outcome : Outcome}
      (h : Finishes settings call reply alone { s with clock := max s.clock due } (outcome, t)) :
      Stage settings warehouse call alone (s, .executing reply due) (t, .answered outcome)

def Phase.rank : Phase → Nat
  | .scheduled _ => 3
  | .queued _ => 2
  | .executing _ _ => 1
  | .answered _ => 0

theorem Phase.rank_le (phase : Phase) : phase.rank ≤ 3 := by
  cases phase <;> simp [Phase.rank]

/-- The call has yet to look its key up. -/
def Phase.Looks : Phase → Prop
  | .scheduled _ => True
  | .queued _ => True
  | .executing _ _ => False
  | .answered _ => False

theorem Progress.rank_phase_le (progress : Progress) (s : Session σ) :
    (progress.phase s).rank ≤ 1 := by
  cases progress with
  | answered outcome => exact Nat.zero_le 1
  | executing reply => exact Nat.le_refl 1

theorem Stage.rank_lt {alone : Bool} {before after : Session σ × Phase}
    (h : Stage settings warehouse call alone before after) : after.2.rank < before.2.rank := by
  cases h with
  | @arriving _ t _ progress _ =>
    exact Nat.lt_succ_of_le (Nat.le_succ_of_le (progress.rank_phase_le t))
  | queueing _ _ => exact Nat.lt_succ_self 2
  | @entering _ t _ progress _ => exact Nat.lt_succ_of_le (progress.rank_phase_le t)
  | finishing _ => exact Nat.one_pos

theorem rank_lt_of_transGen {alone : Bool} {before after : Session σ × Phase}
    (h : TransGen (Stage settings warehouse call alone) before after) :
    after.2.rank < before.2.rank := by
  induction h with
  | single hstage => exact hstage.rank_lt
  | tail _ hstage ih => exact Nat.lt_trans hstage.rank_lt ih

/-! ### A call that no other call overlaps -/

def settle (settings : Settings) (call : Call) : Progress → Act σ Outcome
  | .answered outcome => pure outcome
  | .executing reply => do
    wait reply.delayMs
    finish settings call reply true

theorem fetch_eq (settings : Settings) (warehouse : Warehouse σ) (call : Call) :
    fetch settings warehouse call = arrive settings warehouse call >>= fun arrival =>
      match arrival with
      | .moved progress => settle settings call progress
      | .atGate => enter settings warehouse call true >>= settle settings call := rfl

theorem settle_stages (settings : Settings) (warehouse : Warehouse σ) (call : Call)
    (progress : Progress) (s : Session σ) :
    ∃ outcome t, (settle settings call progress).run s = (outcome, t) ∧
      ReflTransGen (Stage settings warehouse call true) (s, progress.phase s)
        (t, .answered outcome) := by
  cases progress with
  | answered outcome => exact ⟨outcome, s, rfl, .refl⟩
  | executing reply =>
    have hfinishes := finishes settings call reply true { s with clock := s.clock + reply.delayMs }
    generalize hrun : (finish settings call reply true).run
      { s with clock := s.clock + reply.delayMs } = ended at hfinishes
    obtain ⟨outcome, t⟩ := ended
    refine ⟨outcome, t, hrun, .single (.finishing ?_)⟩
    rw [Nat.max_eq_right (Nat.le_add_right s.clock reply.delayMs)]
    exact hfinishes

/-- Such a call goes through the same stages, one after another. -/
theorem fetch_stages (settings : Settings) (warehouse : Warehouse σ) (call : Call)
    (s : Session σ) :
    ∃ outcome t, (fetch settings warehouse call).run s = (outcome, t) ∧
      TransGen (Stage settings warehouse call true) (s, .scheduled s.clock)
        (t, .answered outcome) := by
  have hclock : { s with clock := max s.clock s.clock } = s := by rw [Nat.max_self]
  have harrives := arrives settings warehouse call s
  generalize hrun : (arrive settings warehouse call).run s = arrived at harrives
  obtain ⟨arrival, middle⟩ := arrived
  rw [← hclock] at harrives
  rw [fetch_eq, StateT.run_bind, hrun]
  cases arrival with
  | moved progress =>
    obtain ⟨outcome, t, hsettle, hstages⟩ := settle_stages settings warehouse call progress middle
    exact ⟨outcome, t, hsettle, TransGen.head' (.arriving harrives) hstages⟩
  | atGate =>
    have henters := enters settings warehouse call true middle
    generalize henter : (enter settings warehouse call true).run middle = entered at henters
    obtain ⟨progress, inside⟩ := entered
    obtain ⟨outcome, t, hsettle, hstages⟩ := settle_stages settings warehouse call progress inside
    refine ⟨outcome, t, ?_, TransGen.head (.queueing 0 harrives)
      (TransGen.head' (.entering henters) hstages)⟩
    rw [← hsettle]
    change ((enter settings warehouse call true >>= settle settings call).run middle) = _
    rw [StateT.run_bind, henter]
    rfl

/-! ### What running a call does -/

theorem forall_mem_modify {α : Type} {l : List α} {index : Nat} {change : α → α} {p : α → Prop}
    (hall : ∀ a ∈ l, p a) (hchanged : ∀ a, l[index]? = some a → p (change a)) :
    ∀ a ∈ l.modify index change, p a := by
  intro a ha
  obtain ⟨i, hi⟩ := List.mem_iff_getElem?.mp ha
  rw [List.getElem?_modify] at hi
  obtain ⟨b, hb, hab⟩ := Option.map_eq_some_iff.mp hi
  split at hab
  · next hindex =>
    rw [← hab]
    exact hchanged b (by rw [hindex, hb])
  · rw [← hab]
    exact hall b (List.mem_iff_getElem?.mpr ⟨i, hb⟩)

namespace Run

/-- After a stage a reply without delay is taken up at once. -/
theorem advance_eq (settings : Settings) (warehouse : Warehouse σ) (r : Run σ) (index : Nat)
    (call : Call) (progress : Progress) (s : Session σ) :
    ∃ t phase, r.advance settings index call progress s = r.move index t phase ∧
      ReflTransGen (Stage settings warehouse call (r.alone settings index (call.key settings)))
        (s, progress.phase s) (t, phase) := by
  cases progress with
  | answered outcome => exact ⟨s, .answered outcome, rfl, .refl⟩
  | executing reply =>
    by_cases hdelay : reply.delayMs = 0
    · have hfinishes := finishes settings call reply
        (r.alone settings index (call.key settings)) s
      generalize hrun : (finish settings call reply
        (r.alone settings index (call.key settings))).run s = ended at hfinishes
      obtain ⟨outcome, t⟩ := ended
      refine ⟨t, .answered outcome, ?_, ?_⟩
      · unfold advance
        simp only [if_pos hdelay, hrun]
      · have hclock : { s with clock := max s.clock (s.clock + reply.delayMs) } = s := by
          rw [hdelay, Nat.add_zero, Nat.max_self]
        refine .single (.finishing ?_)
        rw [hclock]
        exact hfinishes
    · refine ⟨s, .executing reply (s.clock + reply.delayMs), ?_, .refl⟩
      unfold advance
      simp only [if_neg hdelay]

theorem pass_eq (settings : Settings) (warehouse : Warehouse σ) (r : Run σ) (index : Nat)
    (call : Call) (ticket : Nat) (s : Session σ) :
    ∃ t phase, r.pass settings warehouse index call s = r.move index t phase ∧
      TransGen (Stage settings warehouse call (r.alone settings index (call.key settings)))
        (s, .queued ticket) (t, phase) := by
  have henters := enters settings warehouse call (r.alone settings index (call.key settings)) s
  generalize hrun : (enter settings warehouse call
    (r.alone settings index (call.key settings))).run s = entered at henters
  obtain ⟨progress, middle⟩ := entered
  obtain ⟨t, phase, hmove, hstages⟩ :=
    advance_eq settings warehouse r index call progress middle
  refine ⟨t, phase, ?_, TransGen.head' (.entering henters) hstages⟩
  unfold pass
  rw [hrun]
  exact hmove

/-- Running a call that has no outcome takes it through some stages and leaves the other calls as
they are. -/
theorem perform_eq (settings : Settings) (warehouse : Warehouse σ) {r : Run σ} {index : Nat}
    {task : Task} (htask : r.tasks[index]? = some task)
    (hpending : ∀ outcome, task.phase ≠ .answered outcome) :
    ∃ t phase ticket,
      r.perform settings warehouse index =
        ⟨t, r.tasks.modify index (fun other => { other with phase := phase }), ticket⟩ ∧
      TransGen (Stage settings warehouse task.call
        (r.alone settings index (task.call.key settings))) (r.session, task.phase) (t, phase) := by
  unfold perform
  rw [htask]
  obtain ⟨called, phase⟩ := task
  cases phase with
  | answered outcome => exact absurd rfl (hpending outcome)
  | scheduled start =>
    have harrives := arrives settings warehouse called
      { r.session with clock := max r.session.clock start }
    generalize hrun : (arrive settings warehouse called).run
      { r.session with clock := max r.session.clock start } = arrived at harrives
    obtain ⟨arrival, middle⟩ := arrived
    simp only [hrun]
    cases arrival with
    | moved progress =>
      obtain ⟨t, phase, hmove, hstages⟩ :=
        advance_eq settings warehouse r index called progress middle
      exact ⟨t, phase, r.ticket, hmove, TransGen.head' (.arriving harrives) hstages⟩
    | atGate =>
      simp only
      -- Where no other call refers to the gate it is passed in the same turn.
      split
      · obtain ⟨t, phase, hmove, hstages⟩ :=
          pass_eq settings warehouse r index called r.ticket middle
        exact ⟨t, phase, r.ticket, hmove, TransGen.head (.queueing r.ticket harrives) hstages⟩
      · exact ⟨middle, .queued r.ticket, r.ticket + 1, rfl, .single (.queueing r.ticket harrives)⟩
  | queued ticket =>
    obtain ⟨t, phase, hmove, hstages⟩ :=
      pass_eq settings warehouse r index called ticket r.session
    exact ⟨t, phase, r.ticket, hmove, hstages⟩
  | executing reply due =>
    have hfinishes := finishes settings called reply
      (r.alone settings index (called.key settings))
      { r.session with clock := max r.session.clock due }
    generalize hrun : (finish settings called reply
      (r.alone settings index (called.key settings))).run
      { r.session with clock := max r.session.clock due } = ended at hfinishes
    obtain ⟨outcome, t⟩ := ended
    refine ⟨t, .answered outcome, r.ticket, ?_, .single (.finishing hfinishes)⟩
    simp only [hrun]
    rfl

theorem perform_of_answered {r : Run σ} {index : Nat} {task : Task} {outcome : Outcome}
    (htask : r.tasks[index]? = some task) (hphase : task.phase = .answered outcome) :
    r.perform settings warehouse index = r := by
  unfold perform
  rw [htask]
  simp only [hphase]

theorem perform_of_none {r : Run σ} {index : Nat} (htask : r.tasks[index]? = none) :
    r.perform settings warehouse index = r := by
  unfold perform
  rw [htask]

/-- Running a call changes nothing, or takes the call through some stages. -/
theorem perform_cases (settings : Settings) (warehouse : Warehouse σ) (r : Run σ) (index : Nat) :
    r.perform settings warehouse index = r ∨
      ∃ task t phase ticket, r.tasks[index]? = some task ∧
        r.perform settings warehouse index =
          ⟨t, r.tasks.modify index (fun other => { other with phase := phase }), ticket⟩ ∧
        TransGen (Stage settings warehouse task.call
          (r.alone settings index (task.call.key settings)))
          (r.session, task.phase) (t, phase) := by
  cases htask : r.tasks[index]? with
  | none => exact .inl (perform_of_none htask)
  | some task =>
    by_cases hphase : ∃ outcome, task.phase = .answered outcome
    · obtain ⟨outcome, houtcome⟩ := hphase
      exact .inl (perform_of_answered htask houtcome)
    · have hpending : ∀ outcome, task.phase ≠ .answered outcome :=
        fun outcome houtcome => hphase ⟨outcome, houtcome⟩
      obtain ⟨t, phase, ticket, hperform, hstages⟩ := perform_eq settings warehouse htask hpending
      exact .inr ⟨task, t, phase, ticket, rfl, hperform, hstages⟩

theorem calls_modify (tasks : List Task) (index : Nat) (phase : Phase) :
    (tasks.modify index (fun other => { other with phase := phase })).map Task.call =
      tasks.map Task.call := by
  apply List.ext_getElem?
  intro i
  rw [List.getElem?_map, List.getElem?_map, List.getElem?_modify]
  cases tasks[i]? with
  | none => rfl
  | some other =>
    simp only [Option.map_eq_map, Option.map_some]
    split <;> rfl

theorem calls_perform (settings : Settings) (warehouse : Warehouse σ) (r : Run σ) (index : Nat) :
    (r.perform settings warehouse index).tasks.map Task.call = r.tasks.map Task.call := by
  rcases perform_cases settings warehouse r index with hsame | ⟨_, t, phase, _, -, hperform, -⟩
  · rw [hsame]
  · rw [hperform]
    exact calls_modify r.tasks index phase

/-! ### The schedule -/

theorem least_eq_none {ranks : List (Nat × Nat)} (h : least ranks = none) : ranks = [] := by
  cases ranks with
  | nil => rfl
  | cons first rest =>
    obtain ⟨rank, index⟩ := first
    unfold least at h
    split at h
    · cases h
    · split at h <;> cases h

theorem mem_of_least {ranks : List (Nat × Nat)} {p : Nat × Nat} (h : least ranks = some p) :
    p ∈ ranks := by
  induction ranks with
  | nil => cases h
  | cons first rest ih =>
    obtain ⟨rank, index⟩ := first
    unfold least at h
    split at h
    · cases h
      exact List.mem_cons_self
    · next other otherIndex hrest =>
      split at h
      · cases h
        exact List.mem_cons_self
      · cases h
        exact List.mem_cons_of_mem _ (ih hrest)

/-- The call that the schedule names has no outcome yet. -/
theorem pending_of_next? {r : Run σ} {index : Nat} (h : r.next? settings = some index) :
    ∃ task, r.tasks[index]? = some task ∧ ∀ outcome, task.phase ≠ .answered outcome := by
  unfold next? at h
  split at h
  · next rank found hleast =>
    cases h
    obtain ⟨⟨task, i⟩, hmem, hsome⟩ := List.mem_filterMap.mp (mem_of_least hleast)
    simp only at hsome
    split at hsome
    · next ticket hphase =>
      split at hsome
      · cases hsome
      · cases hsome
        refine ⟨task, List.mem_zipIdx_iff_getElem?.mp hmem, ?_⟩
        rw [hphase]
        exact fun outcome => nofun
    · cases hsome
  · obtain ⟨⟨time, found⟩, hleast, rfl⟩ := Option.map_eq_some_iff.mp h
    obtain ⟨⟨task, i⟩, hmem, hsome⟩ := List.mem_filterMap.mp (mem_of_least hleast)
    simp only at hsome
    split at hsome
    · next start hphase =>
      cases hsome
      refine ⟨task, List.mem_zipIdx_iff_getElem?.mp hmem, ?_⟩
      rw [hphase]
      exact fun outcome => nofun
    · next reply due hphase =>
      cases hsome
      refine ⟨task, List.mem_zipIdx_iff_getElem?.mp hmem, ?_⟩
      rw [hphase]
      exact fun outcome => nofun
    · cases hsome

theorem waits_of_timed_eq_nil {r : Run σ} (h : r.timed = []) {task : Task}
    (htask : task ∈ r.tasks) :
    (∃ ticket, task.phase = .queued ticket) ∨ ∃ outcome, task.phase = .answered outcome := by
  obtain ⟨i, hi⟩ := List.mem_iff_getElem?.mp htask
  have hnone := List.filterMap_eq_nil_iff.mp h (task, i) (List.mem_zipIdx_iff_getElem?.mpr hi)
  cases hphase : task.phase with
  | queued ticket => exact .inl ⟨ticket, rfl⟩
  | answered outcome => exact .inr ⟨outcome, rfl⟩
  | scheduled start =>
    simp only [hphase] at hnone
    cases hnone
  | executing reply due =>
    simp only [hphase] at hnone
    cases hnone

theorem exists_holder_of_released_eq_nil {r : Run σ} (h : r.released settings = []) {task : Task}
    (htask : task ∈ r.tasks) {ticket : Nat} (hphase : task.phase = .queued ticket) :
    ∃ holder ∈ r.tasks, holder.holds settings (task.call.key settings) = true := by
  obtain ⟨i, hi⟩ := List.mem_iff_getElem?.mp htask
  have hnone := List.filterMap_eq_nil_iff.mp h (task, i) (List.mem_zipIdx_iff_getElem?.mpr hi)
  simp only [hphase] at hnone
  split at hnone
  · next hheld => exact List.any_eq_true.mp hheld
  · cases hnone

/-- A call that waits at a gate is not stuck: if nobody holds the gate it is released, and whoever
holds it awaits a reply. -/
theorem answered_of_next?_eq_none {r : Run σ} (h : r.next? settings = none) :
    ∀ task ∈ r.tasks, ∃ outcome, task.phase = .answered outcome := by
  unfold next? at h
  split at h
  · cases h
  · next hleast =>
    have hreleased := least_eq_none hleast
    have htimed := least_eq_none (Option.map_eq_none_iff.mp h)
    intro task htask
    rcases waits_of_timed_eq_nil htimed htask with ⟨ticket, hphase⟩ | hanswered
    · obtain ⟨holder, hholder, hholds⟩ := exists_holder_of_released_eq_nil hreleased htask hphase
      unfold Task.holds at hholds
      rcases waits_of_timed_eq_nil htimed hholder with ⟨other, hidle⟩ | ⟨outcome, hidle⟩
      · rw [hidle] at hholds
        cases hholds
      · rw [hidle] at hholds
        cases hholds
    · exact hanswered

/-! ### Completion -/

/-- How many stages the calls of a run may still need. -/
def pending : List Task → Nat
  | [] => 0
  | task :: tasks => task.phase.rank + pending tasks

theorem pending_modify_lt {tasks : List Task} {index : Nat} {task : Task} {phase : Phase}
    (htask : tasks[index]? = some task) (hless : phase.rank < task.phase.rank) :
    pending (tasks.modify index (fun other => { other with phase := phase })) < pending tasks := by
  induction tasks generalizing index with
  | nil => cases htask
  | cons first rest ih =>
    cases index with
    | zero =>
      cases htask
      exact Nat.add_lt_add_right hless (pending rest)
    | succ index => exact Nat.add_lt_add_left (ih htask) first.phase.rank

theorem pending_perform_lt (settings : Settings) (warehouse : Warehouse σ) {r : Run σ}
    {index : Nat} {task : Task} (htask : r.tasks[index]? = some task)
    (hpending : ∀ outcome, task.phase ≠ .answered outcome) :
    pending (r.perform settings warehouse index).tasks < pending r.tasks := by
  obtain ⟨t, phase, ticket, hperform, hstages⟩ := perform_eq settings warehouse htask hpending
  rw [hperform]
  exact pending_modify_lt htask (rank_lt_of_transGen hstages)

theorem rank_le_pending {tasks : List Task} {task : Task} (htask : task ∈ tasks) :
    task.phase.rank ≤ pending tasks := by
  induction tasks with
  | nil => cases htask
  | cons first rest ih =>
    unfold pending
    rcases List.mem_cons.mp htask with rfl | hrest
    · exact Nat.le_add_right _ _
    · exact Nat.le_trans (ih hrest) (Nat.le_add_left _ _)

theorem answered_of_rank_eq_zero {phase : Phase} (h : phase.rank = 0) :
    ∃ outcome, phase = .answered outcome := by
  cases phase with
  | answered outcome => exact ⟨outcome, rfl⟩
  | scheduled start => cases h
  | queued ticket => cases h
  | executing reply due => cases h

theorem pending_le (tasks : List Task) : pending tasks ≤ 3 * tasks.length := by
  induction tasks with
  | nil => exact Nat.le_refl 0
  | cons task tasks ih =>
    have hrank := task.phase.rank_le
    simp only [pending, List.length_cons]
    omega

theorem answered_stages {count : Nat} {r : Run σ} (h : pending r.tasks ≤ count) :
    ∀ task ∈ (stages settings warehouse count r).tasks, ∃ outcome,
      task.phase = .answered outcome := by
  induction count generalizing r with
  | zero =>
    intro task htask
    apply answered_of_rank_eq_zero
    exact Nat.le_zero.mp (Nat.le_trans (rank_le_pending htask) h)
  | succ count ih =>
    unfold stages
    cases hnext : r.next? settings with
    | none => exact answered_of_next?_eq_none hnext
    | some index =>
      obtain ⟨task, htask, hpending⟩ := pending_of_next? hnext
      have hless := pending_perform_lt settings warehouse htask hpending
      exact ih (by omega)

/-- Completing a run answers every call. -/
theorem answered_complete (r : Run σ) :
    ∀ task ∈ (r.complete settings warehouse).tasks, ∃ outcome, task.phase = .answered outcome :=
  answered_stages (pending_le r.tasks)

end Run

end DatasetSearch.Cache
