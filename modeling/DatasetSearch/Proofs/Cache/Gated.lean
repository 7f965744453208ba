import DatasetSearch.Proofs.Cache.Gates
import DatasetSearch.Proofs.Cache.History

/-!
# Overlapping calls at their gates

Calls that overlap, with the gates that they refer to.  Whether a call may pass is asked of its
gate, and whether a key goes out of flight is decided by counting references.  `Run.perform` knows
of no gates but asks which other calls there are.  The two agree: every call refers to the gate in
flight under its key, the line of a key holds just the calls that execute or wait for it, and who
executes stands first in it.
-/

namespace DatasetSearch.Cache

open Relation

variable {σ : Type}

/-- Calls in progress and their gates. -/
structure Gated (σ : Type) where
  run : Run σ
  gates : Gates

/-- The gates after a call has passed its gate.  A call that runs into an overflow unwinds: it lets
go of the gate but leaves the key in flight. -/
def Gates.entered (g : Gates) (key : String) (index : Nat) : Progress → Gates
  | .answered (.ok _) => g.leave key index
  | .answered (.error _) => g.drop index
  | .executing _ => g

/-- The gates after a call has taken up the reply to its statement. -/
def Gates.finished (g : Gates) (settings : Settings) (call : Call) (index : Nat) : Gates :=
  if call.isGated settings then g.leave (call.key settings) index else g

namespace Gated

/-! ### Events -/

def start (s : Session σ) (members : List (Call × Nat)) : Gated σ :=
  ⟨.start s members, .idle s.store.gates⟩

/-- A call takes up the reply to its statement. -/
def takeUp (settings : Settings) (m : Gated σ) (index : Nat) (call : Call) (reply : Reply)
    (session : Session σ) : Gated σ :=
  let (outcome, session) := (finish settings call reply (m.gates.isLast index)).run session
  ⟨m.run.move index session (.answered outcome), m.gates.finished settings call index⟩

def advance (settings : Settings) (m : Gated σ) (index : Nat) (call : Call) (progress : Progress)
    (session : Session σ) : Gated σ :=
  match progress with
  | .answered outcome => ⟨m.run.move index session (.answered outcome), m.gates⟩
  | .executing reply =>
    if reply.delayMs = 0 then m.takeUp settings index call reply session
    else ⟨m.run.move index session (.executing reply (session.clock + reply.delayMs)), m.gates⟩

/-- A call passes its gate. -/
def pass (settings : Settings) (warehouse : Warehouse σ) (m : Gated σ) (index : Nat) (call : Call)
    (session : Session σ) : Gated σ :=
  let (progress, session) := (enter settings warehouse call (m.gates.isLast index)).run session
  { m with gates := m.gates.entered (call.key settings) index progress }.advance settings index call
    progress session

/-- A call runs until it waits again.  One whose gate does not let it pass waits on. -/
def perform (settings : Settings) (warehouse : Warehouse σ) (m : Gated σ) (index : Nat) : Gated σ :=
  match m.run.tasks[index]? with
  | none => m
  | some task =>
    match task.phase with
    | .answered _ => m
    | .scheduled start =>
      let session := { m.run.session with clock := max m.run.session.clock start }
      let (arrival, session) := (arrive settings warehouse task.call).run session
      match arrival with
      | .moved progress => m.advance settings index task.call progress session
      | .atGate =>
        let gates := m.gates.join (task.call.key settings) index
        if gates.isFirst index then
          { m with gates := gates }.pass settings warehouse index task.call session
        else
          ⟨{ m.run.move index session (.queued m.run.ticket) with ticket := m.run.ticket + 1 },
            gates⟩
    | .queued _ =>
      if m.gates.isFirst index then m.pass settings warehouse index task.call m.run.session else m
    | .executing reply due =>
      m.takeUp settings index task.call reply
        { m.run.session with clock := max m.run.session.clock due }

def after (settings : Settings) (warehouse : Warehouse σ) (m : Gated σ) : Event → Gated σ
  | .stage index => m.perform settings warehouse index
  | .between interlude => { m with run := m.run.after settings warehouse (.between interlude) }

def replay (settings : Settings) (warehouse : Warehouse σ) (m : Gated σ) (events : List Event) :
    Gated σ := events.foldl (after settings warehouse) m

variable {settings : Settings} {warehouse : Warehouse σ} {m m' : Gated σ} {index : Nat}
  {call : Call}

/-! ### What running a call does -/

/-- What a call can do without interruption. -/
inductive Moves (settings : Settings) (warehouse : Warehouse σ) (index : Nat) (call : Call)
    (m : Gated σ) : Gated σ → Prop
  | arriving {start : Nat} {progress : Progress} {t : Session σ}
      (htask : m.run.tasks[index]? = some ⟨call, .scheduled start⟩)
      (harrives : Arrives settings warehouse call
        { m.run.session with clock := max m.run.session.clock start } (.moved progress, t)) :
      Moves settings warehouse index call m ⟨m.run.move index t (progress.phase t), m.gates⟩
  | queueing {start : Nat} {t : Session σ}
      (htask : m.run.tasks[index]? = some ⟨call, .scheduled start⟩)
      (harrives : Arrives settings warehouse call
        { m.run.session with clock := max m.run.session.clock start } (.atGate, t))
      (hwaits : (m.gates.join (call.key settings) index).isFirst index = false) :
      Moves settings warehouse index call m
        ⟨{ m.run.move index t (.queued m.run.ticket) with ticket := m.run.ticket + 1 },
          m.gates.join (call.key settings) index⟩
  | starting {start : Nat} {t u : Session σ} {reply : Reply}
      (htask : m.run.tasks[index]? = some ⟨call, .scheduled start⟩)
      (harrives : Arrives settings warehouse call
        { m.run.session with clock := max m.run.session.clock start } (.atGate, t))
      (hfirst : (m.gates.join (call.key settings) index).isFirst index = true)
      (henters : Enters settings warehouse call
        ((m.gates.join (call.key settings) index).isLast index) t (.executing reply, u)) :
      Moves settings warehouse index call m
        ⟨m.run.move index u (.executing reply (u.clock + reply.delayMs)),
          m.gates.join (call.key settings) index⟩
  | entering {ticket : Nat} {progress : Progress} {t : Session σ}
      (htask : m.run.tasks[index]? = some ⟨call, .queued ticket⟩)
      (hfirst : m.gates.isFirst index = true)
      (henters : Enters settings warehouse call (m.gates.isLast index) m.run.session
        (progress, t)) :
      Moves settings warehouse index call m
        ⟨m.run.move index t (progress.phase t),
          m.gates.entered (call.key settings) index progress⟩
  | finishing {reply : Reply} {due : Nat} {outcome : Outcome} {t : Session σ}
      (htask : m.run.tasks[index]? = some ⟨call, .executing reply due⟩)
      (hfinishes : Finishes settings call reply (m.gates.isLast index)
        { m.run.session with clock := max m.run.session.clock due } (outcome, t)) :
      Moves settings warehouse index call m
        ⟨m.run.move index t (.answered outcome), m.gates.finished settings call index⟩

theorem move_move (r : Run σ) (index : Nat) (s t : Session σ) (phase other : Phase) :
    (r.move index s phase).move index t other = r.move index t other := by
  unfold Run.move
  simp only [List.modify_modify_eq]
  rfl

theorem getElem?_move_self {r : Run σ} {phase : Phase}
    (htask : r.tasks[index]? = some ⟨call, phase⟩) (t : Session σ) (other : Phase) :
    (r.move index t other).tasks[index]? = some ⟨call, other⟩ := by
  simp [Run.move, htask]

theorem getElem?_move_of_ne (r : Run σ) {i : Nat} (hne : i ≠ index) (t : Session σ)
    (other : Phase) : (r.move index t other).tasks[i]? = r.tasks[i]? := by
  simp [Run.move, hne.symm]

/-- A call that executes takes up a reply without delay in the same turn. -/
theorem advance_moves {phase : Phase} (htask : m.run.tasks[index]? = some ⟨call, phase⟩)
    (progress : Progress) (t : Session σ) (gates : Gates) :
    ReflTransGen (Moves settings warehouse index call)
      ⟨m.run.move index t (progress.phase t), gates⟩
      ({ m with gates := gates }.advance settings index call progress t) := by
  cases progress with
  | answered outcome => exact .refl
  | executing reply =>
    unfold advance
    by_cases hdelay : reply.delayMs = 0
    · simp only [if_pos hdelay, takeUp]
      have hfinishes := finishes settings call reply (gates.isLast index) t
      generalize (finish settings call reply (gates.isLast index)).run t = ended at hfinishes
      obtain ⟨outcome, u⟩ := ended
      have hclock : { t with clock := max t.clock (t.clock + reply.delayMs) } = t := by
        rw [hdelay, Nat.add_zero, Nat.max_self]
      have hmoves : Moves settings warehouse index call
          ⟨m.run.move index t (.executing reply (t.clock + reply.delayMs)), gates⟩
          ⟨(m.run.move index t (.executing reply (t.clock + reply.delayMs))).move index u
            (.answered outcome), gates.finished settings call index⟩ := by
        refine .finishing (getElem?_move_self htask t _) ?_
        change Finishes settings call reply (gates.isLast index)
          { t with clock := max t.clock (t.clock + reply.delayMs) } (outcome, u)
        rw [hclock]
        exact hfinishes
      rw [move_move] at hmoves
      exact .single hmoves
    · simp only [if_neg hdelay]
      exact .refl

/-- On its way to the gate a call has made sure that there is no entry for its key. -/
theorem entry?_of_arrives {s t : Session σ}
    (h : Arrives settings warehouse call s (.atGate, t)) :
    t.store.entry? (call.key settings) = none := by
  cases h with
  | gated journal hbypass hsingle hstale =>
    unfold Store.entry?
    rw [Store.entries_openGate]
    exact lookup_filter_self s.store.entries _

theorem pass_moves {ticket : Nat} (htask : m.run.tasks[index]? = some ⟨call, .queued ticket⟩)
    (hfirst : m.gates.isFirst index = true) :
    TransGen (Moves settings warehouse index call) m
      (m.pass settings warehouse index call m.run.session) := by
  unfold pass
  have henters := enters settings warehouse call (m.gates.isLast index) m.run.session
  generalize (enter settings warehouse call (m.gates.isLast index)).run m.run.session = entered
    at henters
  obtain ⟨progress, t⟩ := entered
  exact TransGen.head' (.entering htask hfirst henters) (advance_moves htask progress t _)

theorem pass_starts {start : Nat} {t : Session σ}
    (htask : m.run.tasks[index]? = some ⟨call, .scheduled start⟩)
    (harrives : Arrives settings warehouse call
      { m.run.session with clock := max m.run.session.clock start } (.atGate, t))
    (hfirst : (m.gates.join (call.key settings) index).isFirst index = true) :
    TransGen (Moves settings warehouse index call) m
      ({ m with gates := m.gates.join (call.key settings) index }.pass settings warehouse index call
        t) := by
  unfold pass
  simp only
  have henters := enters settings warehouse call
    ((m.gates.join (call.key settings) index).isLast index) t
  generalize (enter settings warehouse call _).run t = entered at henters
  obtain ⟨progress, u⟩ := entered
  have hgone := entry?_of_arrives harrives
  cases henters with
  | hit journal hentry hfresh =>
    rw [hgone] at hentry
    cases hentry
  | overflow hentry hoverflow =>
    rw [hgone] at hentry
    cases hentry
  | missed journal hstale =>
    exact TransGen.head' (.starting htask harrives hfirst (.missed journal hstale))
      (advance_moves htask (.executing (t.reply warehouse call))
        (t.sent warehouse call (t.store.evict (call.key settings)).countMiss journal)
        (m.gates.join (call.key settings) index))

/-- A call without an outcome moves, unless it waits at a gate that does not let it pass. -/
theorem perform_moves {task : Task} (htask : m.run.tasks[index]? = some task)
    (hpending : ∀ outcome, task.phase ≠ .answered outcome)
    (hturn : ∀ ticket, task.phase = .queued ticket → m.gates.isFirst index = true) :
    TransGen (Moves settings warehouse index task.call) m
      (m.perform settings warehouse index) := by
  unfold perform
  rw [htask]
  obtain ⟨called, phase⟩ := task
  cases phase with
  | answered outcome => exact absurd rfl (hpending outcome)
  | scheduled start =>
    have harrives := arrives settings warehouse called
      { m.run.session with clock := max m.run.session.clock start }
    generalize hrun : (arrive settings warehouse called).run
      { m.run.session with clock := max m.run.session.clock start } = arrived at harrives
    obtain ⟨arrival, t⟩ := arrived
    simp only [hrun]
    cases arrival with
    | moved progress =>
      exact TransGen.head' (.arriving htask harrives) (advance_moves htask progress t m.gates)
    | atGate =>
      simp only
      split
      · next hfirst => exact pass_starts htask harrives hfirst
      · next hwaits => exact .single (.queueing htask harrives (Bool.not_eq_true _ ▸ hwaits))
  | queued ticket =>
    simp only [if_pos (hturn ticket rfl)]
    exact pass_moves htask (hturn ticket rfl)
  | executing reply due =>
    simp only [takeUp]
    have hfinishes := finishes settings called reply (m.gates.isLast index)
      { m.run.session with clock := max m.run.session.clock due }
    generalize (finish settings called reply (m.gates.isLast index)).run
      { m.run.session with clock := max m.run.session.clock due } = ended at hfinishes
    obtain ⟨outcome, t⟩ := ended
    exact .single (.finishing htask hfinishes)

theorem perform_of_waits {ticket : Nat}
    (htask : m.run.tasks[index]? = some ⟨call, .queued ticket⟩)
    (hwaits : m.gates.isFirst index = false) : m.perform settings warehouse index = m := by
  unfold perform
  simp [htask, hwaits]

theorem perform_of_answered {outcome : Outcome}
    (htask : m.run.tasks[index]? = some ⟨call, .answered outcome⟩) :
    m.perform settings warehouse index = m := by
  unfold perform
  simp [htask]

theorem perform_of_none (htask : m.run.tasks[index]? = none) :
    m.perform settings warehouse index = m := by
  unfold perform
  rw [htask]

/-- Running a call changes nothing, or the call moves. -/
theorem perform_cases (settings : Settings) (warehouse : Warehouse σ) (m : Gated σ) (index : Nat) :
    m.perform settings warehouse index = m ∨
      ∃ task, m.run.tasks[index]? = some task ∧
        TransGen (Moves settings warehouse index task.call) m
          (m.perform settings warehouse index) := by
  cases htask : m.run.tasks[index]? with
  | none => exact .inl (perform_of_none htask)
  | some task =>
    obtain ⟨called, phase⟩ := task
    cases phase with
    | answered outcome => exact .inl (perform_of_answered htask)
    | scheduled start => exact .inr ⟨_, rfl, perform_moves htask nofun nofun⟩
    | executing reply due => exact .inr ⟨_, rfl, perform_moves htask nofun nofun⟩
    | queued ticket =>
      cases hfirst : m.gates.isFirst index with
      | false => exact .inl (perform_of_waits htask hfirst)
      | true => exact .inr ⟨_, rfl, perform_moves htask nofun fun _ _ => hfirst⟩

/-- What every move keeps holds after a call has run. -/
theorem perform_invariant {invariant : Gated σ → Prop}
    (hmoves : ∀ (m m' : Gated σ) (call : Call), invariant m →
      Moves settings warehouse index call m m' → invariant m')
    (hm : invariant m) : invariant (m.perform settings warehouse index) := by
  rcases perform_cases settings warehouse m index with hsame | ⟨task, -, htrace⟩
  · rw [hsame]
    exact hm
  · generalize m.perform settings warehouse index = last at htrace
    induction htrace with
    | single hmove => exact hmoves _ _ _ hm hmove
    | tail _ hmove ih => exact hmoves _ _ _ ih hmove

/-- What every move and some interludes keep holds after all events. -/
theorem replay_invariant (invariant : Gated σ → Prop) {events : List Event}
    (hmoves : ∀ (m m' : Gated σ) (index : Nat) (call : Call), invariant m →
      Moves settings warehouse index call m m' → invariant m')
    (hbetween : ∀ (m : Gated σ) (interlude : Interlude), .between interlude ∈ events →
      invariant m → invariant (m.after settings warehouse (.between interlude)))
    (hm : invariant m) : invariant (m.replay settings warehouse events) := by
  induction events generalizing m with
  | nil => exact hm
  | cons event events ih =>
    refine ih (fun m interlude hmem => hbetween m interlude (List.mem_cons_of_mem event hmem)) ?_
    cases event with
    | stage index => exact perform_invariant (fun m m' call => hmoves m m' index call) hm
    | between interlude => exact hbetween m interlude List.mem_cons_self hm

/-- A move changes the phase of its call only, and brings it closer to its outcome. -/
theorem Moves.tasks (h : Moves settings warehouse index call m m') :
    ∃ before after, m.run.tasks[index]? = some ⟨call, before⟩ ∧
      m'.run.tasks = m.run.tasks.modify index (fun task => { task with phase := after }) ∧
      after.rank < before.rank := by
  cases h with
  | @arriving start progress t htask harrives =>
    exact ⟨_, _, htask, rfl, Nat.lt_succ_of_le (Nat.le_succ_of_le (progress.rank_phase_le t))⟩
  | queueing htask harrives hwaits => exact ⟨_, _, htask, rfl, Nat.lt_succ_self 2⟩
  | starting htask harrives hfirst henters => exact ⟨_, _, htask, rfl, Nat.one_lt_succ_succ 1⟩
  | @entering ticket progress t htask hfirst henters =>
    exact ⟨_, _, htask, rfl, Nat.lt_succ_of_le (progress.rank_phase_le t)⟩
  | finishing htask hfinishes => exact ⟨_, _, htask, rfl, Nat.one_pos⟩

end Gated

end DatasetSearch.Cache
