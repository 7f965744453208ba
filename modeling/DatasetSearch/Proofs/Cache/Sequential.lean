import DatasetSearch.Proofs.Cache.Freshness
import DatasetSearch.Proofs.Cache.GateSchedule

/-!
# Single flight without overlap

Where each call ends before the next thing happens, it makes no difference whether calls for one key
wait for one another.  A call that finds nothing opens the gate of its key, finds nothing behind it
either, and closes the gate at its end; what it does in between does not look at the gates.  So the
two runs go through the same sessions, gates included: after every turn there are none.  A call that
nothing overlaps need not count who refers to its gate, either: it is alone there.
-/

namespace DatasetSearch.Cache

variable {σ : Type} {settings : Settings} {warehouse : Warehouse σ} {call : Call}

/-! ### Acts that do not look at the gates -/

/-- The session with other gates. -/
def Session.withGates (s : Session σ) (gates : List String) : Session σ :=
  { s with store := { s.store with gates := gates } }

/-- An act does the same whatever gates there are, and leaves them as they are. -/
def IgnoresGates {α : Type} (act : Act σ α) : Prop :=
  ∀ (s : Session σ) (gates : List String),
    act.run (s.withGates gates) = ((act.run s).1, (act.run s).2.withGates gates)

theorem IgnoresGates.gates_run {α : Type} {act : Act σ α} (h : IgnoresGates act)
    (s : Session σ) : (act.run s).2.store.gates = s.store.gates := by
  have hrun : act.run s = ((act.run s).1, (act.run s).2.withGates s.store.gates) :=
    h s s.store.gates
  rw [hrun]
  rfl

theorem ignoresGates_missed (warehouse : Warehouse σ) (key : String) (statement : Statement) :
    IgnoresGates (missed warehouse key statement) := fun _ _ => rfl

theorem ignoresGates_conclude (settings : Settings) (call : Call) (reply : Reply) :
    IgnoresGates (σ := σ) (conclude settings call reply) := by
  intro s gates
  cases houtcome : reply.outcome with
  | error causes =>
    rw [run_conclude_of_error houtcome, run_conclude_of_error houtcome]
  | ok rows =>
    unfold conclude
    simp only [houtcome, StateT.run_bind, StateT.run_get, pure_bind]
    split <;> rfl

/-! ### The stages of one call -/

/-- The same settings, with calls for one key waiting for one another or every call for itself. -/
def Settings.sharing (settings : Settings) (shared : Bool) : Settings :=
  { settings with singleFlight := shared }

theorem peek_of_none {s : Session σ} {key : String} (h : s.store.entry? key = none) :
    (peek key).run s = (.ok none, s) := by
  unfold peek
  simp only [StateT.run_bind, StateT.run_get, pure_bind, h]
  rfl

theorem run_fetch_of_moved {s t : Session σ} {progress : Progress}
    (harrive : (arrive settings warehouse call).run s = (.moved progress, t)) :
    (fetch settings warehouse call).run s = (settle settings call progress).run t := by
  rw [fetch_eq, StateT.run_bind, harrive]
  rfl

theorem run_fetch_of_atGate {s t u : Session σ} {progress : Progress}
    (harrive : (arrive settings warehouse call).run s = (.atGate, t))
    (henter : (enter settings warehouse call true).run t = (progress, u)) :
    (fetch settings warehouse call).run s = (settle settings call progress).run u := by
  rw [fetch_eq, StateT.run_bind, harrive]
  change (enter settings warehouse call true >>= settle settings call).run t = _
  rw [StateT.run_bind, henter]
  rfl

theorem run_arrive_of_bypass (settings : Settings) (warehouse : Warehouse σ)
    (hbypass : call.bypass = true) (s : Session σ) :
    ∃ t, ∀ shared, (arrive (settings.sharing shared) warehouse call).run s =
      (.moved (.executing (s.reply warehouse call)), t) := by
  refine ⟨((arrive (settings.sharing false) warehouse call).run s).2, ?_⟩
  intro shared
  unfold arrive
  simp only [hbypass, if_true]
  rfl

/-- A call that finds an entry on arrival, be it fresh or not to be told, is answered. -/
theorem run_arrive_of_found (warehouse : Warehouse σ) (hbypass : call.bypass = false)
    {s t : Session σ} {found : Except CallError (Option QueryResult)}
    (hpeek : (peek (call.key settings)).run s = (found, t)) (hfound : found ≠ .ok none) :
    ∃ outcome u, ∀ shared, (arrive (settings.sharing shared) warehouse call).run s =
      (.moved (.answered outcome), u) := by
  have hpeek' : ∀ shared, (peek (call.key (settings.sharing shared))).run s = (found, t) :=
    fun _ => hpeek
  match found, hfound with
  | .error error, _ =>
    refine ⟨.error error, t, fun shared => ?_⟩
    unfold arrive
    simp only [hbypass, Bool.false_eq_true, if_false, StateT.run_bind, hpeek']
    rfl
  | .ok (some value), _ =>
    refine ⟨.ok { value with cached := true },
      ((recordHit (call.key settings) value).run t).2, fun shared => ?_⟩
    unfold arrive
    simp only [hbypass, Bool.false_eq_true, if_false, StateT.run_bind, hpeek']
    rfl

/-- A call that finds nothing executes, unless it has to pass the gate of its key. -/
theorem run_arrive_of_nothing (warehouse : Warehouse σ) (hbypass : call.bypass = false)
    {s t : Session σ} (hpeek : (peek (call.key settings)).run s = (.ok none, t)) :
    (arrive (settings.sharing true) warehouse call).run s =
        (.atGate, { t with store := t.store.openGate (call.key settings) }) ∧
      (arrive (settings.sharing false) warehouse call).run s =
        (.moved (.executing (t.reply warehouse call)),
          ((missed warehouse (call.key settings) call.statement).run t).2) := by
  have hpeek' : ∀ shared, (peek (call.key (settings.sharing shared))).run s = (.ok none, t) :=
    fun _ => hpeek
  constructor
  · unfold arrive
    simp only [hbypass, Bool.false_eq_true, if_false, StateT.run_bind, hpeek']
    rfl
  · unfold arrive
    simp only [hbypass, Bool.false_eq_true, if_false, StateT.run_bind, hpeek']
    rfl

/-- Behind the gate a call for whose key there is no entry executes. -/
theorem run_enter_of_none (warehouse : Warehouse σ) {s : Session σ}
    (h : s.store.entry? (call.key settings) = none) (alone : Bool) :
    (enter settings warehouse call alone).run s =
      (missed warehouse (call.key settings) call.statement).run s := by
  unfold enter
  rw [StateT.run_bind, peek_of_none h]
  rfl

/-! ### The end of one call -/

theorem finish_of_not_gated (hgated : call.isGated settings = false) (reply : Reply)
    (alone : Bool) :
    finish (σ := σ) settings call reply alone = conclude settings call reply := by
  unfold finish
  simp [hgated]

theorem settle_of_bypass (hbypass : call.bypass = true) (shared : Bool) (progress : Progress) :
    settle (σ := σ) (settings.sharing shared) call progress = settle settings call progress := by
  have hgated : ∀ settings, call.isGated settings = false := by simp [Call.isGated, hbypass]
  cases progress with
  | answered outcome => rfl
  | executing reply =>
    simp only [settle, finish_of_not_gated (hgated _)]
    rfl

/-- When a call leaves the only gate there is, no gate is left. -/
theorem released_withGates (hgated : call.isGated settings = true) {t : Session σ}
    (hgates : t.store.gates = []) :
    { t with
      store := (t.withGates [call.key settings]).store.released settings call true } = t := by
  have hstore : (t.withGates [call.key settings]).store.released settings call true =
      { t.store with gates := [] } := by
    unfold Store.released Store.leaveGate
    simp [hgated, Session.withGates]
  rw [hstore, ← hgates]

/-- A call that opened the gate of its key closes it, and ends as it would without. -/
theorem run_settle_sharing (hbypass : call.bypass = false) {s : Session σ}
    (hgates : s.store.gates = []) (reply : Reply) :
    (settle (settings.sharing true) call (.executing reply)).run
        (s.withGates [call.key settings]) =
      (settle (settings.sharing false) call (.executing reply)).run s := by
  have hplain : call.isGated (settings.sharing false) = false := rfl
  have hgated : call.isGated (settings.sharing true) = true := by
    simp [Call.isGated, hbypass, Settings.sharing]
  rw [settle_executing, settle_executing, finish_of_not_gated hplain]
  let due : Session σ := { s with clock := s.clock + reply.delayMs }
  have hignores := ignoresGates_conclude (σ := σ) settings call reply
  have hleft : ((conclude settings call reply).run due).2.store.gates = [] :=
    (hignores.gates_run due).trans hgates
  have hfinish : (finish (settings.sharing true) call reply true).run
      (due.withGates [call.key settings]) = _ :=
    run_finish (hignores due [call.key settings])
  exact hfinish.trans (Prod.ext rfl (released_withGates hgated hleft))

/-! ### One call -/

/-- A call that nothing overlaps does the same whether calls wait for one another or not. -/
theorem run_fetch_sharing (settings : Settings) (warehouse : Warehouse σ) (call : Call)
    {s : Session σ} (hgates : s.store.gates = []) :
    (fetch (settings.sharing true) warehouse call).run s =
      (fetch (settings.sharing false) warehouse call).run s := by
  cases hbypass : call.bypass with
  | true =>
    obtain ⟨t, harrive⟩ := run_arrive_of_bypass settings warehouse hbypass s
    rw [run_fetch_of_moved (harrive true), run_fetch_of_moved (harrive false),
      settle_of_bypass hbypass, settle_of_bypass hbypass]
  | false =>
    have hfinds := finds_peek s (call.key settings)
    generalize hpeek : (peek (call.key settings)).run s = found at hfinds
    have hanswered : ∀ found t, (peek (call.key settings)).run s = (found, t) → found ≠ .ok none →
        (fetch (settings.sharing true) warehouse call).run s =
          (fetch (settings.sharing false) warehouse call).run s := by
      intro found t hpeek hfound
      obtain ⟨outcome, u, harrive⟩ := run_arrive_of_found warehouse hbypass hpeek hfound
      rw [run_fetch_of_moved (harrive true), run_fetch_of_moved (harrive false)]
      rfl
    cases hfinds with
    | fresh hentry hfresh => exact hanswered _ _ hpeek nofun
    | overflow hentry hoverflow => exact hanswered _ _ hpeek nofun
    | nothing journal hstale =>
      let t : Session σ :=
        { s with store := s.store.evict (call.key settings), journal := journal }
      let inside := t.withGates [call.key settings]
      have hgone : inside.store.entry? (call.key (settings.sharing true)) = none :=
        s.store.entry?_evict_self _
      have hopen : { t with store := t.store.openGate (call.key settings) } = inside := by
        have hnone : t.store.gates = [] := hgates
        simp [inside, Session.withGates, Store.openGate, hnone]
      obtain ⟨harrive, hmoved⟩ := run_arrive_of_nothing warehouse hbypass hpeek
      rw [hopen] at harrive
      have henter := (run_enter_of_none warehouse hgone true).trans
        (ignoresGates_missed warehouse (call.key settings) call.statement t _)
      have hleft :
          ((missed warehouse (call.key settings) call.statement).run t).2.store.gates = [] := hgates
      rw [run_fetch_of_atGate harrive henter, run_fetch_of_moved hmoved]
      exact run_settle_sharing hbypass hleft (t.reply warehouse call)

theorem gates_refreshed (store : Store) (settings : Settings) (call : Call)
    (entry : Option Entry) (h : store.gates = []) :
    (store.refreshed settings call entry).gates = [] := by
  unfold Store.refreshed
  simp [h]

/-- A call that nothing overlaps leaves no gate where there was none. -/
theorem gates_run_fetch (settings : Settings) (warehouse : Warehouse σ) (call : Call)
    {s : Session σ} (h : s.store.gates = []) :
    ((fetch settings warehouse call).run s).2.store.gates = [] := by
  have hfetches := fetches settings warehouse call s
  generalize (fetch settings warehouse call).run s = fetched at hfetches
  cases hfetches with
  | bypassed journal hbypass => exact h
  | hit journal hbypass hentry hfresh => exact h
  | overflow hbypass hentry hoverflow => exact h
  | missed journal hbypass hstale => exact gates_refreshed s.store settings call _ h

/-! ### One call at its gate -/

namespace Run

/-- A call in progress that no other call overlaps. -/
def single (s : Session σ) (call : Call) (phase : Phase) : Run σ := ⟨s, [⟨call, phase⟩], 0⟩

theorem stages_single_answered (settings : Settings) (warehouse : Warehouse σ) (s : Session σ)
    (call : Call) (outcome : Outcome) (count : Nat) :
    (single s call (.answered outcome)).stages settings warehouse count =
      single s call (.answered outcome) := by
  cases count <;> rfl

theorem perform_single_executing {t u : Session σ} {reply : Reply} {outcome : Outcome}
    (hsettle : (settle settings call (.executing reply)).run t = (outcome, u)) :
    (single t call (.executing reply (t.clock + reply.delayMs))).perform settings warehouse 0 =
      single u call (.answered outcome) := by
  have hfinish : (finish settings call reply true).run
      { t with clock := max t.clock (t.clock + reply.delayMs) } = (outcome, u) := by
    rw [Nat.max_eq_right (Nat.le_add_right _ _)]
    exact hsettle
  exact congrArg (fun ended => single ended.2 call (.answered ended.1)) hfinish

/-- What is left of a call after it has moved takes one more stage at most. -/
theorem stages_advance_single {s t u : Session σ} {phase : Phase} {progress : Progress}
    {outcome : Outcome} (hsettle : (settle settings call progress).run t = (outcome, u))
    (count : Nat) :
    ((single s call phase).advance settings 0 call progress t).stages settings warehouse
      (count + 1) = single u call (.answered outcome) := by
  cases progress with
  | answered result =>
    cases hsettle
    exact stages_single_answered settings warehouse t call outcome (count + 1)
  | executing reply =>
    by_cases hdelay : reply.delayMs = 0
    · have hfinish : (finish settings call reply true).run t = (outcome, u) := by
        rw [settle_executing, hdelay] at hsettle
        exact hsettle
      have hadvance : (single s call phase).advance settings 0 call (.executing reply) t =
          single u call (.answered outcome) := by
        have hmoved := congrArg (fun ended => single ended.2 call (.answered ended.1)) hfinish
        simp only [advance, if_pos hdelay]
        exact hmoved
      rw [hadvance]
      exact stages_single_answered settings warehouse u call outcome (count + 1)
    · have hadvance : (single s call phase).advance settings 0 call (.executing reply) t =
          single t call (.executing reply (t.clock + reply.delayMs)) := by
        simp only [advance, if_neg hdelay]
        rfl
      rw [hadvance]
      change ((single t call (.executing reply (t.clock + reply.delayMs))).perform settings
        warehouse 0).stages settings warehouse count = _
      rw [perform_single_executing hsettle]
      exact stages_single_answered settings warehouse u call outcome count

/-- A call that is alone passes its gate at once. -/
theorem perform_single_scheduled (settings : Settings) (warehouse : Warehouse σ) (call : Call)
    {s : Session σ} {start : Nat} (hstart : s.clock ≤ start) :
    let scheduled := single s call (.scheduled start)
    ∃ progress t, scheduled.perform settings warehouse 0 =
        scheduled.advance settings 0 call progress t ∧
      (settle settings call progress).run t =
        (fetch settings warehouse call).run { s with clock := start } := by
  intro scheduled
  have hclock : max s.clock start = start := Nat.max_eq_right hstart
  cases harrive : (arrive settings warehouse call).run { s with clock := start } with
  | mk arrival t =>
    cases arrival with
    | moved progress =>
      refine ⟨progress, t, ?_, (run_fetch_of_moved harrive).symm⟩
      simp only [perform, scheduled, single, List.getElem?_cons_zero, hclock, harrive]
    | atGate =>
      cases henter : (enter settings warehouse call true).run t with
      | mk progress u =>
        have halone : scheduled.alone settings 0 (call.key settings) = true := rfl
        refine ⟨progress, u, ?_, (run_fetch_of_atGate harrive henter).symm⟩
        simp only [perform, scheduled, single, List.getElem?_cons_zero, hclock, harrive]
        change scheduled.pass settings warehouse 0 call t = _
        simp only [pass, halone, henter]
        rfl

theorem complete_start_singleton (settings : Settings) (warehouse : Warehouse σ) (call : Call)
    (start : Nat) (s : Session σ) :
    let fetched := (fetch settings warehouse call).run { s with clock := s.clock + start }
    (Run.start s [(call, start)]).complete settings warehouse =
      single fetched.2 call (.answered fetched.1) := by
  intro fetched
  obtain ⟨progress, t, hperform, hsettle⟩ := perform_single_scheduled settings warehouse call
    (Nat.le_add_right s.clock start)
  change ((single s call (.scheduled (s.clock + start))).perform settings warehouse 0).stages
    settings warehouse 2 = _
  rw [hperform]
  exact stages_advance_single hsettle 1

end Run

/-- Where nothing overlaps a call, the schedule leaves it to itself. -/
theorem fetchAll_singleton (settings : Settings) (warehouse : Warehouse σ) (call : Call)
    (start : Nat) (s : Session σ) :
    let fetched := (fetch settings warehouse call).run { s with clock := s.clock + start }
    (fetchAll settings warehouse [(call, start)]).run s = ([some fetched.1], fetched.2) := by
  intro fetched
  have hrun := Run.complete_start_singleton settings warehouse call start s
  exact congrArg (fun r => (r.outcomes, r.session)) hrun

/-- `fetch` takes it for granted that a call which nothing overlaps is alone at its gate.  Counting
references comes to the same: the gates that are noted afterwards are those in flight, and none is
if none was. -/
theorem run_fetch_eq_gated (settings : Settings) (warehouse : Warehouse σ) (call : Call)
    (s : Session σ) :
    let m := (Gated.start s [(call, 0)]).replay settings warehouse
      ((Run.start s [(call, 0)]).remaining settings warehouse)
    let fetched := (fetch settings warehouse call).run s
    m.run.outcomes = [some fetched.1] ∧ m.run.session = fetched.2 ∧
      fetched.2.store.gates = m.gates.inFlight.map Prod.fst ∧
      (s.store.gates = [] → m.gates.inFlight = []) := by
  intro m fetched
  have hcounted : (fetchAll settings warehouse [(call, 0)]).run s =
      (m.run.outcomes, m.run.session) := fetchAll_eq settings warehouse [(call, 0)] s
  rw [fetchAll_singleton] at hcounted
  obtain ⟨houtcomes, hsession⟩ := Prod.mk.inj hcounted
  have horderly : m.IsOrderly settings :=
    (Gated.isOrderly_start settings s [(call, 0)]).replay warehouse _
  have hnoted : fetched.2.store.gates = m.gates.inFlight.map Prod.fst := by
    rw [← horderly.noted, ← hsession]
    rfl
  refine ⟨houtcomes.symm, hsession.symm, hnoted, ?_⟩
  intro hgates
  rw [gates_run_fetch settings warehouse call hgates] at hnoted
  exact List.map_eq_nil_iff.mp hnoted.symm

/-! ### Runs -/

/-- What a turn yields. -/
inductive Yield where
  | outcome (outcome : Outcome)
  /-- The number that an interlude reports. -/
  | count (number : Except CallError Nat)

def Turn.run (settings : Settings) (warehouse : Warehouse σ) : Turn → Act σ Yield
  | .get call => return .outcome (← fetch settings warehouse call)
  | .between interlude => return .count (← interlude.run)

/-- What the turns of a run yield, each with the session after it. -/
def course (settings : Settings) (warehouse : Warehouse σ) :
    Session σ → List Turn → List (Yield × Session σ)
  | _, [] => []
  | s, turn :: turns =>
    let after := (turn.run settings warehouse).run s
    after :: course settings warehouse after.2 turns

theorem Turn.run_sharing (settings : Settings) (warehouse : Warehouse σ) (turn : Turn)
    {s : Session σ} (hgates : s.store.gates = []) :
    (turn.run (settings.sharing true) warehouse).run s =
        (turn.run (settings.sharing false) warehouse).run s ∧
      ((turn.run (settings.sharing true) warehouse).run s).2.store.gates = [] := by
  cases turn with
  | get call =>
    have hsame := run_fetch_sharing settings warehouse call hgates
    have hleft := gates_run_fetch (settings.sharing true) warehouse call hgates
    refine ⟨?_, hleft⟩
    unfold Turn.run
    rw [StateT.run_bind, StateT.run_bind, hsame]
  | between interlude =>
    refine ⟨rfl, ?_⟩
    obtain ⟨keep, clock, journal, hrun, -⟩ := interlude.run_eq s
    change (interlude.run.run s).2.store.gates = []
    rw [hrun]
    exact hgates

theorem course_of_gates (settings : Settings) (warehouse : Warehouse σ) (turns : List Turn)
    {s : Session σ} (hgates : s.store.gates = []) :
    course (settings.sharing true) warehouse s turns =
        course (settings.sharing false) warehouse s turns ∧
      ∀ after ∈ course (settings.sharing true) warehouse s turns, after.2.store.gates = [] := by
  induction turns generalizing s with
  | nil => exact ⟨rfl, nofun⟩
  | cons turn turns ih =>
    obtain ⟨hsame, hleft⟩ := turn.run_sharing settings warehouse hgates
    obtain ⟨hrest, hnone⟩ := ih hleft
    unfold course
    constructor
    · simp only
      rw [hrest, hsame]
    · intro after hafter
      rcases List.mem_cons.mp hafter with rfl | hlater
      · exact hleft
      · exact hnone after hlater

/-- Where nothing overlaps, single flight is not to be observed: every turn yields the same and
leaves the same session, with the same statements sent, entries, counters, time and events; and
after every turn no gate exists. -/
theorem course_sharing (settings : Settings) (warehouse : Warehouse σ) (state : σ)
    (turns : List Turn) :
    let run := fun shared => course (settings.sharing shared) warehouse (.start state) turns
    run true = run false ∧ ∀ after ∈ run true, after.2.store.gates = [] :=
  course_of_gates settings warehouse turns rfl

end DatasetSearch.Cache
