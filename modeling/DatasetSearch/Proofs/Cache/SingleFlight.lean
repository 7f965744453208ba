import DatasetSearch.Proofs.Cache.Waiting

/-!
# One execution for a key at a time

Where calls for a key wait for one another, one of them at most executes.  If its execution yields
rows, those that waited are answered with these rows while they are fresh; if it fails or yields no
rows, the next in line executes.  Both follow from what the end of an execution leaves behind and
from what a call can count on while it waits.
-/

namespace DatasetSearch.Cache

open Relation

variable {σ : Type} {settings : Settings} {warehouse : Warehouse σ} {call : Call} {index : Nat}
  {key : String}

namespace Gated

variable {m m' : Gated σ}

/-! ### The end of an execution -/

/-- Whether an execution failed or found no rows. -/
def isFruitless : Outcome → Bool
  | .ok result => !result.cached && result.rows.isEmpty
  | .error (.execution _) => true
  | .error .expiryOverflow => false

theorem IsOrderly.stages (hm : m.IsOrderly settings)
    (h : ReflTransGen (Moves settings warehouse index call) m m') : m'.IsOrderly settings := by
  induction h with
  | refl => exact hm
  | tail _ hmove ih => exact ih.moves hmove

theorem getElem?_of_stages (h : ReflTransGen (Moves settings warehouse index call) m m') {i : Nat}
    (hne : i ≠ index) : m'.run.tasks[i]? = m.run.tasks[i]? := by
  induction h with
  | refl => rfl
  | tail _ hmove ih => exact (hmove.getElem?_of_ne hne).trans ih

/-- A call that is answered, and not from the cache, has taken up the reply to its statement. -/
theorem exists_finishing {before : Phase} {outcome : Outcome}
    (htask : m.run.tasks[index]? = some ⟨call, before⟩)
    (hpending : ∀ outcome, before ≠ .answered outcome)
    (hanswered : (m.perform settings warehouse index).run.tasks[index]? =
      some ⟨call, .answered outcome⟩)
    (hcached : isCached outcome = false) (hlimit : outcome ≠ .error .expiryOverflow) :
    ∃ (m' : Gated σ) (reply : Reply) (due : Nat) (t : Session σ),
      ReflTransGen (Moves settings warehouse index call) m m' ∧
      m'.run.tasks[index]? = some ⟨call, .executing reply due⟩ ∧
      Finishes settings call reply (m'.gates.isLast index)
        { m'.run.session with clock := max m'.run.session.clock due } (outcome, t) ∧
      m.perform settings warehouse index =
        ⟨m'.run.move index t (.answered outcome), m'.gates.finished settings call index⟩ := by
  rcases perform_cases settings warehouse m index with hsame | ⟨task, htask', htrace⟩
  · rw [hsame, htask] at hanswered
    cases hanswered
    exact absurd rfl (hpending outcome)
  rw [htask] at htask'
  cases htask'
  obtain ⟨m', hstages, hlast⟩ := TransGen.tail'_iff.mp htrace
  generalize m.perform settings warehouse index = last at hanswered hlast ⊢
  cases hlast with
  | arriving hold harrives =>
    rw [getElem?_move_self hold] at hanswered
    cases harrives with
    | bypassed journal hbypass => cases hanswered
    | hit journal hbypass hentry hfresh =>
      cases hanswered
      cases hcached
    | overflow hbypass hentry hoverflow =>
      cases hanswered
      exact absurd rfl hlimit
    | missed journal hbypass hsingle hstale => cases hanswered
  | @queueing start t hold harrives hwaits =>
    rw [show _ = _ from getElem?_move_self hold t (.queued m'.run.ticket)] at hanswered
    cases hanswered
  | starting hold harrives hfirst henters =>
    rw [getElem?_move_self hold] at hanswered
    cases hanswered
  | entering hold hfirst henters =>
    rw [getElem?_move_self hold] at hanswered
    cases henters with
    | hit journal hentry hfresh =>
      cases hanswered
      cases hcached
    | overflow hentry hoverflow =>
      cases hanswered
      exact absurd rfl hlimit
    | missed journal hstale => cases hanswered
  | @finishing reply due _ t hold hfinishes =>
    rw [getElem?_move_self hold] at hanswered
    cases hanswered
    exact ⟨m', reply, due, t, hstages, hold, hfinishes, rfl⟩

/-- When the execution for a key has ended, nobody executes for it. -/
theorem isFree_of_finishing {reply : Reply} {due : Nat} (hm : m.IsOrderly settings)
    (htask : m.run.tasks[index]? = some ⟨call, .executing reply due⟩)
    (hgated : call.isGated settings = true) (t : Session σ) (outcome : Outcome) (gates : Gates) :
    (⟨m.run.move index t (.answered outcome), gates⟩ : Gated σ).IsFree settings
      (call.key settings) := by
  intro task hmem
  obtain ⟨i, hi⟩ := List.mem_iff_getElem?.mp hmem
  by_cases heq : i = index
  · subst heq
    rw [getElem?_move_self htask] at hi
    cases hi
    rfl
  · rw [getElem?_move_of_ne m.run heq] at hi
    by_contra hholds
    rw [Bool.not_eq_false] at hholds
    exact heq (hm.eq_of_holds hi htask hholds (by simp [Task.holds, hgated]))

/-! ### Single flight -/

/-- A call waits for another that came to the gate before it and has not left. -/
def Awaits (m : Gated σ) (i j : Nat) : Prop := ∃ gate, [j, i].Sublist (m.gates.line gate)

/-- When it runs next, a call that uses the cache takes up the reply to its statement, and this is
what it yields. -/
structure Ends (settings : Settings) (warehouse : Warehouse σ) (m : Gated σ) (index : Nat)
    (call : Call) (outcome : Outcome) : Prop where
  pending : ∃ phase, m.run.tasks[index]? = some ⟨call, phase⟩ ∧
    ∀ outcome, phase ≠ .answered outcome
  uses : call.bypass = false
  answered : (m.perform settings warehouse index).run.tasks[index]? =
    some ⟨call, .answered outcome⟩
  executed : isCached outcome = false ∧ outcome ≠ .error .expiryOverflow

structure IsSingleFlight (settings : Settings) (warehouse : Warehouse σ) (m : Gated σ) : Prop where
  /-- One call at most executes for a key. -/
  exclusive : ∀ (i j : Nat) (task other : Task) (key : String), m.run.tasks[i]? = some task →
    m.run.tasks[j]? = some other → task.holds settings key = true →
    other.holds settings key = true → i = j
  /-- A call waits only for calls with its key. -/
  separate : ∀ i j, m.Awaits i j → ∃ task other, m.run.tasks[i]? = some task ∧
    m.run.tasks[j]? = some other ∧ task.call.key settings = other.call.key settings
  /-- A call that waits for no other moves on. -/
  moves : ∀ (i : Nat) (task : Task), m.run.tasks[i]? = some task →
    (∀ outcome, task.phase ≠ .answered outcome) → (∀ j, ¬m.Awaits i j) →
    ∃ phase, (m.perform settings warehouse i).run.tasks[i]? = some ⟨task.call, phase⟩ ∧
      phase.rank < task.phase.rank
  /-- Who waited when an execution for its key ended with rows is answered with these rows, and
  executes nothing, if it resumes before they expire and they are not invalidated. -/
  collapses : ∀ (i : Nat) (call : Call) (result : QueryResult),
    m.Ends settings warehouse i call (.ok result) → result.rows ≠ [] →
    ∀ (j : Nat) (waiting : Task), m.run.tasks[j]? = some waiting →
    waiting.awaits settings (call.key settings) = true →
    ∀ events : List Event,
    (∀ interlude, .between interlude ∈ events → ¬interlude.Invalidates (call.key settings)) →
    let ended := m.perform settings warehouse i
    let later := ended.replay settings warehouse events
    later.run.tasks[j]? = some waiting → later.gates.isFirst j = true →
    Entry.freshness ⟨result, ended.run.session.clock, call.lifetime settings⟩
      later.run.session.clock = .fresh →
    let resumed := later.perform settings warehouse j
    resumed.run.tasks[j]? =
        some ⟨waiting.call, .answered (.ok { result with cached := true })⟩ ∧
      resumed.run.session.statements = later.run.session.statements ∧
      resumed.run.session.warehouse = later.run.session.warehouse
  /-- When an execution for a key failed or found no rows, whoever came first of those that waited
  then is let pass and executes; until then nobody executes for the key and the others wait on. -/
  proceeds : ∀ (i : Nat) (call : Call) (outcome : Outcome),
    m.Ends settings warehouse i call outcome → isFruitless outcome = true →
    ∀ (j : Nat) (next : Call) (ticket : Nat), j ≠ i →
    m.run.tasks[j]? = some ⟨next, .queued ticket⟩ → next.key settings = call.key settings →
    (∀ (k : Nat) (other : Call) (later : Nat), k ≠ i →
      m.run.tasks[k]? = some ⟨other, .queued later⟩ →
      other.key settings = call.key settings → ticket ≤ later) →
    ∀ events : List Event,
    let later := (m.perform settings warehouse i).replay settings warehouse events
    later.run.tasks[j]? = some ⟨next, .queued ticket⟩ →
    later.gates.isFirst j = true ∧ later.IsFree settings (call.key settings) ∧
      (∀ (k : Nat) (task : Task), k ≠ i → m.run.tasks[k]? = some task →
        task.awaits settings (call.key settings) = true → later.run.tasks[k]? = some task) ∧
      (later.perform settings warehouse j).run.session.statements =
        later.run.session.statements ++ [next.statement]

theorem IsOrderly.separate (hm : m.IsOrderly settings) {i j : Nat} (h : m.Awaits i j) :
    ∃ task other, m.run.tasks[i]? = some task ∧ m.run.tasks[j]? = some other ∧
      task.call.key settings = other.call.key settings := by
  obtain ⟨gate, hline⟩ := h
  have hj := Gates.mem_line.mp (hline.subset (a := j) (by simp))
  have hi := Gates.mem_line.mp (hline.subset (a := i) (by simp))
  obtain ⟨key, hkey⟩ := hm.sound.current _ hj
  obtain ⟨task, htask, hkey'⟩ := (hm.lines key i).mp (Gates.mem_lineOf_of_mem_refs hkey hi)
  obtain ⟨other, hother, hkey''⟩ := (hm.lines key j).mp (Gates.mem_lineOf_of_mem_refs hkey hj)
  exact ⟨task, other, htask, hother,
    (Task.key_of_key? hkey').trans (Task.key_of_key? hkey'').symm⟩

theorem IsOrderly.isFirst_of_not_awaits (hm : m.IsOrderly settings) {ticket : Nat}
    (htask : m.run.tasks[index]? = some ⟨call, .queued ticket⟩) (h : ∀ j, ¬m.Awaits index j) :
    m.gates.isFirst index = true := by
  have hmem : index ∈ m.gates.lineOf (call.key settings) := (hm.lines _ index).mpr ⟨_, htask, rfl⟩
  rw [Gates.isFirst_iff hm.sound hmem]
  obtain ⟨gate, hgate, -⟩ := Gates.exists_gate_of_mem hmem
  obtain ⟨front, behind, hline⟩ := List.append_of_mem hmem
  cases front with
  | nil => rw [hline, List.nil_append, List.head?_cons]
  | cons first front =>
    refine absurd ⟨gate, ?_⟩ (h first)
    rw [← Gates.lineOf_eq hgate, hline, List.cons_append]
    exact (List.singleton_sublist.mpr (by simp)).cons_cons first

theorem rank_lt_of_stages (h : TransGen (Moves settings warehouse index call) m m') {before : Phase}
    (htask : m.run.tasks[index]? = some ⟨call, before⟩) :
    ∃ after, m'.run.tasks[index]? = some ⟨call, after⟩ ∧ after.rank < before.rank := by
  have hmove : ∀ {m m' : Gated σ} {before : Phase}, Moves settings warehouse index call m m' →
      m.run.tasks[index]? = some ⟨call, before⟩ →
      ∃ after, m'.run.tasks[index]? = some ⟨call, after⟩ ∧ after.rank < before.rank := by
    intro m m' before hmove htask
    obtain ⟨old, after, hold, htasks, hrank⟩ := hmove.tasks
    rw [htask] at hold
    cases hold
    exact ⟨after, by simp [htasks, htask], hrank⟩
  induction h with
  | single hlast => exact hmove hlast htask
  | tail _ hlast ih =>
    obtain ⟨middle, hmiddle, hless⟩ := ih
    obtain ⟨after, hafter, hrank⟩ := hmove hlast hmiddle
    exact ⟨after, hafter, Nat.lt_trans hrank hless⟩

theorem IsOrderly.advances (hm : m.IsOrderly settings) (warehouse : Warehouse σ) {task : Task}
    (htask : m.run.tasks[index]? = some task)
    (hpending : ∀ outcome, task.phase ≠ .answered outcome) (h : ∀ j, ¬m.Awaits index j) :
    ∃ phase, (m.perform settings warehouse index).run.tasks[index]? = some ⟨task.call, phase⟩ ∧
      phase.rank < task.phase.rank := by
  refine rank_lt_of_stages (perform_moves htask hpending ?_) htask
  intro ticket hphase
  exact hm.isFirst_of_not_awaits (htask.trans (by rw [← hphase])) h

/-- What an execution that ends with rows leaves is served. -/
theorem Ends.serves {result : QueryResult} (hsingle : settings.singleFlight = true)
    (hm : m.IsOrderly settings) (h : m.Ends settings warehouse index call (.ok result))
    (hrows : result.rows ≠ []) :
    (m.perform settings warehouse index).Serves settings (call.key settings)
      ⟨result, (m.perform settings warehouse index).run.session.clock, call.lifetime settings⟩ := by
  obtain ⟨before, htask, hpending⟩ := h.pending
  obtain ⟨m', reply, due, t, hstages, hexecuting, hfinishes, heq⟩ :=
    exists_finishing htask hpending h.answered h.executed.1 h.executed.2
  have hgated : call.isGated settings = true := by simp [Call.isGated, hsingle, h.uses]
  rw [heq]
  refine ⟨?_, isFree_of_finishing (hm.stages hstages) hexecuting hgated t _ _⟩
  change t.store.entry? (call.key settings) = some ⟨result, t.clock, call.lifetime settings⟩
  cases hfinishes with
  | stored journal houtcome hbypass _ =>
    exact (Store.entry?_congr (Store.entries_released _ _ _ _) _).trans List.lookup_cons_self
  | unstored journal houtcome hreason =>
    rcases hreason with hbypass | hnone
    · rw [h.uses] at hbypass
      cases hbypass
    · exact absurd hnone hrows

/-- After an execution without rows the next call is who came first of those that waited. -/
theorem Ends.isNext {outcome : Outcome} {next : Call} {j ticket : Nat}
    (hsingle : settings.singleFlight = true) (hm : m.IsOrderly settings)
    (h : m.Ends settings warehouse index call outcome) (hfruitless : isFruitless outcome = true)
    (hj : j ≠ index) (hnext : m.run.tasks[j]? = some ⟨next, .queued ticket⟩)
    (hkey : next.key settings = call.key settings)
    (hearliest : ∀ (k : Nat) (other : Call) (later : Nat), k ≠ index →
      m.run.tasks[k]? = some ⟨other, .queued later⟩ →
      other.key settings = call.key settings → ticket ≤ later) :
    (m.perform settings warehouse index).IsNext settings (call.key settings) j := by
  obtain ⟨before, htask, hpending⟩ := h.pending
  obtain ⟨m', reply, due, t, hstages, hexecuting, hfinishes, heq⟩ :=
    exists_finishing htask hpending h.answered h.executed.1 h.executed.2
  have hgated : call.isGated settings = true := by simp [Call.isGated, hsingle, h.uses]
  have hm' := hm.stages hstages
  have hholds : Task.holds settings (call.key settings) ⟨call, .executing reply due⟩ = true := by
    simp [Task.holds, hgated]
  obtain ⟨rest, hline⟩ := hm'.head_of_holds hexecuting hholds
  have hothers : ∀ k, k ≠ index → m'.run.tasks[k]? = m.run.tasks[k]? :=
    fun k hk => getElem?_of_stages hstages hk
  rw [heq]
  refine ⟨?_, isFree_of_finishing hm' hexecuting hgated t _ _, ?_⟩
  · change t.store.entry? (call.key settings) = none
    have hvacant := hm'.vacant _ _ _ hexecuting hholds
    cases hfinishes with
    | failed houtcome =>
      exact (Store.entry?_congr (Store.entries_released _ _ _ _) _).trans hvacant
    | stored journal houtcome hbypass hrows =>
      simp [isFruitless, QueryResult.ofRows, hrows] at hfruitless
    | unstored journal houtcome hreason =>
      exact (Store.entry?_congr (Store.entries_released _ _ _ _) _).trans hvacant
  · have hleft : (m'.gates.finished settings call index).lineOf (call.key settings) = rest := by
      have hnodup := Gates.nodup_lineOf hm'.sound (call.key settings)
      rw [hline] at hnodup
      rw [Gates.finished, if_pos hgated, Gates.lineOf_leave hm'.sound (by simp [hline]), hline,
        List.filter_cons_of_neg (by simp), Gates.filter_of_notMem (List.nodup_cons.mp hnodup).1]
    have hmem : j ∈ rest := by
      have hwaits : j ∈ m'.gates.lineOf (call.key settings) :=
        (hm'.lines _ j).mpr ⟨_, (hothers j hj).trans hnext, by simp [Task.key?, hkey]⟩
      rw [hline] at hwaits
      exact (List.mem_cons.mp hwaits).resolve_left hj
    have hpairs := hm'.inOrder (call.key settings)
    rw [hline, List.pairwise_cons] at hpairs
    obtain ⟨first, behind, rfl⟩ := List.exists_cons_of_ne_nil (List.ne_nil_of_mem hmem)
    change ∃ rest, (m'.gates.finished settings call index).lineOf (call.key settings) = j :: rest
    rw [hleft]
    rcases List.mem_cons.mp hmem with rfl | hbehind
    · exact ⟨behind, rfl⟩
    · -- Whoever stood before it would have come later.
      obtain ⟨other, earlier, hfirst, -⟩ := hpairs.1 first List.mem_cons_self
      obtain ⟨_, _, hlast, hless⟩ := (List.pairwise_cons.mp hpairs.2).1 j hbehind
      rw [hothers j hj, hnext] at hlast
      cases hlast
      have hne : first ≠ index := by
        rintro rfl
        rw [hexecuting] at hfirst
        cases hfirst
      obtain ⟨task, htask', hkey'⟩ := (hm'.lines (call.key settings) first).mp (by simp [hline])
      rw [hfirst] at htask'
      cases htask'
      have hle := hearliest first other earlier hne ((hothers first hne).symm.trans hfirst)
        (Task.key_of_key? hkey')
      exact absurd (hless other earlier hfirst) (Nat.not_lt.mpr hle)

theorem IsOrderly.isSingleFlight (hsingle : settings.singleFlight = true)
    (hm : m.IsOrderly settings) (warehouse : Warehouse σ) :
    m.IsSingleFlight settings warehouse := by
  refine ⟨fun i j task other key => hm.eq_of_holds, fun i j => hm.separate,
    fun i task htask hpending h => hm.advances warehouse htask hpending h, ?_, ?_⟩
  · intro i call result hends hrows j waiting hwaiting hawaits events hvalid ended later hstill
      hfirst hfresh
    have hserves := (hends.serves hsingle hm hrows).replay hsingle (hm.perform warehouse i)
      warehouse hvalid hfresh
    obtain ⟨next, ticket, rfl, hkey⟩ := exists_ticket_of_awaits hawaits
    have hentry := hserves.entry
    rw [← hkey] at hentry
    exact perform_of_fresh hstill hfirst hentry hfresh
  · intro i call outcome hends hfruitless j next ticket hj hnext hkey hearliest events later hstill
    have hended := hends.isNext hsingle hm hfruitless hj hnext hkey hearliest
    have hothers : ∀ k task, k ≠ i ∧ m.run.tasks[k]? = some task ∧
        task.awaits settings (call.key settings) = true →
        task.awaits settings (call.key settings) = true ∧
          (m.perform settings warehouse i).run.tasks[k]? = some task := by
      rintro k task ⟨hk, htask, hawaits⟩
      refine ⟨hawaits, ?_⟩
      rcases perform_cases settings warehouse m i with hsame | ⟨moved, -, htrace⟩
      · rw [hsame]
        exact htask
      · exact (getElem?_of_stages htrace.to_reflTransGen hk).trans htask
    obtain ⟨hlater, hbehind⟩ := hended.replay hsingle (hm.perform warehouse i) warehouse hothers
      hstill
    obtain ⟨rest, hline⟩ := hlater.next
    have hm' := (hm.perform warehouse i).replay warehouse events
    have hfirst : later.gates.isFirst j = true :=
      (Gates.isFirst_iff hm'.sound (by rw [hline]; simp)).mpr (by rw [hline]; rfl)
    refine ⟨hfirst, hlater.free, fun k task hk htask hawaits => hbehind k task ⟨hk, htask, hawaits⟩,
      perform_of_vacant hstill hfirst ?_⟩
    rw [hkey]
    exact hlater.vacant

end Gated

/-- Calls that wait for one another, whatever they are and whenever they run, are those of a run. -/
theorem replay_isSingleFlight (settings : Settings) (warehouse : Warehouse σ) (s : Session σ)
    (members : List (Call × Nat)) (events : List Event)
    (hsingle : settings.singleFlight = true) :
    let m := (Gated.start s members).replay settings warehouse events
    m.IsSingleFlight settings warehouse ∧
      ∃ kept, kept.Sublist events ∧
        m.run = (Run.start s members).replay settings warehouse kept := by
  intro m
  have hstart := Gated.isOrderly_start settings s members
  exact ⟨(hstart.replay warehouse events).isSingleFlight hsingle warehouse,
    Gated.exists_replay_eq hstart warehouse events⟩

/-- Three calls come to one gate.  The execution of the first fails, the third waits on although it
is given a turn, the second executes, and the third is answered with its rows. -/
theorem replay_isSingleFlight_handed :
    let call : Call := ⟨⟨"SELECT 1", []⟩, "count", some 60, false⟩
    let warehouse : Warehouse Nat := fun statement count =>
      (⟨if count = 0 then .error ["refused"] else .ok [[("SQL", .string statement.sql)]], 5⟩,
        count + 1)
    let settings : Settings := ⟨1000, .truncated 8, true⟩
    let m := (Gated.start (.start 0) [(call, 0), (call, 1), (call, 2)]).replay settings warehouse
      [.stage 0, .stage 1, .stage 2]
    let later := m.replay settings warehouse [.stage 0, .stage 2, .stage 1, .stage 1, .stage 2]
    (m.IsSingleFlight settings warehouse ∧ ∃ kept, kept.Sublist [.stage 0, .stage 1, .stage 2] ∧
      m.run = (Run.start (.start 0) [(call, 0), (call, 1), (call, 2)]).replay settings warehouse
        kept) ∧
      m.gates.line 0 = [0, 1, 2] ∧ later.run.session.statements.length = 2 ∧
      later.run.outcomes.map (·.map isCached) = [some false, some false, some true] := by
  refine ⟨replay_isSingleFlight _ _ _ _ _ rfl, ?_⟩
  decide +kernel

end DatasetSearch.Cache
