import DatasetSearch.Proofs.Cache.Fetch
import DatasetSearch.Proofs.Cache.Gated

/-!
# The order at the gates

At any moment the line of a key holds just the calls that refer to its gate, in the order in which
they came: who executes stands first, and those behind wait.  So there is one execution for a key at
most.  The gates may come and go meanwhile: a key goes out of flight only when its line is empty.
-/

namespace DatasetSearch.Cache

open Relation

variable {σ : Type} {settings : Settings} {warehouse : Warehouse σ} {call : Call} {index : Nat}

/-! ### Entries under a key -/

theorem Arrives.mem_of_mem {s t : Session σ} {arrival : Arrival}
    (h : Arrives settings warehouse call s (arrival, t)) :
    ∀ p ∈ t.store.entries, p ∈ s.store.entries := by
  intro p hp
  cases h with
  | bypassed journal hbypass => exact hp
  | hit journal hbypass hentry hfresh => exact hp
  | overflow hbypass hentry hoverflow => exact hp
  | gated journal hbypass hsingle hstale =>
    rw [Store.entries_openGate] at hp
    exact Store.mem_evict hp
  | missed journal hbypass hsingle hstale => exact Store.mem_evict hp

theorem Enters.mem_of_mem {s t : Session σ} {alone : Bool} {progress : Progress}
    (h : Enters settings warehouse call alone s (progress, t)) :
    ∀ p ∈ t.store.entries, p ∈ s.store.entries := by
  intro p hp
  cases h with
  | hit journal hentry hfresh =>
    rw [Store.entries_leaveGate] at hp
    exact hp
  | overflow hentry hoverflow => exact hp
  | missed journal hstale => exact Store.mem_evict hp

/-- An execution changes at most the entry of its own key, and only if the call uses the cache. -/
theorem Finishes.entry?_of_ne {s t : Session σ} {alone : Bool} {reply : Reply} {outcome : Outcome}
    {key : String} (h : Finishes settings call reply alone s (outcome, t))
    (hother : call.bypass = true ∨ key ≠ call.key settings) :
    t.store.entry? key = s.store.entry? key := by
  cases h with
  | failed houtcome => exact Store.entry?_congr (Store.entries_released _ _ _ _) key
  | stored journal houtcome hbypass hrows =>
    have hne : key ≠ call.key settings := by simpa [hbypass] using hother
    rw [Store.entry?_congr (Store.entries_released _ _ _ _)]
    exact s.store.entry?_insert_of_ne _ hne
  | unstored journal houtcome hreason =>
    exact Store.entry?_congr (Store.entries_released _ _ _ _) key

/-! ### The gate that a call refers to -/

namespace Task

/-- The key whose gate a call refers to. -/
def key? (settings : Settings) (t : Task) : Option String :=
  match t.phase with
  | .queued _ => some (t.call.key settings)
  | .executing _ _ => if t.call.isGated settings then some (t.call.key settings) else none
  | _ => none

theorem refers_iff {t : Task} {key : String} :
    t.refers settings key = true ↔ t.key? settings = some key := by
  obtain ⟨call, phase⟩ := t
  cases phase with
  | scheduled start => simp [refers, awaits, holds, key?]
  | queued ticket => simp [refers, awaits, holds, key?]
  | executing reply due =>
    cases hgated : call.isGated settings <;> simp [refers, awaits, holds, key?, hgated]
  | answered outcome => simp [refers, awaits, holds, key?]

theorem key_of_key? {t : Task} {key : String} (h : t.key? settings = some key) :
    t.call.key settings = key := by
  unfold key? at h
  split at h
  · exact Option.some.inj h
  · split at h
    · exact Option.some.inj h
    · cases h
  · cases h

theorem holds_iff {t : Task} {key : String} : t.holds settings key = true ↔
    (∃ reply due, t.phase = .executing reply due) ∧ t.key? settings = some key := by
  obtain ⟨call, phase⟩ := t
  cases phase with
  | scheduled start => simp [holds]
  | queued ticket => simp [holds]
  | executing reply due => cases hgated : call.isGated settings <;> simp [holds, key?, hgated]
  | answered outcome => simp [holds]

end Task

/-- The second of two calls waits at a gate, and if the first waits too it has the lower ticket. -/
def Run.Precedes (r : Run σ) (i j : Nat) : Prop :=
  ∃ call ticket, r.tasks[j]? = some ⟨call, .queued ticket⟩ ∧
    ∀ other earlier, r.tasks[i]? = some ⟨other, .queued earlier⟩ → earlier < ticket

namespace Gated

/-- The gates and the calls fit together. -/
structure IsOrderly (settings : Settings) (m : Gated σ) : Prop where
  sound : m.gates.IsSound
  noted : m.gates.AreNoted m.run.session.store
  /-- The calls in the line of a key are those that refer to its gate. -/
  lines : ∀ key i, i ∈ m.gates.lineOf key ↔
    ∃ task, m.run.tasks[i]? = some task ∧ task.key? settings = some key
  /-- They stand in the order in which they came. -/
  inOrder : ∀ key, (m.gates.lineOf key).Pairwise m.run.Precedes
  tickets : ∀ (i : Nat) (call : Call) (ticket : Nat),
    m.run.tasks[i]? = some ⟨call, .queued ticket⟩ → ticket < m.run.ticket
  uses : ∀ (i : Nat) (call : Call) (ticket : Nat),
    m.run.tasks[i]? = some ⟨call, .queued ticket⟩ → call.isGated settings = true
  /-- While a call executes for a key, there is no entry for it. -/
  vacant : ∀ (i : Nat) (task : Task) (key : String), m.run.tasks[i]? = some task →
    task.holds settings key = true → m.run.session.store.entry? key = none

variable {m m' : Gated σ}

theorem IsOrderly.notMem_of_key?_eq_none {task : Task} (hm : m.IsOrderly settings)
    (htask : m.run.tasks[index]? = some task) (hnone : task.key? settings = none) (key : String) :
    index ∉ m.gates.lineOf key := by
  intro hmem
  obtain ⟨other, hother, hkey⟩ := (hm.lines key index).mp hmem
  rw [htask] at hother
  cases hother
  rw [hnone] at hkey
  cases hkey

/-- Who executes for a key stands first in its line. -/
theorem IsOrderly.head_of_holds {task : Task} {key : String} (hm : m.IsOrderly settings)
    (htask : m.run.tasks[index]? = some task) (hholds : task.holds settings key = true) :
    ∃ rest, m.gates.lineOf key = index :: rest := by
  obtain ⟨⟨reply, due, hphase⟩, hkey⟩ := Task.holds_iff.mp hholds
  obtain ⟨front, behind, hline⟩ :=
    List.append_of_mem ((hm.lines key index).mpr ⟨task, htask, hkey⟩)
  cases front with
  | nil => exact ⟨behind, hline⟩
  | cons first front =>
    have hpairs := hm.inOrder key
    rw [hline, List.cons_append, List.pairwise_cons] at hpairs
    obtain ⟨other, ticket, hother, -⟩ := hpairs.1 index (by simp)
    rw [htask] at hother
    cases hother
    cases hphase

/-- One call at most executes for a key. -/
theorem IsOrderly.eq_of_holds {i j : Nat} {task other : Task} {key : String}
    (hm : m.IsOrderly settings) (htask : m.run.tasks[i]? = some task)
    (hother : m.run.tasks[j]? = some other) (hholds : task.holds settings key = true)
    (hholds' : other.holds settings key = true) : i = j := by
  obtain ⟨rest, hline⟩ := hm.head_of_holds htask hholds
  obtain ⟨rest', hline'⟩ := hm.head_of_holds hother hholds'
  rw [hline] at hline'
  exact (List.cons.inj hline').1

theorem IsOrderly.head_of_isFirst {task : Task} {key : String} (hm : m.IsOrderly settings)
    (htask : m.run.tasks[index]? = some task) (hkey : task.key? settings = some key)
    (hfirst : m.gates.isFirst index = true) : ∃ rest, m.gates.lineOf key = index :: rest := by
  have hmem := (hm.lines key index).mpr ⟨task, htask, hkey⟩
  exact List.head?_eq_some_iff.mp ((Gates.isFirst_iff hm.sound hmem).mp hfirst)

/-! ### Moves keep the order -/

theorem precedes_move {r : Run σ} {t : Session σ} {phase : Phase} {i j : Nat}
    (h : r.Precedes i j) (hj : j ≠ index) (hphase : ∀ ticket, phase ≠ .queued ticket) :
    (r.move index t phase).Precedes i j := by
  obtain ⟨called, ticket, htask, hearlier⟩ := h
  refine ⟨called, ticket, (getElem?_move_of_ne r hj t phase).trans htask, ?_⟩
  intro other earlier hother
  by_cases hi : i = index
  · subst hi
    cases hold : r.tasks[i]? with
    | none => simp [Run.move, hold] at hother
    | some task =>
      rw [getElem?_move_self hold] at hother
      cases hother
      exact absurd rfl (hphase earlier)
  · rw [getElem?_move_of_ne r hi] at hother
    exact hearlier other earlier hother

/-- A move after which the call does not wait.  It leaves its place in the lines, and takes the
first place in the line of the key for which it executes. -/
theorem IsOrderly.move {before after : Phase} {t : Session σ} {gates : Gates}
    (hm : m.IsOrderly settings) (htask : m.run.tasks[index]? = some ⟨call, before⟩)
    (hafter : ∀ ticket, after ≠ .queued ticket) (hsound : gates.IsSound)
    (hnoted : gates.AreNoted t.store)
    (hlines : ∀ key, gates.lineOf key =
      if Task.key? settings ⟨call, after⟩ = some key then
        index :: (m.gates.lineOf key).filter (· ≠ index)
      else (m.gates.lineOf key).filter (· ≠ index))
    (hfront : ∀ key, Task.key? settings ⟨call, after⟩ = some key →
      m.gates.lineOf key = [] ∨ ∃ rest, m.gates.lineOf key = index :: rest)
    (hvacant : ∀ key, Task.holds settings key ⟨call, after⟩ = true → t.store.entry? key = none)
    (hkept : ∀ (i : Nat) (task : Task) (key : String), i ≠ index → m.run.tasks[i]? = some task →
      task.holds settings key = true → t.store.entry? key = none) :
    (⟨m.run.move index t after, gates⟩ : Gated σ).IsOrderly settings := by
  have hnew := getElem?_move_self htask t after
  have hold : ∀ i, i ≠ index → (m.run.move index t after).tasks[i]? = m.run.tasks[i]? :=
    fun i hi => getElem?_move_of_ne m.run hi t after
  have hwaiting : ∀ (i : Nat) (called : Call) (ticket : Nat),
      (m.run.move index t after).tasks[i]? = some ⟨called, .queued ticket⟩ →
      m.run.tasks[i]? = some ⟨called, .queued ticket⟩ := by
    intro i called ticket hi
    by_cases heq : i = index
    · subst heq
      rw [hnew] at hi
      cases hi
      exact absurd rfl (hafter ticket)
    · rw [← hold i heq]
      exact hi
  refine ⟨hsound, hnoted, ?_, ?_,
    fun i called ticket hi => hm.tickets i called ticket (hwaiting i called ticket hi),
    fun i called ticket hi => hm.uses i called ticket (hwaiting i called ticket hi), ?_⟩
  · intro key i
    simp only [hlines key]
    by_cases hi : i = index
    · subst hi
      simp only [hnew, Option.some.injEq, exists_eq_left']
      split_ifs with hkey <;> simp [hkey]
    · simp only [hold i hi, ← hm.lines key i]
      split_ifs <;> simp [hi]
  · intro key
    have hrest : ((m.gates.lineOf key).filter (· ≠ index)).Pairwise
        (m.run.move index t after).Precedes := by
      refine ((hm.inOrder key).sublist List.filter_sublist).imp_of_mem ?_
      intro i j _ hj hprecedes
      exact precedes_move hprecedes (by simpa using (List.mem_filter.mp hj).2) hafter
    simp only [hlines key]
    split_ifs with hkey
    · -- Who stands behind the call now stood behind it before.
      refine List.pairwise_cons.mpr ⟨?_, hrest⟩
      intro j hj
      obtain ⟨hmem, hne⟩ := List.mem_filter.mp hj
      have hj : j ≠ index := by simpa using hne
      rcases hfront key hkey with hempty | ⟨rest, hline⟩
      · rw [hempty] at hmem
        cases hmem
      · have hpairs := hm.inOrder key
        rw [hline] at hpairs hmem
        have hbehind := (List.mem_cons.mp hmem).resolve_left hj
        exact precedes_move ((List.pairwise_cons.mp hpairs).1 j hbehind) hj hafter
    · exact hrest
  · intro i task key hi hholds
    by_cases heq : i = index
    · subst heq
      rw [hnew] at hi
      cases hi
      exact hvacant key hholds
    · rw [hold i heq] at hi
      exact hkept i task key heq hi hholds

/-- A move after which the call refers to no gate. -/
theorem IsOrderly.away {before after : Phase} {t : Session σ} {gates : Gates}
    (hm : m.IsOrderly settings) (htask : m.run.tasks[index]? = some ⟨call, before⟩)
    (hnokey : Task.key? settings ⟨call, after⟩ = none) (hsound : gates.IsSound)
    (hnoted : gates.AreNoted t.store)
    (hlines : ∀ key, gates.lineOf key = (m.gates.lineOf key).filter (· ≠ index))
    (hkept : ∀ (i : Nat) (task : Task) (key : String), i ≠ index → m.run.tasks[i]? = some task →
      task.holds settings key = true → t.store.entry? key = none) :
    (⟨m.run.move index t after, gates⟩ : Gated σ).IsOrderly settings := by
  refine hm.move htask ?_ hsound hnoted ?_ ?_ ?_ hkept
  · rintro ticket rfl
    cases hnokey
  · intro key
    rw [if_neg (by simp [hnokey]), hlines key]
  · intro key hkey
    rw [hnokey] at hkey
    cases hkey
  · intro key hholds
    rw [Task.holds_iff, hnokey] at hholds
    cases hholds.2

theorem IsOrderly.arriving {start : Nat} {progress : Progress} {t : Session σ}
    (hm : m.IsOrderly settings) (htask : m.run.tasks[index]? = some ⟨call, .scheduled start⟩)
    (harrives : Arrives settings warehouse call
      { m.run.session with clock := max m.run.session.clock start } (.moved progress, t)) :
    (⟨m.run.move index t (progress.phase t), m.gates⟩ : Gated σ).IsOrderly settings := by
  have hnokey : Task.key? settings ⟨call, progress.phase t⟩ = none := by
    cases harrives with
    | bypassed journal hbypass => simp [Task.key?, Progress.phase, Call.isGated, hbypass]
    | hit journal hbypass hentry hfresh => rfl
    | overflow hbypass hentry hoverflow => rfl
    | missed journal hbypass hsingle hstale =>
      simp [Task.key?, Progress.phase, Call.isGated, hsingle]
  have hgates : t.store.gates = m.run.session.store.gates := by
    cases harrives <;> rfl
  refine hm.away htask hnokey hm.sound (hgates.trans hm.noted) ?_ ?_
  · intro key
    exact (Gates.filter_of_notMem (hm.notMem_of_key?_eq_none htask rfl key)).symm
  · intro i task key _ hi hholds
    exact Store.entry?_eq_none_of_subset (hm.vacant i task key hi hholds) harrives.mem_of_mem

theorem isGated_of_arrives {s t : Session σ}
    (h : Arrives settings warehouse call s (.atGate, t)) : call.isGated settings = true := by
  cases h with
  | gated journal hbypass hsingle hstale => simp [Call.isGated, hbypass, hsingle]

theorem IsOrderly.refs_ne {task : Task} (hm : m.IsOrderly settings)
    (htask : m.run.tasks[index]? = some task) (hnone : task.key? settings = none) :
    ∀ p ∈ m.gates.refs, p.2 ≠ index := by
  rintro ⟨gate, i⟩ hp rfl
  obtain ⟨key, hkey⟩ := hm.sound.current _ hp
  exact hm.notMem_of_key?_eq_none htask hnone key (Gates.mem_lineOf_of_mem_refs hkey hp)

theorem noted_join {g : Gates} {s t : Session σ}
    (harrives : Arrives settings warehouse call s (.atGate, t)) (h : g.AreNoted s.store)
    (index : Nat) :
    (g.join (call.key settings) index).AreNoted t.store := by
  cases harrives with
  | gated journal hbypass hsingle hstale =>
    have hevicted : g.AreNoted (s.store.evict (call.key settings)) := h
    exact hevicted.join _ _

theorem IsOrderly.queueing {start : Nat} {t : Session σ} (hm : m.IsOrderly settings)
    (htask : m.run.tasks[index]? = some ⟨call, .scheduled start⟩)
    (harrives : Arrives settings warehouse call
      { m.run.session with clock := max m.run.session.clock start } (.atGate, t)) :
    (⟨{ m.run.move index t (.queued m.run.ticket) with ticket := m.run.ticket + 1 },
      m.gates.join (call.key settings) index⟩ : Gated σ).IsOrderly settings := by
  have hnew := getElem?_move_self htask t (.queued m.run.ticket)
  have hold : ∀ i, i ≠ index →
      (m.run.move index t (.queued m.run.ticket)).tasks[i]? = m.run.tasks[i]? :=
    fun i hi => getElem?_move_of_ne m.run hi t _
  have hnotin := hm.notMem_of_key?_eq_none htask rfl
  have hlines := Gates.lineOf_join hm.sound (call.key settings) index
  refine ⟨hm.sound.join _ (hm.refs_ne htask rfl), noted_join harrives hm.noted index,
    ?_, ?_, ?_, ?_, ?_⟩
  · intro key i
    change i ∈ (m.gates.join (call.key settings) index).lineOf key ↔
      ∃ task, (m.run.move index t (.queued m.run.ticket)).tasks[i]? = some task ∧ _
    rw [hlines]
    by_cases hi : i = index
    · subst hi
      have hself : i ∈ Function.update m.gates.lineOf (call.key settings)
          (m.gates.lineOf (call.key settings) ++ [i]) key ↔ key = call.key settings := by
        by_cases hkey : key = call.key settings
        · simp [hkey]
        · simp [hnotin key, hkey]
      simp only [hself, hnew, Option.some.injEq, exists_eq_left', Task.key?]
      exact eq_comm
    · have hother : i ∈ Function.update m.gates.lineOf (call.key settings)
          (m.gates.lineOf (call.key settings) ++ [index]) key ↔ i ∈ m.gates.lineOf key := by
        by_cases hkey : key = call.key settings
        · subst hkey
          simp [hi]
        · rw [Function.update_of_ne hkey]
      rw [hother, hold i hi]
      exact hm.lines key i
  · intro key
    have hbefore : (m.gates.lineOf key).Pairwise
        (Run.Precedes { m.run.move index t (.queued m.run.ticket) with
          ticket := m.run.ticket + 1 }) := by
      refine (hm.inOrder key).imp_of_mem ?_
      rintro i j hi hj ⟨called, ticket, htask, hearlier⟩
      have hne : ∀ k ∈ m.gates.lineOf key, k ≠ index := by
        rintro k hk rfl
        exact hnotin key hk
      refine ⟨called, ticket, (hold j (hne j hj)).trans htask, ?_⟩
      intro other earlier hother
      exact hearlier other earlier ((hold i (hne i hi)).symm.trans hother)
    simp only [hlines]
    by_cases hkey : key = call.key settings
    · subst hkey
      rw [Function.update_self, List.pairwise_append]
      refine ⟨hbefore, List.pairwise_singleton _ _, ?_⟩
      intro i hi j hj
      rw [List.mem_singleton.mp hj]
      refine ⟨call, m.run.ticket, hnew, ?_⟩
      intro other earlier hother
      have hne : i ≠ index := by
        rintro rfl
        exact hnotin _ hi
      exact hm.tickets i other earlier ((hold i hne).symm.trans hother)
    · rw [Function.update_of_ne hkey]
      exact hbefore
  · intro i called ticket hi
    by_cases heq : i = index
    · subst heq
      rw [show _ = _ from hnew] at hi
      cases hi
      exact Nat.lt_succ_self _
    · exact Nat.lt_succ_of_lt (hm.tickets i called ticket ((hold i heq).symm.trans hi))
  · intro i called ticket hi
    by_cases heq : i = index
    · subst heq
      rw [show _ = _ from hnew] at hi
      cases hi
      exact isGated_of_arrives harrives
    · exact hm.uses i called ticket ((hold i heq).symm.trans hi)
  · intro i task key hi hholds
    by_cases heq : i = index
    · subst heq
      rw [show _ = _ from hnew] at hi
      cases hi
      cases hholds
    · exact Store.entry?_eq_none_of_subset
        (hm.vacant i task key ((hold i heq).symm.trans hi) hholds) harrives.mem_of_mem

/-- The entry of a key is gone once a call for it executes. -/
theorem entry?_of_enters {s t : Session σ} {alone : Bool} {reply : Reply}
    (h : Enters settings warehouse call alone s (.executing reply, t)) :
    t.store.entry? (call.key settings) = none := by
  cases h with
  | missed journal hstale => exact s.store.entry?_evict_self _

theorem noted_missed {g : Gates} {s t : Session σ} {alone : Bool} {reply : Reply}
    (h : g.AreNoted s.store)
    (henters : Enters settings warehouse call alone s (.executing reply, t)) :
    g.AreNoted t.store := by
  cases henters with
  | missed journal hstale => exact h

theorem key_of_holds_executing {reply : Reply} {due : Nat} {key : String}
    (h : Task.holds settings key ⟨call, .executing reply due⟩ = true) : key = call.key settings :=
  (Task.key_of_key? (Task.holds_iff.mp h).2).symm

/-- A gate lets a call pass on arrival if nobody is in the line of the key. -/
theorem IsOrderly.isFirst_join_iff (hm : m.IsOrderly settings) {start : Nat}
    (htask : m.run.tasks[index]? = some ⟨call, .scheduled start⟩) (key : String) :
    (m.gates.join key index).isFirst index = true ↔ m.gates.lineOf key = [] := by
  have hnotin := hm.notMem_of_key?_eq_none htask rfl key
  have hline : (m.gates.join key index).lineOf key = m.gates.lineOf key ++ [index] := by
    rw [Gates.lineOf_join hm.sound, Function.update_self]
  have hmem : index ∈ (m.gates.join key index).lineOf key := by simp [hline]
  rw [Gates.isFirst_iff (hm.sound.join key (hm.refs_ne htask rfl)) hmem, hline]
  constructor
  · intro hhead
    cases hold : m.gates.lineOf key with
    | nil => rfl
    | cons first rest =>
      rw [hold, List.cons_append, List.head?_cons] at hhead
      rw [hold, Option.some.inj hhead] at hnotin
      exact absurd List.mem_cons_self hnotin
  · intro hnil
    rw [hnil]
    rfl

theorem IsOrderly.starting {start : Nat} {t u : Session σ} {reply : Reply} {alone : Bool}
    (hm : m.IsOrderly settings) (htask : m.run.tasks[index]? = some ⟨call, .scheduled start⟩)
    (harrives : Arrives settings warehouse call
      { m.run.session with clock := max m.run.session.clock start } (.atGate, t))
    (hfirst : (m.gates.join (call.key settings) index).isFirst index = true)
    (henters : Enters settings warehouse call alone t (.executing reply, u)) :
    (⟨m.run.move index u (.executing reply (u.clock + reply.delayMs)),
      m.gates.join (call.key settings) index⟩ : Gated σ).IsOrderly settings := by
  have hnotin := hm.notMem_of_key?_eq_none htask rfl
  have hsound := hm.sound.join (call.key settings) (hm.refs_ne htask rfl)
  have hlines := Gates.lineOf_join hm.sound (call.key settings) index
  have hkey : Task.key? settings ⟨call, .executing reply (u.clock + reply.delayMs)⟩ =
      some (call.key settings) := by simp [Task.key?, isGated_of_arrives harrives]
  have hempty := (hm.isFirst_join_iff htask (call.key settings)).mp hfirst
  refine hm.move htask nofun hsound (noted_missed (noted_join harrives hm.noted index) henters)
    ?_ ?_ ?_ ?_
  · intro key
    rw [hlines, hkey, Gates.filter_of_notMem (hnotin key)]
    by_cases hsame : key = call.key settings
    · subst hsame
      rw [Function.update_self, if_pos rfl, hempty]
      rfl
    · rw [Function.update_of_ne hsame, if_neg (fun h => hsame (Option.some.inj h).symm)]
  · intro key hother
    rw [hkey] at hother
    cases hother
    exact .inl hempty
  · intro key hholds
    rw [key_of_holds_executing hholds]
    exact entry?_of_enters henters
  · intro i task key _ hi hholds
    exact Store.entry?_eq_none_of_subset (hm.vacant i task key hi hholds)
      fun p hp => harrives.mem_of_mem p (henters.mem_of_mem p hp)

/-- A call that leaves its place in the line of its key has one in no other line. -/
theorem IsOrderly.filter_lineOf (hm : m.IsOrderly settings) {rest : List Nat}
    (hline : m.gates.lineOf (call.key settings) = index :: rest) (key : String) :
    m.gates.lineOf key =
      if some (call.key settings) = some key then
        index :: (m.gates.lineOf key).filter (· ≠ index)
      else (m.gates.lineOf key).filter (· ≠ index) := by
  have hmem : index ∈ m.gates.lineOf (call.key settings) := by simp [hline]
  split_ifs with hsame
  · cases hsame
    have hnodup := Gates.nodup_lineOf hm.sound (call.key settings)
    rw [hline] at hnodup ⊢
    rw [List.filter_cons_of_neg (by simp),
      Gates.filter_of_notMem (List.nodup_cons.mp hnodup).1]
  · refine (Gates.filter_of_notMem ?_).symm
    intro hother
    exact hsame (by rw [Gates.eq_of_mem_lineOf hm.sound hmem hother])

theorem IsOrderly.entering {ticket : Nat} {progress : Progress} {t : Session σ}
    (hm : m.IsOrderly settings) (htask : m.run.tasks[index]? = some ⟨call, .queued ticket⟩)
    (hfirst : m.gates.isFirst index = true)
    (henters : Enters settings warehouse call (m.gates.isLast index) m.run.session (progress, t)) :
    (⟨m.run.move index t (progress.phase t),
      m.gates.entered (call.key settings) index progress⟩ : Gated σ).IsOrderly settings := by
  obtain ⟨rest, hline⟩ := hm.head_of_isFirst htask rfl hfirst
  have hmem : index ∈ m.gates.lineOf (call.key settings) := by simp [hline]
  have hkept : ∀ (i : Nat) (task : Task) (key : String), i ≠ index → m.run.tasks[i]? = some task →
      task.holds settings key = true → t.store.entry? key = none :=
    fun i task key _ hi hholds =>
      Store.entry?_eq_none_of_subset (hm.vacant i task key hi hholds) henters.mem_of_mem
  cases henters with
  | hit journal hentry hfresh =>
    have hnoted : m.gates.AreNoted m.run.session.store.countHit := hm.noted
    exact hm.away htask rfl (hm.sound.leave hmem) (hnoted.leave _ _)
      (Gates.lineOf_leave hm.sound hmem) hkept
  | overflow hentry hoverflow =>
    exact hm.away htask rfl (hm.sound.drop index) (hm.noted.drop index)
      (Gates.lineOf_drop m.gates index) hkept
  | missed journal hstale =>
    have henters : Enters settings warehouse call (m.gates.isLast index) m.run.session _ :=
      .missed journal hstale
    have hkey : ∀ reply due, Task.key? settings ⟨call, .executing reply due⟩ =
        some (call.key settings) := by
      intro reply due
      simp [Task.key?, hm.uses index call ticket htask]
    refine hm.move htask nofun hm.sound (noted_missed hm.noted henters) ?_ ?_ ?_ hkept
    · intro key
      simp only [Progress.phase, hkey]
      exact hm.filter_lineOf hline key
    · intro key hother
      simp only [Progress.phase, hkey] at hother
      cases hother
      exact .inr ⟨rest, hline⟩
    · intro key hholds
      rw [key_of_holds_executing hholds]
      exact entry?_of_enters henters

theorem isGated_of_holds {task : Task} {key : String} (h : task.holds settings key = true) :
    settings.singleFlight = true := by
  obtain ⟨⟨reply, due, hphase⟩, hkey⟩ := Task.holds_iff.mp h
  unfold Task.key? at hkey
  simp only [hphase] at hkey
  split_ifs at hkey with hgated
  exact (Bool.and_eq_true_iff.mp hgated).1

theorem IsOrderly.finishing {reply : Reply} {due : Nat} {outcome : Outcome} {t : Session σ}
    (hm : m.IsOrderly settings) (htask : m.run.tasks[index]? = some ⟨call, .executing reply due⟩)
    (hfinishes : Finishes settings call reply (m.gates.isLast index)
      { m.run.session with clock := max m.run.session.clock due } (outcome, t)) :
    (⟨m.run.move index t (.answered outcome),
      m.gates.finished settings call index⟩ : Gated σ).IsOrderly settings := by
  obtain ⟨-, journal, hsession⟩ := hfinishes.eq
  have hkept : ∀ (i : Nat) (task : Task) (key : String), i ≠ index → m.run.tasks[i]? = some task →
      task.holds settings key = true → t.store.entry? key = none := by
    intro i task key hne hi hholds
    rw [hfinishes.entry?_of_ne]
    · exact hm.vacant i task key hi hholds
    · cases hbypass : call.bypass with
      | true => exact .inl rfl
      | false =>
        -- Only one call executes for a key, and it is another one.
        refine .inr ?_
        rintro rfl
        refine hne (hm.eq_of_holds hi htask hholds ?_)
        simp [Task.holds, Call.isGated, hbypass, isGated_of_holds hholds]
  unfold Gates.finished
  cases hgated : call.isGated settings with
  | true =>
    have hmem : index ∈ m.gates.lineOf (call.key settings) :=
      (hm.lines _ index).mpr ⟨_, htask, by simp [Task.key?, hgated]⟩
    have hnoted : m.gates.AreNoted (m.run.session.store.keep (call.key settings)
        (call.entry? settings reply (max m.run.session.clock due))) := by
      cases call.entry? settings reply (max m.run.session.clock due) <;> exact hm.noted
    have hleft := hnoted.leave (call.key settings) index
    refine hm.away htask rfl (hm.sound.leave hmem) ?_ (Gates.lineOf_leave hm.sound hmem) hkept
    rw [hsession]
    simp only [Store.released, hgated, if_true]
    exact hleft
  | false =>
    have hnokey : Task.key? settings ⟨call, .executing reply due⟩ = none := by
      simp [Task.key?, hgated]
    refine hm.away htask rfl hm.sound ?_ ?_ hkept
    · rw [hsession]
      simp only [Store.released, hgated]
      cases call.entry? settings reply (max m.run.session.clock due) <;> exact hm.noted
    · intro key
      exact (Gates.filter_of_notMem (hm.notMem_of_key?_eq_none htask hnokey key)).symm

theorem IsOrderly.moves (hm : m.IsOrderly settings)
    (h : Moves settings warehouse index call m m') : m'.IsOrderly settings := by
  cases h with
  | arriving htask harrives => exact hm.arriving htask harrives
  | queueing htask harrives hwaits => exact hm.queueing htask harrives
  | starting htask harrives hfirst henters => exact hm.starting htask harrives hfirst henters
  | entering htask hfirst henters => exact hm.entering htask hfirst henters
  | finishing htask hfinishes => exact hm.finishing htask hfinishes

theorem IsOrderly.perform (hm : m.IsOrderly settings) (warehouse : Warehouse σ) (index : Nat) :
    (m.perform settings warehouse index).IsOrderly settings :=
  perform_invariant (fun _ _ _ h hmove => h.moves hmove) hm

theorem IsOrderly.between (hm : m.IsOrderly settings) (warehouse : Warehouse σ)
    (interlude : Interlude) :
    (m.after settings warehouse (.between interlude)).IsOrderly settings := by
  have hnoted : m.gates.AreNoted (interlude.run.run m.run.session).2.store := by
    obtain ⟨keep, clock, journal, hrun, -⟩ := interlude.run_eq m.run.session
    rw [hrun]
    exact hm.noted
  refine ⟨hm.sound, hnoted, hm.lines, hm.inOrder, hm.tickets, hm.uses, ?_⟩
  intro i task key hi hholds
  exact Store.entry?_eq_none_of_subset (hm.vacant i task key hi hholds)
    fun _ => Interlude.mem_of_mem_run

theorem IsOrderly.after (hm : m.IsOrderly settings) (warehouse : Warehouse σ) (event : Event) :
    (m.after settings warehouse event).IsOrderly settings := by
  cases event with
  | stage index => exact hm.perform warehouse index
  | between interlude => exact hm.between warehouse interlude

theorem isOrderly_start (settings : Settings) (s : Session σ) (members : List (Call × Nat)) :
    (start s members).IsOrderly settings := by
  have hscheduled : ∀ (i : Nat) (task : Task), (Run.start s members).tasks[i]? = some task →
      ∃ called start, task = ⟨called, .scheduled start⟩ := by
    intro i task hi
    obtain ⟨member, -, rfl⟩ := List.mem_map.mp (List.mem_iff_getElem?.mpr ⟨i, hi⟩)
    exact ⟨_, _, rfl⟩
  have hnotQueued : ∀ (i : Nat) (called : Call) (ticket : Nat),
      (Run.start s members).tasks[i]? ≠ some ⟨called, .queued ticket⟩ := by
    intro i called ticket hi
    obtain ⟨_, _, htask⟩ := hscheduled i _ hi
    cases htask
  refine ⟨Gates.isSound_idle _, (List.zipIdx_map_fst 0 s.store.gates).symm, ?_, ?_, ?_, ?_, ?_⟩
  · intro key i
    rw [show (start s members).gates.lineOf key = [] from Gates.lineOf_idle _ key]
    refine iff_of_false List.not_mem_nil ?_
    rintro ⟨task, hi, hkey⟩
    obtain ⟨called, start, rfl⟩ := hscheduled i task hi
    cases hkey
  · intro key
    rw [show (start s members).gates.lineOf key = [] from Gates.lineOf_idle _ key]
    exact .nil
  · intro i called ticket hi
    exact absurd hi (hnotQueued i called ticket)
  · intro i called ticket hi
    exact absurd hi (hnotQueued i called ticket)
  · intro i task key hi hholds
    obtain ⟨called, start, rfl⟩ := hscheduled i task hi
    cases hholds

theorem IsOrderly.replay (hm : m.IsOrderly settings) (warehouse : Warehouse σ)
    (events : List Event) : (m.replay settings warehouse events).IsOrderly settings :=
  replay_invariant (IsOrderly settings) (fun _ _ _ _ h hmove => h.moves hmove)
    (fun _ interlude _ h => h.between warehouse interlude) hm

end Gated

end DatasetSearch.Cache
