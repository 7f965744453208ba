import DatasetSearch.Proofs.Cache.Freshness
import DatasetSearch.Proofs.Cache.Key

/-!
# Every call is counted once

A call that uses the cache counts as one hit or one miss, whether it finds its entry on arrival,
finds it after it has waited at a gate, executes with or without rows, or fails; a bypassed call
counts as neither.  Each stage of a call keeps the books: what it adds to a counter, to the
statements sent or to the entries is what it adds to the standing of the call.  So at any moment
the counters are the sums over all calls, answered or still in progress.
-/

namespace DatasetSearch.Cache

open Relation

variable {σ : Type} {settings : Settings} {warehouse : Warehouse σ} {call : Call}

/-! ### The standing of a call -/

namespace Task

def outcome? (t : Task) : Option Outcome :=
  match t.phase with
  | .answered outcome => some outcome
  | _ => none

def isHit (t : Task) : Bool :=
  match t.phase with
  | .answered outcome => isCached outcome
  | _ => false

theorem isHit_eq (t : Task) : t.isHit = t.outcome?.any isCached := by
  unfold isHit outcome?
  cases t.phase <;> rfl

/-- Whether the statement of the call has been sent. -/
def isSent (t : Task) : Bool :=
  match t.phase with
  | .executing _ _ => true
  | .answered (.ok result) => !result.cached
  | .answered (.error (.execution _)) => true
  | _ => false

def isMiss (t : Task) : Bool := t.isSent && !t.call.bypass

/-- Whether the call may have stored an entry. -/
def hasStored (t : Task) : Bool :=
  match t.phase with
  | .answered (.ok result) => !result.cached && !t.call.bypass
  | _ => false

def hasStarted (t : Task) : Bool :=
  match t.phase with
  | .scheduled _ => false
  | _ => true

end Task

/-- An entry as a call leaves it: with rows and their number, under the key of the call. -/
def Entry.IsLeftBy (settings : Settings) (call : Call) (key : String) (entry : Entry) : Prop :=
  call.bypass = false ∧ key = call.key settings ∧ entry.value.rows ≠ [] ∧
    entry.value.rowCount = entry.value.rows.length ∧ entry.value.cached = false

/-! ### One stage keeps the books -/

/-- What a call adds to the books between two moments is what it adds to its standing. -/
structure Balanced (settings : Settings) (call : Call) (before after : Session σ × Phase) :
    Prop where
  hits : after.1.store.hits + (Task.isHit ⟨call, before.2⟩).toNat =
    before.1.store.hits + (Task.isHit ⟨call, after.2⟩).toNat
  misses : after.1.store.misses + (Task.isMiss ⟨call, before.2⟩).toNat =
    before.1.store.misses + (Task.isMiss ⟨call, after.2⟩).toNat
  sent : after.1.statements.length + (Task.isSent ⟨call, before.2⟩).toNat =
    before.1.statements.length + (Task.isSent ⟨call, after.2⟩).toNat
  size : after.1.store.size + (Task.hasStored ⟨call, before.2⟩).toNat ≤
    before.1.store.size + (Task.hasStored ⟨call, after.2⟩).toNat
  entries : ∀ p ∈ after.1.store.entries,
    p ∈ before.1.store.entries ∨ p.2.IsLeftBy settings call p.1

theorem Balanced.trans {before middle after : Session σ × Phase}
    (h : Balanced settings call before middle) (hnext : Balanced settings call middle after) :
    Balanced settings call before after := by
  refine ⟨?_, ?_, ?_, ?_, ?_⟩
  · have := h.hits
    have := hnext.hits
    omega
  · have := h.misses
    have := hnext.misses
    omega
  · have := h.sent
    have := hnext.sent
    omega
  · have := h.size
    have := hnext.size
    omega
  · intro p hp
    rcases hnext.entries p hp with hold | hnew
    · exact h.entries p hold
    · exact .inr hnew

/-- A call that waits at a gate uses the cache, one that does not use it is not answered from it,
and none is answered with an overflow. -/
structure Task.IsRegular (t : Task) : Prop where
  uses : ∀ ticket, t.phase = .queued ticket → t.call.bypass = false
  direct : t.call.bypass = true → t.isHit = false
  answered : t.phase ≠ .answered (.error .expiryOverflow)

/-- A regular call that has yet to look its key up finds no expiry that overflows. -/
structure GoesOn (call : Call) (state : Session σ × Phase) : Prop where
  regular : Task.IsRegular ⟨call, state.2⟩
  expiries : state.2.Looks → state.1.store.IsRepresentable

theorem GoesOn.executing (reply : Reply) (s : Session σ) :
    GoesOn call (s, (Progress.executing reply).phase s) :=
  ⟨⟨nofun, fun _ => rfl, nofun⟩, nofun⟩

theorem GoesOn.hit (hbypass : call.bypass = false) (value : QueryResult) (s : Session σ) :
    GoesOn call (s, .answered (.ok value)) := by
  refine ⟨⟨nofun, ?_, nofun⟩, nofun⟩
  intro hused
  exact absurd hused (by simp [hbypass])

theorem GoesOn.stage {alone : Bool} {before after : Session σ × Phase}
    (hbefore : GoesOn call before) (h : Stage settings warehouse call alone before after) :
    GoesOn call after := by
  cases h with
  | arriving harrives =>
    cases harrives with
    | bypassed journal hbypass => exact .executing _ _
    | hit journal hbypass hentry hfresh => exact .hit hbypass _ _
    | overflow hbypass hentry hoverflow =>
      exact absurd hoverflow ((hbefore.expiries trivial).ne_overflow hentry _)
    | missed journal hbypass hsingle hstale => exact .executing _ _
  | queueing ticket harrives =>
    cases harrives with
    | gated journal hbypass hsingle hstale =>
      refine ⟨⟨fun _ _ => hbypass, fun _ => rfl, nofun⟩, fun _ => ?_⟩
      apply (hbefore.expiries trivial).mono
      intro p hp
      rw [Store.entries_openGate] at hp
      exact Store.mem_evict hp
  | entering henters =>
    cases henters with
    | hit journal hentry hfresh => exact .hit (hbefore.regular.uses _ rfl) _ _
    | overflow hentry hoverflow =>
      exact absurd hoverflow ((hbefore.expiries trivial).ne_overflow hentry _)
    | missed journal hstale => exact .executing _ _
  | finishing hfinishes =>
    cases hfinishes with
    | failed houtcome => exact ⟨⟨nofun, fun _ => rfl, nofun⟩, nofun⟩
    | stored journal houtcome hbypass hrows => exact ⟨⟨nofun, fun _ => rfl, nofun⟩, nofun⟩
    | unstored journal houtcome hreason => exact ⟨⟨nofun, fun _ => rfl, nofun⟩, nofun⟩

namespace Store

@[simp] theorem hits_released (store : Store) (settings : Settings) (call : Call) (alone : Bool) :
    (store.released settings call alone).hits = store.hits := by
  unfold released leaveGate
  split_ifs <;> rfl

@[simp] theorem misses_released (store : Store) (settings : Settings) (call : Call)
    (alone : Bool) : (store.released settings call alone).misses = store.misses := by
  unfold released leaveGate
  split_ifs <;> rfl

@[simp] theorem hits_openGate (store : Store) (key : String) :
    (store.openGate key).hits = store.hits := by
  unfold openGate
  split <;> rfl

@[simp] theorem misses_openGate (store : Store) (key : String) :
    (store.openGate key).misses = store.misses := by
  unfold openGate
  split <;> rfl

@[simp] theorem hits_leaveGate (store : Store) (key : String) (alone : Bool) :
    (store.leaveGate key alone).hits = store.hits := by
  unfold leaveGate
  split <;> rfl

@[simp] theorem misses_leaveGate (store : Store) (key : String) (alone : Bool) :
    (store.leaveGate key alone).misses = store.misses := by
  unfold leaveGate
  split <;> rfl

theorem size_evict_le (store : Store) (key : String) : (store.evict key).size ≤ store.size :=
  List.length_filter_le _ _

theorem size_insert_le (store : Store) (key : String) (entry : Entry) :
    (store.insert key entry).size ≤ store.size + 1 :=
  Nat.succ_le_succ (store.size_evict_le key)

theorem size_eq_of_entries {store other : Store} (h : store.entries = other.entries) :
    store.size = other.size := congrArg List.length h

end Store

/-- A stage that leaves the entries as they are, or some of them. -/
theorem Balanced.of_kept {before after : Session σ × Phase}
    (hhits : after.1.store.hits + (Task.isHit ⟨call, before.2⟩).toNat =
      before.1.store.hits + (Task.isHit ⟨call, after.2⟩).toNat)
    (hmisses : after.1.store.misses + (Task.isMiss ⟨call, before.2⟩).toNat =
      before.1.store.misses + (Task.isMiss ⟨call, after.2⟩).toNat)
    (hsent : after.1.statements.length + (Task.isSent ⟨call, before.2⟩).toNat =
      before.1.statements.length + (Task.isSent ⟨call, after.2⟩).toNat)
    (hstored : Task.hasStored ⟨call, before.2⟩ = false)
    (hentries : after.1.store.entries.Sublist before.1.store.entries) :
    Balanced settings call before after := by
  refine ⟨hhits, hmisses, hsent, ?_, fun p hp => .inl (hentries.subset hp)⟩
  have hsize : after.1.store.size ≤ before.1.store.size := hentries.length_le
  rw [hstored]
  exact Nat.le_trans hsize (Nat.le_add_right _ _)

theorem Session.length_sent (s : Session σ) (warehouse : Warehouse σ) (call : Call) (store : Store)
    (journal : List Log.Event) :
    (s.sent warehouse call store journal).statements.length = s.statements.length + 1 :=
  List.length_append

theorem Task.isMiss_of_uses (hbypass : call.bypass = false) (phase : Phase) :
    Task.isMiss ⟨call, phase⟩ = Task.isSent ⟨call, phase⟩ := by
  simp [isMiss, hbypass]

theorem Balanced.stage {alone : Bool} {before after : Session σ × Phase}
    (hbefore : GoesOn call before) (h : Stage settings warehouse call alone before after) :
    Balanced settings call before after := by
  cases h with
  | arriving harrives =>
    cases harrives with
    | bypassed journal hbypass =>
      exact .of_kept rfl (by simp [Task.isMiss, Session.sent, hbypass])
        (Session.length_sent _ _ _ _ _) rfl (List.Sublist.refl _)
    | hit journal hbypass hentry hfresh => exact .of_kept rfl rfl rfl rfl (List.Sublist.refl _)
    | overflow hbypass hentry hoverflow => exact .of_kept rfl rfl rfl rfl (List.Sublist.refl _)
    | missed journal hbypass hsingle hstale =>
      exact .of_kept rfl (by simp only [Task.isMiss_of_uses hbypass]; rfl)
        (Session.length_sent _ _ _ _ _) rfl List.filter_sublist
  | queueing ticket harrives =>
    cases harrives with
    | gated journal hbypass hsingle hstale =>
      refine .of_kept ?_ ?_ rfl rfl ?_
      · rw [Store.hits_openGate]
        rfl
      · rw [Store.misses_openGate]
        rfl
      · rw [Store.entries_openGate]
        exact List.filter_sublist
  | entering henters =>
    have hbypass := hbefore.regular.uses _ rfl
    cases henters with
    | hit journal hentry hfresh =>
      refine .of_kept ?_ ?_ rfl rfl ?_
      · rw [Store.hits_leaveGate]
        rfl
      · rw [Store.misses_leaveGate]
        rfl
      · rw [Store.entries_leaveGate]
        exact List.Sublist.refl _
    | overflow hentry hoverflow => exact .of_kept rfl rfl rfl rfl (List.Sublist.refl _)
    | missed journal hstale =>
      exact .of_kept rfl (by simp only [Task.isMiss_of_uses hbypass]; rfl)
        (Session.length_sent _ _ _ _ _) rfl List.filter_sublist
  | @finishing s t reply due outcome hfinishes =>
    cases hfinishes with
    | failed houtcome =>
      refine .of_kept ?_ ?_ rfl rfl ?_
      · rw [Store.hits_released]
        rfl
      · rw [Store.misses_released]
        rfl
      · rw [Store.entries_released]
    | @stored journal rows houtcome hbypass hrows =>
      refine ⟨?_, ?_, rfl, ?_, ?_⟩
      · rw [Store.hits_released]
        rfl
      · rw [Store.misses_released]
        rfl
      · rw [Store.size_eq_of_entries (Store.entries_released _ _ _ _)]
        have hone : Task.hasStored ⟨call, .answered (.ok (.ofRows rows reply.elapsedMs))⟩ = true := by
          simp [Task.hasStored, QueryResult.ofRows, hbypass]
        rw [hone]
        exact s.store.size_insert_le (call.key settings)
          ⟨.ofRows rows reply.elapsedMs, max s.clock due, call.lifetime settings⟩
      · intro p hp
        rw [Store.entries_released] at hp
        rcases Store.mem_insert hp with rfl | hold
        · exact .inr ⟨hbypass, rfl, hrows, rfl, rfl⟩
        · exact .inl hold
    | unstored journal houtcome hreason =>
      refine .of_kept ?_ ?_ rfl rfl ?_
      · rw [Store.hits_released]
        rfl
      · rw [Store.misses_released]
        rfl
      · rw [Store.entries_released]

theorem GoesOn.stages {alone : Bool} {before after : Session σ × Phase}
    (hbefore : GoesOn call before)
    (h : TransGen (Stage settings warehouse call alone) before after) : GoesOn call after := by
  induction h with
  | single hstage => exact hbefore.stage hstage
  | tail _ hstage ih => exact ih.stage hstage

theorem hasStarted_of_stages {alone : Bool} {before after : Session σ × Phase}
    (h : TransGen (Stage settings warehouse call alone) before after) :
    Task.hasStarted ⟨call, after.2⟩ = true := by
  have hless := rank_lt_of_transGen h
  have hmost : before.2.rank ≤ 3 := before.2.rank_le
  cases hphase : after.2 with
  | scheduled start =>
    rw [hphase] at hless
    exact absurd hless (Nat.not_lt.mpr hmost)
  | queued ticket => rfl
  | executing reply due => rfl
  | answered outcome => rfl

theorem Balanced.stages {alone : Bool} {before after : Session σ × Phase}
    (hbefore : GoesOn call before)
    (h : TransGen (Stage settings warehouse call alone) before after) :
    Balanced settings call before after := by
  induction h with
  | single hstage => exact .stage hbefore hstage
  | tail hstages hstage ih => exact ih.trans (.stage (hbefore.stages hstages) hstage)

/-! ### The books of all calls -/

/-- The books of a session against the standing of all calls, answered or in progress. -/
structure Counts (settings : Settings) (s : Session σ) (tasks : List Task) : Prop where
  hits : s.store.hits = tasks.countP Task.isHit
  misses : s.store.misses = tasks.countP Task.isMiss
  sent : s.statements.length = tasks.countP Task.isSent
  size : s.store.size ≤ tasks.countP Task.hasStored
  entries : ∀ p ∈ s.store.entries, ∃ task ∈ tasks, task.hasStarted = true ∧
    p.2.IsLeftBy settings task.call p.1

theorem mem_modify_or {α : Type} {l : List α} {i : Nat} {a b : α} (f : α → α)
    (ha : a ∈ l) (hb : l[i]? = some b) : a ∈ l.modify i f ∨ a = b := by
  obtain ⟨j, hj⟩ := List.mem_iff_getElem?.mp ha
  by_cases hij : i = j
  · right
    rw [hij, hj] at hb
    exact Option.some.inj hb
  · left
    refine List.mem_iff_getElem?.mpr ⟨j, ?_⟩
    rw [List.getElem?_modify, hj]
    simp [hij]

theorem mem_modify_self {α : Type} {l : List α} {i : Nat} {a : α} (f : α → α)
    (h : l[i]? = some a) : f a ∈ l.modify i f := by
  refine List.mem_iff_getElem?.mpr ⟨i, ?_⟩
  rw [List.getElem?_modify, h]
  simp

theorem countP_modify {α : Type} {l : List α} {i : Nat} {a : α} (p : α → Bool) (f : α → α)
    (h : l[i]? = some a) :
    (l.modify i f).countP p + (p a).toNat = l.countP p + (p (f a)).toNat := by
  induction l generalizing i with
  | nil => cases h
  | cons b l ih =>
    cases i with
    | zero =>
      cases h
      simp only [List.modify_zero_cons, List.countP_cons]
      cases p a <;> cases p (f a) <;> simp
    | succ i =>
      have := ih h
      simp only [List.modify_succ_cons, List.countP_cons]
      omega

/-- What one call adds to the books is added to those of all calls. -/
theorem Counts.modify {s t : Session σ} {done tasks : List Task} {index : Nat} {task : Task}
    {phase : Phase} (h : Counts settings s (done ++ tasks)) (htask : tasks[index]? = some task)
    (hbalanced : Balanced settings task.call (s, task.phase) (t, phase))
    (hstarted : Task.hasStarted ⟨task.call, phase⟩ = true) :
    Counts settings t
      (done ++ tasks.modify index (fun other => { other with phase := phase })) := by
  obtain ⟨called, standing⟩ := task
  have hcount : ∀ p : Task → Bool,
      (done ++ tasks.modify index (fun other => { other with phase := phase })).countP p +
          (p ⟨called, standing⟩).toNat =
        (done ++ tasks).countP p + (p ⟨called, phase⟩).toNat := by
    intro p
    have hone := countP_modify p (fun other : Task => { other with phase := phase }) htask
    simp only at hone
    rw [List.countP_append, List.countP_append]
    omega
  refine ⟨?_, ?_, ?_, ?_, ?_⟩
  · have hsum := hbalanced.hits
    have hone := hcount Task.isHit
    have hold := h.hits
    simp only at hsum
    omega
  · have hsum := hbalanced.misses
    have hone := hcount Task.isMiss
    have hold := h.misses
    simp only at hsum
    omega
  · have hsum := hbalanced.sent
    have hone := hcount Task.isSent
    have hold := h.sent
    simp only at hsum
    omega
  · have hsum := hbalanced.size
    have hone := hcount Task.hasStored
    have hold := h.size
    simp only at hsum
    omega
  · intro p hp
    have hnew := mem_modify_self (fun other : Task => { other with phase := phase }) htask
    rcases hbalanced.entries p hp with hold | hleft
    · obtain ⟨other, hother, hearlier, hleft⟩ := h.entries p hold
      rcases List.mem_append.mp hother with hdone | hmem
      · exact ⟨other, List.mem_append_left _ hdone, hearlier, hleft⟩
      · -- The call that left an entry may be the one that moves.
        rcases mem_modify_or (fun other : Task => { other with phase := phase }) hmem htask with
          hkept | rfl
        · exact ⟨other, List.mem_append_right _ hkept, hearlier, hleft⟩
        · exact ⟨⟨called, phase⟩, List.mem_append_right _ hnew, hstarted, hleft⟩
    · exact ⟨⟨called, phase⟩, List.mem_append_right _ hnew, hstarted, hleft⟩

/-- Entries that go are missed by nobody. -/
theorem Counts.between {s : Session σ} {tasks : List Task} (h : Counts settings s tasks)
    (interlude : Interlude) : Counts settings (interlude.run.run s).2 tasks := by
  obtain ⟨keep, clock, journal, hrun, -⟩ := interlude.run_eq s
  rw [hrun]
  refine ⟨h.hits, h.misses, h.sent, ?_, ?_⟩
  · exact Nat.le_trans (List.length_filter_le _ _) h.size
  · intro p hp
    exact h.entries p (List.mem_filter.mp hp).1

/-! ### Runs -/

/-- The books of a run: those of its calls and of the calls that were done before. -/
structure Run.IsCounted (settings : Settings) (done : List Task) (r : Run σ) : Prop where
  counts : Counts settings r.session (done ++ r.tasks)
  regular : ∀ task ∈ r.tasks, task.IsRegular

theorem Run.IsCounted.perform {done : List Task} {r : Run σ} (hr : r.IsCounted settings done)
    (hexpiries : r.session.store.IsRepresentable) (index : Nat) :
    (r.perform settings warehouse index).IsCounted settings done := by
  rcases Run.perform_cases settings warehouse r index with
    hsame | ⟨task, t, phase, ticket, htask, hperform, hstages⟩
  · rw [hsame]
    exact hr
  · have hmem : task ∈ r.tasks := List.mem_of_getElem? htask
    have hbefore : GoesOn task.call (r.session, task.phase) :=
      ⟨hr.regular task hmem, fun _ => hexpiries⟩
    have hafter := hbefore.stages hstages
    rw [hperform]
    refine ⟨hr.counts.modify htask (.stages hbefore hstages) (hasStarted_of_stages hstages), ?_⟩
    apply forall_mem_modify hr.regular
    intro other hother
    rw [htask] at hother
    cases hother
    exact hafter.regular

theorem Run.IsCounted.after {done : List Task} {r : Run σ} (event : Event)
    (hexpiries : r.session.store.IsRepresentable) (hr : r.IsCounted settings done) :
    (r.after settings warehouse event).IsCounted settings done := by
  cases event with
  | stage index => exact hr.perform hexpiries index
  | between interlude => exact ⟨hr.counts.between interlude, hr.regular⟩

theorem Run.IsCounted.replay {done : List Task} {r : Run σ} {events : List Event}
    (hexpiries : r.Throughout settings warehouse (fun s => s.store.IsRepresentable) events)
    (hr : r.IsCounted settings done) :
    (r.replay settings warehouse events).IsCounted settings done := by
  have hafter : ∀ (r : Run σ) (event : Event), r.session.store.IsRepresentable →
      r.IsCounted settings done → (r.after settings warehouse event).IsCounted settings done :=
    fun r event hexpiry hr => hr.after event hexpiry
  exact Run.replay_invariant hafter hexpiries hr

theorem countP_append_start (p : Task → Bool)
    (hp : ∀ call start, p ⟨call, .scheduled start⟩ = false) (done : List Task)
    (s : Session σ) (members : List (Call × Nat)) :
    (done ++ (Run.start s members).tasks).countP p = done.countP p := by
  have hnone : (Run.start s members).tasks.countP p = 0 := by
    rw [List.countP_eq_zero]
    intro task htask
    obtain ⟨member, -, rfl⟩ := List.mem_map.mp htask
    simp [hp]
  rw [List.countP_append, hnone, Nat.add_zero]

/-- Calls that have not arrived have no place in the books. -/
theorem Counts.start {s : Session σ} {done : List Task} (h : Counts settings s done)
    (members : List (Call × Nat)) : (Run.start s members).IsCounted settings done := by
  refine ⟨⟨?_, ?_, ?_, ?_, ?_⟩, ?_⟩
  · rw [countP_append_start _ (fun _ _ => rfl)]
    exact h.hits
  · rw [countP_append_start _ (fun _ _ => rfl)]
    exact h.misses
  · rw [countP_append_start _ (fun _ _ => rfl)]
    exact h.sent
  · rw [countP_append_start _ (fun _ _ => rfl)]
    exact h.size
  · intro p hp
    obtain ⟨task, htask, hleft⟩ := h.entries p hp
    exact ⟨task, List.mem_append_left _ htask, hleft⟩
  · intro task htask
    obtain ⟨member, -, rfl⟩ := List.mem_map.mp htask
    exact ⟨nofun, fun _ => rfl, nofun⟩

/-! ### Histories -/

/-- Calls that were made, with what they yielded, and the books after them. -/
structure IsSettled (settings : Settings) (calls : List Call) (outcomes : List (Option Outcome))
    (s : Session σ) (done : List Task) : Prop where
  counts : Counts settings s done
  calls : done.map Task.call = calls
  outcomes : done.map Task.outcome? = outcomes
  regular : ∀ task ∈ done, task.IsRegular ∧ ∃ outcome, task.phase = .answered outcome

variable {calls : List Call} {outcomes : List (Option Outcome)} {done : List Task}

theorem IsSettled.append {s t : Session σ} {tasks : List Task}
    (h : IsSettled settings calls outcomes s done) (hcounts : Counts settings t (done ++ tasks))
    (hregular : ∀ task ∈ tasks, task.IsRegular ∧ ∃ outcome, task.phase = .answered outcome) :
    IsSettled settings (calls ++ tasks.map Task.call) (outcomes ++ tasks.map Task.outcome?) t
      (done ++ tasks) := by
  refine ⟨hcounts, ?_, ?_, ?_⟩
  · rw [List.map_append, h.calls]
  · rw [List.map_append, h.outcomes]
  · intro task htask
    rcases List.mem_append.mp htask with hold | hnew
    · exact h.regular task hold
    · exact hregular task hnew

theorem IsSettled.step {s : Session σ} {step : Step} (h : IsSettled settings calls outcomes s done)
    (hexpiries : step.Throughout settings warehouse (fun s => s.store.IsRepresentable) s) :
    ∃ tasks, IsSettled settings (calls ++ step.calls)
      (outcomes ++ ((step.run settings warehouse).run s).1) ((step.run settings warehouse).run s).2
      (done ++ tasks) := by
  cases step with
  | single call =>
    obtain ⟨outcome, t, hfetch, hstages⟩ := fetch_stages settings warehouse call s
    have hbefore : GoesOn call (s, .scheduled s.clock) :=
      ⟨⟨nofun, fun _ => rfl, nofun⟩, fun _ => hexpiries⟩
    have hmember : (Run.start s [(call, 0)]).tasks[0]? = some ⟨call, .scheduled s.clock⟩ := rfl
    have hcounts := (h.counts.start [(call, 0)]).counts.modify hmember
      (Balanced.stages hbefore hstages) (hasStarted_of_stages hstages)
    have hrun : ((Step.single call).run settings warehouse).run s = ([some outcome], t) := by
      unfold Step.run
      rw [StateT.run_bind, hfetch]
      rfl
    rw [hrun]
    refine ⟨[⟨call, .answered outcome⟩], h.append hcounts ?_⟩
    intro task htask
    rw [List.mem_singleton.mp htask]
    exact ⟨(hbefore.stages hstages).regular, outcome, rfl⟩
  | group members events =>
    have hr := (h.counts.start members).replay hexpiries.1
    have hlast := hr.replay hexpiries.2
    rw [← Run.complete_eq_replay] at hlast
    change (Run.overlap settings warehouse s members events).IsCounted settings done at hlast
    have hsettled := h.append hlast.counts fun task htask =>
      ⟨hlast.regular task htask, Run.answered_complete _ task htask⟩
    rw [calls_overlap] at hsettled
    exact ⟨_, hsettled⟩
  | between interlude =>
    have hcounts : Counts settings (interlude.run.run s).2 (done ++ []) := by
      rw [List.append_nil]
      exact h.counts.between interlude
    exact ⟨[], h.append hcounts nofun⟩

theorem IsSettled.replay {s : Session σ} {steps : List Step}
    (h : IsSettled settings calls outcomes s done)
    (hexpiries : Throughout settings warehouse (fun s => s.store.IsRepresentable) s steps) :
    ∃ done', IsSettled settings (calls ++ steps.flatMap Step.calls)
      (outcomes ++ ((Cache.replay settings warehouse steps).run s).1)
      ((Cache.replay settings warehouse steps).run s).2 done' := by
  induction steps generalizing s calls outcomes done with
  | nil =>
    have hnil : ((Cache.replay settings warehouse []).run s) = ([], s) := rfl
    rw [hnil, List.flatMap_nil, List.append_nil, List.append_nil]
    exact ⟨done, h⟩
  | cons step steps ih =>
    obtain ⟨tasks, hstep⟩ := h.step hexpiries.1
    obtain ⟨done', hrest⟩ := ih hstep hexpiries.2
    rw [List.append_assoc, List.append_assoc] at hrest
    exact ⟨done', hrest⟩

/-! ### The counters -/

/-- The calls of a run that have started, answered or in progress. -/
def Run.made (r : Run σ) : List Call := (r.tasks.filter Task.hasStarted).map Task.call

/-- No call is in progress: those that have started are answered. -/
def Run.IsIdle (r : Run σ) : Prop := ∀ task ∈ r.tasks, task.hasStarted = task.outcome?.isSome

instance (r : Run σ) : Decidable r.IsIdle :=
  inferInstanceAs (Decidable (∀ task ∈ r.tasks, task.hasStarted = task.outcome?.isSome))

/-- The counters, the statements sent and the entries of a session, given the calls made and what
they yielded. -/
structure IsCounted (settings : Settings) (made : List Call) (outcomes : List (Option Outcome))
    (s : Session σ) : Prop where
  /-- Every call that uses the cache is a hit or a miss, and only one of them. -/
  used : s.store.hits + s.store.misses = made.countP (fun call => !call.bypass)
  /-- The hits are the calls that were answered from the cache. -/
  hits : s.store.hits = outcomes.countP (fun outcome => outcome.any isCached)
  /-- A statement is sent for each miss and for each bypassed call. -/
  sent : s.statements.length = s.store.misses + made.countP Call.bypass
  size : s.store.size ≤ s.store.misses
  /-- An entry has rows and their number, is not marked as cached, and its key is the label of a
  call, a colon and the start of a digest. -/
  entries : ∀ p ∈ s.store.entries, p.2.value.rows ≠ [] ∧
    p.2.value.rowCount = p.2.value.rows.length ∧ p.2.value.cached = false ∧
    ∃ call ∈ made, call.bypass = false ∧
      p.1 = call.label ++ ":" ++ digestPart settings.keyDigest call.statement

theorem countP_add_countP {α : Type} {p q u : α → Bool} {l : List α}
    (h : ∀ a ∈ l, (p a).toNat + (q a).toNat = (u a).toNat) :
    l.countP p + l.countP q = l.countP u := by
  induction l with
  | nil => rfl
  | cons a l ih =>
    have hone := h a List.mem_cons_self
    have hrest := ih (fun b hb => h b (List.mem_cons_of_mem a hb))
    simp only [List.countP_cons]
    cases hp : p a <;> cases hq : q a <;> cases hu : u a <;> simp_all <;> omega

/-- A regular call that is not in progress was counted once if it uses the cache, and its statement
was sent if it was counted as a miss or does not use the cache. -/
theorem Task.IsRegular.standing {task : Task} (h : task.IsRegular)
    (hidle : task.hasStarted = task.outcome?.isSome) :
    task.isHit.toNat + task.isMiss.toNat = (!task.call.bypass && task.hasStarted).toNat ∧
      task.isMiss.toNat + (task.call.bypass && task.hasStarted).toNat = task.isSent.toNat := by
  obtain ⟨call, phase⟩ := task
  cases phase with
  | scheduled start => simp [isHit, isMiss, isSent, hasStarted]
  | queued ticket => cases hidle
  | executing reply due => cases hidle
  | answered outcome =>
    cases outcome with
    | error error =>
      cases error with
      | execution causes =>
        cases hbypass : call.bypass <;>
          simp [isHit, isMiss, isSent, hasStarted, isCached, hbypass]
      | expiryOverflow => exact absurd rfl h.answered
    | ok result =>
      cases hcached : result.cached with
      | false =>
        cases hbypass : call.bypass <;>
          simp [isHit, isMiss, isSent, hasStarted, isCached, hcached, hbypass]
      | true =>
        cases hbypass : call.bypass with
        | false => simp [isHit, isMiss, isSent, hasStarted, isCached, hcached]
        | true =>
          have hhit := h.direct hbypass
          simp only [isHit, isCached, hcached] at hhit
          cases hhit

theorem Task.isMiss_of_hasStored {task : Task} (h : task.hasStored = true) :
    task.isMiss = true := by
  obtain ⟨call, phase⟩ := task
  cases phase with
  | scheduled start => cases h
  | queued ticket => cases h
  | executing reply due => cases h
  | answered outcome =>
    cases outcome with
    | error error => cases h
    | ok result => exact h

/-- The books of regular calls, none of them in progress, are the counters. -/
theorem Counts.isCounted {s : Session σ} {tasks : List Task} (h : Counts settings s tasks)
    (hregular : ∀ task ∈ tasks, task.IsRegular)
    (hidle : ∀ task ∈ tasks, task.hasStarted = task.outcome?.isSome) :
    IsCounted settings ((tasks.filter Task.hasStarted).map Task.call) (tasks.map Task.outcome?)
      s := by
  refine ⟨?_, ?_, ?_, ?_, ?_⟩
  · rw [h.hits, h.misses, List.countP_map, List.countP_filter]
    exact countP_add_countP fun task htask =>
      ((hregular task htask).standing (hidle task htask)).1
  · rw [h.hits, List.countP_map]
    apply List.countP_congr
    intro task _
    rw [Function.comp_apply, task.isHit_eq]
  · rw [h.sent, h.misses, List.countP_map, List.countP_filter]
    exact (countP_add_countP fun task htask =>
      ((hregular task htask).standing (hidle task htask)).2).symm
  · rw [h.misses]
    exact Nat.le_trans h.size (List.countP_mono_left fun task _ => Task.isMiss_of_hasStored)
  · intro p hp
    obtain ⟨task, htask, hstarted, hbypass, hkey, hrows, hcount, hcached⟩ := h.entries p hp
    have hmade : task ∈ tasks.filter Task.hasStarted := List.mem_filter.mpr ⟨htask, hstarted⟩
    exact ⟨hrows, hcount, hcached, task.call, List.mem_map_of_mem hmade, hbypass, hkey⟩

/-- Whatever happens to a cache, whenever no call is in progress its counters tell how many calls
used it and how many of these were answered from it. -/
theorem isCounted_replay (settings : Settings) (warehouse : Warehouse σ) (state : σ)
    (steps : List Step) (members : List (Call × Nat)) (events : List Event)
    {outcomes : List (Option Outcome)} {s : Session σ}
    (hreplay : (replay settings warehouse steps).run (.start state) = (outcomes, s))
    (hsteps : Throughout settings warehouse (fun s => s.store.IsRepresentable) (.start state) steps)
    (hevents : (Run.start s members).Throughout settings warehouse
      (fun s => s.store.IsRepresentable) events)
    (hidle : ((Run.start s members).replay settings warehouse events).IsIdle) :
    let r := (Run.start s members).replay settings warehouse events
    IsCounted settings (steps.flatMap Step.calls ++ r.made) (outcomes ++ r.outcomes) r.session := by
  intro r
  have hempty : IsSettled settings [] [] (Session.start state) [] :=
    ⟨⟨rfl, rfl, rfl, Nat.le_refl 0, nofun⟩, rfl, rfl, nofun⟩
  obtain ⟨done, hdone⟩ := hempty.replay hsteps
  rw [hreplay, List.nil_append, List.nil_append] at hdone
  have hr := (hdone.counts.start members).replay hevents
  have hstarted : ∀ task ∈ done, task.hasStarted = true ∧ task.outcome?.isSome = true := by
    intro task htask
    obtain ⟨-, outcome, hphase⟩ := hdone.regular task htask
    simp [Task.hasStarted, Task.outcome?, hphase]
  have hregular : ∀ task ∈ done ++ r.tasks, task.IsRegular := by
    intro task htask
    rcases List.mem_append.mp htask with hold | hnew
    · exact (hdone.regular task hold).1
    · exact hr.regular task hnew
  have hrest : ∀ task ∈ done ++ r.tasks, task.hasStarted = task.outcome?.isSome := by
    intro task htask
    rcases List.mem_append.mp htask with hold | hnew
    · rw [(hstarted task hold).1, (hstarted task hold).2]
    · exact hidle task hnew
  have hcounted := hr.counts.isCounted hregular hrest
  have hall : done.filter Task.hasStarted = done :=
    List.filter_eq_self.mpr fun task htask => (hstarted task htask).1
  rw [List.filter_append, hall, List.map_append, List.map_append, hdone.calls, hdone.outcomes]
    at hcounted
  exact hcounted

/-- Two calls wait for one another and the first of them fails; a third one bypasses the cache.
Later one call finds the rows of the second and another has yet to arrive. -/
theorem isCounted_replay_failures :
    let call : Call := ⟨⟨"SELECT 1", []⟩, "count", some 60, false⟩
    let direct : Call := ⟨⟨"SELECT 1", []⟩, "count", none, true⟩
    let settings : Settings := ⟨1000, .full, true⟩
    let warehouse : Warehouse Nat := fun statement count =>
      (⟨if count = 0 then .error ["refused"] else .ok [[("SQL", .string statement.sql)]], 5⟩,
        count + 1)
    let steps : List Step :=
      [.group [(call, 0), (call, 1)] [.stage 0, .between (.wait 1)], .single direct,
        .between (.invalidate (some "data:")), .between .purge]
    let before := (replay settings warehouse steps).run (.start 0)
    let r := (Run.start before.2 [(call, 4), (call, 100)]).replay settings warehouse [.stage 0]
    IsCounted settings (steps.flatMap Step.calls ++ r.made) (before.1 ++ r.outcomes) r.session ∧
      r.session.store.hits = 1 ∧ r.session.store.misses = 2 ∧ r.session.statements.length = 3 := by
  refine ⟨isCounted_replay _ _ _ _ _ _ (Prod.eta _).symm ?_ ?_ ?_, ?_⟩
  all_goals decide +kernel

end DatasetSearch.Cache
