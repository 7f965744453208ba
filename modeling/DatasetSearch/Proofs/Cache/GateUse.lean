import DatasetSearch.Proofs.Cache.Waiting

/-!
# Gates in use

A gate is in flight as long as some call refers to it, and no longer: whoever leaves as the last one
takes the key out of flight.  Whether it is the last one it learns from the number of references, so
the invariant is about lines: the line of every key in flight has somebody in it.  A call leaves its
key behind in flight only if it does not come to its end, because it unwinds from an expiry that
cannot be represented.  Where the lifetimes leave room for the clock, no call does.
-/

namespace DatasetSearch.Cache

open Relation

variable {σ : Type} {settings : Settings} {warehouse : Warehouse σ} {call : Call} {index : Nat}
  {key : String}

/-- Whether a call was cut off: it found an entry whose expiry cannot be represented. -/
def Task.isCutOff (t : Task) : Bool :=
  match t.phase with
  | .answered (.error .expiryOverflow) => true
  | _ => false

namespace Gates

variable {g : Gates} {p : String × Nat}

theorem mem_inFlight_join (h : p ∈ g.inFlight) (key : String) (index : Nat) :
    p ∈ (g.join key index).inFlight := by
  unfold join
  split
  · exact h
  · exact List.mem_cons_of_mem _ h

theorem mem_or_eq_of_mem_join (h : p ∈ (g.join key index).inFlight) :
    p ∈ g.inFlight ∨ p.1 = key := by
  unfold join at h
  split at h
  · exact .inl h
  · rcases List.mem_cons.mp h with rfl | hold
    · exact .inr rfl
    · exact .inl hold

theorem nodup_join (h : (g.inFlight.map Prod.fst).Nodup) (key : String) (index : Nat) :
    ((g.join key index).inFlight.map Prod.fst).Nodup := by
  unfold join
  split
  · exact h
  · next hnone =>
    refine List.nodup_cons.mpr ⟨?_, h⟩
    intro hmem
    obtain ⟨q, hq, hkey⟩ := List.mem_map.mp hmem
    exact ne_of_lookup_eq_none hnone q hq hkey

theorem refs_join (g : Gates) (key : String) (index : Nat) :
    ∃ gate, (g.join key index).refs = g.refs ++ [(gate, index)] := by
  unfold join
  split
  · exact ⟨_, rfl⟩
  · exact ⟨_, rfl⟩

/-- Only the last to leave takes its key out of flight. -/
theorem mem_inFlight_leave : p ∈ (g.leave key index).inFlight ↔
    p ∈ g.inFlight ∧ (g.isLast index = true → p.1 ≠ key) := by
  unfold leave drop
  split
  · next hlast => simp [hlast]
  · next hlast => simp [hlast]

theorem sublist_leave (g : Gates) (key : String) (index : Nat) :
    (g.leave key index).inFlight.Sublist g.inFlight := by
  unfold leave drop
  split
  · exact List.filter_sublist
  · exact .refl _

theorem refs_leave (g : Gates) (key : String) (index : Nat) :
    (g.leave key index).refs = g.refs.filter (·.2 ≠ index) := by
  unfold leave drop
  split <;> rfl

/-- While a key stays in flight, who leaves its line leaves somebody in it. -/
theorem lineOf_leave_ne_nil (hg : g.IsSound) (hmem : index ∈ g.lineOf key)
    (hp : p ∈ (g.leave key index).inFlight) (hline : g.lineOf p.1 ≠ []) :
    (g.leave key index).lineOf p.1 ≠ [] := by
  rw [lineOf_leave hg hmem]
  by_cases hkey : p.1 = key
  · rw [hkey]
    intro hnil
    have hall : ∀ i ∈ g.lineOf key, i = index := by simpa using List.filter_eq_nil_iff.mp hnil
    have halone := (Gated.eq_singleton_iff (nodup_lineOf hg key) hmem).mpr hall
    exact (mem_inFlight_leave.mp hp).2 ((isLast_iff hg hmem).mpr halone) hkey
  · rw [Gated.lineOf_leave_of_ne hg hmem hkey]
    exact hline

end Gates

namespace Gated

variable {m m' : Gated σ}

/-! ### What a move does to the gates -/

/-- A call comes to its gate, leaves it, or lets go of it as it unwinds. -/
theorem Moves.gates_cases (hm : m.IsOrderly settings)
    (h : Moves settings warehouse index call m m') :
    m'.gates = m.gates ∨ m'.gates = m.gates.join (call.key settings) index ∨
      index ∈ m.gates.lineOf (call.key settings) ∧
        (m'.gates = m.gates.leave (call.key settings) index ∨
          m'.gates = m.gates.drop index ∧
            m'.run.tasks[index]? = some ⟨call, .answered (.error .expiryOverflow)⟩) := by
  cases h with
  | arriving htask harrives => exact .inl rfl
  | queueing htask harrives hwaits => exact .inr (.inl rfl)
  | starting htask harrives hfirst henters => exact .inr (.inl rfl)
  | entering htask hfirst henters =>
    have hmem : index ∈ m.gates.lineOf (call.key settings) :=
      (hm.lines _ index).mpr ⟨_, htask, rfl⟩
    cases henters with
    | hit journal hentry hfresh => exact .inr (.inr ⟨hmem, .inl rfl⟩)
    | overflow hentry hoverflow =>
      exact .inr (.inr ⟨hmem, .inr ⟨rfl, getElem?_move_self htask _ _⟩⟩)
    | missed journal hstale => exact .inl rfl
  | finishing htask hfinishes =>
    cases hgated : call.isGated settings with
    | false => exact .inl (if_neg (by simp [hgated]))
    | true =>
      have hmem : index ∈ m.gates.lineOf (call.key settings) :=
        (hm.lines _ index).mpr ⟨_, htask, by simp [Task.key?, hgated]⟩
      exact .inr (.inr ⟨hmem, .inl (if_pos hgated)⟩)

/-- A move takes no reference from another call. -/
theorem Moves.mem_refs (hm : m.IsOrderly settings) (h : Moves settings warehouse index call m m')
    {p : Nat × Nat} (hp : p ∈ m.gates.refs) (hne : p.2 ≠ index) : p ∈ m'.gates.refs := by
  have hkept : p ∈ m.gates.refs.filter (·.2 ≠ index) :=
    List.mem_filter.mpr ⟨hp, by simpa using hne⟩
  rcases h.gates_cases hm with hsame | hjoin | ⟨-, hleave | ⟨hdrop, -⟩⟩
  · rw [hsame]
    exact hp
  · obtain ⟨gate, hrefs⟩ := m.gates.refs_join (call.key settings) index
    rw [hjoin, hrefs]
    exact List.mem_append_left _ hp
  · rw [hleave, Gates.refs_leave]
    exact hkept
  · rw [hdrop]
    exact hkept

/-- A call that was cut off moves no more. -/
theorem Moves.mem_of_isCutOff (h : Moves settings warehouse index call m m') {task : Task}
    (hmem : task ∈ m.run.tasks) (hcut : task.isCutOff = true) : task ∈ m'.run.tasks := by
  obtain ⟨i, hi⟩ := List.mem_iff_getElem?.mp hmem
  have hne : i ≠ index := by
    rintro rfl
    obtain ⟨before, after, htask, -, hrank⟩ := h.tasks
    rw [hi] at htask
    cases htask
    unfold Task.isCutOff at hcut
    split at hcut
    · next hphase =>
      simp only at hphase
      rw [hphase] at hrank
      exact absurd hrank (Nat.not_lt_zero _)
    · cases hcut
  exact List.mem_iff_getElem?.mpr ⟨i, (h.getElem?_of_ne hne).trans hi⟩

theorem Moves.nodup_inFlight (hm : m.IsOrderly settings)
    (h : Moves settings warehouse index call m m')
    (hsingle : (m.gates.inFlight.map Prod.fst).Nodup) :
    (m'.gates.inFlight.map Prod.fst).Nodup := by
  rcases h.gates_cases hm with hsame | hjoin | ⟨-, hleave | ⟨hdrop, -⟩⟩
  · rw [hsame]
    exact hsingle
  · rw [hjoin]
    exact Gates.nodup_join hsingle _ _
  · rw [hleave]
    exact hsingle.sublist ((Gates.sublist_leave _ _ _).map Prod.fst)
  · rw [hdrop]
    exact hsingle

/-! ### Every key in flight is in use -/

/-- Somebody is in the line of a key, or a call for it was cut off. -/
def IsUsed (settings : Settings) (m : Gated σ) (key : String) : Prop :=
  m.gates.lineOf key ≠ [] ∨
    ∃ task ∈ m.run.tasks, task.isCutOff = true ∧ task.call.key settings = key

theorem Moves.isUsed_of_line (h : Moves settings warehouse index call m m')
    (hused : m.IsUsed settings key)
    (hline : m.gates.lineOf key ≠ [] → m'.gates.lineOf key ≠ []) : m'.IsUsed settings key := by
  rcases hused with hwaits | ⟨task, hmem, hcut, hkey⟩
  · exact .inl (hline hwaits)
  · exact .inr ⟨task, h.mem_of_isCutOff hmem hcut, hcut, hkey⟩

/-- After a move every key in flight is still in use. -/
theorem Moves.isUsed (hm : m.IsOrderly settings) (h : Moves settings warehouse index call m m')
    (hused : ∀ p ∈ m.gates.inFlight, m.IsUsed settings p.1) :
    ∀ p ∈ m'.gates.inFlight, m'.IsUsed settings p.1 := by
  intro p hp
  rcases h.gates_cases hm with hsame | hjoin | ⟨hmem, hleave | ⟨hdrop, htask⟩⟩
  · rw [hsame] at hp
    refine h.isUsed_of_line (hused p hp) ?_
    rw [hsame]
    exact id
  · rw [hjoin] at hp
    have hlines := Gates.lineOf_join hm.sound (call.key settings) index
    by_cases hkey : p.1 = call.key settings
    · left
      rw [hjoin, hlines]
      simp [hkey]
    · refine h.isUsed_of_line (hused p ((Gates.mem_or_eq_of_mem_join hp).resolve_right hkey)) ?_
      rw [hjoin, hlines, Function.update_of_ne hkey]
      exact id
  · rw [hleave] at hp
    refine h.isUsed_of_line (hused p (Gates.mem_inFlight_leave.mp hp).1) ?_
    rw [hleave]
    exact Gates.lineOf_leave_ne_nil hm.sound hmem hp
  · rw [hdrop] at hp
    by_cases hkey : p.1 = call.key settings
    · -- The call that unwinds may have been the only one in the line.
      exact .inr ⟨_, List.mem_iff_getElem?.mpr ⟨index, htask⟩, rfl, hkey.symm⟩
    · refine h.isUsed_of_line (hused p hp) ?_
      rw [hdrop, Gates.lineOf_drop, lineOf_leave_of_ne hm.sound hmem hkey]
      exact id

/-- A key is in flight once, and only while it is in use. -/
structure IsTidy (settings : Settings) (m : Gated σ) : Prop where
  orderly : m.IsOrderly settings
  single : (m.gates.inFlight.map Prod.fst).Nodup
  used : ∀ p ∈ m.gates.inFlight, m.IsUsed settings p.1

theorem IsTidy.moves (h : m.IsTidy settings) (hmove : Moves settings warehouse index call m m') :
    m'.IsTidy settings :=
  ⟨h.orderly.moves hmove, hmove.nodup_inFlight h.orderly h.single, hmove.isUsed h.orderly h.used⟩

theorem IsTidy.replay (h : m.IsTidy settings) (warehouse : Warehouse σ) (events : List Event) :
    (m.replay settings warehouse events).IsTidy settings :=
  replay_invariant (IsTidy settings) (fun _ _ _ _ h hmove => h.moves hmove)
    (fun _ interlude _ h => ⟨h.orderly.between warehouse interlude, h.single, h.used⟩) h

theorem isTidy_start (settings : Settings) {s : Session σ} (hgates : s.store.gates = [])
    (members : List (Call × Nat)) : (start s members).IsTidy settings := by
  have hempty : (start s members).gates.inFlight = [] := by
    unfold start Gates.idle
    simp [hgates]
  refine ⟨isOrderly_start settings s members, ?_, ?_⟩
  · rw [hempty]
    exact List.nodup_nil
  · intro p hp
    rw [hempty] at hp
    cases hp

/-! ### Gates that go out of flight -/

/-- A gate goes out of flight only if nobody else refers to it. -/
theorem IsTidy.eq_of_removed (h : m.IsTidy settings)
    (hmove : Moves settings warehouse index call m m') {gate : Nat}
    (hflies : (key, gate) ∈ m.gates.inFlight) (hgone : (key, gate) ∉ m'.gates.inFlight) {i : Nat}
    (hrefers : (gate, i) ∈ m.gates.refs) : i = index := by
  rcases hmove.gates_cases h.orderly with hsame | hjoin | ⟨hmem, hleave | ⟨hdrop, -⟩⟩
  · rw [hsame] at hgone
    exact absurd hflies hgone
  · rw [hjoin] at hgone
    exact absurd (Gates.mem_inFlight_join hflies _ _) hgone
  · rw [hleave, Gates.mem_inFlight_leave] at hgone
    obtain ⟨hlast, hkey⟩ : m.gates.isLast index = true ∧ key = call.key settings := by
      simpa [hflies] using hgone
    subst hkey
    have hline := (Gates.isLast_iff h.orderly.sound hmem).mp hlast
    have hi := Gates.mem_lineOf_of_mem_refs (lookup_of_mem h.single hflies) hrefers
    rw [hline] at hi
    exact List.mem_singleton.mp hi
  · rw [hdrop] at hgone
    exact absurd hflies hgone

theorem IsTidy.eq_of_stages (h : m.IsTidy settings)
    (hstages : ReflTransGen (Moves settings warehouse index call) m m') {gate : Nat}
    (hflies : (key, gate) ∈ m.gates.inFlight) (hgone : (key, gate) ∉ m'.gates.inFlight) {i : Nat}
    (hrefers : (gate, i) ∈ m.gates.refs) : i = index := by
  induction hstages using ReflTransGen.head_induction_on with
  | refl => exact absurd hflies hgone
  | @head m next hmove hrest ih =>
    by_cases hnext : (key, gate) ∈ next.gates.inFlight
    · by_contra hne
      exact hne (ih (h.moves hmove) hnext (hmove.mem_refs h.orderly hrefers hne))
    · exact h.eq_of_removed hmove hflies hnext hrefers

/-- While no call is cut off, gates are in flight just as long as calls refer to them. -/
structure AreInUse (settings : Settings) (warehouse : Warehouse σ) (m : Gated σ) : Prop where
  /-- There is one gate at most under a key. -/
  single : (m.gates.inFlight.map Prod.fst).Nodup
  /-- A call that has not ended refers to the gate under a key, and waits at it or executes for
  the key. -/
  used : ∀ (key : String) (gate : Nat), (key, gate) ∈ m.gates.inFlight →
    ∃ (i : Nat) (task : Task), m.run.tasks[i]? = some task ∧
      (∀ outcome, task.phase ≠ .answered outcome) ∧ (gate, i) ∈ m.gates.refs ∧
      task.refers settings key = true
  /-- A gate goes out of flight only when a call runs that alone refers to it. -/
  removed : ∀ (event : Event) (key : String) (gate : Nat), (key, gate) ∈ m.gates.inFlight →
    (key, gate) ∉ (m.after settings warehouse event).gates.inFlight →
    ∃ index, event = .stage index ∧ ∀ i, (gate, i) ∈ m.gates.refs → i = index
  /-- When all calls have ended, no gate is in flight. -/
  ended : (∀ task ∈ m.run.tasks, ∃ outcome, task.phase = .answered outcome) →
    m.gates.inFlight = []

theorem not_answered_of_refers {task : Task} (h : task.refers settings key = true)
    (outcome : Outcome) : task.phase ≠ .answered outcome := by
  intro hphase
  simp [Task.refers, Task.awaits, Task.holds, hphase] at h

theorem IsTidy.areInUse (h : m.IsTidy settings) (warehouse : Warehouse σ)
    (hwhole : ∀ task ∈ m.run.tasks, task.isCutOff = false) : m.AreInUse settings warehouse := by
  have hused : ∀ (key : String) (gate : Nat), (key, gate) ∈ m.gates.inFlight →
      ∃ (i : Nat) (task : Task), m.run.tasks[i]? = some task ∧
        (∀ outcome, task.phase ≠ .answered outcome) ∧ (gate, i) ∈ m.gates.refs ∧
        task.refers settings key = true := by
    intro key gate hflies
    rcases h.used _ hflies with hline | ⟨task, hmem, hcut, -⟩
    · obtain ⟨i, hi⟩ := List.exists_mem_of_ne_nil _ hline
      obtain ⟨task, htask, hkey⟩ := (h.orderly.lines key i).mp hi
      have hrefers := Task.refers_iff.mpr hkey
      rw [Gates.lineOf_eq (lookup_of_mem h.single hflies)] at hi
      exact ⟨i, task, htask, not_answered_of_refers hrefers, Gates.mem_line.mp hi, hrefers⟩
    · rw [hwhole task hmem] at hcut
      cases hcut
  refine ⟨h.single, hused, ?_, ?_⟩
  · intro event key gate hflies hgone
    cases event with
    | between interlude => exact absurd hflies hgone
    | stage index =>
      refine ⟨index, rfl, ?_⟩
      intro i hrefers
      change (key, gate) ∉ (m.perform settings warehouse index).gates.inFlight at hgone
      rcases perform_cases settings warehouse m index with hsame | ⟨task, -, hstages⟩
      · rw [hsame] at hgone
        exact absurd hflies hgone
      · exact h.eq_of_stages hstages.to_reflTransGen hflies hgone hrefers
  · intro hended
    apply List.eq_nil_iff_forall_not_mem.mpr
    rintro ⟨key, gate⟩ hflies
    obtain ⟨i, task, htask, hpending, -⟩ := hused key gate hflies
    obtain ⟨outcome, hphase⟩ := hended task (List.mem_iff_getElem?.mpr ⟨i, htask⟩)
    exact hpending outcome hphase

/-! ### Expiries that can be represented -/

/-- The expiry of every entry can be represented, and no call was cut off. -/
structure IsWhole (m : Gated σ) : Prop where
  expiries : m.run.session.store.IsRepresentable
  tasks : ∀ task ∈ m.run.tasks, task.isCutOff = false

theorem isCutOff_eq_false {phase : Phase} (h : phase ≠ .answered (.error .expiryOverflow)) :
    Task.isCutOff ⟨call, phase⟩ = false := by
  unfold Task.isCutOff
  split
  · next hphase => exact absurd hphase h
  · rfl

theorem phase_ne_of_arrives {s t : Session σ} {progress : Progress}
    (h : Arrives settings warehouse call s (.moved progress, t))
    (hs : s.store.IsRepresentable) :
    progress.phase t ≠ .answered (.error .expiryOverflow) := by
  cases h with
  | overflow hbypass hentry hoverflow => exact absurd hoverflow (hs.ne_overflow hentry _)
  | bypassed | hit | missed => nofun

theorem phase_ne_of_enters {s t : Session σ} {alone : Bool} {progress : Progress}
    (h : Enters settings warehouse call alone s (progress, t))
    (hs : s.store.IsRepresentable) :
    progress.phase t ≠ .answered (.error .expiryOverflow) := by
  cases h with
  | overflow hentry hoverflow => exact absurd hoverflow (hs.ne_overflow hentry _)
  | hit | missed => nofun

/-- An execution cuts no call off, and stores what expires in time. -/
theorem of_finishes {s t : Session σ} {alone : Bool} {reply : Reply} {outcome : Outcome}
    (h : Finishes settings call reply alone s (outcome, t)) (hs : s.store.IsRepresentable)
    (hlifetime : t.clock + call.lifetime settings < instantLimit) :
    t.store.IsRepresentable ∧ outcome ≠ .error .expiryOverflow := by
  cases h with
  | failed houtcome => exact ⟨hs.mono (by simp), nofun⟩
  | unstored journal houtcome hreason => exact ⟨hs.mono (by simp), nofun⟩
  | stored journal houtcome hbypass hrows =>
    refine ⟨?_, nofun⟩
    intro p hp
    rw [Store.entries_released] at hp
    rcases Store.mem_insert hp with rfl | hold
    · exact hlifetime
    · exact hs p hold

theorem IsWhole.move (h : m.IsWhole) {before after : Phase} {t : Session σ} {ticket : Nat}
    {gates : Gates} (htask : m.run.tasks[index]? = some ⟨call, before⟩)
    (ht : t.store.IsRepresentable) (hafter : after ≠ .answered (.error .expiryOverflow)) :
    IsWhole ⟨{ m.run.move index t after with ticket := ticket }, gates⟩ := by
  refine ⟨ht, forall_mem_modify h.tasks ?_⟩
  intro task hindex
  rw [htask] at hindex
  cases hindex
  exact isCutOff_eq_false hafter

/-- A move cuts no call off, if what is stored now expires in time. -/
theorem IsWhole.moves (h : m.IsWhole) (hmove : Moves settings warehouse index call m m')
    (hlifetime : m'.run.session.clock + call.lifetime settings < instantLimit) : m'.IsWhole := by
  cases hmove with
  | arriving htask harrives =>
    exact h.move htask (h.expiries.mono harrives.mem_of_mem)
      (phase_ne_of_arrives harrives h.expiries)
  | queueing htask harrives hwaits =>
    exact h.move htask (h.expiries.mono harrives.mem_of_mem) nofun
  | starting htask harrives hfirst henters =>
    have hgate := h.expiries.mono harrives.mem_of_mem
    exact h.move htask (hgate.mono henters.mem_of_mem) nofun
  | entering htask hfirst henters =>
    exact h.move htask (h.expiries.mono henters.mem_of_mem)
      (phase_ne_of_enters henters h.expiries)
  | finishing htask hfinishes =>
    obtain ⟨ht, houtcome⟩ := of_finishes hfinishes h.expiries hlifetime
    refine h.move htask ht ?_
    simpa using houtcome

/-- No call was cut off before a time at which what the calls store still expires in time. -/
structure IsWholeUntil (settings : Settings) (last : Nat) (m : Gated σ) : Prop where
  lifetimes : ∀ task ∈ m.run.tasks, last + task.call.lifetime settings < instantLimit
  whole : m.run.session.clock ≤ last → m.IsWhole

theorem IsWholeUntil.moves {last : Nat} (h : m.IsWholeUntil settings last)
    (hmove : Moves settings warehouse index call m m') : m'.IsWholeUntil settings last := by
  obtain ⟨before, after, htask, htasks, -⟩ := hmove.tasks
  have hcall := h.lifetimes _ (List.mem_iff_getElem?.mpr ⟨index, htask⟩)
  refine ⟨?_, ?_⟩
  · rw [htasks]
    apply forall_mem_modify h.lifetimes
    intro task hindex
    exact h.lifetimes task (List.mem_iff_getElem?.mpr ⟨index, hindex⟩)
  · intro hle
    have hbefore := h.whole (Nat.le_trans hmove.clock_le hle)
    exact hbefore.moves hmove (Nat.lt_of_le_of_lt (Nat.add_le_add_right hle _) hcall)

theorem IsWholeUntil.between {last : Nat} (h : m.IsWholeUntil settings last)
    (warehouse : Warehouse σ) (interlude : Interlude) :
    (m.after settings warehouse (.between interlude)).IsWholeUntil settings last := by
  refine ⟨h.lifetimes, ?_⟩
  intro hle
  have hlater : m.run.session.clock ≤ (interlude.run.run m.run.session).2.clock := by
    obtain ⟨keep, clock, journal, hrun, hclock, -⟩ := interlude.run_eq m.run.session
    rw [hrun]
    exact hclock
  have hbefore := h.whole (Nat.le_trans hlater hle)
  exact ⟨hbefore.expiries.mono fun _ => Interlude.mem_of_mem_run, hbefore.tasks⟩

/-- If what the calls store at the end of a run still expires in time, the run cuts no call off. -/
theorem IsWhole.replay (h : m.IsWhole) (warehouse : Warehouse σ) {events : List Event}
    (hlifetimes : ∀ task ∈ m.run.tasks,
      (m.replay settings warehouse events).run.session.clock + task.call.lifetime settings <
        instantLimit) :
    (m.replay settings warehouse events).IsWhole := by
  have huntil : (m.replay settings warehouse events).IsWholeUntil settings
      (m.replay settings warehouse events).run.session.clock :=
    replay_invariant (IsWholeUntil settings _) (fun _ _ _ _ h hmove => h.moves hmove)
      (fun _ interlude _ h => h.between warehouse interlude) ⟨hlifetimes, fun _ => h⟩
  exact huntil.whole (Nat.le_refl _)

theorem isWhole_start {s : Session σ} (hs : s.store.IsRepresentable)
    (members : List (Call × Nat)) : (start s members).IsWhole := by
  refine ⟨hs, ?_⟩
  intro task htask
  obtain ⟨member, -, rfl⟩ := List.mem_map.mp htask
  rfl

end Gated

/-- In runs in which no call is cut off, whatever the calls are and whenever they run, gates do not
leak. -/
theorem replay_areInUse (settings : Settings) (warehouse : Warehouse σ) (s : Session σ)
    (members : List (Call × Nat)) (events : List Event) (hgates : s.store.gates = [])
    (hwhole : ∀ task ∈ ((Gated.start s members).replay settings warehouse events).run.tasks,
      task.isCutOff = false) :
    let m := (Gated.start s members).replay settings warehouse events
    m.AreInUse settings warehouse ∧
      m.run.session.store.gates = m.gates.inFlight.map Prod.fst ∧
      ∃ kept, kept.Sublist events ∧
        m.run = (Run.start s members).replay settings warehouse kept := by
  intro m
  have htidy := (Gated.isTidy_start settings hgates members).replay warehouse events
  exact ⟨htidy.areInUse warehouse hwhole, htidy.orderly.noted,
    Gated.exists_replay_eq (Gated.isOrderly_start settings s members) warehouse events⟩

/-- Four calls for two keys.  The execution of the first fails, but the gate of its key stays in
flight for the two calls that wait at it.  The next one finds no rows, and so does the last; then no
gate is in flight. -/
theorem replay_areInUse_handed :
    let call : Call := ⟨⟨"SELECT 1", []⟩, "count", some 60, false⟩
    let other : Call := ⟨⟨"SELECT 2", []⟩, "count", some 60, false⟩
    let warehouse : Warehouse Nat := fun statement count =>
      (⟨if count = 0 then .error ["refused"]
        else if statement = call.statement then .ok [] else .ok [[("SQL", .string "2")]], 5⟩,
        count + 1)
    let settings : Settings := ⟨1000, .truncated 8, true⟩
    let m := (Gated.start (.start 0) [(call, 0), (call, 1), (other, 1), (call, 2)]).replay settings
      warehouse [.stage 0, .stage 1, .stage 2, .stage 3, .stage 0]
    let later := m.replay settings warehouse [.stage 2, .stage 1, .stage 1, .stage 3, .stage 3]
    (m.AreInUse settings warehouse ∧
      m.run.session.store.gates = m.gates.inFlight.map Prod.fst ∧
      ∃ kept, kept.Sublist [.stage 0, .stage 1, .stage 2, .stage 3, .stage 0] ∧
        m.run = (Run.start (.start 0) [(call, 0), (call, 1), (other, 1), (call, 2)]).replay settings
          warehouse kept) ∧
      m.gates.inFlight.map Prod.snd = [1, 0] ∧ m.gates.line 0 = [1, 3] ∧
      m.gates.line 1 = [2] ∧ later.gates.inFlight = [] := by
  refine ⟨replay_areInUse _ _ _ _ _ rfl ?_, ?_⟩
  · decide +kernel
  · decide +kernel

/-- In runs in which expiries can be represented, no call is cut off and gates do not leak: the
entries at the start expire in time, and so does whatever is stored until the end. -/
theorem isWhole_and_areInUse (settings : Settings) (warehouse : Warehouse σ) {s : Session σ}
    (members : List (Call × Nat)) (events : List Event) (hgates : s.store.gates = [])
    (hstored : s.store.IsRepresentable)
    (hlifetimes : ∀ member ∈ members,
      ((Gated.start s members).replay settings warehouse events).run.session.clock +
        member.1.lifetime settings < instantLimit) :
    let m := (Gated.start s members).replay settings warehouse events
    m.IsWhole ∧ m.AreInUse settings warehouse := by
  intro m
  have hwhole : m.IsWhole := by
    apply (Gated.isWhole_start hstored members).replay warehouse
    intro task htask
    obtain ⟨member, hmember, rfl⟩ := List.mem_map.mp htask
    exact hlifetimes member hmember
  have htidy := (Gated.isTidy_start settings hgates members).replay warehouse events
  exact ⟨hwhole, htidy.areInUse warehouse hwhole.tasks⟩

end DatasetSearch.Cache
