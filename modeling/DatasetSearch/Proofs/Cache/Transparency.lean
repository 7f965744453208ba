import DatasetSearch.Proofs.Cache.History
import DatasetSearch.Proofs.Cache.Key

/-!
# A cache does not show

Where a warehouse answers a statement always alike and no two statements under one label share the
digest in their keys, a call yields the rows or the errors of its own statement, whatever was
cached, expired, invalidated or shared before.  Every entry of the store belongs to a call of the
history; each stage keeps that.
-/

namespace DatasetSearch.Cache

open Relation

abbrev Answers := Statement → Except (List String) (List Row)

/-- An outcome is that of executing the statement of a call: its rows and their number, or its
errors. -/
def Call.IsDirect (answers : Answers) (call : Call) (outcome : Outcome) : Prop :=
  match answers call.statement with
  | .ok rows => ∃ result, outcome = .ok result ∧ result.rows = rows ∧ result.rowCount = rows.length
  | .error causes => outcome = .error (.execution causes)

/-- The outcome of a call is there and is that of executing its statement. -/
def Call.IsAnswered (answers : Answers) (call : Call) (outcome : Option Outcome) : Prop :=
  ∃ direct, outcome = some direct ∧ call.IsDirect answers direct

/-- No two calls with the same label that use the cache have keys with the same part of a digest,
unless they have the same statement. -/
def KeysApart (settings : Settings) (calls : List Call) : Prop :=
  ∀ call ∈ calls, ∀ other ∈ calls, call.bypass = false → other.bypass = false →
    call.label = other.label →
    digestPart settings.keyDigest call.statement = digestPart settings.keyDigest other.statement →
    call.statement = other.statement

instance (settings : Settings) (calls : List Call) : Decidable (KeysApart settings calls) :=
  inferInstanceAs (Decidable (∀ call ∈ calls, ∀ other ∈ calls, call.bypass = false →
    other.bypass = false → call.label = other.label →
    digestPart settings.keyDigest call.statement = digestPart settings.keyDigest other.statement →
    call.statement = other.statement))

/-- Every entry holds the rows of a call that uses the cache, under the key of that call. -/
def Store.IsSound (settings : Settings) (answers : Answers) (calls : List Call) (store : Store) :
    Prop :=
  ∀ p ∈ store.entries, ∃ call ∈ calls, call.bypass = false ∧ p.1 = call.key settings ∧
    answers call.statement = .ok p.2.value.rows ∧ p.2.value.rowCount = p.2.value.rows.length

/-- A phase promises the outcome of executing the statement of the call. -/
def Phase.IsSound (answers : Answers) (call : Call) : Phase → Prop
  | .scheduled _ => True
  | .queued _ => call.bypass = false
  | .executing reply _ => reply.outcome = answers call.statement
  | .answered outcome => call.IsDirect answers outcome

variable {σ : Type} {settings : Settings} {warehouse : Warehouse σ} {answers : Answers}
  {calls : List Call} {call : Call}

theorem Store.IsSound.mono {store kept : Store} (hstore : store.IsSound settings answers calls)
    (hsub : ∀ p ∈ kept.entries, p ∈ store.entries) : kept.IsSound settings answers calls := by
  intro p hp
  exact hstore p (hsub p hp)

/-- What is found under the key of a call are the rows of its own statement. -/
theorem Store.IsSound.isDirect_of_entry? {store : Store} {entry : Entry} {cached : Bool}
    (hstore : store.IsSound settings answers calls) (hkeys : KeysApart settings calls)
    (hcall : call ∈ calls) (hbypass : call.bypass = false)
    (hentry : store.entry? (call.key settings) = some entry) :
    call.IsDirect answers (.ok { entry.value with cached := cached }) := by
  obtain ⟨other, hother, hused, hkey, hrows, hcount⟩ := hstore _ (Store.mem_of_entry? hentry)
  obtain ⟨hlabel, hpart⟩ := key_inj hkey
  have hstatement := hkeys call hcall other hother hbypass hused hlabel hpart
  unfold Call.IsDirect
  rw [hstatement, hrows]
  exact ⟨_, rfl, rfl, hcount⟩

theorem isDirect_ofRows {rows : List Row} {elapsedMs : UInt64}
    (h : answers call.statement = .ok rows) :
    call.IsDirect answers (.ok (.ofRows rows elapsedMs)) := by
  unfold Call.IsDirect
  rw [h]
  exact ⟨_, rfl, rfl, rfl⟩

theorem isDirect_execution {causes : List String}
    (h : answers call.statement = .error causes) :
    call.IsDirect answers (.error (.execution causes)) := by
  unfold Call.IsDirect
  rw [h]

/-! ### One stage -/

/-- How a session and the phase of a call stand: what is stored is sound, and so is what the call
has come to. -/
structure Stands (settings : Settings) (answers : Answers) (calls : List Call) (call : Call)
    (state : Session σ × Phase) : Prop where
  stored : state.1.store.IsSound settings answers calls
  promised : state.2.IsSound answers call
  expiries : state.2.Looks → state.1.store.IsRepresentable

theorem Stands.progress {progress : Progress} {s : Session σ}
    (hstored : s.store.IsSound settings answers calls)
    (hpromised : (progress.phase s).IsSound answers call) :
    Stands settings answers calls call (s, progress.phase s) := by
  refine ⟨hstored, hpromised, ?_⟩
  cases progress with
  | answered outcome => exact False.elim
  | executing reply => exact False.elim

section

variable (hpure : ∀ statement state, (warehouse statement state).1.outcome = answers statement)
  (hkeys : KeysApart settings calls) (hcall : call ∈ calls)

include hpure hkeys hcall

theorem Stands.arriving {s t : Session σ} {progress : Progress}
    (hstored : s.store.IsSound settings answers calls) (hexpiries : s.store.IsRepresentable)
    (h : Arrives settings warehouse call s (.moved progress, t)) :
    Stands settings answers calls call (t, progress.phase t) := by
  cases h with
  | bypassed journal _ => exact .progress hstored (hpure _ _)
  | hit journal hbypass hentry _ =>
    exact .progress hstored (hstored.isDirect_of_entry? hkeys hcall hbypass hentry)
  | overflow _ hentry hoverflow =>
    have hexpiry := hexpiries _ (Store.mem_of_entry? hentry)
    exact absurd hoverflow (Entry.freshness_ne_overflow hexpiry _)
  | missed journal _ _ _ => exact .progress (hstored.mono fun _ => Store.mem_evict) (hpure _ _)

theorem Stands.entering {s t : Session σ} {alone : Bool} {progress : Progress}
    (hstored : s.store.IsSound settings answers calls) (hexpiries : s.store.IsRepresentable)
    (hbypass : call.bypass = false)
    (h : Enters settings warehouse call alone s (progress, t)) :
    Stands settings answers calls call (t, progress.phase t) := by
  cases h with
  | hit journal hentry _ =>
    refine .progress ?_ (hstored.isDirect_of_entry? hkeys hcall hbypass hentry)
    apply hstored.mono
    intro p hp
    simpa using hp
  | overflow hentry hoverflow =>
    have hexpiry := hexpiries _ (Store.mem_of_entry? hentry)
    exact absurd hoverflow (Entry.freshness_ne_overflow hexpiry _)
  | missed journal _ => exact .progress (hstored.mono fun _ => Store.mem_evict) (hpure _ _)

omit hpure hkeys in
theorem Stands.finishing {s t : Session σ} {alone : Bool} {reply : Reply} {outcome : Outcome}
    (hstored : s.store.IsSound settings answers calls)
    (hreply : reply.outcome = answers call.statement)
    (h : Finishes settings call reply alone s (outcome, t)) :
    Stands settings answers calls call (t, .answered outcome) := by
  refine ⟨?_, ?_, False.elim⟩
  · cases h with
    | failed _ => exact hstored.mono fun p hp => by simpa using hp
    | unstored journal _ _ => exact hstored.mono fun p hp => by simpa using hp
    | stored journal houtcome hbypass _ =>
      intro p hp
      rw [Store.entries_released] at hp
      rcases Store.mem_insert hp with rfl | hold
      · exact ⟨call, hcall, hbypass, rfl, hreply.symm.trans houtcome, rfl⟩
      · exact hstored p hold
  · cases h with
    | failed houtcome => exact isDirect_execution (hreply.symm.trans houtcome)
    | unstored journal houtcome _ => exact isDirect_ofRows (hreply.symm.trans houtcome)
    | stored journal houtcome _ _ => exact isDirect_ofRows (hreply.symm.trans houtcome)

theorem Stands.stage {alone : Bool} {before after : Session σ × Phase}
    (hbefore : Stands settings answers calls call before)
    (h : Stage settings warehouse call alone before after) :
    Stands settings answers calls call after := by
  cases h with
  | @arriving s t start progress harrives =>
    exact .arriving (s := { s with clock := max s.clock start }) hpure hkeys hcall hbefore.stored
      (hbefore.expiries trivial) harrives
  | @queueing s t start ticket harrives =>
    cases harrives with
    | gated journal hbypass _ _ =>
      have hkept : ∀ p ∈ ((s.store.evict (call.key settings)).openGate
          (call.key settings)).entries, p ∈ s.store.entries := by
        intro p hp
        rw [Store.entries_openGate] at hp
        exact Store.mem_evict hp
      exact ⟨hbefore.stored.mono hkept, hbypass,
        fun _ p hp => hbefore.expiries trivial p (hkept p hp)⟩
  | entering henters =>
    exact .entering hpure hkeys hcall hbefore.stored (hbefore.expiries trivial)
      hbefore.promised henters
  | @finishing s t reply due outcome hfinishes =>
    exact .finishing (s := { s with clock := max s.clock due }) hcall hbefore.stored
      hbefore.promised hfinishes

theorem Stands.stages {alone : Bool} {before after : Session σ × Phase}
    (hbefore : Stands settings answers calls call before)
    (h : TransGen (Stage settings warehouse call alone) before after) :
    Stands settings answers calls call after := by
  induction h with
  | single hstage => exact hbefore.stage hpure hkeys hcall hstage
  | tail _ hstage ih => exact ih.stage hpure hkeys hcall hstage

/-! ### Runs -/

structure Run.IsSound (settings : Settings) (answers : Answers) (calls : List Call) (r : Run σ) :
    Prop where
  stored : r.session.store.IsSound settings answers calls
  promised : ∀ task ∈ r.tasks, task.call ∈ calls ∧ task.phase.IsSound answers task.call

omit hcall in
theorem Run.IsSound.perform {r : Run σ} (hr : r.IsSound settings answers calls)
    (hexpiries : r.session.store.IsRepresentable) (index : Nat) :
    (r.perform settings warehouse index).IsSound settings answers calls := by
  rcases Run.perform_cases settings warehouse r index with
    hsame | ⟨task, t, phase, ticket, htask, hperform, hstages⟩
  · rw [hsame]
    exact hr
  · obtain ⟨hcall, hpromised⟩ := hr.promised task (List.mem_iff_getElem?.mpr ⟨index, htask⟩)
    have hbefore : Stands settings answers calls task.call (r.session, task.phase) :=
      ⟨hr.stored, hpromised, fun _ => hexpiries⟩
    have hafter := hbefore.stages hpure hkeys hcall hstages
    rw [hperform]
    refine ⟨hafter.stored, ?_⟩
    -- What the other calls have come to does not depend on the session.
    apply forall_mem_modify hr.promised
    intro other hother
    rw [htask] at hother
    cases hother
    exact ⟨hcall, hafter.promised⟩

omit hcall in
theorem Run.IsSound.after {r : Run σ} (event : Event) (hexpiries : r.session.store.IsRepresentable)
    (hr : r.IsSound settings answers calls) :
    (r.after settings warehouse event).IsSound settings answers calls := by
  cases event with
  | stage index => exact hr.perform hpure hkeys hexpiries index
  | between interlude => exact ⟨hr.stored.mono fun _ => Interlude.mem_of_mem_run, hr.promised⟩

omit hpure hkeys hcall in
theorem Run.IsSound.outcomes {r : Run σ} (hr : r.IsSound settings answers calls)
    (hanswered : ∀ task ∈ r.tasks, ∃ outcome, task.phase = .answered outcome) :
    List.Forall₂ (Call.IsAnswered answers) (r.tasks.map Task.call) r.outcomes := by
  unfold Run.outcomes
  rw [List.forall₂_map_left_iff, List.forall₂_map_right_iff, List.forall₂_same]
  intro task htask
  obtain ⟨outcome, houtcome⟩ := hanswered task htask
  have hpromised := (hr.promised task htask).2
  rw [houtcome] at hpromised ⊢
  exact ⟨outcome, rfl, hpromised⟩

omit hcall in
theorem Run.IsSound.overlap {s : Session σ} {members : List (Call × Nat)} {events : List Event}
    (hcalls : ∀ call ∈ members.map Prod.fst, call ∈ calls)
    (hexpiries : (Step.group members events).Throughout settings warehouse
      (fun s => s.store.IsRepresentable) s)
    (hs : s.store.IsSound settings answers calls) :
    (Run.overlap settings warehouse s members events).IsSound settings answers calls := by
  have hstart : (Run.start s members).IsSound settings answers calls := by
    refine ⟨hs, ?_⟩
    intro task htask
    obtain ⟨member, hmember, rfl⟩ := List.mem_map.mp htask
    exact ⟨hcalls _ (List.mem_map.mpr ⟨member, hmember, rfl⟩), trivial⟩
  have hafter : ∀ (r : Run σ) (event : Event), r.session.store.IsRepresentable →
      r.IsSound settings answers calls →
      (r.after settings warehouse event).IsSound settings answers calls := by
    intro r event hexpiry hr
    exact hr.after hpure hkeys event hexpiry
  have hevents := Run.replay_invariant hafter hexpiries.1 hstart
  unfold Run.overlap
  rw [Run.complete_eq_replay]
  exact Run.replay_invariant hafter hexpiries.2 hevents

/-! ### Histories -/

omit hcall in
theorem Store.IsSound.step {s : Session σ} {step : Step}
    (hcalls : ∀ call ∈ step.calls, call ∈ calls)
    (hexpiries : step.Throughout settings warehouse (fun s => s.store.IsRepresentable) s)
    (hs : s.store.IsSound settings answers calls) :
    List.Forall₂ (Call.IsAnswered answers) step.calls ((step.run settings warehouse).run s).1 ∧
      ((step.run settings warehouse).run s).2.store.IsSound settings answers calls := by
  cases step with
  | single call =>
    have hcall := hcalls call List.mem_cons_self
    obtain ⟨outcome, t, hfetch, hstages⟩ := fetch_stages settings warehouse call s
    have hbefore : Stands settings answers calls call (s, .scheduled s.clock) :=
      ⟨hs, trivial, fun _ => hexpiries⟩
    have hafter := hbefore.stages hpure hkeys hcall hstages
    have hrun : ((Step.single call).run settings warehouse).run s = ([some outcome], t) := by
      unfold Step.run
      rw [StateT.run_bind, hfetch]
      rfl
    rw [hrun]
    exact ⟨.cons ⟨outcome, rfl, hafter.promised⟩ .nil, hafter.stored⟩
  | group members events =>
    have hr := Run.IsSound.overlap hpure hkeys hcalls hexpiries hs
    refine ⟨?_, hr.stored⟩
    have houtcomes := hr.outcomes (Run.answered_complete _)
    rw [calls_overlap] at houtcomes
    exact houtcomes
  | between interlude => exact ⟨.nil, hs.mono fun _ => Interlude.mem_of_mem_run⟩

end

/-- Every call of a history yields the rows and their number, or the errors, of its statement. -/
theorem replay_isAnswered (settings : Settings) (warehouse : Warehouse σ) (answers : Answers)
    (state : σ) (steps : List Step)
    (hpure : ∀ statement state, (warehouse statement state).1.outcome = answers statement)
    (hkeys : KeysApart settings (steps.flatMap Step.calls))
    (hexpiries : Throughout settings warehouse (fun s => s.store.IsRepresentable) (.start state)
      steps) :
    List.Forall₂ (Call.IsAnswered answers) (steps.flatMap Step.calls)
      ((replay settings warehouse steps).run (.start state)).1 := by
  have hstep : ∀ (s : Session σ) (step : Step),
      (∀ call ∈ step.calls, call ∈ steps.flatMap Step.calls) →
      step.Throughout settings warehouse (fun s => s.store.IsRepresentable) s →
      s.store.IsSound settings answers (steps.flatMap Step.calls) →
      List.Forall₂ (Call.IsAnswered answers) step.calls ((step.run settings warehouse).run s).1 ∧
        ((step.run settings warehouse).run s).2.store.IsSound settings answers
          (steps.flatMap Step.calls) := by
    intro s step hcalls hexpiry hs
    exact hs.step hpure hkeys hcalls hexpiry
  have hcalls : ∀ step ∈ steps, ∀ call ∈ step.calls, call ∈ steps.flatMap Step.calls := by
    intro step hmem call hcall
    exact List.mem_flatMap.mpr ⟨step, hmem, hcall⟩
  have hempty : (Session.start state).store.IsSound settings answers (steps.flatMap Step.calls) :=
    nofun
  exact (replay_invariant hstep hcalls hexpiries hempty).1

/-- Two calls share an execution, a third fails and a fourth finds the rows in the cache. -/
theorem replay_isAnswered_shared :
    let first : Call := ⟨⟨"SELECT 1", []⟩, "count", some 60, false⟩
    let second : Call := ⟨⟨"SELECT $1", [.text "x"]⟩, "count", none, false⟩
    let answers : Answers := fun statement =>
      if statement.binds = [] then .ok [[("SQL", .string statement.sql)]] else .error ["refused"]
    let warehouse : Warehouse Nat := fun statement count =>
      (⟨answers statement, 5 * count⟩, count + 1)
    let steps : List Step :=
      [.group [(first, 0), (first, 1), (second, 2)] [.stage 0, .between (.wait 3), .stage 2],
        .between .purge, .single first]
    List.Forall₂ (Call.IsAnswered answers) (steps.flatMap Step.calls)
      ((replay ⟨1000, .full, true⟩ warehouse steps).run (.start 1)).1 := by
  intro first second answers warehouse steps
  apply replay_isAnswered
  · intro statement state
    rfl
  · decide +kernel
  · decide +kernel

end DatasetSearch.Cache
