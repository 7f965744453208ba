import Mathlib.Data.List.Forall2
import DatasetSearch.Proofs.Cache.Overlap

/-!
# Histories of a cache

What can happen to a cache, in the order in which it happens: calls that nothing overlaps, groups of
calls that take turns in any order, and the clock, invalidations and purges in between.  A law of
histories is a law of each step, or of each event while calls overlap; the inductions are here.
-/

namespace DatasetSearch

/-- A text holds another just where one list of characters is a contiguous part of the other. -/
theorem Text.contains_iff {s piece : String} :
    Text.contains s piece = true ↔ piece.toList <:+: s.toList := by
  unfold contains
  induction s.toList with
  | nil => simp [containsChars]
  | cons c rest ih =>
    simp only [containsChars, Bool.or_eq_true, List.isPrefixOf_iff_prefix, ih, List.infix_cons_iff]

namespace Cache

/-- What happens to a cache other than calls. -/
inductive Interlude where
  | wait (ms : Nat)
  | invalidate (pattern : Option String)
  | purge
deriving DecidableEq, Repr

inductive Event where
  /-- The call at an index runs its next stage. -/
  | stage (index : Nat)
  | between (interlude : Interlude)
deriving DecidableEq, Repr

inductive Step where
  /-- A call that no other call overlaps. -/
  | single (call : Call)
  /-- Calls with their starts, counted from now, and what happens first; the calls that are not
  answered then follow the schedule. -/
  | group (members : List (Call × Nat)) (events : List Event)
  | between (interlude : Interlude)
deriving DecidableEq, Repr

def Step.calls : Step → List Call
  | .single call => [call]
  | .group members _ => members.map Prod.fst
  | .between _ => []

section

variable {σ : Type}

/-- An invalidation without a pattern, or with one that is a part of the key. -/
def Interlude.Invalidates (key : String) : Interlude → Prop
  | .invalidate none => True
  | .invalidate (some pattern) => pattern.toList <:+: key.toList
  | _ => False

/-- The number that an interlude reports. -/
def Interlude.run : Interlude → Act σ (Except CallError Nat)
  | .wait ms => do
    Cache.wait ms
    return .ok 0
  | .invalidate pattern => return .ok (← Cache.invalidate pattern)
  | .purge => Cache.purge

/-- A purge finds an expiry that overflows, or leaves what is fresh. -/
theorem Store.purge?_cases (store : Store) (now : Nat) :
    store.purge? now = none ∨
      (∀ p ∈ store.entries, p.2.freshness now ≠ .overflow) ∧
        ∃ purged, store.purge? now = some (purged, { store with
          entries := store.entries.filter (fun p => p.2.freshness now == .fresh) }) := by
  unfold purge?
  split
  · exact .inl rfl
  · next hnone =>
    refine .inr ⟨?_, _, rfl⟩
    intro p hp hoverflow
    exact hnone (List.any_eq_true.mpr ⟨p, hp, by simp [hoverflow]⟩)

/-- What an interlude leaves of a session: some of the entries, among them all that are neither
stale nor invalidated, and none that is invalidated. -/
theorem Interlude.run_eq (s : Session σ) (interlude : Interlude) :
    ∃ keep clock journal,
      (interlude.run.run s).2 =
        { s with
          store := { s.store with entries := s.store.entries.filter keep }
          clock := clock
          journal := journal } ∧
      s.clock ≤ clock ∧
      (∀ p, keep p = true → ¬interlude.Invalidates p.1) ∧
      ∀ p ∈ s.store.entries, ¬interlude.Invalidates p.1 → p.2.freshness s.clock ≠ .stale →
        keep p = true := by
  have hall : s.store.entries.filter (fun _ => true) = s.store.entries :=
    List.filter_eq_self.mpr fun _ _ => rfl
  cases interlude with
  | wait ms =>
    refine ⟨fun _ => true, s.clock + ms, s.journal, ?_, Nat.le_add_right _ _, fun _ _ => nofun,
      fun _ _ _ _ => rfl⟩
    rw [hall]
    rfl
  | invalidate pattern =>
    cases pattern with
    | none =>
      refine ⟨fun _ => false, s.clock, ((Interlude.invalidate none).run.run s).2.journal, ?_,
        Nat.le_refl _, nofun, ?_⟩
      · rw [List.filter_false]
        rfl
      · intro p _ hkept
        exact absurd trivial hkept
    | some text =>
      refine ⟨fun p => !Text.contains p.1 text, s.clock, _, rfl, Nat.le_refl _, ?_, ?_⟩
      · intro p hkeep hgone
        simp [Text.contains_iff.mpr hgone] at hkeep
      · intro p _ hkept _
        rw [Bool.not_eq_true', ← Bool.not_eq_true, Text.contains_iff]
        exact hkept
  | purge =>
    unfold Interlude.run Cache.purge
    simp only [StateT.run_bind, StateT.run_get, pure_bind]
    rcases s.store.purge?_cases s.clock with hnone | ⟨hlimit, purged, hpurged⟩
    · refine ⟨fun _ => true, s.clock, s.journal, ?_, Nat.le_refl _, fun _ _ => nofun,
        fun _ _ _ _ => rfl⟩
      rw [hnone, hall]
      rfl
    · refine ⟨fun p => p.2.freshness s.clock == .fresh, s.clock, s.journal, ?_, Nat.le_refl _,
        fun _ _ => nofun, ?_⟩
      · rw [hpurged]
        rfl
      · intro p hp _ hstale
        cases hnow : p.2.freshness s.clock with
        | fresh => simp [hnow]
        | stale => exact absurd hnow hstale
        | overflow => exact absurd hnow (hlimit p hp)

/-- An interlude stores nothing. -/
theorem Interlude.mem_of_mem_run {s : Session σ} {interlude : Interlude} {p : String × Entry}
    (h : p ∈ (interlude.run.run s).2.store.entries) : p ∈ s.store.entries := by
  obtain ⟨keep, clock, journal, hrun, -⟩ := interlude.run_eq s
  rw [hrun] at h
  exact (List.mem_filter.mp h).1

end

variable {σ : Type} (settings : Settings) (warehouse : Warehouse σ)

/-! ### Events -/

namespace Run

def after (r : Run σ) : Event → Run σ
  | .stage index => r.perform settings warehouse index
  | .between interlude => { r with session := (interlude.run.run r.session).2 }

def replay (r : Run σ) (events : List Event) : Run σ := events.foldl (after settings warehouse) r

/-- The stages that the schedule names, at most that many. -/
def schedule : Nat → Run σ → List Event
  | 0, _ => []
  | count + 1, r =>
    match r.next? settings with
    | none => []
    | some index => .stage index :: schedule count (r.perform settings warehouse index)

def remaining (r : Run σ) : List Event := schedule settings warehouse (3 * r.tasks.length) r

/-- A property has the session before each of some events. -/
def Throughout (property : Session σ → Prop) (r : Run σ) : List Event → Prop
  | [] => True
  | event :: events =>
    property r.session ∧ Throughout property (r.after settings warehouse event) events

instance decidableThroughout (property : Session σ → Prop) [DecidablePred property] :
    ∀ (r : Run σ) (events : List Event),
      Decidable (r.Throughout settings warehouse property events)
  | _, [] => isTrue trivial
  | r, event :: events =>
    have := decidableThroughout property (r.after settings warehouse event) events
    inferInstanceAs (Decidable (_ ∧ _))

variable {settings warehouse}

theorem stages_eq_replay (count : Nat) (r : Run σ) :
    stages settings warehouse count r =
      r.replay settings warehouse (schedule settings warehouse count r) := by
  induction count generalizing r with
  | zero => rfl
  | succ count ih =>
    unfold stages schedule
    cases r.next? settings with
    | none => rfl
    | some index => exact ih (r.perform settings warehouse index)

/-- Completing a run is one way to go on with it. -/
theorem complete_eq_replay (r : Run σ) :
    r.complete settings warehouse = r.replay settings warehouse (r.remaining settings warehouse) :=
  stages_eq_replay _ r

theorem calls_after (r : Run σ) (event : Event) :
    (r.after settings warehouse event).tasks.map Task.call = r.tasks.map Task.call := by
  cases event with
  | stage index => exact calls_perform settings warehouse r index
  | between interlude => rfl

theorem calls_replay (r : Run σ) (events : List Event) :
    (r.replay settings warehouse events).tasks.map Task.call = r.tasks.map Task.call := by
  induction events generalizing r with
  | nil => rfl
  | cons event events ih =>
    have hrest := ih (r.after settings warehouse event)
    exact hrest.trans (calls_after r event)

theorem calls_start (s : Session σ) (members : List (Call × Nat)) :
    (start s members).tasks.map Task.call = members.map Prod.fst := by
  unfold start
  simp only [List.map_map]
  rfl

/-- What every event keeps, where the session has a property, holds after all events. -/
theorem replay_invariant {property : Session σ → Prop} {invariant : Run σ → Prop}
    (hafter : ∀ (r : Run σ) (event : Event), property r.session → invariant r →
      invariant (r.after settings warehouse event))
    {r : Run σ} {events : List Event}
    (hthroughout : r.Throughout settings warehouse property events) (hr : invariant r) :
    invariant (r.replay settings warehouse events) := by
  induction events generalizing r with
  | nil => exact hr
  | cons event events ih => exact ih hthroughout.2 (hafter r event hthroughout.1 hr)

end Run

/-! ### Steps -/

def Run.overlap (s : Session σ) (members : List (Call × Nat)) (events : List Event) : Run σ :=
  ((Run.start s members).replay settings warehouse events).complete settings warehouse

/-- What the calls of a step yield, in the order of the calls. -/
def Step.run : Step → Act σ (List (Option Outcome))
  | .single call => return [some (← fetch settings warehouse call)]
  | .group members events => fun s =>
    let r := Run.overlap settings warehouse s members events
    (r.outcomes, r.session)
  | .between interlude => do
    let _ ← interlude.run
    return []

/-- What the calls of a history yield, in the order of the calls. -/
def replay : List Step → Act σ (List (Option Outcome))
  | [] => return []
  | step :: steps => do
    let outcomes ← step.run settings warehouse
    return outcomes ++ (← replay steps)

/-- A property has the session before a step and, while calls overlap, before each event. -/
def Step.Throughout (property : Session σ → Prop) (s : Session σ) : Step → Prop
  | .single _ => property s
  | .group members events =>
    (Run.start s members).Throughout settings warehouse property events ∧
      let r := (Run.start s members).replay settings warehouse events
      r.Throughout settings warehouse property (r.remaining settings warehouse)
  | .between _ => property s

/-- A property has each session that a history passes through. -/
def Throughout (property : Session σ → Prop) (s : Session σ) : List Step → Prop
  | [] => True
  | step :: steps =>
    step.Throughout settings warehouse property s ∧
      Throughout property ((step.run settings warehouse).run s).2 steps

instance Step.decidableThroughout (property : Session σ → Prop) [DecidablePred property]
    (s : Session σ) (step : Step) : Decidable (step.Throughout settings warehouse property s) :=
  match step with
  | .single _ => inferInstanceAs (Decidable (property s))
  | .group _ _ => inferInstanceAs (Decidable (_ ∧ _))
  | .between _ => inferInstanceAs (Decidable (property s))

instance decidableThroughout (property : Session σ → Prop) [DecidablePred property] :
    ∀ (s : Session σ) (steps : List Step),
      Decidable (Throughout settings warehouse property s steps)
  | _, [] => isTrue trivial
  | s, step :: steps =>
    have := decidableThroughout property ((step.run settings warehouse).run s).2 steps
    inferInstanceAs (Decidable (_ ∧ _))

variable {settings warehouse}

theorem calls_overlap (s : Session σ) (members : List (Call × Nat)) (events : List Event) :
    (Run.overlap settings warehouse s members events).tasks.map Task.call =
      members.map Prod.fst := by
  unfold Run.overlap
  rw [Run.complete_eq_replay, Run.calls_replay, Run.calls_replay, Run.calls_start]

/-- What each step keeps and what it says of its outcomes holds of the whole history. -/
theorem replay_invariant {property : Session σ → Prop} {invariant : Session σ → Prop}
    {Fits : Call → Option Outcome → Prop} {allowed : Step → Prop}
    (hstep : ∀ (s : Session σ) (step : Step), allowed step →
      step.Throughout settings warehouse property s → invariant s →
      List.Forall₂ Fits step.calls ((step.run settings warehouse).run s).1 ∧
        invariant ((step.run settings warehouse).run s).2)
    {s : Session σ} {steps : List Step} (hallowed : ∀ step ∈ steps, allowed step)
    (hthroughout : Throughout settings warehouse property s steps) (hs : invariant s) :
    List.Forall₂ Fits (steps.flatMap Step.calls) ((replay settings warehouse steps).run s).1 ∧
      invariant ((replay settings warehouse steps).run s).2 := by
  induction steps generalizing s with
  | nil => exact ⟨.nil, hs⟩
  | cons step steps ih =>
    obtain ⟨hfirst, hnext⟩ := hstep s step (hallowed step List.mem_cons_self) hthroughout.1 hs
    have hothers : ∀ other ∈ steps, allowed other :=
      fun other hother => hallowed other (List.mem_cons_of_mem step hother)
    obtain ⟨hrest, hend⟩ := ih hothers hthroughout.2 hnext
    exact ⟨List.rel_append hfirst hrest, hend⟩

end Cache

end DatasetSearch
