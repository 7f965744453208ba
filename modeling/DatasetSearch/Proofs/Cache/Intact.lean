import DatasetSearch.Proofs.Cache.GateOrder
import DatasetSearch.Proofs.Cache.Freshness

/-!
# What a call leaves intact

A call that nothing overlaps changes little in a store.  One that bypasses the cache changes nothing
there, and one that finds a fresh entry leaves the entries alone.  One that executes and fails, or
finds no rows, takes away at most the entry under its key, which was stale; so there is none until
another call for the key has rows to store, and the next call for it executes.
-/

namespace DatasetSearch.Cache

open Relation

variable {σ : Type} {settings : Settings} {warehouse : Warehouse σ} {call : Call} {key : String}

/-! ### While there is no entry for a key -/

/-- A call stores no entry for a key: it does not use the cache, or has another key. -/
def Call.Avoids (settings : Settings) (key : String) (call : Call) : Prop :=
  call.bypass = true ∨ key ≠ call.key settings

theorem Stage.entry?_eq_none {alone : Bool} {before after : Session σ × Phase}
    (h : Stage settings warehouse call alone before after) (havoids : call.Avoids settings key)
    (hnone : before.1.store.entry? key = none) : after.1.store.entry? key = none := by
  cases h with
  | arriving harrives => exact Store.entry?_eq_none_of_subset hnone harrives.mem_of_mem
  | queueing ticket harrives => exact Store.entry?_eq_none_of_subset hnone harrives.mem_of_mem
  | entering henters => exact Store.entry?_eq_none_of_subset hnone henters.mem_of_mem
  | finishing hfinishes => exact (hfinishes.entry?_of_ne havoids).trans hnone

theorem Run.entry?_perform_eq_none {r : Run σ} {index : Nat}
    (havoid : ∀ other ∈ r.tasks.map Task.call, other.Avoids settings key)
    (hnone : r.session.store.entry? key = none) :
    (r.perform settings warehouse index).session.store.entry? key = none := by
  rcases perform_cases settings warehouse r index with
    hsame | ⟨task, t, phase, ticket, htask, hperform, hstages⟩
  · rw [hsame]
    exact hnone
  · have havoids := havoid task.call (List.mem_map_of_mem (List.mem_of_getElem? htask))
    rw [hperform]
    change (t, phase).1.store.entry? key = none
    generalize (t, phase) = last at hstages
    induction hstages with
    | single hstage => exact hstage.entry?_eq_none havoids hnone
    | tail _ hstage ih => exact hstage.entry?_eq_none havoids ih

theorem Run.entry?_replay_eq_none {r : Run σ} {events : List Event}
    (havoid : ∀ other ∈ r.tasks.map Task.call, other.Avoids settings key)
    (hnone : r.session.store.entry? key = none) :
    (r.replay settings warehouse events).session.store.entry? key = none := by
  induction events generalizing r with
  | nil => exact hnone
  | cons event events ih =>
    have hafter : (r.after settings warehouse event).session.store.entry? key = none := by
      cases event with
      | stage index => exact entry?_perform_eq_none havoid hnone
      | between interlude =>
        exact Store.entry?_eq_none_of_subset hnone fun _ => Interlude.mem_of_mem_run
    refine ih ?_ hafter
    rw [calls_after]
    exact havoid

theorem Fetches.entry?_eq_none {s t : Session σ} {outcome : Outcome}
    (h : Fetches settings warehouse call s (outcome, t)) (havoids : call.Avoids settings key)
    (hnone : s.store.entry? key = none) : t.store.entry? key = none := by
  rcases havoids with hbypass | hne
  · obtain ⟨journal, heq⟩ := h.of_bypass hbypass
    cases heq
    exact hnone
  · exact (h.entry?_of_ne hne).trans hnone

theorem Step.entry?_run_eq_none {s : Session σ} {step : Step}
    (havoid : ∀ other ∈ step.calls, other.Avoids settings key)
    (hnone : s.store.entry? key = none) :
    ((step.run settings warehouse).run s).2.store.entry? key = none := by
  cases step with
  | single other =>
    exact (fetches settings warehouse other s).entry?_eq_none (havoid other (by simp [calls])) hnone
  | group members events =>
    have hstart : ∀ other ∈ (Run.start s members).tasks.map Task.call,
        other.Avoids settings key := by
      rw [Run.calls_start]
      exact havoid
    change (Run.overlap settings warehouse s members events).session.store.entry? key = none
    unfold Run.overlap
    rw [Run.complete_eq_replay]
    refine Run.entry?_replay_eq_none ?_ (Run.entry?_replay_eq_none hstart hnone)
    rw [Run.calls_replay]
    exact hstart
  | between interlude =>
    exact Store.entry?_eq_none_of_subset hnone fun _ => Interlude.mem_of_mem_run

/-- As long as no call stores an entry for a key, there is none. -/
theorem entry?_replay_eq_none {s : Session σ} {steps : List Step}
    (havoid : ∀ step ∈ steps, ∀ other ∈ step.calls, other.Avoids settings key)
    (hnone : s.store.entry? key = none) :
    ((replay settings warehouse steps).run s).2.store.entry? key = none := by
  induction steps generalizing s with
  | nil => exact hnone
  | cons step steps ih =>
    refine ih (fun other hother => havoid other (List.mem_cons_of_mem step hother)) ?_
    exact Step.entry?_run_eq_none (havoid step List.mem_cons_self) hnone

/-- A call that uses the cache executes if there is no entry for its key. -/
theorem executed_of_entry?_eq_none {s : Session σ} (hbypass : call.bypass = false)
    (hnone : s.store.entry? (call.key settings) = none) :
    let fetched := (fetch settings warehouse call).run s
    fetched.1 = executed (s.reply warehouse call) ∧
      fetched.2.statements = s.statements ++ [call.statement] := by
  intro fetched
  have hstale : ∀ entry, s.store.entry? (call.key settings) = some entry →
      entry.freshness s.clock = .stale := by
    intro entry hentry
    rw [hnone] at hentry
    cases hentry
  obtain ⟨journal, hfetched⟩ := (fetches settings warehouse call s).of_stale hbypass hstale
  have heq : fetched = _ := hfetched
  rw [heq]
  exact ⟨rfl, rfl⟩

/-! ### Calls that store nothing -/

/-- An execution failed or found no rows. -/
def IsFruitless (reply : Reply) : Prop :=
  reply.outcome = .ok [] ∨ ∃ causes, reply.outcome = .error causes

theorem entry?_of_isFruitless {reply : Reply} (h : IsFruitless reply) (time : Nat) :
    call.entry? settings reply time = none := by
  rcases h with hempty | ⟨causes, hfailed⟩
  · simp only [Call.entry?, hempty]
  · simp only [Call.entry?, hfailed]

/-- What a call leaves that has executed to no avail: all entries, but for the one under its
key. -/
structure LeavesRest (settings : Settings) (warehouse : Warehouse σ) (call : Call)
    (s : Session σ) (outcome : Outcome) (t : Session σ) : Prop where
  entries : t.store.entries = s.store.entries.filter (·.1 ≠ call.key settings)
  hits : t.store.hits = s.store.hits
  misses : t.store.misses = s.store.misses + 1
  /-- The error of the execution is passed on. -/
  failed : ∀ causes, (s.reply warehouse call).outcome = .error causes →
    outcome = .error (.execution causes)
  empty : (s.reply warehouse call).outcome = .ok [] → ∃ result, outcome = .ok result ∧
    result.rows = [] ∧ result.rowCount = 0 ∧ result.cached = false
  /-- Whatever happens meanwhile, the next call that uses the cache for the key executes. -/
  again : ∀ (steps : List Step) (next : Call),
    (∀ step ∈ steps, ∀ other ∈ step.calls, other.Avoids settings (call.key settings)) →
    next.bypass = false → next.key settings = call.key settings →
    let later := ((replay settings warehouse steps).run t).2
    let fetched := (fetch settings warehouse next).run later
    fetched.1 = executed (later.reply warehouse next) ∧
      fetched.2.statements = later.statements ++ [next.statement]

/-- What a call that nothing overlaps leaves as it was, by whether it uses the cache and by what it
finds there under its key: a fresh entry, one whose expiry cannot be represented, or a stale one or
none. -/
structure LeavesIntact (settings : Settings) (warehouse : Warehouse σ) (call : Call)
    (s : Session σ) (outcome : Outcome) (t : Session σ) : Prop where
  bypassed : call.bypass = true → t.store = s.store
  found : call.bypass = false → ∀ entry, s.store.entry? (call.key settings) = some entry →
    entry.freshness s.clock = .fresh → t.store.entries = s.store.entries
  cutOff : call.bypass = false → ∀ entry, s.store.entry? (call.key settings) = some entry →
    entry.freshness s.clock = .overflow → outcome = .error .expiryOverflow ∧ t = s
  executes : call.bypass = false →
    (∀ entry, s.store.entry? (call.key settings) = some entry →
      entry.freshness s.clock = .stale) →
    outcome = executed (s.reply warehouse call) ∧
      t.statements = s.statements ++ [call.statement]
  fruitless : call.bypass = false →
    (∀ entry, s.store.entry? (call.key settings) = some entry →
      entry.freshness s.clock = .stale) →
    IsFruitless (s.reply warehouse call) → LeavesRest settings warehouse call s outcome t

variable {s t : Session σ} {outcome : Outcome}

theorem Fetches.leavesRest (h : Fetches settings warehouse call s (outcome, t))
    (hbypass : call.bypass = false)
    (hstale : ∀ entry, s.store.entry? (call.key settings) = some entry →
      entry.freshness s.clock = .stale)
    (hfruitless : IsFruitless (s.reply warehouse call)) :
    LeavesRest settings warehouse call s outcome t := by
  obtain ⟨journal, heq⟩ := h.of_stale hbypass hstale
  rw [entry?_of_isFruitless hfruitless] at heq
  cases heq
  refine ⟨rfl, rfl, rfl, ?_, ?_, ?_⟩
  · intro causes hfailed
    simp only [executed, hfailed]
  · intro hempty
    simp only [executed, hempty]
    exact ⟨_, rfl, rfl, rfl, rfl⟩
  · intro steps next havoid hnext hkey
    refine executed_of_entry?_eq_none hnext ?_
    rw [hkey]
    exact entry?_replay_eq_none havoid (s.store.entry?_evict_self _)

/-- Failed, empty and bypassed calls leave a cache intact. -/
theorem fetch_leavesIntact (settings : Settings) (warehouse : Warehouse σ) (call : Call)
    (s : Session σ) :
    let fetched := (fetch settings warehouse call).run s
    LeavesIntact settings warehouse call s fetched.1 fetched.2 := by
  intro fetched
  have hfetches : Fetches settings warehouse call s (fetched.1, fetched.2) :=
    fetches settings warehouse call s
  refine ⟨?_, ?_, ?_, ?_, ?_⟩
  · intro hbypass
    obtain ⟨journal, heq⟩ := hfetches.of_bypass hbypass
    rw [(Prod.mk.inj heq).2]
    rfl
  · intro hbypass entry hentry hfresh
    obtain ⟨journal, heq⟩ := hfetches.of_fresh hbypass hentry hfresh
    rw [(Prod.mk.inj heq).2]
    rfl
  · intro hbypass entry hentry hoverflow
    exact Prod.mk.inj (hfetches.of_overflow hbypass hentry hoverflow)
  · intro hbypass hstale
    obtain ⟨journal, heq⟩ := hfetches.of_stale hbypass hstale
    obtain ⟨houtcome, hafter⟩ := Prod.mk.inj heq
    rw [hafter]
    exact ⟨houtcome, rfl⟩
  · intro hbypass hstale hfruitless
    exact hfetches.leavesRest hbypass hstale hfruitless

/-- The entry of a key is stale when the execution of a call for it fails; a call for the key that
bypasses the cache changes nothing in this, and the next one executes. -/
theorem fetch_leavesIntact_refused :
    let call : Call := ⟨⟨"SELECT 1", []⟩, "count", some 60, false⟩
    let other : Call := ⟨⟨"SELECT 2", []⟩, "count", some 600, false⟩
    let settings : Settings := ⟨1000, .truncated 8, true⟩
    let warehouse : Warehouse Nat := fun statement count =>
      (⟨if count = 2 then .error ["refused"] else .ok [[("SQL", .string statement.sql)]], 5⟩,
        count + 1)
    let s := ((replay settings warehouse
      [.single call, .single other, .between (.wait 60)]).run (.start 0)).2
    let fetched := (fetch settings warehouse call).run s
    let later := ((replay settings warehouse [.single { call with bypass := true }]).run
      fetched.2).2
    s.store.size = 2 ∧ LeavesRest settings warehouse call s fetched.1 fetched.2 ∧
      fetched.2.store.entries.map Prod.fst = [other.key settings] ∧
      later.store.size = 1 ∧
      ((fetch settings warehouse call).run later).2.statements.length = 5 := by
  intro call other settings warehouse s fetched later
  obtain ⟨-, -, -, -, hfruitless⟩ := fetch_leavesIntact settings warehouse call s
  have hreply : (s.reply warehouse call).outcome = .error ["refused"] := by
    have hcount : s.warehouse = 2 := by decide +kernel
    unfold Session.reply
    rw [hcount]
    rfl
  refine ⟨by decide +kernel, ?_, ?_⟩
  · refine hfruitless rfl ?_ (.inr ⟨["refused"], hreply⟩)
    intro entry hentry
    have hstale : ((s.store.entry? (call.key settings)).all fun entry =>
        entry.freshness s.clock == .stale) = true := by decide +kernel
    rw [hentry] at hstale
    simpa using hstale
  · decide +kernel

end DatasetSearch.Cache
