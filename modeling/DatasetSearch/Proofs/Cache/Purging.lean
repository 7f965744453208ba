import DatasetSearch.Proofs.Cache.Shedding

/-!
# Purging does not show

A purge removes the entries that are stale, at once and not when they are looked up.  So a history
and the same history without its purges come to the same at every moment: the same outcomes, the
same executions, the same hits and misses.  Only the entries are fewer where it was purged, and so
are those that an invalidation finds.
-/

namespace DatasetSearch.Cache

variable {σ : Type}

/-! ### Histories without purges -/

def eventsWithoutPurges (events : List Event) : List Event :=
  events.filter (· ≠ .between .purge)

def Step.withoutPurges : Step → Step
  | .group members events => .group members (eventsWithoutPurges events)
  | step => step

/-- A history without its purges, those while calls overlap included. -/
def withoutPurges (steps : List Step) : List Step :=
  (steps.filter (· ≠ .between .purge)).map Step.withoutPurges

/-! ### What is seen of a history -/

/-- What is seen when something has happened: what an interlude reports, the outcomes of the calls
at hand and the session. -/
structure Sight (σ : Type) where
  report : Option (Interlude × Except CallError Nat)
  outcomes : List (Option Outcome)
  session : Session σ

def Interlude.sight (s : Session σ) (interlude : Interlude) (outcomes : List (Option Outcome)) :
    Sight σ :=
  ⟨some (interlude, (interlude.run.run s).1), outcomes, (interlude.run.run s).2⟩

def Sight.isPurge (sight : Sight σ) : Bool :=
  match sight.report with
  | some (.purge, _) => true
  | _ => false

section

variable (settings : Settings) (warehouse : Warehouse σ)

def Event.sight (r : Run σ) : Event → Sight σ
  | .stage index =>
    let r := r.perform settings warehouse index
    ⟨none, r.outcomes, r.session⟩
  | .between interlude => interlude.sight r.session r.outcomes

def Run.sights (r : Run σ) : List Event → List (Sight σ)
  | [] => []
  | event :: events =>
    event.sight settings warehouse r :: Run.sights (r.after settings warehouse event) events

/-- While calls overlap something is seen after each event, those of the schedule included. -/
def Step.sights (s : Session σ) : Step → List (Sight σ)
  | .single call =>
    let fetched := (fetch settings warehouse call).run s
    [⟨none, [some fetched.1], fetched.2⟩]
  | .group members events =>
    let r := (Run.start s members).replay settings warehouse events
    (Run.start s members).sights settings warehouse events ++
      r.sights settings warehouse (r.remaining settings warehouse)
  | .between interlude => [interlude.sight s []]

/-- All that is seen of a history, in order. -/
def sights (s : Session σ) : List Step → List (Sight σ)
  | [] => []
  | step :: steps =>
    step.sights settings warehouse s ++ sights ((step.run settings warehouse).run s).2 steps

end

/-- Both report nothing, or the same interlude reports a number, the second none that is larger. -/
inductive ReportsNoMore : (plain purged : Option (Interlude × Except CallError Nat)) → Prop
  | nothing : ReportsNoMore none none
  | number (interlude : Interlude) {more fewer : Nat} (h : fewer ≤ more) :
      ReportsNoMore (some (interlude, .ok more)) (some (interlude, .ok fewer))

/-- Where it was purged the same is seen as without, but for the number of entries. -/
structure Sight.Matches (plain purged : Sight σ) : Prop where
  outcomes : purged.outcomes = plain.outcomes
  statements : purged.session.statements = plain.session.statements
  warehouse : purged.session.warehouse = plain.session.warehouse
  clock : purged.session.clock = plain.session.clock
  hits : purged.session.store.hits = plain.session.store.hits
  misses : purged.session.store.misses = plain.session.store.misses
  entries : purged.session.store.entries.Sublist plain.session.store.entries
  report : ReportsNoMore plain.report purged.report

/-! ### Interludes -/

theorem Interlude.isPurge_sight {interlude : Interlude} (h : interlude ≠ .purge) (s : Session σ)
    (outcomes : List (Option Outcome)) : (interlude.sight s outcomes).isPurge = false := by
  cases interlude with
  | purge => exact absurd rfl h
  | _ => rfl

theorem OmitsStale.length_sub_le {now : Nat} {entries kept : List (String × Entry)}
    (h : OmitsStale now entries kept) (keep : String × Entry → Bool) :
    kept.length - (kept.filter keep).length ≤ entries.length - (entries.filter keep).length := by
  have hkept := List.length_eq_length_filter_add keep (l := kept)
  have hentries := List.length_eq_length_filter_add keep (l := entries)
  have hgone := (h.sublist.filter (fun p => !keep p)).length_le
  omega

namespace Session.Sheds

variable {s t : Session σ} {interlude : Interlude}

theorem clock_eq (h : s.Sheds t) : t.clock = s.clock := by
  obtain ⟨journal, hkept⟩ := h
  rfl

theorem sight_matches (h : s.Sheds t) {plain purged : Option (Interlude × Except CallError Nat)}
    (hreport : ReportsNoMore plain purged) (outcomes : List (Option Outcome)) :
    Sight.Matches ⟨plain, outcomes, s⟩ ⟨purged, outcomes, t⟩ := by
  obtain ⟨journal, hkept⟩ := h
  exact ⟨rfl, rfl, rfl, rfl, rfl, rfl, hkept.sublist, hreport⟩

/-- What is not a purge happens on both sides. -/
theorem between (h : s.Sheds t) (hpurge : interlude ≠ .purge) :
    (interlude.run.run s).2.Sheds (interlude.run.run t).2 ∧
      ∃ more fewer, (interlude.run.run s).1 = .ok more ∧ (interlude.run.run t).1 = .ok fewer ∧
        fewer ≤ more := by
  cases interlude with
  | wait ms => exact ⟨(IgnoresStale.wait ms h).2, 0, 0, rfl, rfl, Nat.le_refl 0⟩
  | invalidate pattern =>
    obtain ⟨journal, hkept⟩ := h
    cases pattern with
    | none =>
      have hnone : OmitsStale s.clock [] [] := ⟨List.nodup_nil, .refl [], nofun⟩
      refine ⟨.intro _ hnone, _, _, rfl, rfl, ?_⟩
      exact Nat.sub_le_sub_right hkept.sublist.length_le _
    | some text => exact ⟨.intro _ (hkept.filter _), _, _, rfl, rfl, hkept.length_sub_le _⟩
  | purge => exact absurd rfl hpurge

theorem between_matches (h : s.Sheds t) (hpurge : interlude ≠ .purge)
    (outcomes : List (Option Outcome)) :
    (interlude.sight s outcomes).Matches (interlude.sight t outcomes) := by
  obtain ⟨hsession, more, fewer, hmore, hfewer, hle⟩ := h.between hpurge
  unfold Interlude.sight
  rw [hmore, hfewer]
  exact hsession.sight_matches (.number interlude hle) outcomes

/-- A purge on the side that has fewer entries. -/
theorem purge (h : s.Sheds t) : s.Sheds (Interlude.purge.run.run t).2 := by
  obtain ⟨journal, hkept⟩ := h
  unfold Interlude.run Cache.purge
  simp only [StateT.run_bind, StateT.run_get, pure_bind]
  rcases Store.purge?_cases _ s.clock with hnone | ⟨hlimit, purged, hpurged⟩
  · rw [hnone]
    exact .intro journal hkept
  · rw [hpurged]
    refine .intro journal (hkept.drop fun p hp hgone => ?_)
    cases hnow : p.2.freshness s.clock with
    | fresh => simp [hnow] at hgone
    | stale => rfl
    | overflow => exact absurd hnow (hlimit p hp)

end Session.Sheds

/-! ### Overlapping calls -/

variable {settings : Settings} {warehouse : Warehouse σ}

theorem Event.isPurge_sight {event : Event} (h : event ≠ .between .purge) (r : Run σ) :
    (event.sight settings warehouse r).isPurge = false := by
  cases event with
  | stage index => rfl
  | between interlude => exact Interlude.isPurge_sight (fun heq => h (congrArg _ heq)) _ _

namespace Run

/-- Runs that differ in the stale entries of their sessions only. -/
structure Sheds (r r' : Run σ) : Prop where
  session : r.session.Sheds r'.session
  tasks : r'.tasks = r.tasks
  ticket : r'.ticket = r.ticket

namespace Sheds

variable {r r' : Run σ} {s t : Session σ}

theorem start (h : s.Sheds t) (members : List (Call × Nat)) :
    (Run.start s members).Sheds (Run.start t members) := by
  refine ⟨h, ?_, rfl⟩
  unfold Run.start
  rw [h.clock_eq]

theorem move (h : r.Sheds r') (hsession : s.Sheds t) (index : Nat) (phase : Phase) :
    (r.move index s phase).Sheds (r'.move index t phase) := by
  refine ⟨hsession, ?_, h.ticket⟩
  unfold Run.move
  rw [h.tasks]

theorem alone_eq (h : r.Sheds r') (index : Nat) (key : String) :
    r'.alone settings index key = r.alone settings index key := by
  unfold alone others
  rw [h.tasks]

theorem advance (h : r.Sheds r') (hsession : s.Sheds t) (index : Nat) (call : Call)
    (progress : Progress) :
    (r.advance settings index call progress s).Sheds
      (r'.advance settings index call progress t) := by
  cases progress with
  | answered outcome => exact h.move hsession index _
  | executing reply =>
    unfold Run.advance
    simp only [h.alone_eq]
    split
    · obtain ⟨outcome, s', t', hs, ht, hended⟩ := (IgnoresStale.finish settings call reply
        (r.alone settings index (call.key settings))).exists_run hsession
      rw [hs, ht]
      exact h.move hended index _
    · rw [hsession.clock_eq]
      exact h.move hsession index _

theorem pass (h : r.Sheds r') (hsession : s.Sheds t) (index : Nat) (call : Call) :
    (r.pass settings warehouse index call s).Sheds
      (r'.pass settings warehouse index call t) := by
  unfold Run.pass
  rw [h.alone_eq]
  obtain ⟨progress, s', t', hs, ht, hentered⟩ := (IgnoresStale.enter settings warehouse call
    (r.alone settings index (call.key settings))).exists_run hsession
  rw [hs, ht]
  exact h.advance hentered index call progress

theorem perform (h : r.Sheds r') (index : Nat) :
    (r.perform settings warehouse index).Sheds (r'.perform settings warehouse index) := by
  unfold Run.perform
  rw [h.tasks]
  cases r.tasks[index]? with
  | none => exact h
  | some task =>
    obtain ⟨call, phase⟩ := task
    cases phase with
    | answered outcome => exact h
    | scheduled start =>
      obtain ⟨arrival, s', t', hs, ht, harrived⟩ :=
        (IgnoresStale.arrive settings warehouse call).exists_run (h.session.wake start)
      simp only [h.alone_eq, hs, ht]
      cases arrival with
      | moved progress => exact h.advance harrived index call progress
      | atGate =>
        simp only
        split
        · exact h.pass harrived index call
        · have hmoved := h.move harrived index (.queued r.ticket)
          rw [h.ticket]
          exact ⟨hmoved.session, hmoved.tasks, rfl⟩
    | queued ticket => exact h.pass h.session index call
    | executing reply due =>
      obtain ⟨outcome, s', t', hs, ht, hended⟩ := (IgnoresStale.finish settings call reply
        (r.alone settings index (call.key settings))).exists_run (h.session.wake due)
      simp only [h.alone_eq, hs, ht]
      exact h.move hended index _

theorem after (h : r.Sheds r') {event : Event} (hpurge : event ≠ .between .purge) :
    (r.after settings warehouse event).Sheds (r'.after settings warehouse event) := by
  cases event with
  | stage index => exact h.perform index
  | between interlude =>
    have hother : interlude ≠ .purge := fun heq => hpurge (congrArg Event.between heq)
    exact ⟨(h.session.between hother).1, h.tasks, h.ticket⟩

/-- A purge on the side that has fewer entries. -/
theorem purge (h : r.Sheds r') : r.Sheds (r'.after settings warehouse (.between .purge)) :=
  ⟨h.session.purge, h.tasks, h.ticket⟩

/-! ### What is seen while calls overlap -/

theorem outcomes_eq (h : r.Sheds r') : r'.outcomes = r.outcomes := by
  unfold outcomes
  rw [h.tasks]

theorem remaining_eq (h : r.Sheds r') :
    r'.remaining settings warehouse = r.remaining settings warehouse := by
  have hschedule : ∀ (count : Nat) {r r' : Run σ}, r.Sheds r' →
      schedule settings warehouse count r' = schedule settings warehouse count r := by
    intro count
    induction count with
    | zero => exact fun _ => rfl
    | succ count ih =>
      intro r r' h
      have hnext : r'.next? settings = r.next? settings := by
        unfold next? released timed
        rw [h.tasks]
      unfold schedule
      rw [hnext]
      cases r.next? settings with
      | none => rfl
      | some index => exact congrArg (List.cons _) (ih (h.perform index))
  unfold remaining
  rw [h.tasks]
  exact hschedule _ h

theorem sight_matches (h : r.Sheds r') {event : Event} (hpurge : event ≠ .between .purge) :
    (event.sight settings warehouse r).Matches (event.sight settings warehouse r') := by
  cases event with
  | stage index =>
    have hperformed : (r.perform settings warehouse index).Sheds
        (r'.perform settings warehouse index) := h.perform index
    unfold Event.sight
    simp only [hperformed.outcomes_eq]
    exact hperformed.session.sight_matches .nothing _
  | between interlude =>
    have hother : interlude ≠ .purge := fun heq => hpurge (congrArg Event.between heq)
    unfold Event.sight
    rw [h.outcomes_eq]
    exact h.session.between_matches hother _

/-- Events with purges among them, and the others alone. -/
theorem sights (h : r.Sheds r') (events : List Event) :
    List.Forall₂ Sight.Matches (r.sights settings warehouse (eventsWithoutPurges events))
        ((r'.sights settings warehouse events).filter (!·.isPurge)) ∧
      (r.replay settings warehouse (eventsWithoutPurges events)).Sheds
        (r'.replay settings warehouse events) := by
  induction events generalizing r r' with
  | nil => exact ⟨.nil, h⟩
  | cons event events ih =>
    -- A purge happens on the second side only, where it is not counted among what is seen.
    by_cases hpurge : event = .between .purge
    · subst hpurge
      exact ih h.purge
    · have hkept : eventsWithoutPurges (event :: events) =
          event :: eventsWithoutPurges events := List.filter_cons_of_pos (by simpa using hpurge)
      have hshown : (!(event.sight settings warehouse r').isPurge) = true :=
        congrArg not (Event.isPurge_sight hpurge r')
      obtain ⟨hsights, hend⟩ := ih (h.after hpurge)
      rw [hkept]
      refine ⟨?_, hend⟩
      unfold Run.sights
      rw [List.filter_cons, if_pos hshown]
      exact .cons (h.sight_matches hpurge) hsights

end Sheds

end Run

/-! ### Steps -/

/-- The schedule does not purge. -/
theorem Run.eventsWithoutPurges_remaining (r : Run σ) :
    eventsWithoutPurges (r.remaining settings warehouse) = r.remaining settings warehouse := by
  have hstages : ∀ (count : Nat) (r : Run σ), ∀ event ∈ schedule settings warehouse count r,
      event ≠ .between .purge := by
    intro count
    induction count with
    | zero => exact fun _ _ hevent => absurd hevent List.not_mem_nil
    | succ count ih =>
      intro r event hevent
      unfold schedule at hevent
      split at hevent
      · exact absurd hevent List.not_mem_nil
      · rcases List.mem_cons.mp hevent with rfl | hrest
        · nofun
        · exact ih _ event hrest
  exact List.filter_eq_self.mpr fun event hevent => by simpa using hstages _ _ event hevent

namespace Session.Sheds

variable {s t : Session σ}

theorem group (h : s.Sheds t) (members : List (Call × Nat)) (events : List Event) :
    (Run.overlap settings warehouse s members (eventsWithoutPurges events)).Sheds
        (Run.overlap settings warehouse t members events) ∧
      List.Forall₂ Sight.Matches
        ((Step.group members (eventsWithoutPurges events)).sights settings warehouse s)
        (((Step.group members events).sights settings warehouse t).filter (!·.isPurge)) := by
  let r := (Run.start s members).replay settings warehouse (eventsWithoutPurges events)
  obtain ⟨hsights, hreplayed⟩ := (Run.Sheds.start h members).sights events
  obtain ⟨hrest, hended⟩ := hreplayed.sights (r.remaining settings warehouse)
  rw [r.eventsWithoutPurges_remaining] at hrest hended
  constructor
  · unfold Run.overlap
    rw [Run.complete_eq_replay, Run.complete_eq_replay, hreplayed.remaining_eq]
    exact hended
  · unfold Step.sights
    simp only [List.filter_append, hreplayed.remaining_eq]
    exact List.rel_append hsights hrest

/-- What a step shows and yields where stale entries are missing and where they are not. -/
theorem step (h : s.Sheds t) {step : Step} (hpurge : step ≠ .between .purge) :
    ((step.run settings warehouse).run t).1 =
        ((step.withoutPurges.run settings warehouse).run s).1 ∧
      ((step.withoutPurges.run settings warehouse).run s).2.Sheds
        ((step.run settings warehouse).run t).2 ∧
      List.Forall₂ Sight.Matches (step.withoutPurges.sights settings warehouse s)
        ((step.sights settings warehouse t).filter (!·.isPurge)) := by
  cases step with
  | single call =>
    obtain ⟨houtcome, hsession⟩ := IgnoresStale.fetch settings warehouse call h
    refine ⟨congrArg (fun outcome => [some outcome]) houtcome, hsession, .cons ?_ .nil⟩
    rw [houtcome]
    exact hsession.sight_matches .nothing _
  | group members events =>
    obtain ⟨hended, hsights⟩ := h.group members events
    exact ⟨hended.outcomes_eq, hended.session, hsights⟩
  | between interlude =>
    have hother : interlude ≠ .purge := fun heq => hpurge (congrArg Step.between heq)
    have hshown : (!(interlude.sight t []).isPurge) = true :=
      congrArg not (Interlude.isPurge_sight hother t [])
    refine ⟨rfl, (h.between hother).1, ?_⟩
    unfold Step.withoutPurges Step.sights
    rw [List.filter_cons, if_pos hshown]
    exact .cons (h.between_matches hother []) .nil

/-- What a history shows and yields where stale entries are missing and purges come between. -/
theorem replay (h : s.Sheds t) (steps : List Step) :
    ((replay settings warehouse steps).run t).1 =
        ((replay settings warehouse (withoutPurges steps)).run s).1 ∧
      List.Forall₂ Sight.Matches (sights settings warehouse s (withoutPurges steps))
        ((sights settings warehouse t steps).filter (!·.isPurge)) := by
  induction steps generalizing s t with
  | nil => exact ⟨rfl, .nil⟩
  | cons step steps ih =>
    by_cases hpurge : step = .between .purge
    · subst hpurge
      exact ih h.purge
    · have hkept : withoutPurges (step :: steps) = step.withoutPurges :: withoutPurges steps := by
        rw [withoutPurges, List.filter_cons_of_pos (by simpa using hpurge)]
        rfl
      obtain ⟨houtcomes, hsession, hsights⟩ := h.step hpurge
      obtain ⟨hlater, hrest⟩ := ih hsession
      rw [hkept]
      refine ⟨congrArg₂ (· ++ ·) houtcomes hlater, ?_⟩
      unfold sights
      rw [List.filter_append]
      exact List.rel_append hsights hrest

end Session.Sheds

/-! ### The law -/

theorem Store.purge?_of_isRepresentable {store : Store} (h : store.IsRepresentable) (now : Nat) :
    store.purge? now =
      some (store.entries.countP fun p => p.2.storedAt + p.2.ttl ≤ now,
        { store with
          entries := store.entries.filter fun p => now < p.2.storedAt + p.2.ttl }) := by
  have hfresh : store.entries.filter (fun p => p.2.freshness now == .fresh) =
      store.entries.filter fun p => now < p.2.storedAt + p.2.ttl := by
    refine List.filter_congr fun p hp => ?_
    by_cases hnow : now < p.2.storedAt + p.2.ttl
    · simp [Entry.freshness_eq_fresh (h p hp) hnow, hnow]
    · have hstale : p.2.freshness now ≠ .fresh := fun hfresh => hnow (Entry.lt_of_fresh hfresh)
      simp [hstale, hnow]
  have hcount := List.length_eq_length_filter_add (l := store.entries)
    fun p => decide (now < p.2.storedAt + p.2.ttl)
  have hgone : store.entries.countP (fun p => p.2.storedAt + p.2.ttl ≤ now) =
      (store.entries.filter fun p => !decide (now < p.2.storedAt + p.2.ttl)).length := by
    rw [List.countP_eq_length_filter]
    simp only [← decide_not, Nat.not_lt]
  unfold purge?
  rw [if_neg]
  · simp only [hfresh, hgone]
    congr 2
    omega
  · simp only [List.any_eq_true, beq_iff_eq, not_exists, not_and]
    exact fun p hp => Entry.freshness_ne_overflow (h p hp) now

/-- A history with purges comes to the same as without them: its calls yield the same, and after
everything else that happens the same is seen, statements, hits and misses included, but for smaller
numbers of entries.  Each purge removes just the entries whose time is over and reports how many. -/
theorem replay_withoutPurges (settings : Settings) (warehouse : Warehouse σ) (state : σ)
    (steps : List Step) :
    let start := Session.start state
    ((replay settings warehouse steps).run start).1 =
        ((replay settings warehouse (withoutPurges steps)).run start).1 ∧
      List.Forall₂ Sight.Matches (sights settings warehouse start (withoutPurges steps))
        ((sights settings warehouse start steps).filter (!·.isPurge)) ∧
      ∀ s : Session σ, s.store.IsRepresentable →
        purge.run s =
          (.ok (s.store.entries.countP fun p => p.2.storedAt + p.2.ttl ≤ s.clock),
            { s with store := { s.store with
              entries := s.store.entries.filter fun p => s.clock < p.2.storedAt + p.2.ttl } }) := by
  intro start
  have hstart : start.Sheds start := .refl List.nodup_nil
  refine ⟨(hstart.replay steps).1, (hstart.replay steps).2, ?_⟩
  intro s hlimits
  unfold purge
  simp only [StateT.run_bind, StateT.run_get, pure_bind,
    Store.purge?_of_isRepresentable hlimits]
  rfl

/-- The first of two entries has had its time when the second is stored, and the second has had it
while two more calls overlap.  Each purge finds one of them, so at the end there is one entry less to
invalidate than without purges; for the calls it makes no difference. -/
theorem replay_withoutPurges_stale :
    let first : Call := ⟨⟨"SELECT 1", []⟩, "count", some 10, false⟩
    let second : Call := ⟨⟨"SELECT 2", []⟩, "count", some 60, false⟩
    let third : Call := ⟨⟨"SELECT 3", []⟩, "count", some 90, false⟩
    let settings : Settings := ⟨1000, .truncated 8, true⟩
    let warehouse : Warehouse Nat := fun statement count =>
      (⟨.ok [[("SQL", .string statement.sql), ("COUNT", .number (.int count))]], 5⟩, count + 1)
    let before : List Step := [.single first, .between (.wait 20), .single second]
    let steps : List Step := before ++ [.between .purge,
      .group [(third, 0), (first, 1)] [.stage 0, .between (.wait 70), .between .purge, .stage 0],
      .between (.invalidate none)]
    let outcomes := fun steps => ((replay settings warehouse steps).run (.start 0)).1
    let reports := fun steps =>
      (sights settings warehouse (.start 0) steps).filterMap Sight.report
    let s := ((replay settings warehouse before).run (.start 0)).2
    (outcomes steps = outcomes (withoutPurges steps) ∧
      List.Forall₂ Sight.Matches (sights settings warehouse (.start 0) (withoutPurges steps))
        ((sights settings warehouse (.start 0) steps).filter (!·.isPurge)) ∧
      reports steps = [(.wait 20, .ok 0), (.purge, .ok 1), (.wait 70, .ok 0), (.purge, .ok 1),
        (.invalidate none, .ok 2)] ∧
      reports (withoutPurges steps) =
        [(.wait 20, .ok 0), (.wait 70, .ok 0), (.invalidate none, .ok 3)]) ∧
      s.store.IsRepresentable ∧ s.store.size = 2 ∧
      (purge.run s).1 = .ok 1 ∧ (purge.run s).2.store.size = 1 := by
  intro first second third settings warehouse before steps outcomes reports s
  obtain ⟨hsame, hmatches, hpurge⟩ := replay_withoutPurges settings warehouse 0 steps
  have hentries : s.store.IsRepresentable ∧ s.store.size = 2 ∧
      (s.store.entries.countP fun p => p.2.storedAt + p.2.ttl ≤ s.clock) = 1 ∧
      (s.store.entries.filter fun p => s.clock < p.2.storedAt + p.2.ttl).length = 1 := by
    decide +kernel
  obtain ⟨hlimits, hsize, hgone, hkept⟩ := hentries
  have hrun := hpurge s hlimits
  refine ⟨⟨hsame, hmatches, ?_⟩, hlimits, hsize, ?_⟩
  · decide +kernel
  · clear_value s
    rw [hrun, hgone]
    exact ⟨rfl, hkept⟩

end DatasetSearch.Cache
