import DatasetSearch.Cache.Call

/-!
# Overlapping calls

Calls that overlap take turns: each runs one stage at a time without interruption and then waits
for its start, for the gate of its key or for a reply.  `Run.perform` lets one call run its next
stage; `Run.next?` is the schedule, which follows the clock, and at a gate the order of arrival.
-/

namespace DatasetSearch.Cache

/-- Where a call of a run stands. -/
inductive Phase where
  /-- It has not arrived; it starts at this time. -/
  | scheduled (start : Nat)
  /-- It waits at the gate of its key; the ticket tells the order of arrival. -/
  | queued (ticket : Nat)
  /-- It awaits a reply, which is there at this time. -/
  | executing (reply : Reply) (due : Nat)
  | answered (outcome : Outcome)

/-- A call of a run. -/
structure Task where
  call : Call
  phase : Phase

/-- Calls in progress on one session. -/
structure Run (σ : Type) where
  session : Session σ
  tasks : List Task
  /-- The ticket of the next call that has to wait at a gate. -/
  ticket : Nat

namespace Task

/-- Whether a call waits at the gate of a key. -/
def awaits (settings : Settings) (key : String) (t : Task) : Bool :=
  match t.phase with
  | .queued _ => t.call.key settings == key
  | _ => false

def holds (settings : Settings) (key : String) (t : Task) : Bool :=
  match t.phase with
  | .executing _ _ => t.call.isGated settings && t.call.key settings == key
  | _ => false

def refers (settings : Settings) (key : String) (t : Task) : Bool :=
  t.awaits settings key || t.holds settings key

end Task

namespace Run

variable {σ : Type}

def start (session : Session σ) (calls : List (Call × Nat)) : Run σ :=
  ⟨session, calls.map (fun (call, start) => ⟨call, .scheduled (session.clock + start)⟩), 0⟩

/-- The calls other than the one at an index. -/
def others (r : Run σ) (index : Nat) : List Task := r.tasks.eraseIdx index

/-- Whether no other call refers to the gate of a key. -/
def alone (settings : Settings) (r : Run σ) (index : Nat) (key : String) : Bool :=
  !(r.others index).any (Task.refers settings key)

def move (r : Run σ) (index : Nat) (session : Session σ) (phase : Phase) : Run σ :=
  { r with session := session, tasks := r.tasks.modify index (fun t => { t with phase := phase }) }

/-- The run after a stage of a call: a reply without delay is taken up at once. -/
def advance (settings : Settings) (r : Run σ) (index : Nat) (call : Call) (progress : Progress)
    (session : Session σ) : Run σ :=
  match progress with
  | .answered outcome => r.move index session (.answered outcome)
  | .executing reply =>
    if reply.delayMs = 0 then
      let (outcome, session) :=
        (finish settings call reply (r.alone settings index (call.key settings))).run session
      r.move index session (.answered outcome)
    else r.move index session (.executing reply (session.clock + reply.delayMs))

/-- The run after a call has passed the gate of its key. -/
def pass (settings : Settings) (warehouse : Warehouse σ) (r : Run σ) (index : Nat) (call : Call)
    (session : Session σ) : Run σ :=
  let (progress, session) :=
    (enter settings warehouse call (r.alone settings index (call.key settings))).run session
  r.advance settings index call progress session

/-- The run after one call has run its next stage. -/
def perform (settings : Settings) (warehouse : Warehouse σ) (r : Run σ) (index : Nat) : Run σ :=
  match r.tasks[index]? with
  | none => r
  | some task =>
    match task.phase with
    | .answered _ => r
    | .scheduled start =>
      let session := { r.session with clock := max r.session.clock start }
      let (arrival, session) := (arrive settings warehouse task.call).run session
      match arrival with
      | .moved progress => r.advance settings index task.call progress session
      | .atGate =>
        if r.alone settings index (task.call.key settings) then
          r.pass settings warehouse index task.call session
        else { r.move index session (.queued r.ticket) with ticket := r.ticket + 1 }
    | .queued _ => r.pass settings warehouse index task.call r.session
    | .executing reply due =>
      let session := { r.session with clock := max r.session.clock due }
      let (outcome, session) :=
        (finish settings task.call reply
          (r.alone settings index (task.call.key settings))).run session
      r.move index session (.answered outcome)

/-! ### The schedule -/

/-- The least of the keys, with what belongs to it; the first of equals. -/
def least : List (Nat × Nat) → Option (Nat × Nat)
  | [] => none
  | (rank, index) :: rest =>
    match least rest with
    | none => some (rank, index)
    | some (other, otherIndex) =>
      if rank ≤ other then some (rank, index) else some (other, otherIndex)

/-- The calls at a gate that nobody holds, by ticket. -/
def released (settings : Settings) (r : Run σ) : List (Nat × Nat) :=
  r.tasks.zipIdx.filterMap fun (task, index) =>
    match task.phase with
    | .queued ticket =>
      if r.tasks.any (Task.holds settings (task.call.key settings)) then none
      else some (ticket, index)
    | _ => none

/-- The calls that wait for a time, by that time. -/
def timed (r : Run σ) : List (Nat × Nat) :=
  r.tasks.zipIdx.filterMap fun (task, index) =>
    match task.phase with
    | .scheduled start => some (start, index)
    | .executing _ due => some (due, index)
    | _ => none

/-- The call that runs next: the first in line at a free gate, else the earliest in time. -/
def next? (settings : Settings) (r : Run σ) : Option Nat :=
  match least (r.released settings) with
  | some (_, index) => some index
  | none => (least r.timed).map (·.2)

/-- The run after at most that many stages. -/
def stages (settings : Settings) (warehouse : Warehouse σ) : Nat → Run σ → Run σ
  | 0, r => r
  | count + 1, r =>
    match r.next? settings with
    | none => r
    | some index => stages settings warehouse count (r.perform settings warehouse index)

/-- The run when all calls have ended; a call has at most three stages. -/
def complete (settings : Settings) (warehouse : Warehouse σ) (r : Run σ) : Run σ :=
  stages settings warehouse (3 * r.tasks.length) r

/-- The outcomes so far, in the order of the calls. -/
def outcomes (r : Run σ) : List (Option Outcome) :=
  r.tasks.map fun task =>
    match task.phase with
    | .answered outcome => some outcome
    | _ => none

end Run

/-- Overlapping calls, each with its start counted from now, until all have ended. -/
def fetchAll {σ : Type} (settings : Settings) (warehouse : Warehouse σ)
    (calls : List (Call × Nat)) : Act σ (List (Option Outcome)) := fun s =>
  let r := (Run.start s calls).complete settings warehouse
  (r.outcomes, r.session)

end DatasetSearch.Cache
