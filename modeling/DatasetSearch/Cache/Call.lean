import DatasetSearch.Cache.Store
import DatasetSearch.Log.Event
import DatasetSearch.Warehouse

/-!
# Calls through a cache

A call asks for the rows of a statement.  It runs in stages, between which it waits: it arrives, it
may have to pass the gate of its key, it may execute the statement, and it finishes.  The stages
are the same whether calls follow one another or overlap; `fetch` is a call that nothing overlaps.

* A bypassed call executes, and neither reads nor changes the store.
* Any other call counts as exactly one hit or one miss.
* Only the rows of a successful execution that has some are stored.
-/

namespace DatasetSearch.Cache

/-- Why a call yields no rows. -/
inductive CallError where
  /-- The execution failed; the texts of the error and its causes, outermost first. -/
  | execution (causes : List String)
  /-- The expiry of the entry that was found cannot be represented. -/
  | expiryOverflow
deriving DecidableEq, Repr

def CallError.message : CallError → String
  | .execution causes => "Query execution failed: " ++ Text.join ": " causes
  | .expiryOverflow => "overflow when adding duration to instant"

abbrev Outcome := Except CallError QueryResult

/-- A request for the rows of a statement. -/
structure Call where
  statement : Statement
  label : String
  /-- How long the rows stay fresh in milliseconds, if not as the settings say. -/
  ttl : Option Nat
  bypass : Bool
deriving DecidableEq, Repr

def Call.key (settings : Settings) (call : Call) : String :=
  Cache.key settings.keyDigest call.label call.statement

/-- How long the rows of a call stay fresh. -/
def Call.lifetime (settings : Settings) (call : Call) : Nat := call.ttl.getD settings.defaultTtl

/-- A cache in front of a warehouse: the store, the clock in milliseconds, the state of the
warehouse, the statements executed so far and the events reported so far. -/
structure Session (σ : Type) where
  store : Store
  clock : Nat
  warehouse : σ
  statements : List Statement
  journal : List Log.Event

/-- A session with an empty store at time zero. -/
def Session.start {σ : Type} (warehouse : σ) : Session σ := ⟨.empty, 0, warehouse, [], []⟩

abbrev Act (σ α : Type) := StateM (Session σ) α

section

variable {σ : Type}

/-! ### Elementary acts -/

def report (event : Log.Event) : Act σ Unit :=
  modify fun s => { s with journal := s.journal ++ [event] }

/-- Report an event of the cache. -/
def note (level : Log.Level) (message : String) (fields : List (String × Log.FieldValue)) :
    Act σ Unit :=
  report ⟨level, "fedspend_query::cache", message, fields⟩

def onStore (f : Store → Store) : Act σ Unit := modify fun s => { s with store := f s.store }

/-- Let time pass. -/
def wait (ms : Nat) : Act σ Unit := modify fun s => { s with clock := s.clock + ms }

/-- Send a statement to the warehouse.  The reply is there when its delay is over. -/
def send (warehouse : Warehouse σ) (statement : Statement) : Act σ Reply := fun s =>
  let (reply, state) := warehouse statement s.warehouse
  (reply, { s with warehouse := state, statements := s.statements ++ [statement] })

/-- Look up a key without counting.  A stale entry is evicted. -/
def peek (key : String) : Act σ (Except CallError (Option QueryResult)) := do
  let s ← get
  match s.store.entry? key with
  | none => pure (.ok none)
  | some entry =>
    match entry.freshness s.clock with
    | .fresh => pure (.ok (some entry.value))
    | .overflow => pure (.error .expiryOverflow)
    | .stale =>
      onStore (·.evict key)
      note .debug "Cache entry expired" [("cache_key", .plain key)]
      pure (.ok none)

/-- Count a hit; the value is marked as cached. -/
def recordHit (key : String) (value : QueryResult) : Act σ QueryResult := do
  onStore (·.countHit)
  note .debug "Cache hit" [("cache_key", .plain key)]
  pure { value with cached := true }

def recordMiss (key : String) : Act σ Unit := do
  onStore (·.countMiss)
  note .debug "Cache miss" [("cache_key", .plain key)]

/-! ### The stages of a call -/

/-- Where a call stands after a stage that ran: it has its outcome, or it awaits a reply. -/
inductive Progress where
  | answered (outcome : Outcome)
  | executing (reply : Reply)

/-- Where a call stands after it has arrived. -/
inductive Arrival where
  | moved (progress : Progress)
  /-- The call has to pass the gate of its key. -/
  | atGate

/-- Count a miss and execute. -/
def missed (warehouse : Warehouse σ) (key : String) (statement : Statement) : Act σ Progress := do
  recordMiss key
  return .executing (← send warehouse statement)

def arrive (settings : Settings) (warehouse : Warehouse σ) (call : Call) : Act σ Arrival := do
  if call.bypass then
    note .trace "Cache bypassed" [("label", .plain call.label)]
    return .moved (.executing (← send warehouse call.statement))
  else
    let key := call.key settings
    match ← peek key with
    | .error error => return .moved (.answered (.error error))
    | .ok (some value) => return .moved (.answered (.ok (← recordHit key value)))
    | .ok none =>
      if settings.singleFlight then
        onStore (·.openGate key)
        return .atGate
      else return .moved (← missed warehouse key call.statement)

/-- The stage after passing the gate; `alone` says that no other call refers to the gate.  The
entry may have been filled meanwhile.  An overflow leaves the gate behind. -/
def enter (settings : Settings) (warehouse : Warehouse σ) (call : Call) (alone : Bool) :
    Act σ Progress := do
  let key := call.key settings
  match ← peek key with
  | .error error => return .answered (.error error)
  | .ok (some value) =>
    let value ← recordHit key value
    onStore (·.leaveGate key alone)
    return .answered (.ok value)
  | .ok none => missed warehouse key call.statement

/-- What a reply means for a call, when its delay is over. -/
def conclude (settings : Settings) (call : Call) (reply : Reply) : Act σ Outcome := do
  match reply.outcome with
  | .error causes => return .error (.execution causes)
  | .ok rows =>
    note .debug "Query executed"
      [("rows", .number rows.length), ("elapsed_ms", .number reply.elapsedMs.toNat)]
    let value := QueryResult.ofRows rows reply.elapsedMs
    let s ← get
    if !call.bypass ∧ 0 < value.rowCount then
      onStore (·.insert (call.key settings) ⟨value, s.clock, call.lifetime settings⟩)
    return .ok value

/-- Whether a call passes the gate of its key before it executes. -/
def Call.isGated (settings : Settings) (call : Call) : Bool := settings.singleFlight && !call.bypass

/-- The last stage of a call that executed; `alone` as for `enter`. -/
def finish (settings : Settings) (call : Call) (reply : Reply) (alone : Bool) :
    Act σ Outcome := do
  let outcome ← conclude settings call reply
  if call.isGated settings then onStore (·.leaveGate (call.key settings) alone)
  return outcome

/-! ### Whole calls and administration -/

def fetch (settings : Settings) (warehouse : Warehouse σ) (call : Call) : Act σ Outcome := do
  let progress ← match ← arrive settings warehouse call with
    | .moved progress => pure progress
    | .atGate => enter settings warehouse call true
  match progress with
  | .answered outcome => return outcome
  | .executing reply =>
    wait reply.delayMs
    finish settings call reply true

/-- Evict every key that contains the pattern, or every key; yields the number of entries. -/
def invalidate (pattern : Option String) : Act σ Nat := do
  let s ← get
  let (evicted, store) := s.store.invalidate pattern
  set { s with store := store }
  note .info "Cache invalidated"
    [("pattern", .quoted (pattern.getD "*")), ("evicted", .number evicted)]
  return evicted

/-- Drop the entries that are stale now; yields their number. -/
def purge : Act σ (Except CallError Nat) := do
  let s ← get
  match s.store.purge? s.clock with
  | none => return .error .expiryOverflow
  | some (purged, store) =>
    set { s with store := store }
    return .ok purged

end

end DatasetSearch.Cache
