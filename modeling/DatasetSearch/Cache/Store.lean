import DatasetSearch.Cache.Key

/-!
# The store of a cache

Entries by key with the time they were stored and how long they stay fresh, the counters, and the
keys whose gate exists.  An entry is fresh strictly before its expiry.  Nothing happens in the
background: a stale entry goes when it is looked up or when the store is purged.
-/

namespace DatasetSearch.Cache

/-- A stored result; times are in milliseconds. -/
structure Entry where
  value : QueryResult
  storedAt : Nat
  ttl : Nat
deriving Repr

/-- The first instant that cannot be represented: instants count seconds in a signed 64-bit word. -/
def instantLimit : Nat := (1 <<< 63) * 1000

/-- How an entry stands at some time. -/
inductive Freshness where
  | fresh
  | stale
  /-- The expiry cannot be represented. -/
  | overflow
deriving DecidableEq, Repr

/-- How an entry stands at a time. -/
def Entry.freshness (entry : Entry) (now : Nat) : Freshness :=
  let expiry := entry.storedAt + entry.ttl
  if instantLimit ≤ expiry then .overflow
  else if now < expiry then .fresh
  else .stale

/-- The entries, counters and gates of a cache. -/
structure Store where
  entries : List (String × Entry)
  hits : Nat
  misses : Nat
  /-- The keys whose gate exists. -/
  gates : List String
deriving Repr

namespace Store

def empty : Store := ⟨[], 0, 0, []⟩

def entry? (s : Store) (key : String) : Option Entry := s.entries.lookup key

def evict (s : Store) (key : String) : Store :=
  { s with entries := s.entries.filter (·.1 ≠ key) }

def insert (s : Store) (key : String) (entry : Entry) : Store :=
  { s with entries := (key, entry) :: s.entries.filter (·.1 ≠ key) }

def size (s : Store) : Nat := s.entries.length

def countHit (s : Store) : Store := { s with hits := s.hits + 1 }

def countMiss (s : Store) : Store := { s with misses := s.misses + 1 }

/-- The store without the keys that contain a text, or without any; and how many entries went. -/
def invalidate (s : Store) (pattern : Option String) : Nat × Store :=
  let kept := match pattern with
    | some text => s.entries.filter (fun (key, _) => !Text.contains key text)
    | none => []
  (s.entries.length - kept.length, { s with entries := kept })

/-- The store without the entries that are stale at a time, and how many these were; none if some
expiry cannot be represented. -/
def purge? (s : Store) (now : Nat) : Option (Nat × Store) :=
  if s.entries.any (fun (_, entry) => entry.freshness now == .overflow) then none
  else
    let kept := s.entries.filter (fun (_, entry) => entry.freshness now == .fresh)
    some (s.entries.length - kept.length, { s with entries := kept })

def openGate (s : Store) (key : String) : Store :=
  if s.gates.contains key then s else { s with gates := key :: s.gates }

/-- The store after a call has left a gate: the gate goes when no other call refers to it. -/
def leaveGate (s : Store) (key : String) (alone : Bool) : Store :=
  if alone then { s with gates := s.gates.filter (· ≠ key) } else s

end Store

end DatasetSearch.Cache
