import ChainGateway.Binary.Number
import ChainGateway.Cache.Key
import ChainGateway.Cache.Policy

/-!
# Stores

A store keeps outcomes of one operation, the most recently used first, each until
its lifetime is over. Expired slots stay until they are met: a read of one is a miss
and drops it, and an insert into a full store drops all of them before it evicts the
least recently used live one.
-/

namespace ChainGateway

/-- Gives an outcome back as kind `k`; an error is one of every kind. -/
def Outcome.replay (k : Model.Kind) : Outcome → Option (Except ReadError k.Carrier)
  | .ok a => (a.as? k).map .ok
  | .error e => some (.error e)

/-- How an outcome is shown in logs. -/
def Outcome.debug : Outcome → String
  | .ok _ => "CacheEntry(Ok(..))"
  | .error e => "CacheEntry(Err(" ++ e.message ++ "))"

namespace Cache

structure Slot where
  key : Key
  outcome : Outcome
  expires : Instant

def Slot.live (now : Instant) (s : Slot) : Bool := now.nanos < s.expires.nanos

structure Store where
  operation : Operation
  policy : Policy
  /-- Most recently used first; no key occurs twice. -/
  slots : List Slot
  hits : Nat
  misses : Nat
  evictions : Nat

/-- Counters and size of a store. -/
structure Stats where
  operation : Operation
  entries : Nat
  capacity : Nat
  hits : Nat
  misses : Nat
  evictions : Nat
  deriving DecidableEq, Repr

/-- The share of reads that hit, as the nearest double. -/
def Stats.hitRate (s : Stats) : Binary.Double :=
  if s.hits + s.misses = 0 then .zero _
  else .div (.ofNat _ s.hits) (.ofNat _ (s.hits + s.misses))

namespace Store

def new (op : Operation) (p : Policy) : Store := ⟨op, p, [], 0, 0, 0⟩

def find? (s : Store) (key : Key) : Option Slot := s.slots.find? (·.key = key)

def others (slots : List Slot) (key : Key) : List Slot := slots.filter (·.key ≠ key)

/-- Reads the live outcome of a key and makes it the most recently used. -/
def get (s : Store) (now : Instant) (key : Key) : Option Outcome × Store :=
  match s.find? key with
  | some slot =>
    if slot.live now then
      (some slot.outcome, { s with slots := slot :: others s.slots key, hits := s.hits + 1 })
    else (none, { s with slots := others s.slots key, misses := s.misses + 1 })
  | none => (none, { s with misses := s.misses + 1 })

/-- Drops expired slots. -/
def purge (s : Store) (now : Instant) : Store :=
  { s with slots := s.slots.filter (Slot.live now) }

/-- How many slots `purge` drops. -/
def expiredCount (s : Store) (now : Instant) : Nat :=
  (s.slots.filter fun slot => !slot.live now).length

/-- Makes room for one more slot in a full store: first the expired slots go, then the
least recently used ones. -/
def makeRoom (s : Store) (now : Instant) : Store :=
  let p := s.purge now
  { p with
    slots := p.slots.take (s.policy.capacity - 1)
    evictions := p.evictions + (p.slots.length - (s.policy.capacity - 1)) }

/-- The store with room for a slot of `key`. -/
def roomFor (s : Store) (now : Instant) (key : Key) : Store :=
  if (s.find? key).isNone && s.policy.capacity ≤ s.slots.length then s.makeRoom now else s

/-- Keeps an outcome for the lifetime of the policy; a bypass keeps nothing. Room is made
before it turns out that the lifetime ends beyond the clock. -/
def insert (s : Store) (now : Instant) (key : Key) (outcome : Outcome) : Option Fault × Store :=
  if s.policy.isBypass then (none, s)
  else
    let room := s.roomFor now key
    match now.after? s.policy.ttl with
    | none => (some .timeOverflow, room)
    | some expires =>
      (none, { room with slots := ⟨key, outcome, expires⟩ :: others room.slots key })

def clear (s : Store) : Store := { s with slots := [] }

def size (s : Store) : Nat := s.slots.length

def stats (s : Store) : Stats :=
  ⟨s.operation, s.size, s.policy.capacity, s.hits, s.misses, s.evictions⟩

def debug (s : Store) : String :=
  debugRecord "ExpiringStore"
    [("operation", s.operation.name),
      ("policy", debugRecord "OperationCachePolicy"
        [("capacity", toString s.policy.capacity), ("ttl", s.policy.ttl.describe)]),
      ("entries", toString s.size)]

end Store
end Cache
end ChainGateway
