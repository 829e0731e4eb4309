import ChainGateway.Admission.Lane

/-!
# Lane queues

The slots of one lane and the requests that wait for one, in the order in which they
began to wait. A slot that comes free while someone waits is handed to the first of
them at once, who then holds it until it is taken up or passed on.
-/

namespace ChainGateway.Admission

/-- A request that waits, and since when. -/
structure Waiter where
  id : Nat
  since : Nat
  deriving DecidableEq, Repr

structure LaneQueue where
  capacity : Nat
  free : Nat
  waiting : List Waiter
  /-- Waiters that have been handed a slot and have not taken it up yet. -/
  handed : List Waiter
  deriving DecidableEq, Repr

namespace LaneQueue

def new (capacity : Nat) : LaneQueue := ⟨capacity, capacity, [], []⟩

/-- Slots that are held or handed over. -/
def inFlight (q : LaneQueue) : Nat := q.capacity - q.free

/-- Takes a free slot. -/
def acquire? (q : LaneQueue) : Option LaneQueue :=
  if q.free = 0 then none else some { q with free := q.free - 1 }

def enqueue (q : LaneQueue) (w : Waiter) : LaneQueue := { q with waiting := q.waiting ++ [w] }

/-- Gives a slot back; the waiter it is handed to goes with it. -/
def release (q : LaneQueue) : Option Waiter × LaneQueue :=
  match q.waiting with
  | [] => (none, { q with free := q.free + 1 })
  | w :: rest => (some w, { q with waiting := rest, handed := q.handed ++ [w] })

def handedTo? (q : LaneQueue) (id : Nat) : Option Waiter := q.handed.find? (·.id = id)

def waits (q : LaneQueue) (id : Nat) : Bool := q.waiting.any (·.id = id)

/-- The waiter takes up the slot it was handed. -/
def take (q : LaneQueue) (id : Nat) : LaneQueue :=
  { q with handed := q.handed.filter (·.id ≠ id) }

/-- A waiter leaves the queue without a slot. -/
def leave (q : LaneQueue) (id : Nat) : LaneQueue :=
  { q with waiting := q.waiting.filter (·.id ≠ id) }

end LaneQueue
end ChainGateway.Admission
