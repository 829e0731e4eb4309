import ChainGateway.Admission.LaneQueue
import ChainGateway.Admission.RateLimiter

/-!
# The admission gate

A request is first counted against its client's budget, then it needs a slot of its
lane, for which it waits no longer than the timeout. Admitted, it holds a ticket and
with it the slot until the ticket is given back. A request that is turned away or
goes away while it waits holds nothing.
-/

namespace ChainGateway.Admission

inductive Rejection
  | rateLimited (retryAfter : Span)
  | overloaded (lane : Lane)
  deriving DecidableEq, Repr

namespace Rejection

def reason : Rejection → String
  | .rateLimited _ => "rate_limited"
  | .overloaded _ => "overloaded"

def message : Rejection → String
  | .rateLimited _ => "Request number limit exceeded"
  | .overloaded lane => "Service is overloaded (" ++ lane.name ++ " lane)"

end Rejection

/-- Proof of admission: who holds a slot of which lane, since when. -/
structure Ticket where
  id : Nat
  lane : Lane
  since : Nat
  deriving DecidableEq, Repr

/-- How the requests so far were decided. -/
structure Tally where
  admitted : Nat
  rateLimited : Nat
  overloaded : Nat
  deriving DecidableEq, Repr, Inhabited

structure Limits where
  /-- The slots of the standard lane. -/
  standardSlots : Nat
  timeout : Span
  /-- Requests of one client in two windows; zero for no limit. -/
  rateLimit : Nat
  rateWindow : Span
  deriving DecidableEq, Repr

def Limits.standard : Limits := ⟨50, .ofSeconds 60, 0, .ofSeconds 30⟩

structure Gate where
  timeout : Span
  limiter : RateLimiter
  standard : LaneQueue
  heavy : LaneQueue
  tickets : List Ticket
  tally : Tally

/-- What happens at the gate. Requests are told apart by number. -/
inductive Event
  | enter (id : Nat) (client : Client) (lane : Lane)
  /-- A waiter looks whether it was handed a slot; `expired` when its time is up. -/
  | look (id : Nat) (lane : Lane) (expired : Bool)
  /-- A ticket is given back. -/
  | leave (id : Nat)
  /-- A waiter goes away. -/
  | cancel (id : Nat) (lane : Lane)

/-- What an event tells the request it is about. -/
inductive Answer
  | admitted (lane : Lane) (waited : Nat)
  | rejected (r : Rejection)
  | waiting
  | left (lane : Lane)
  | failed (f : Fault)
  | nothing
  deriving DecidableEq, Repr

namespace Gate

/-- The slots of the lane for expensive lookups. -/
def heavySlots : Nat := 1

/-- The most slots that a lane can count. -/
def maxSlots : Nat := 2305843009213693951

def new (l : Limits) : Except Fault Gate :=
  if maxSlots < l.standardSlots then .error .tooManySlots
  else .ok
    { timeout := l.timeout
      limiter := .new l.rateLimit l.rateWindow
      standard := .new l.standardSlots
      heavy := .new heavySlots
      tickets := []
      tally := ⟨0, 0, 0⟩ }

def lane (g : Gate) : Lane → LaneQueue
  | .standard => g.standard
  | .heavyLookup => g.heavy

def setLane (g : Gate) (l : Lane) (q : LaneQueue) : Gate :=
  match l with
  | .standard => { g with standard := q }
  | .heavyLookup => { g with heavy := q }

def inFlight (g : Gate) (l : Lane) : Nat := (g.lane l).inFlight

/-- Milliseconds that a request waits. -/
def patience (g : Gate) (now : Nat) : Nat := Instant.deadline now g.timeout - now

def issue (g : Gate) (now id since : Nat) (l : Lane) : Answer × Gate :=
  (.admitted l (now - since),
    { g with
      tickets := g.tickets ++ [⟨id, l, now⟩]
      tally := { g.tally with admitted := g.tally.admitted + 1 } })

def overload (g : Gate) (l : Lane) : Answer × Gate :=
  (.rejected (.overloaded l),
    { g with tally := { g.tally with overloaded := g.tally.overloaded + 1 } })

/-- A request that was counted asks for a slot. -/
def queue (g : Gate) (now id : Nat) (l : Lane) : Answer × Gate :=
  match (g.lane l).acquire? with
  | some q => (g.setLane l q).issue now id now l
  | none =>
    if g.patience now = 0 then g.overload l
    else (.waiting, g.setLane l ((g.lane l).enqueue ⟨id, now⟩))

def enter (g : Gate) (now id : Nat) (c : Client) (l : Lane) : Answer × Gate :=
  match g.limiter.check (.ofMillis now) c with
  | (.accepted, limiter) => { g with limiter := limiter }.queue now id l
  | (.retryAfter delay, limiter) =>
    (.rejected (.rateLimited delay),
      { g with
        limiter := limiter
        tally := { g.tally with rateLimited := g.tally.rateLimited + 1 } })
  | (.failed f, limiter) => (.failed f, { g with limiter := limiter })

def look (g : Gate) (now id : Nat) (l : Lane) (expired : Bool) : Answer × Gate :=
  match (g.lane l).handedTo? id with
  | some w => (g.setLane l ((g.lane l).take id)).issue now id w.since l
  | none =>
    if (g.lane l).waits id then
      if expired then (g.setLane l ((g.lane l).leave id)).overload l else (.waiting, g)
    else (.nothing, g)

/-- Gives a slot back to its lane; the waiter it is handed to goes with it. -/
def release (g : Gate) (l : Lane) : Option Nat × Gate :=
  let (w, q) := (g.lane l).release
  (w.map Waiter.id, g.setLane l q)

/-- The answer to an event, the waiter that was handed a slot by it, and the gate after. -/
def step (g : Gate) (now : Nat) : Event → Answer × Option Nat × Gate
  | .enter id c l => let (a, g) := g.enter now id c l; (a, none, g)
  | .look id l expired => let (a, g) := g.look now id l expired; (a, none, g)
  | .leave id =>
    match g.tickets.find? (·.id = id) with
    | none => (.nothing, none, g)
    | some t =>
      let (woken, g) := { g with tickets := g.tickets.filter (·.id ≠ id) }.release t.lane
      (.left t.lane, woken, g)
  | .cancel id l =>
    match (g.lane l).handedTo? id with
    | some _ =>
      let (woken, g) := (g.setLane l ((g.lane l).take id)).release l
      (.nothing, woken, g)
    | none => (.nothing, none, g.setLane l ((g.lane l).leave id))

/-- Drops stale rate windows, and says how many. -/
def sweep (g : Gate) (now : Nat) : Except Fault (Nat × Gate) := do
  let (dropped, limiter) ← g.limiter.sweep (.ofMillis now)
  .ok (dropped, { g with limiter := limiter })

/-- How long a ticket has been held. -/
def heldFor (now : Nat) (t : Ticket) : Span := .ofMillis (now - t.since)

end Gate
end ChainGateway.Admission
