import ChainGateway.Admission.Gate
import ChainGateway.Binary.Number
import ChainGateway.Cache.Store

/-!
# Meters

What the gateway counts about itself. Meters of a lane, a request or a store exist
once there is something to count, the others from the start.
-/

namespace ChainGateway.Metrics

open Admission

/-- A request by method, path label and status. -/
structure RequestLabel where
  method : String
  path : String
  status : Nat
  deriving DecidableEq, Repr

/-- How an attempt to be admitted ended. -/
inductive Ending
  | admitted
  | rateLimited
  | overloaded
  deriving DecidableEq, Repr

namespace Ending

def all : List Ending := [.admitted, .overloaded, .rateLimited]

def name : Ending → String
  | .admitted => "admitted"
  | .rateLimited => "rate_limited"
  | .overloaded => "overloaded"

def ofRejection : Rejection → Ending
  | .rateLimited _ => .rateLimited
  | .overloaded _ => .overloaded

end Ending

/-- The milliseconds that admitted requests waited, the latest first. -/
abbrev Waits := List Nat

structure Meters where
  requests : List (RequestLabel × Nat)
  endings : List ((Lane × Ending) × Nat)
  standardWaits : Waits
  heavyWaits : Waits
  standardInFlight : Int
  heavyInFlight : Int
  trackedClients : Nat
  /-- The counters of the stores when they were last reported. -/
  stores : List Cache.Stats
  epochClears : Nat
  currentEpoch : UInt64
  deriving Repr

namespace Meters

def start : Meters := ⟨[], [], [], [], 0, 0, 0, [], 0, 0⟩

/-- Adds one to the count of `key`. -/
def countUp {κ : Type} [DecidableEq κ] (key : κ) : List (κ × Nat) → List (κ × Nat)
  | [] => [(key, 1)]
  | (k, n) :: rest => if k = key then (k, n + 1) :: rest else (k, n) :: countUp key rest

def count {κ : Type} [DecidableEq κ] (key : κ) (counts : List (κ × Nat)) : Nat :=
  ((counts.find? (·.1 = key)).map (·.2)).getD 0

def countRequest (m : Meters) (label : RequestLabel) : Meters :=
  { m with requests := countUp label m.requests }

def countEnding (m : Meters) (lane : Lane) (e : Ending) : Meters :=
  { m with endings := countUp (lane, e) m.endings }

def waits (m : Meters) : Lane → Waits
  | .standard => m.standardWaits
  | .heavyLookup => m.heavyWaits

def inFlight (m : Meters) : Lane → Int
  | .standard => m.standardInFlight
  | .heavyLookup => m.heavyInFlight

def addInFlight (m : Meters) (lane : Lane) (n : Int) : Meters :=
  match lane with
  | .standard => { m with standardInFlight := m.standardInFlight + n }
  | .heavyLookup => { m with heavyInFlight := m.heavyInFlight + n }

/-- Counts a request that was admitted after it waited `waited` milliseconds. -/
def countAdmitted (m : Meters) (lane : Lane) (waited : Nat) : Meters :=
  let m := (m.countEnding lane .admitted).addInFlight lane 1
  match lane with
  | .standard => { m with standardWaits := waited :: m.standardWaits }
  | .heavyLookup => { m with heavyWaits := waited :: m.heavyWaits }

/-- Counts a ticket that was given back. -/
def countLeft (m : Meters) (lane : Lane) : Meters := m.addInFlight lane (-1)

def countRejected (m : Meters) (lane : Lane) (r : Rejection) : Meters :=
  m.countEnding lane (.ofRejection r)

/-- Counts what the gate answered to a request for `lane`. -/
def note (m : Meters) (lane : Lane) : Answer → Meters
  | .admitted lane waited => m.countAdmitted lane waited
  | .rejected r => m.countRejected lane r
  | .left lane => m.countLeft lane
  | _ => m

/-- Puts the counters of a store in the place of older ones. -/
def putStats (s : Cache.Stats) : List Cache.Stats → List Cache.Stats
  | [] => [s]
  | t :: rest => if t.operation = s.operation then s :: rest else t :: putStats s rest

def reportStores (m : Meters) (snapshot : List Cache.Stats) : Meters :=
  { m with stores := snapshot.foldl (fun stores s => putStats s stores) m.stores }

def reportClients (m : Meters) (n : Nat) : Meters := { m with trackedClients := n }

def countAdvance (m : Meters) (epoch : UInt64) : Meters :=
  { m with epochClears := m.epochClears + 1, currentEpoch := epoch }

end Meters
end ChainGateway.Metrics
