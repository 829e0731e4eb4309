import ChainGateway.Admission.Classifier
import ChainGateway.Proofs.Admission.Standings

/-!
# The ledger of a gate

A ledger has, beside the gate and its meters, how every attempt to be admitted stands by what
the gate has answered. Attempts come from any client for any route, look for a slot, give up
while they wait or while they are worked on, and give their tickets back, in any order and at
any readings of the clock.
-/

namespace ChainGateway.Admission

open Metrics (Meters)

/-- Attempts are numbered in the order in which they came. -/
structure Ledger where
  classifier : Classifier
  gate : Gate
  meters : Meters
  attempts : List Attempt

/-- What happens to a gate. -/
inductive Visitation
  | arrive (now : Nat) (c : Client) (route : String)
  /-- An attempt that waits looks whether it has a slot, or finds its time `expired`. -/
  | look (now id : Nat) (expired : Bool)
  /-- A ticket is given back or dropped, as the handler returned or panicked. -/
  | leave (now id : Nat)
  /-- A request is dropped, wherever it has got to. -/
  | cancel (now id : Nat)
  | sweep (now : Nat)

-- ---------------------------------------------------------------------------
-- Steps
-- ---------------------------------------------------------------------------

namespace Ledger

def new (classifier : Classifier) (gate : Gate) (meters : Meters) : Ledger :=
  ⟨classifier, gate, meters, []⟩

def book (s : Ledger) : Book := fun i => s.attempts[i]?

/-- The gate answers an event of an attempt, which stands as in `x` if it is told nothing. -/
def meet (s : Ledger) (now id : Nat) (x : Attempt) (e : Event) : Ledger :=
  let (a, _, gate) := s.gate.step now e
  { s with
    gate := gate
    meters := s.meters.note x.lane a
    attempts := s.attempts.set id ⟨x.lane, x.standing.after a⟩ }

/-- Enters a new attempt for the lane `l`. -/
def push (s : Ledger) (l : Lane) : Ledger := { s with attempts := s.attempts ++ [⟨l, .arrived⟩] }

def arrive (s : Ledger) (now : Nat) (c : Client) (route : String) : Ledger :=
  let id := s.attempts.length
  let l := s.classifier.classify route
  (s.push l).meet now id ⟨l, .arrived⟩ (.enter id c l)

def look (s : Ledger) (now id : Nat) (expired : Bool) : Ledger :=
  match s.attempts[id]? with
  | some x => s.meet now id x (.look id x.lane expired)
  | none => s

def leave (s : Ledger) (now id : Nat) : Ledger :=
  match s.attempts[id]? with
  | some x => s.meet now id x (.leave id)
  | none => s

def cancel (s : Ledger) (now id : Nat) : Ledger :=
  match s.attempts[id]? with
  | some ⟨l, .waiting⟩ => s.meet now id ⟨l, .cancelled⟩ (.cancel id l)
  | _ => s.leave now id

def sweep (s : Ledger) (now : Nat) : Ledger :=
  match s.gate.sweep now with
  | .ok (_, gate) => { s with gate := gate }
  | .error _ => s

def step (s : Ledger) : Visitation → Ledger
  | .arrive now c route => s.arrive now c route
  | .look now id expired => s.look now id expired
  | .leave now id => s.leave now id
  | .cancel now id => s.cancel now id
  | .sweep now => s.sweep now

def run (s : Ledger) (visitations : List Visitation) : Ledger := visitations.foldl step s

end Ledger

end ChainGateway.Admission
