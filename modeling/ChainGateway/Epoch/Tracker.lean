import ChainGateway.Epoch.Marker
import ChainGateway.Error

/-!
# The epoch tracker

The tracker holds the greatest epoch fetched so far with its latest validation time.
The first fetch is a baseline; each greater epoch after it is an advance, of which
every observer is told once. While the next ceremony and the delay after it lie in
the future, nothing can change, so the next poll waits for that moment.
-/

namespace ChainGateway.Epoch

structure Pacing where
  pollInterval : Span
  /-- How long after the validation time polls are worthwhile again. -/
  resumeDelay : Span
  deriving DecidableEq, Repr

def Pacing.standard : Pacing := ⟨.ofSeconds 5, .ofMinutes 25⟩

/-- The epoch before an advance and the one after it. -/
structure Advance where
  previous : Marker
  current : Marker
  deriving DecidableEq, Repr

structure Tracker where
  pacing : Pacing
  current : Option Marker
  advances : Nat
  pollErrors : Nat
  deriving DecidableEq, Repr

/-- What one poll came to: the marker, unless the fetch failed, and whether it is an
advance. -/
structure Poll where
  advanced : Bool
  marker : Option Marker
  deriving DecidableEq, Repr

namespace Tracker

def new (p : Pacing) : Tracker := ⟨p, none, 0, 0⟩

/-- Takes in a fetched marker. -/
def observe (t : Tracker) (latest : Marker) : Option Advance × Tracker :=
  match t.current with
  | none => (none, { t with current := some latest })
  | some previous =>
    if previous.epoch < latest.epoch then
      (some ⟨previous, latest⟩,
        { t with current := some latest, advances := t.advances + 1 })
    else if previous.epoch = latest.epoch then (none, { t with current := some latest })
    else (none, t)

/-- Takes in the outcome of a fetch. -/
def poll (t : Tracker) (outcome : Except ReadError Marker) : Poll × Option Advance × Tracker :=
  match outcome with
  | .error _ => (⟨false, none⟩, none, { t with pollErrors := t.pollErrors + 1 })
  | .ok latest =>
    let (advance, t) := t.observe latest
    (⟨advance.isSome, some latest⟩, advance, t)

end Tracker

/-- The longest delay that can be added to a timestamp, in nanoseconds. -/
def maxDelay : Nat := 9223372036854775807000000

/-- How long to wait before the next poll after one that fetched `marker`. -/
def Pacing.nextWake (p : Pacing) (clock : Timestamp) (marker : Option Marker) :
    Except Fault Span :=
  match marker with
  | none => .ok p.pollInterval
  | some m =>
    if maxDelay < p.resumeDelay.nanos then .ok p.pollInterval
    else match m.validationTime.move? p.resumeDelay.nanos with
      | none => .error .timeOverflow
      | some deadline =>
        let wait := deadline.minus clock
        if 0 < wait then .ok ⟨wait.toNat⟩ else .ok p.pollInterval

end ChainGateway.Epoch
