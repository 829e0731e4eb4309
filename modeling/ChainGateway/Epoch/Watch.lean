import ChainGateway.Epoch.Tracker
import ChainGateway.Schedule.Signal

/-!
# The epoch watch

The watch polls, waits for the next wake-up, and polls again, until it is told to
stop. A signal that was stop before it started keeps it from polling at all. News
that are no stop start the current wait anew.
-/

namespace ChainGateway.Epoch

open Schedule (Signal)

inductive Phase
  /-- The source has been asked. -/
  | fetching
  /-- Waits for `wait`, until the moment `due`. -/
  | waiting (wait : Span) (due : Nat)
  | stopped
  | failed (f : Fault)
  deriving DecidableEq, Repr

structure Watch where
  signal : Signal
  phase : Phase
  deriving DecidableEq, Repr

namespace Watch

def start (signal : Signal) : Watch :=
  ⟨signal, if signal.stop then .stopped else .fetching⟩

/-- Takes notice of the signal, if there is something to notice. -/
def heed (w : Watch) (now : Nat) : Watch :=
  match w.phase with
  | .waiting wait _ =>
    if w.signal.pending then
      let (stop, signal) := w.signal.notice
      ⟨signal, if stop then .stopped else .waiting wait (Instant.deadline now wait)⟩
    else w
  | _ => w

/-- Goes on after a poll with what the pacing says about the next one. -/
def polled (w : Watch) (now : Nat) (next : Except Fault Span) : Watch :=
  match next with
  | .ok wait => { w with phase := .waiting wait (Instant.deadline now wait) }
  | .error f => { w with phase := .failed f }

/-- Whether the wait is over at `now`. -/
def isDue (w : Watch) (now : Nat) : Bool :=
  match w.phase with
  | .waiting _ due => due ≤ now
  | _ => false

/-- Asks the source again. -/
def fetch (w : Watch) : Watch := { w with phase := .fetching }

def isFinished (w : Watch) : Bool :=
  match w.phase with
  | .stopped | .failed _ => true
  | _ => false

end Watch
end ChainGateway.Epoch
