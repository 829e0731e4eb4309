import ChainGateway.Error
import ChainGateway.Schedule.Signal
import ChainGateway.Time.Span

/-!
# Periodic jobs

A periodic job works at once when it starts and then once per period, until it is
told to stop. It counts its rounds and adds up what each of them removed. News that
are no stop leave its schedule as it is.
-/

namespace ChainGateway.Schedule

inductive Phase
  /-- The next round is due at this moment. -/
  | waiting (due : Nat)
  | stopped
  | failed (f : Fault)
  deriving DecidableEq, Repr

structure Periodic where
  period : Span
  signal : Signal
  phase : Phase
  rounds : Nat
  removed : Nat
  deriving Repr

namespace Periodic

/-- A job that has not run yet; without a period it fails at once. -/
def start (period : Span) (signal : Signal) (now : Nat) : Periodic :=
  ⟨period, signal, if period = .zero then .failed .zeroPeriod else .waiting now, 0, 0⟩

/-- Takes notice of the signal, if there is something to notice. -/
def heed (p : Periodic) : Periodic :=
  match p.phase with
  | .waiting _ =>
    if p.signal.pending then
      let (stop, signal) := p.signal.notice
      { p with signal := signal, phase := if stop then .stopped else p.phase }
    else p
  | _ => p

/-- Whether a round is to be done at `now`. -/
def isDue (p : Periodic) (now : Nat) : Bool :=
  match p.phase with
  | .waiting due => due ≤ now
  | _ => false

/-- The state after a round that removed `removed`. -/
def worked (p : Periodic) (removed : Nat) : Periodic :=
  match p.phase with
  | .waiting due =>
    { p with
      phase := .waiting (Instant.deadline due p.period)
      rounds := p.rounds + 1
      removed := p.removed + removed }
  | _ => p

def isWaiting (p : Periodic) : Bool :=
  match p.phase with
  | .waiting _ => true
  | _ => false

/-- The moment to wait for. -/
def due? (p : Periodic) : Option Nat :=
  match p.phase with
  | .waiting due => some due
  | _ => none

end Periodic
end ChainGateway.Schedule
