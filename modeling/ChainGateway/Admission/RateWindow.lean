import ChainGateway.Error
import ChainGateway.Time.Span

/-!
# Rate windows

The attempts of one client are counted in two windows of one length, the current and
the one before it; their sum is the rolling total. Attempts that are turned away
count as well. Counters stay at their maximum.
-/

namespace ChainGateway.Admission

structure RateWindow where
  start : Instant
  previous : Nat
  current : Nat
  deriving DecidableEq, Repr

namespace RateWindow

def maxCount : Nat := 4294967295

/-- The next count, at most `maxCount`. -/
def countAdd (a b : Nat) : Nat := min maxCount (a + b)

def new (now : Instant) : RateWindow := ⟨now, 0, 0⟩

/-- Twice the length of a window, when spans go that far. -/
def bothWindows (length : Span) : Except Fault Span :=
  match length.doubled? with
  | some d => .ok d
  | none => .error .timeOverflow

/-- Moves the windows forward until `now` lies in the current one. -/
def roll (w : RateWindow) (now : Instant) (length : Span) : Except Fault RateWindow := do
  let both ← bothWindows length
  let elapsed := now.since w.start
  if both.nanos ≤ elapsed.nanos then .ok (new now)
  else if length.nanos ≤ elapsed.nanos then
    .ok ⟨⟨w.start.nanos + length.nanos⟩, w.current, 0⟩
  else .ok w

def total (w : RateWindow) : Nat := countAdd w.previous w.current

/-- Counts one attempt. -/
def record (w : RateWindow) (now : Instant) (length : Span) : Except Fault RateWindow := do
  let w ← w.roll now length
  .ok { w with current := countAdd w.current 1 }

/-- Whether both windows lie in the past. -/
def isStale (w : RateWindow) (now : Instant) (length : Span) : Except Fault Bool := do
  let both ← bothWindows length
  .ok (both.nanos ≤ (now.since w.start).nanos)

/-- How long until one more attempt fits under `limit`. The current count becomes the
previous one at the next turn, so when it leaves no room by itself, both windows
have to pass. -/
def retryAfter (w : RateWindow) (now : Instant) (length : Span) (limit : Nat) :
    Except Fault Span := do
  let wait ← if limit < countAdd w.current 1 then bothWindows length else .ok length
  match w.start.after? wait with
  | some shed => .ok (shed.since now)
  | none => .error .timeOverflow

end RateWindow
end ChainGateway.Admission
