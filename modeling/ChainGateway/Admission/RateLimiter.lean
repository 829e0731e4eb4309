import ChainGateway.Admission.Client
import ChainGateway.Admission.RateWindow

/-!
# The rate limiter

Every client has a rate window from its first attempt on. An attempt that takes the
rolling total above the limit is turned away with the time to wait. Sweeping drops the
windows that lie wholly in the past. A limit of zero switches the limiter off.
-/

namespace ChainGateway.Admission

structure RateLimiter where
  limit : Nat
  window : Span
  /-- No two of one client. -/
  windows : List (Client × RateWindow)

namespace RateLimiter

def new (limit : Nat) (window : Span) : RateLimiter := ⟨limit, window, []⟩

def isEnabled (l : RateLimiter) : Bool := l.limit != 0

def find? (l : RateLimiter) (c : Client) : Option RateWindow :=
  (l.windows.find? (·.1 = c)).map (·.2)

def putWindow (c : Client) (w : RateWindow) :
    List (Client × RateWindow) → List (Client × RateWindow)
  | [] => [(c, w)]
  | (d, v) :: rest => if d = c then (c, w) :: rest else (d, v) :: putWindow c w rest

def put (l : RateLimiter) (c : Client) (w : RateWindow) : RateLimiter :=
  { l with windows := putWindow c w l.windows }

/-- The answer to an attempt. -/
inductive Verdict
  | accepted
  | retryAfter (delay : Span)
  | failed (f : Fault)
  deriving DecidableEq, Repr

/-- Counts an attempt; the client is known from then on, even if the count fails. -/
def check (l : RateLimiter) (now : Instant) (c : Client) : Verdict × RateLimiter :=
  if !l.isEnabled then (.accepted, l)
  else
    let w := (l.find? c).getD (.new now)
    match w.record now l.window with
    | .error f => (.failed f, l.put c w)
    | .ok w =>
      let l := l.put c w
      if w.total ≤ l.limit then (.accepted, l)
      else match w.retryAfter now l.window l.limit with
        | .ok delay => (.retryAfter delay, l)
        | .error f => (.failed f, l)

/-- Drops stale windows, and says how many. -/
def sweep (l : RateLimiter) (now : Instant) : Except Fault (Nat × RateLimiter) := do
  let stale ← l.windows.mapM fun (_, w) => w.isStale now l.window
  let kept := ((l.windows.zip stale).filter fun (_, s) => !s).map (·.1)
  .ok (l.windows.length - kept.length, { l with windows := kept })

def trackedClients (l : RateLimiter) : Nat := l.windows.length

end RateLimiter
end ChainGateway.Admission
