import ChainGateway.Admission.RateLimiter

/-!
# Rate scripts

Steps on one rate window and on a limiter with its clients.
-/

namespace ChainGateway.Rehearsal

open Admission

inductive WindowStep
  | record (t : Instant)
  | stale (t : Instant)
  | retryAfter (t : Instant) (limit : Nat)
  | sameAsNew (t : Instant)

inductive WindowResult
  | total (n : Nat)
  | flag (b : Bool)
  | span (s : Span)
  | failed

namespace WindowStep

def run (length : Span) (w : RateWindow) : WindowStep → WindowResult × RateWindow
  | .record t =>
    match w.record t length with
    | .ok w => (.total w.total, w)
    | .error _ => (.failed, w)
  | .stale t =>
    match w.isStale t length with
    | .ok b => (.flag b, w)
    | .error _ => (.failed, w)
  | .retryAfter t limit =>
    match w.retryAfter t length limit with
    | .ok s => (.span s, w)
    | .error _ => (.failed, w)
  | .sameAsNew t => (.flag (w == .new t), w)

/-- Each result with the rolling total after its step. -/
def runAll (length : Span) (w : RateWindow) : List WindowStep → List (WindowResult × Nat)
  | [] => []
  | s :: rest =>
    let (result, w) := s.run length w
    (result, w.total) :: runAll length w rest

end WindowStep

inductive LimiterStep
  | check (c : Client)
  | sleep (millis : Nat)
  | sweep

inductive LimiterResult
  | verdict (v : RateLimiter.Verdict)
  | count (n : Nat)
  | nothing
  | failed

namespace LimiterStep

def run (now : Nat) (l : RateLimiter) : LimiterStep → LimiterResult × Nat × RateLimiter
  | .check c => let (v, l) := l.check (.ofMillis now) c; (.verdict v, now, l)
  | .sleep millis => (.nothing, now + min millis thirtyYears, l)
  | .sweep =>
    match l.sweep (.ofMillis now) with
    | .ok (n, l) => (.count n, now, l)
    | .error _ => (.failed, now, l)

/-- Each result with the number of clients known after its step. -/
def runAll (now : Nat) (l : RateLimiter) : List LimiterStep → List (LimiterResult × Nat)
  | [] => []
  | s :: rest =>
    let (result, now, l) := s.run now l
    (result, l.trackedClients) :: runAll now l rest

end LimiterStep
end ChainGateway.Rehearsal
