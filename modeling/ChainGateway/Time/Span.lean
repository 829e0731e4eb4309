import ChainGateway.Text.Numeral

/-!
# Spans

A span is a length of time in nanoseconds; settings give it in whole seconds or
milliseconds, so the seconds of every span that the gateway handles fit 64 bits.
An instant counts nanoseconds from an arbitrary origin, and its seconds fit a
signed 64-bit integer.
-/

namespace ChainGateway

structure Span where
  nanos : Nat
  deriving DecidableEq, Repr, Inhabited

namespace Span

def zero : Span := ⟨0⟩

def ofNanos (n : Nat) : Span := ⟨n⟩

def ofMillis (n : Nat) : Span := ⟨n * 1000000⟩

def ofSeconds (n : Nat) : Span := ⟨n * 1000000000⟩

def ofMinutes (n : Nat) : Span := ofSeconds (n * 60)

def seconds (s : Span) : Nat := s.nanos / 1000000000

def subsecond (s : Span) : Nat := s.nanos % 1000000000

/-- Whether the seconds fit an unsigned 64-bit integer. -/
def Representable (s : Span) : Prop := s.seconds ≤ Text.maxU64

instance (s : Span) : Decidable s.Representable := by unfold Representable; infer_instance

/-- Twice the span, when that is representable. -/
def doubled? (s : Span) : Option Span :=
  let d : Span := ⟨s.nanos * 2⟩
  if d.Representable then some d else none

/-- The least whole number of seconds that is not shorter. -/
def ceilSeconds (s : Span) : Nat :=
  if s.subsecond = 0 then s.seconds else s.seconds + 1

/-- Whole virtual milliseconds that pass before a timer of this span fires. -/
def ceilMillis (s : Span) : Nat := (s.nanos + 999999) / 1000000

/-- A whole number and its fraction of `width` digits, trailing zeros dropped. -/
def decimal (whole fraction width : Nat) : List Char :=
  let digits := ((Text.padded width fraction).reverse.dropWhile (· = '0')).reverse
  Text.natural whole ++ (if digits = [] then [] else '.' :: digits)

/-- The span in the largest unit in which it is at least one. -/
def describe (s : Span) : String :=
  .ofList <|
    if s.seconds > 0 then decimal s.seconds s.subsecond 9 ++ ['s']
    else if s.nanos ≥ 1000000 then decimal (s.nanos / 1000000) (s.nanos % 1000000) 6 ++ ['m', 's']
    else if s.nanos ≥ 1000 then decimal (s.nanos / 1000) (s.nanos % 1000) 3 ++ ['µ', 's']
    else Text.natural s.nanos ++ ['n', 's']

end Span

/-- Thirty years in milliseconds: no pause is longer, and a wait beyond the clock ends
after that. -/
def thirtyYears : Nat := 30 * 365 * 86400 * 1000

/-- A reading of the monotonic clock. -/
structure Instant where
  nanos : Nat
  deriving DecidableEq, Repr, Inhabited

namespace Instant

def ofMillis (n : Nat) : Instant := ⟨n * 1000000⟩

/-- The last second that an instant can hold. -/
def lastSecond : Nat := 9223372036854775807

def Representable (t : Instant) : Prop := t.nanos / 1000000000 ≤ lastSecond

instance (t : Instant) : Decidable t.Representable := by unfold Representable; infer_instance

/-- The instant `s` later, when that is representable. -/
def after? (t : Instant) (s : Span) : Option Instant :=
  let u : Instant := ⟨t.nanos + s.nanos⟩
  if s.Representable ∧ u.Representable then some u else none

/-- The millisecond at which a wait ends that begins at the millisecond `now`. -/
def deadline (now : Nat) (s : Span) : Nat :=
  match (ofMillis now).after? s with
  | some _ => now + s.ceilMillis
  | none => now + thirtyYears

/-- The time from `earlier` to `later`, zero when they are the other way round. -/
def since (later earlier : Instant) : Span := ⟨later.nanos - earlier.nanos⟩

end Instant
end ChainGateway
