import ChainGateway.Json.Codec
import ChainGateway.Text.Blank
import ChainGateway.Time.Calendar
import ChainGateway.Time.Span

/-!
# Timestamps

A timestamp is a second of universal time and nanoseconds within it. A leap second
is the second before it with nanoseconds from a thousand million up. Texts follow
RFC 3339, more freely when read than when written.
-/

namespace ChainGateway

structure Timestamp where
  /-- Seconds since 1970. -/
  second : Int
  nanos : Nat
  deriving DecidableEq, Repr

namespace Timestamp

def epoch : Timestamp := ⟨0, 0⟩

instance : Inhabited Timestamp := ⟨epoch⟩

def billion : Nat := 1000000000

def daySeconds : Int := 86400

def firstSecond : Int := Calendar.firstDay * daySeconds

def lastSecond : Int := Calendar.lastDay * daySeconds + 86399

/-- Whether the timestamp lies in the years of the calendar. -/
def InRange (t : Timestamp) : Prop := firstSecond ≤ t.second ∧ t.second ≤ lastSecond

instance (t : Timestamp) : Decidable t.InRange := by unfold InRange; infer_instance

def micros (t : Timestamp) : Int :=
  t.second * 1000000 + t.nanos / 1000

/-! ## Writing -/

def yearText (y : Int) : List Char :=
  if 0 ≤ y ∧ y ≤ 9999 then Text.padded 4 y.natAbs
  else (if y < 0 then '-' else '+') :: Text.padded 4 y.natAbs

/-- The fraction with 0, 3, 6 or 9 digits, the fewest that lose nothing. -/
def fractionText (nanos : Nat) : List Char :=
  if nanos = 0 then []
  else if nanos % 1000000 = 0 then '.' :: Text.padded 3 (nanos / 1000000)
  else if nanos % 1000 = 0 then '.' :: Text.padded 6 (nanos / 1000)
  else '.' :: Text.padded 9 nanos

def print (t : Timestamp) : String :=
  let date := Calendar.dateOf (t.second / daySeconds)
  let s := (t.second % daySeconds).toNat
  let second := s % 60 + (if billion ≤ t.nanos then 1 else 0)
  .ofList <| yearText date.year ++ '-' :: Text.padded 2 date.month ++ '-' :: Text.padded 2 date.day
    ++ 'T' :: Text.padded 2 (s / 3600) ++ ':' :: Text.padded 2 (s / 60 % 60)
    ++ ':' :: Text.padded 2 second ++ fractionText (t.nanos % billion) ++ ['Z']

/-! ## Reading -/

def skipBlanks (cs : List Char) : List Char := cs.dropWhile Text.isBlank

def digitsValue (cs : List Char) : Nat :=
  cs.foldl (fun n c => n * 10 + (c.toNat - 48)) 0

/-- Reads one to `width` digits. -/
def number? (width : Nat) (cs : List Char) : Option (Nat × List Char) :=
  let digits := (cs.take width).takeWhile Char.isDigit
  if digits = [] then none else some (digitsValue digits, cs.drop digits.length)

/-- Reads a number of at most two digits after blanks. -/
def item? (cs : List Char) : Option (Nat × List Char) := number? 2 (skipBlanks cs)

/-- Reads a year: four digits, or any number after a sign. -/
def year? (cs : List Char) : Option (Int × List Char) :=
  match skipBlanks cs with
  | '-' :: rest => do let (n, rest) ← number? rest.length rest; some (-(n : Int), rest)
  | '+' :: rest => do let (n, rest) ← number? rest.length rest; some ((n : Int), rest)
  | cs => do let (n, rest) ← number? 4 cs; some ((n : Int), rest)

/-- Reads a separator after blanks. -/
def separator? (sep : Char) (cs : List Char) : Option (List Char) :=
  match skipBlanks cs with
  | c :: rest => if c = sep then some rest else none
  | [] => none

/-- Reads a fraction of a second; digits after the ninth are dropped. -/
def fraction? : List Char → Option (Nat × List Char)
  | '.' :: rest => do
    let digits := (rest.take 9).takeWhile Char.isDigit
    if digits = [] then none
    else some (digitsValue digits * Nat.pow 10 (9 - digits.length), rest.dropWhile Char.isDigit)
  | cs => some (0, cs)

/-- Reads hours and minutes of an offset after its sign. -/
def offsetSize? : List Char → Option (Nat × List Char)
  | h1 :: h2 :: rest =>
    if h1.isDigit && h2.isDigit then
      match rest.dropWhile (fun c => c = ':' || Text.isBlank c) with
      | m1 :: m2 :: rest =>
        if m1.isDigit && m2.isDigit && m1 ≤ '5' then
          some (digitsValue [h1, h2] * 3600 + digitsValue [m1, m2] * 60, rest)
        else none
      | _ => none
    else none
  | _ => none

/-- Reads the offset from universal time in seconds. -/
def offset? (cs : List Char) : Option (Int × List Char) :=
  match cs with
  | 'Z' :: rest | 'z' :: rest => some (0, rest)
  | '+' :: rest => do let (n, rest) ← offsetSize? rest; some ((n : Int), rest)
  | '-' :: rest | '\u2212' :: rest => do let (n, rest) ← offsetSize? rest; some (-(n : Int), rest)
  | a :: b :: c :: rest =>
    if [a, b, c].map Char.toLower = ['u', 't', 'c'] then some (0, rest) else none
  | _ => none

def parse? (s : String) : Option Timestamp := do
  let (year, cs) ← year? s.toList
  let (month, cs) ← item? (← separator? '-' cs)
  let (day, cs) ← item? (← separator? '-' cs)
  let cs ← match cs with
    | 't' :: rest | 'T' :: rest | ' ' :: rest => some rest
    | _ => none
  let (hour, cs) ← item? cs
  let (minute, cs) ← item? (← separator? ':' cs)
  let (second, cs) ← item? (← separator? ':' cs)
  let (fraction, cs) ← fraction? cs
  let (offset, cs) ← offset? (skipBlanks cs)
  let date : Calendar.Date := ⟨year, month, day⟩
  if date.Valid ∧ hour < 24 ∧ minute < 60 ∧ second ≤ 60 ∧ offset.natAbs < 86400 ∧
      skipBlanks cs = [] then
    let leap := second = 60
    let civil : Int := Calendar.dayNumber date * daySeconds + hour * 3600 + minute * 60
      + (if leap then 59 else second : Nat)
    let t : Timestamp := ⟨civil - offset, if leap then fraction + billion else fraction⟩
    if t.InRange then some t else none
  else none

def codec : Json.Codec Timestamp := .parsed print parse?

/-! ## Arithmetic -/

/-- The timestamp `delta` nanoseconds away. Leaving a leap second forwards counts from
the second it is attached to, backwards from the second after it. -/
def move? (t : Timestamp) (delta : Int) : Option Timestamp :=
  let seconds := delta.tdiv billion
  let nanos := delta.tmod billion
  if billion ≤ t.nanos ∧ seconds = 0 ∧ ¬ (0 < nanos ∧ 2 * billion ≤ t.nanos + nanos) then
    some ⟨t.second, (t.nanos + nanos).toNat⟩
  else
    let start : Timestamp :=
      if t.nanos < billion then t
      else if seconds < 0 then ⟨t.second + 1, t.nanos - billion⟩
      else ⟨t.second, t.nanos - billion⟩
    let total := start.nanos + nanos
    let u : Timestamp := ⟨start.second + seconds + total / billion, (total % billion).toNat⟩
    if u.InRange then some u else none

/-- Nanoseconds from `earlier` to `later`. A leap second counts when it lies between
their times of day. -/
def minus (later earlier : Timestamp) : Int :=
  let a := later.second % daySeconds
  let b := earlier.second % daySeconds
  let adjust : Int :=
    if b < a then (if billion ≤ earlier.nanos then 1 else 0)
    else if a < b then (if billion ≤ later.nanos then -1 else 0)
    else 0
  (later.second - earlier.second + adjust) * billion + (later.nanos - earlier.nanos)

end Timestamp
end ChainGateway
