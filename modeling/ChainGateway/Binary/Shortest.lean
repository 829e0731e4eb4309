import ChainGateway.Binary.Number
import ChainGateway.Text.Numeral

/-!
# Shortest decimals

The shortest decimal that reads back as the same number, and of the shortest ones
the nearest: `digits` with the value `0.d₁d₂… * 10 ^ point`.
-/

namespace ChainGateway.Binary

structure Decimal where
  digits : List Char
  point : Int
  deriving DecidableEq, Repr

/-- Compares `a * 10 ^ u` with `n / d`. -/
def comparePower (a : Nat) (u : Int) (n d : Nat) : Ordering :=
  if 0 ≤ u then compare (a * Nat.pow 10 u.toNat * d) n
  else compare (a * d) (n * Nat.pow 10 (-u).toNat)

/-- The least `k` at or above the start with `n / d < 10 ^ k`. -/
def pointFrom : Nat → Int → Nat → Nat → Int
  | 0, k, _, _ => k
  | fuel + 1, k, n, d => if comparePower 1 k n d = .gt then k else pointFrom fuel (k + 1) n d

def decimalPoint (n d : Nat) : Int :=
  pointFrom 8 (((n.log2 : Int) - d.log2) * 30103 / 100000 - 3) n d

/-- `floor (n / d / 10 ^ u)`. -/
def floorPower (n d : Nat) (u : Int) : Nat :=
  if 0 ≤ u then n / (d * Nat.pow 10 u.toNat) else n * Nat.pow 10 (-u).toNat / d

/-- The interval of reals that round to a number: its ends in quarters of the last
binary digit, and whether they belong to it. -/
structure Neighbourhood where
  low : Nat
  high : Nat
  closed : Bool

def neighbourhood (f : Format) (significand : Nat) (exponent : Int) : Neighbourhood where
  low := 4 * significand -
    if significand = Nat.pow 2 (f.precision - 1) ∧ f.least < exponent then 1 else 2
  high := 4 * significand + 2
  closed := significand % 2 = 0

/-- The candidate with `length` digits nearest to the number, when one lies in the
neighbourhood. -/
def candidate (f : Format) (significand : Nat) (exponent : Int) (point : Int) (length : Nat) :
    Option Nat :=
  let hood := neighbourhood f significand exponent
  let fraction (quarters : Nat) := Number.ratio quarters (exponent - 2)
  let (n, d) := fraction (4 * significand)
  let (lowN, lowD) := fraction hood.low
  let (highN, highD) := fraction hood.high
  let u := point - length
  let below := floorPower n d u
  let inside (a : Nat) : Bool :=
    let lower := comparePower a u lowN lowD
    let upper := comparePower a u highN highD
    (lower = .gt || (hood.closed && lower = .eq)) && (upper = .lt || (hood.closed && upper = .eq))
  match inside below, inside (below + 1) with
  | false, false => none
  | true, false => some below
  | false, true => some (below + 1)
  | true, true =>
    match comparePower (2 * below + 1) u (2 * n) d with
    | .gt => some below
    | .lt => some (below + 1)
    | .eq => some (below + below % 2)

def shortestFrom (f : Format) (significand : Nat) (exponent : Int) (point : Int) :
    Nat → Nat → Nat × Nat
  | 0, length => (0, length)
  | fuel + 1, length =>
    match candidate f significand exponent point length with
    | some a => (a, length)
    | none => shortestFrom f significand exponent point fuel (length + 1)

def stripZeros (cs : List Char) : List Char :=
  (cs.reverse.dropWhile (· = '0')).reverse

/-- The shortest decimal of a finite number other than zero. -/
def shortest (f : Format) (significand : Nat) (exponent : Int) : Decimal :=
  let (n, d) := Number.ratio significand exponent
  let point := decimalPoint n d
  let (a, length) := shortestFrom f significand exponent point 17 1
  let digits := Text.natural a
  ⟨stripZeros digits, point + ((digits.length : Int) - length)⟩

end ChainGateway.Binary
