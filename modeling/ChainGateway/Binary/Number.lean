/-!
# Binary floating-point numbers

A finite number is a sign, a significand and an exponent of two; the format bounds
both. Results are rounded to the nearest number of the format, ties to the even
significand. There is no undefined value: no operation here can produce one.
-/

namespace ChainGateway.Binary

structure Format where
  precision : Nat
  /-- The exponent of the smallest positive number. -/
  least : Int
  /-- The exponent of the last binary digit of the largest number. -/
  greatest : Int
  deriving DecidableEq, Repr

def single : Format := ⟨24, -149, 104⟩

def double : Format := ⟨53, -1074, 971⟩

inductive Number (f : Format)
  | finite (negative : Bool) (significand : Nat) (exponent : Int)
  | infinite (negative : Bool)
  deriving DecidableEq, Repr

abbrev Single := Number single

abbrev Double := Number double

/-- A quotient to the nearest natural, ties to even. -/
def nearest (num den : Nat) : Nat :=
  let q := num / den
  let r := num % den
  if 2 * r < den then q
  else if den < 2 * r then q + 1
  else q + q % 2

/-- The quotient of `num * 2 ^ (-e)` by `den`, as a fraction. -/
def scaled (num den : Nat) (e : Int) : Nat × Nat :=
  if 0 ≤ e then (num, den * Nat.pow 2 e.toNat) else (num * Nat.pow 2 (-e).toNat, den)

namespace Number

variable {f : Format}

def zero (f : Format) : Number f := .finite false 0 f.least

instance : Inhabited (Number f) := ⟨zero f⟩

/-- The number of the format nearest to `num / den`. -/
def ofRatio (f : Format) (negative : Bool) (num den : Nat) : Number f :=
  if num = 0 then .finite negative 0 f.least
  else
    let guess : Int := (num.log2 : Int) - den.log2 - f.precision
    let (n, d) := scaled num den guess
    let e := max f.least (if Nat.pow 2 f.precision * d ≤ n then guess + 1 else guess)
    let (n, d) := scaled num den e
    let m := nearest n d
    let (m, e) :=
      if m = Nat.pow 2 f.precision then (Nat.pow 2 (f.precision - 1), e + 1) else (m, e)
    if f.greatest < e then .infinite negative else .finite negative m e

def ofNat (f : Format) (n : Nat) : Number f := ofRatio f false n 1

def ofInt (f : Format) (n : Int) : Number f := ofRatio f (n < 0) n.natAbs 1

/-- The magnitude of a finite number as a fraction. -/
def ratio (significand : Nat) (exponent : Int) : Nat × Nat :=
  if 0 ≤ exponent then (significand * Nat.pow 2 exponent.toNat, 1)
  else (significand, Nat.pow 2 (-exponent).toNat)

def isFinite : Number f → Bool
  | .finite .. => true
  | .infinite _ => false

def isZero : Number f → Bool
  | .finite _ 0 _ => true
  | _ => false

def neg : Number f → Number f
  | .finite s m e => .finite (!s) m e
  | .infinite s => .infinite (!s)

/-- The product; an infinite factor makes it infinite. -/
def mul : Number f → Number f → Number f
  | .finite s m e, .finite t n d =>
    let (a, b) := ratio m e
    let (p, q) := ratio n d
    ofRatio f (s != t) (a * p) (b * q)
  | .finite s _ _, .infinite t | .infinite s, .finite t _ _ | .infinite s, .infinite t =>
    .infinite (s != t)

/-- The quotient; by zero it is infinite. -/
def div : Number f → Number f → Number f
  | .finite s m e, .finite t n d =>
    let (a, b) := ratio m e
    let (p, q) := ratio n d
    if p = 0 then .infinite (s != t) else ofRatio f (s != t) (a * q) (b * p)
  | .finite s _ _, .infinite t => .finite (s != t) 0 f.least
  | .infinite s, .finite t _ _ | .infinite s, .infinite t => .infinite (s != t)

/-- The sum of two finite numbers; an infinite summand decides. -/
def add : Number f → Number f → Number f
  | .finite s m e, .finite t n d =>
    let (a, b) := ratio m e
    let (p, q) := ratio n d
    let left : Int := (if s then -1 else 1) * (a * q : Nat)
    let right : Int := (if t then -1 else 1) * (p * b : Nat)
    let total := left + right
    ofRatio f (if total = 0 then s && t else total < 0) total.natAbs (b * q)
  | .infinite s, _ => .infinite s
  | _, .infinite t => .infinite t

/-- The same number in another format. -/
def convert (g : Format) : Number f → Number g
  | .finite s m e => let (a, b) := ratio m e; ofRatio g s a b
  | .infinite s => .infinite s

end Number
end ChainGateway.Binary
