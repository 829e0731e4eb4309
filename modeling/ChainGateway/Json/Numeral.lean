import ChainGateway.Binary.Text
import ChainGateway.Json.Lexeme

/-!
# Numerals of the data format

A numeral without fraction and exponent is an integer when 64 bits hold it, signed
or unsigned. Any other is a double: its first digits, as many as an unsigned 64-bit
integer holds, are scaled by powers of ten in double arithmetic. Minus zero is
a double as well.
-/

namespace ChainGateway.Json

open Binary

inductive Numeral
  | int (n : Int)
  | real (x : Double)
  deriving DecidableEq, Repr

def maxInt : Nat := 18446744073709551615

def maxExponent : Nat := 2147483647

def digit? (c : Char) : Option Nat :=
  if c.isDigit then some (c.toNat - 48) else none

/-- Digits that an unsigned 64-bit integer holds, after the value `n`: the value, how
many were taken, and the rest, which starts with a digit when there was no room for it. -/
def takeDigits (n count : Nat) : List Char → Nat × Nat × List Char
  | [] => (n, count, [])
  | c :: rest =>
    match digit? c with
    | none => (n, count, c :: rest)
    | some d =>
      if maxInt < n * 10 + d then (n, count, c :: rest)
      else takeDigits (n * 10 + d) (count + 1) rest

def startsDigit : List Char → Bool
  | c :: _ => c.isDigit
  | [] => false

/-- Scales a significand by a power of ten, at most `308` at a time. -/
def scaleTen : Nat → Double → Int → Option Double
  | 0, _, _ => none
  | fuel + 1, x, e =>
    if e.natAbs ≤ 308 then
      let power := Number.ofNat double (Nat.pow 10 e.natAbs)
      if 0 ≤ e then
        let y := x.mul power
        if y.isFinite then some y else none
      else some (x.div power)
    else if x.isZero then some x
    else if 0 ≤ e then none
    else scaleTen fuel (x.div (.ofNat double (Nat.pow 10 308))) (e + 308)

/-- The double with the given digits and exponent; too large a one is a fault. A
quotient is zero after four divisions, whatever exponent is left. -/
def assemble (negative : Bool) (significand : Nat) (e : Int) : Except DecodeFault Double :=
  match scaleTen 8 (.ofNat double significand) e with
  | some x => .ok (if negative then x.neg else x)
  | none => .error .malformed

/-- The value of an exponent's digits, or nothing when 31 bits do not hold it. -/
def exponentValue (n : Nat) : List Char → Option Nat × List Char
  | [] => (some n, [])
  | c :: rest =>
    match digit? c with
    | none => (some n, c :: rest)
    | some d =>
      if maxExponent < n * 10 + d then (none, rest.dropWhile Char.isDigit)
      else exponentValue (n * 10 + d) rest

def clampExponent (e : Int) : Int :=
  max (-2147483648) (min 2147483647 e)

/-- Reads what follows the letter of an exponent. -/
def readExponent (negative : Bool) (significand : Nat) (start : Int) (cs : List Char) :
    Except DecodeFault (Double × List Char) := do
  let (down, cs) := match cs with
    | '+' :: rest => (false, rest)
    | '-' :: rest => (true, rest)
    | cs => (false, cs)
  if startsDigit cs then
    match exponentValue 0 cs with
    | (some e, rest) =>
      let total := if down then start - e else start + e
      .ok (← assemble negative significand (clampExponent total), rest)
    | (none, rest) =>
      if significand ≠ 0 && !down then .error .malformed
      else .ok (.finite negative 0 double.least, rest)
  else .error .malformed

def afterDigits (negative : Bool) (significand : Nat) (e : Int) (cs : List Char) :
    Except DecodeFault (Double × List Char) :=
  match cs with
  | 'e' :: rest | 'E' :: rest => readExponent negative significand e rest
  | cs => do .ok (← assemble negative significand e, cs)

/-- Reads what follows the point; digits for which there is no room are skipped. -/
def readFraction (negative : Bool) (significand : Nat) (start : Int) (cs : List Char) :
    Except DecodeFault (Double × List Char) :=
  let (n, count, rest) := takeDigits significand 0 cs
  if startsDigit rest then afterDigits negative n (start - count) (rest.dropWhile Char.isDigit)
  else if count = 0 then .error .malformed
  else afterDigits negative n (start - count) rest

def readReal (negative : Bool) (significand : Nat) (e : Int) (cs : List Char) :
    Except DecodeFault (Numeral × List Char) := do
  match cs with
  | '.' :: rest => let (x, rest) ← readFraction negative significand e rest; .ok (.real x, rest)
  | cs => let (x, rest) ← afterDigits negative significand e cs; .ok (.real x, rest)

/-- Reads what follows the digits of an integer that fits. -/
def readTail (negative : Bool) (n : Nat) (cs : List Char) :
    Except DecodeFault (Numeral × List Char) :=
  match cs with
  | '.' :: _ | 'e' :: _ | 'E' :: _ => readReal negative n 0 cs
  | cs =>
    if !negative then .ok (.int n, cs)
    else if n = 0 || 9223372036854775808 < n then
      .ok (.real (Number.ofNat double n).neg, cs)
    else .ok (.int (-n), cs)

/-- Reads the digits of a numeral after its sign. -/
def readUnsigned (negative : Bool) : Reader Numeral
  | '0' :: rest => if startsDigit rest then .error .malformed else readTail negative 0 rest
  | cs =>
    if startsDigit cs then
      let (n, _, rest) := takeDigits 0 0 cs
      if startsDigit rest then
        readReal negative n (rest.takeWhile Char.isDigit).length (rest.dropWhile Char.isDigit)
      else readTail negative n rest
    else .error .malformed

def readNumeral : Reader Numeral := fun cs =>
  match skipGaps cs with
  | '-' :: rest => readUnsigned true rest
  | cs => readUnsigned false cs

end ChainGateway.Json
