import ChainGateway.Text.Pieces

/-!
# Punycode

Labels of domain names hold ASCII only. A label with other characters is written as
its ASCII characters, then the places and code points of the others in ascending
order, as numbers in base 36 whose digit weights adapt to their sizes.
-/

namespace ChainGateway.Remote.Punycode

open Text

def digit (n : Nat) : Char := if n < 26 then Char.ofNat (97 + n) else Char.ofNat (22 + n)

def digit? (c : Char) : Option Nat :=
  if c.isDigit then some (c.toNat - 22)
  else if 'a' ≤ c ∧ c ≤ 'z' then some (c.toNat - 97)
  else none

/-- The weight limit of a digit at place `k`. -/
def threshold (k bias : Nat) : Nat := min 26 (max 1 (k - bias))

def shrink : Nat → Nat → Nat → Nat × Nat
  | 0, delta, k => (delta, k)
  | fuel + 1, delta, k => if 455 < delta then shrink fuel (delta / 35) (k + 36) else (delta, k)

/-- The bias after a number `delta` that brought the count of characters to `count`. -/
def adapt (delta count : Nat) (first : Bool) : Nat :=
  let delta := if first then delta / 700 else delta / 2
  let delta := delta + delta / count
  let (delta, k) := shrink delta delta 0
  k + 36 * delta / (delta + 38)

/-- The digits of a number; the fuel bounds their count. -/
def digits : Nat → Nat → Nat → Nat → List Char
  | 0, _, _, _ => []
  | fuel + 1, k, bias, q =>
    let t := threshold k bias
    if q < t then [digit q]
    else digit (t + (q - t) % (36 - t)) :: digits fuel (k + 36) bias ((q - t) / (36 - t))

structure Encoder where
  out : List Char
  delta : Nat
  bias : Nat
  done : Nat

/-- Passes one character while the code point `n` is inserted. -/
def Encoder.pass (basic n : Nat) (e : Encoder) (c : Char) : Encoder :=
  if c.toNat < n then { e with delta := e.delta + 1 }
  else if c.toNat = n then
    ⟨e.out ++ digits (e.delta + 1) 36 e.bias e.delta, 0,
      adapt e.delta (e.done + 1) (e.done = basic), e.done + 1⟩
  else e

/-- Inserts code points in ascending order; `n` is the least that may still come. -/
def Encoder.insert (label : List Char) (basic : Nat) : Nat → List Nat → Encoder → Encoder
  | _, [], e => e
  | n, m :: rest, e =>
    let e := { e with delta := e.delta + (m - n) * (e.done + 1) }
    let e := label.foldl (pass basic m) e
    insert label basic (m + 1) rest { e with delta := e.delta + 1 }

def encode (label : List Char) : List Char :=
  let basic := label.filter fun c => c.toNat < 128
  let others := ((label.filter fun c => 128 ≤ c.toNat).map Char.toNat).mergeSort.eraseDups
  let lead := if basic = [] then [] else basic ++ ['-']
  lead ++ (Encoder.insert label basic.length 128 others ⟨[], 0, 72, basic.length⟩).out

/-- Numbers and weights are words of 32 bits. -/
def maxWord : Nat := 0xFFFFFFFF

/-- Reads one number in front: its value and what follows. -/
def number? (bias : Nat) : Nat → Nat → Nat → List Char → Option (Nat × List Char)
  | _, _, _, [] => none
  | k, weight, value, c :: rest => do
    let d ← digit? c
    let value := value + d * weight
    let t := threshold k bias
    if maxWord < value then none
    else if d < t then some (value, rest)
    else if maxWord < weight * (36 - t) then none
    else number? bias (k + 36) (weight * (36 - t)) value rest

/-- Reads insertions behind the characters `out`; each takes a character at least. -/
def insertions? : Nat → List Char → Nat → Nat → Nat → List Char → Option (List Char)
  | _, out, _, _, _, [] => some out
  | 0, _, _, _, _, _ => none
  | fuel + 1, out, n, i, bias, cs => do
    let (delta, rest) ← number? bias 36 1 0 cs
    let count := out.length + 1
    let place := i + delta
    let n := n + place / count
    let slot := place % count
    guard (place ≤ maxWord ∧ Nat.isValidChar n)
    insertions? fuel (out.take slot ++ Char.ofNat n :: out.drop slot) n (slot + 1)
      (adapt delta count (i = 0 && out.all fun c => c.toNat < 128)) rest

/-- The label that a text without its ASCII mark stands for; a dash parts its ASCII
characters from the numbers, if there are any. -/
def decode? (cs : List Char) : Option (List Char) :=
  match cutLast? '-' cs with
  | none => insertions? cs.length [] 128 0 72 cs
  | some ([], _) => none
  | some (basic, tail) => insertions? tail.length basic 128 0 72 tail

end ChainGateway.Remote.Punycode
