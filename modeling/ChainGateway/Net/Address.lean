import ChainGateway.Text.Digit
import ChainGateway.Text.Numeral
import ChainGateway.Text.Pieces

/-!
# Addresses

Network addresses and their canonical text. A version 4 address is four decimal
numbers without leading zeros. A version 6 address is eight hexadecimal groups; one
run of zero groups may be left out, and the last two groups may be written as a
version 4 address. The canonical text leaves out the longest run of two zero groups
or more, the first of several, and keeps a version 4 address that is mapped into
version 6 in its own form.
-/

namespace ChainGateway.Net

open Text

inductive Address
  | v4 (a b c d : UInt8)
  | v6 (groups : List UInt16) (eight : groups.length = 8)
  deriving DecidableEq

namespace Address

/-! ## Reading -/

/-- A decimal number of at most three digits below 256, without leading zeros. -/
def readByte? (cs : List Char) : Option (Nat × List Char) :=
  let digits := cs.takeWhile Char.isDigit
  let n := digits.foldl (fun n c => n * 10 + (c.toNat - 48)) 0
  if digits = [] ∨ 3 < digits.length ∨ 255 < n ∨ (digits.head? = some '0' ∧ 1 < digits.length) then
    none
  else some (n, cs.dropWhile Char.isDigit)

def readDottedByte? (cs : List Char) : Option (Nat × List Char) :=
  match cs with
  | '.' :: rest => readByte? rest
  | _ => none

/-- Four bytes with dots between them. -/
def readFour? (cs : List Char) : Option ((Nat × Nat × Nat × Nat) × List Char) := do
  let (a, cs) ← readByte? cs
  let (b, cs) ← readDottedByte? cs
  let (c, cs) ← readDottedByte? cs
  let (d, cs) ← readDottedByte? cs
  some ((a, b, c, d), cs)

/-- A hexadecimal number of at most four digits. -/
def readGroup? (cs : List Char) : Option (Nat × List Char) :=
  let digits := cs.takeWhile isHexDigit
  if digits = [] ∨ 4 < digits.length then none
  else some (digits.foldl (fun n c => n * 16 + (hexDigit? c).getD 0) 0, cs.dropWhile isHexDigit)

/-- At most `room` groups with colons between them: the groups, whether the last two
were written as a version 4 address, and the rest. -/
def readGroups : Nat → Bool → List Char → List Nat × Bool × List Char
  | 0, _, cs => ([], false, cs)
  | room + 1, first, cs =>
    match if first then some cs else after? [':'] cs with
    | none => ([], false, cs)
    | some body =>
      match if room = 0 then none else readFour? body with
      | some ((a, b, c, d), rest) => ([a * 256 + b, c * 256 + d], true, rest)
      | none =>
        match readGroup? body with
        | none => ([], false, cs)
        | some (g, rest) =>
          let (groups, dotted, rest) := readGroups room false rest
          (g :: groups, dotted, rest)

/-- The eight groups of a version 6 address. -/
def readEight? (cs : List Char) : Option (List Nat × List Char) :=
  let (head, dotted, rest) := readGroups 8 true cs
  if head.length = 8 then some (head, rest)
  else if dotted then none
  else do
    let rest ← after? [':', ':'] rest
    let (tail, _, rest) := readGroups (7 - head.length) true rest
    some (head ++ List.replicate (8 - head.length - tail.length) 0 ++ tail, rest)

def ofGroups? (groups : List Nat) : Option Address :=
  let words := groups.map UInt16.ofNat
  if h : words.length = 8 then some (.v6 words h) else none

/-- The whole of a text as an address. -/
def parse? (cs : List Char) : Option Address :=
  match readFour? cs with
  | some ((a, b, c, d), rest) =>
    if rest = [] then some (.v4 (.ofNat a) (.ofNat b) (.ofNat c) (.ofNat d)) else none
  | none =>
    match readEight? cs with
    | some (groups, []) => ofGroups? groups
    | _ => none

/-- The address of a socket, which has brackets in version 6 and a number behind a colon. -/
def ofSocket? (cs : List Char) : Option Address := do
  let (host, _) ← cutLast? ':' cs
  match host with
  | '[' :: inner => parse? inner.dropLast
  | host => parse? host

/-! ## Writing -/

def dotted (bytes : List Nat) : List Char := joined ['.'] (bytes.map natural)

/-- The hexadecimal digits of `n` before `digits`, without leading zeros; `places` bounds
their number. -/
def hexDigits (places n : Nat) (digits : List Char) : List Char :=
  match places with
  | 0 => digits
  | places + 1 =>
    if n < 16 then hexDigit n :: digits
    else hexDigits places (n / 16) (hexDigit (n % 16) :: digits)

def hexGroup (n : Nat) : List Char := hexDigits 4 n []

def hexGroups (groups : List Nat) : List Char := joined [':'] (groups.map hexGroup)

/-- The number of zero groups in front. -/
def zeroRun (groups : List Nat) : Nat := (groups.takeWhile (· = 0)).length

/-- The start and length of the longest run of zero groups, the first of several. -/
def longestZeros (groups : List Nat) : Nat × Nat :=
  (List.range groups.length).foldl
    (fun best i =>
      let n := zeroRun (groups.drop i)
      if best.2 < n then (i, n) else best)
    (0, 0)

/-- Groups with the longest run of zero groups left out. -/
def compressed (groups : List Nat) : List Char :=
  let (start, length) := longestZeros groups
  if 1 < length then
    hexGroups (groups.take start) ++ [':', ':'] ++ hexGroups (groups.drop (start + length))
  else hexGroups groups

/-- The bytes of a version 4 address that groups stand for. -/
def mapped? : List Nat → Option (List Nat)
  | [0, 0, 0, 0, 0, 0xFFFF, high, low] => some [high / 256, high % 256, low / 256, low % 256]
  | _ => none

def print : Address → List Char
  | .v4 a b c d => dotted [a.toNat, b.toNat, c.toNat, d.toNat]
  | .v6 groups _ =>
    let groups := groups.map UInt16.toNat
    match mapped? groups with
    | some bytes => "::ffff:".toList ++ dotted bytes
    | none => compressed groups

end Address
end ChainGateway.Net
