/-!
# Decimal numerals

Naturals are written without leading zeros. They are read with an optional plus
sign and any number of leading zeros, up to a limit.
-/

namespace ChainGateway.Text

def natural (n : Nat) : List Char :=
  Nat.toDigits 10 n

def integer (n : Int) : List Char :=
  if n < 0 then '-' :: natural n.natAbs else natural n.natAbs

/-- Why a text is not a natural number up to a limit. -/
inductive NumeralFault
  | empty
  | invalidDigit
  | tooLarge
  deriving DecidableEq, Repr

def NumeralFault.message : NumeralFault → String
  | .empty => "cannot parse integer from empty string"
  | .invalidDigit => "invalid digit found in string"
  | .tooLarge => "number too large to fit in target type"

def digitValue? (c : Char) : Option Nat :=
  if c.isDigit then some (c.toNat - 48) else none

/-- Reads digits after the value `n`; of two faults the leftmost is reported, and a
character that is no digit before the overflow it would complete. -/
def readDigits (limit : Nat) (n : Nat) : List Char → Except NumeralFault Nat
  | [] => .ok n
  | c :: rest =>
    match digitValue? c with
    | none => .error .invalidDigit
    | some d => if limit < n * 10 + d then .error .tooLarge else readDigits limit (n * 10 + d) rest

def readNatural (limit : Nat) : List Char → Except NumeralFault Nat
  | [] => .error .empty
  | ['+'] => .error .invalidDigit
  | '+' :: rest => readDigits limit 0 rest
  | cs => readDigits limit 0 cs

def maxU64 : Nat := 18446744073709551615

def maxU32 : Nat := 4294967295

def maxU16 : Nat := 65535

def readU64 (s : String) : Except NumeralFault Nat :=
  readNatural maxU64 s.toList

def readU64? (s : String) : Option Nat :=
  (readU64 s).toOption

/-- A natural below `10 ^ width`, padded with zeros to `width` digits. -/
def padded (width n : Nat) : List Char :=
  let digits := natural n
  List.replicate (width - digits.length) '0' ++ digits

end ChainGateway.Text
