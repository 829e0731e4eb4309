import ChainGateway.Text.Digit
import ChainGateway.Text.Utf8

/-!
# Percent encoding

A byte is written as a percent sign and two upper-case hexadecimal digits. Reading
takes digits of either case and leaves a percent sign alone that two digits do not
follow.
-/

namespace ChainGateway.Net

open Text

def percentByte (b : Nat) : List Char := ['%', upperHexDigit (b / 16), upperHexDigit (b % 16)]

/-- Encodes every byte of `cs` outside ASCII and the ASCII characters in `encoded`. -/
def percentEncode (encoded : Char → Bool) (cs : List Char) : List Char :=
  cs.flatMap fun c =>
    if c.toNat < 128 && !encoded c then [c] else (charBytes c).flatMap percentByte

def hexPair? (a b : Nat) : Option Nat := do
  let high ← hexDigit? (Char.ofNat a)
  let low ← hexDigit? (Char.ofNat b)
  some (high * 16 + low)

/-- The bytes that `bytes` stand for. -/
def percentDecode : List Nat → List Nat
  | [] => []
  | 37 :: a :: b :: rest =>
    match hexPair? a b with
    | some byte => byte :: percentDecode rest
    | none => 37 :: percentDecode (a :: b :: rest)
  | byte :: rest => byte :: percentDecode rest

end ChainGateway.Net
