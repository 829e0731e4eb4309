import ChainGateway.Text.CharSet

/-!
# Ranges of bytes

The UTF-8 forms of a range of characters, as sequences of byte ranges: a text is the form
of a character of the range just when each of its bytes is in the range at its position.
-/

namespace ChainGateway.Text

/-- The sequences for the numbers from `low` to `high`, which have `more` digits of six bits
behind the leading one; `lead` marks the byte of the leading digit. -/
def byteRangesFrom (lead : Nat) : Nat → Nat → Nat → List (List (Nat × Nat))
  | 0, low, high => [[(lead + low, lead + high)]]
  | more + 1, low, high =>
    let unit := Nat.pow 64 (more + 1)
    let (a, b) := (low / unit, high / unit)
    if a = b then
      (byteRangesFrom 0x80 more (low % unit) (high % unit)).map ((lead + a, lead + a) :: ·)
    else
      let first := if low % unit = 0 then [] else
        (byteRangesFrom 0x80 more (low % unit) (unit - 1)).map ((lead + a, lead + a) :: ·)
      let last := if high % unit = unit - 1 then [] else
        (byteRangesFrom 0x80 more 0 (high % unit)).map ((lead + b, lead + b) :: ·)
      let a := if low % unit = 0 then a else a + 1
      let b := if high % unit = unit - 1 then b else b - 1
      let middle := if b < a then [] else
        [(lead + a, lead + b) :: List.replicate (more + 1) (0x80, 0xBF)]
      first ++ middle ++ last

/-- The sequences for a range of characters, in ascending order. -/
def byteRanges (low high : Nat) : List (List (Nat × Nat)) :=
  [(0, 0x7F, 0, 0), (0x80, 0x7FF, 0xC0, 1), (0x800, 0xD7FF, 0xE0, 2), (0xE000, 0xFFFF, 0xE0, 2),
    (0x10000, 0x10FFFF, 0xF0, 3)].flatMap fun (a, b, lead, more) =>
      if max a low ≤ min b high then byteRangesFrom lead more (max a low) (min b high) else []

/-- The sequences for all characters of a set. -/
def CharSet.byteRanges (s : CharSet) : List (List (Nat × Nat)) :=
  s.ranges.flatMap fun r => Text.byteRanges r.1 r.2

end ChainGateway.Text
