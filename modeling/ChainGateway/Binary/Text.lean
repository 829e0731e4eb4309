import ChainGateway.Binary.Shortest

/-!
# Decimal text of numbers

Both texts hold the shortest digits. `wire` always shows a point or an exponent:
it is positional in a middle range of magnitudes and scientific outside it. `plain`
is positional throughout and shows no fraction when there is none.
-/

namespace ChainGateway.Binary

def zeros (n : Int) : List Char := List.replicate n.toNat '0'

/-- Positional digits, `fraction` after a whole number. -/
def Decimal.positional (d : Decimal) (fraction : List Char) : List Char :=
  let length : Int := d.digits.length
  if d.point ≤ 0 then '0' :: '.' :: zeros (-d.point) ++ d.digits
  else if length ≤ d.point then d.digits ++ zeros (d.point - length) ++ fraction
  else d.digits.take d.point.toNat ++ '.' :: d.digits.drop d.point.toNat

def Decimal.scientific (d : Decimal) : List Char :=
  let lead := match d.digits with
    | [] => []
    | [c] => [c]
    | c :: rest => c :: '.' :: rest
  let e := d.point - 1
  lead ++ 'e' :: (if e < 0 then '-' :: Text.natural e.natAbs else '+' :: Text.natural e.natAbs)

/-- The magnitudes that `wire` writes without an exponent: from `10 ^ (low - 1)` up
to `10 ^ high`, not included. -/
structure Window where
  low : Int
  high : Int

def Format.window (f : Format) : Window :=
  if f.precision = 24 then ⟨-5, 13⟩ else ⟨-4, 16⟩

namespace Number

variable {f : Format}

/-- The text of a finite number in a data format; an infinite one has none. -/
def wire? : Number f → Option (List Char)
  | .infinite _ => none
  | .finite s 0 _ => some ((if s then ['-'] else []) ++ ['0', '.', '0'])
  | .finite s m e =>
    let d := shortest f m e
    let w := f.window
    let body := if w.low ≤ d.point && d.point ≤ w.high then d.positional ['.', '0'] else d.scientific
    some ((if s then ['-'] else []) ++ body)

def plain : Number f → List Char
  | .infinite s => if s then "-inf".toList else "inf".toList
  | .finite s 0 _ => (if s then ['-'] else []) ++ ['0']
  | .finite s m e => (if s then ['-'] else []) ++ (shortest f m e).positional []

end Number
end ChainGateway.Binary
