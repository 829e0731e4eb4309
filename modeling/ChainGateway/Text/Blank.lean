import ChainGateway.Text.CharSet

/-!
# White space

Blank characters are those with the `White_Space` property; `trimList` removes them
from both ends.
-/

namespace ChainGateway.Text

def blanks : CharSet := .ofLines [
  "9-d 20 85 a0 1680 2000-200a 2028-2029 202f 205f 3000"]

def isBlank (c : Char) : Bool :=
  if c.toNat < 128 then c == ' ' || (9 ≤ c.toNat && c.toNat ≤ 13) else blanks.contains c

def trimList (cs : List Char) : List Char :=
  ((cs.dropWhile isBlank).reverse.dropWhile isBlank).reverse

end ChainGateway.Text
