import ChainGateway.Remote.Domain.Direction
import ChainGateway.Remote.Domain.Joining
import ChainGateway.Remote.Domain.Mapping
import ChainGateway.Remote.Punycode
import ChainGateway.Text.Canonical.Composed
import ChainGateway.Text.Utf8

/-!
# Labels of domain names

A name is labels with dots between them. A label has a text for people and a form in
ASCII, which is the text itself or a mark and its code. A label that starts with the
mark is read as a code, and has to be the code of a text that would be written so.
-/

namespace ChainGateway.Remote.Domain

open Text

/-- ASCII characters that no name may hold. -/
def isForbidden (c : Char) : Bool :=
  c.toNat ≤ 32 || c.toNat = 127 || "%#/:<>?@[\\]^|".toList.contains c

def isAscii (cs : List Char) : Bool := cs.all fun c => c.toNat < 128

structure Label where
  text : List Char
  ascii : List Char
  deriving DecidableEq, Repr

/-- What marks an ASCII form as a code. -/
def codeMark : List Char := "xn--".toList

/-- Codes have at most this many characters. -/
def maxCode : Nat := 2000

/-- Texts that have to be coded have at most this many characters. -/
def maxText : Nat := 1000

namespace Label

/-- Whether no mark comes first and all joiners fit. -/
def isWellFormed (text : List Char) : Bool :=
  !text.head?.any isMark && joinersFit [] text

/-- A label by its code. -/
def ofCode? (code : List Char) : Option Label := do
  if !isAscii code || code.getLast? = some '-' || maxCode < code.length then none
  let text ← Punycode.decode? code
  if isAscii text || !text.all isPlain || composed text ≠ text || !isWellFormed text then none
  else some ⟨text, codeMark ++ code⟩

/-- A label of characters that stand for themselves. -/
def ofPlain? (text : List Char) : Option Label :=
  match after? codeMark text with
  | some code => ofCode? code
  | none =>
    if isAscii text then some ⟨text, text⟩
    else if !isWellFormed text || maxText < text.length then none
    else some ⟨text, codeMark ++ Punycode.encode text⟩

end Label

/-- A name in the characters that it stands for. -/
def plain? (cs : List Char) : Option (List Char) := do
  let plain := composed (← cs.mapM mapChar?).flatten
  if plain.any isForbidden then none else some plain

/-- The ASCII form of a name; directions matter to all of its labels or to none. -/
def ascii? (bytes : List Nat) : Option (List Char) := do
  let labels ← (pieces '.' (← plain? (← decode? bytes))).mapM Label.ofPlain?
  if labels.any (·.text.any isTurned) && !labels.all (isOriented ·.text) then none
  else some (joined ['.'] (labels.map (·.ascii)))

end ChainGateway.Remote.Domain
