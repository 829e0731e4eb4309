import ChainGateway.Text.CharSet
import ChainGateway.Text.Pieces

/-!
# Tables of characters

A table gives some characters a text each. It is written as words, such as `c0=41.300,41`:
the code point of a character, then its text and those of the characters after it,
each as code points with dots between them. All numbers are hexadecimal.
-/

namespace ChainGateway.Text

structure CharTable where
  /-- The first characters of runs, with the texts of each run. -/
  blocks : List (Nat × List (List Char))

namespace CharTable

def readNumber (cs : List Char) : Nat :=
  cs.foldl (fun n c => n * 16 + CharSet.hexValue c) 0

def readText (cs : List Char) : List Char :=
  (pieces '.' cs).map fun n => Char.ofNat (readNumber n)

def readBlock (cs : List Char) : Nat × List (List Char) :=
  match cut? '=' cs with
  | some (first, texts) => (readNumber first, (pieces ',' texts).map readText)
  | none => (readNumber cs, [])

/-- All blocks of every line. -/
def ofLines (lines : List String) : CharTable :=
  ⟨lines.flatMap fun line => (pieces ' ' line.toList).map readBlock⟩

/-- The text of a character. -/
def get? (t : CharTable) (c : Char) : Option (List Char) :=
  t.blocks.findSome? fun (first, texts) =>
    if first ≤ c.toNat then texts[c.toNat - first]? else none

/-- The first character whose text is `text`. -/
def key? (t : CharTable) (text : List Char) : Option Char :=
  t.blocks.findSome? fun (first, texts) =>
    (texts.findIdx? (· = text)).map fun i => Char.ofNat (first + i)

end CharTable
end ChainGateway.Text
