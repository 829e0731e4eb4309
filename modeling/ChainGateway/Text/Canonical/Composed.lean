import ChainGateway.Text.Canonical.Order
import ChainGateway.Text.Canonical.Pair

/-!
# Composed text

A letter with marks can be written as one character or as several. The composed form
of a text takes all characters apart, puts their marks in order and joins what can be
joined, so texts that mean the same become one. Korean syllables are pairs by
arithmetic on their code points.
-/

namespace ChainGateway.Text

/-! ## Pairs -/

def firstSyllable : Nat := 0xAC00
def firstLead : Nat := 0x1100
def firstVowel : Nat := 0x1161
/-- One before the first tail; a syllable may have none. -/
def noTail : Nat := 0x11A7
def leads : Nat := 19
def vowels : Nat := 21
def tails : Nat := 28

/-- The two characters that a syllable stands for. -/
def splitSyllable? (c : Char) : Option (Char × Char) :=
  let i := c.toNat - firstSyllable
  if c.toNat < firstSyllable ∨ leads * vowels * tails ≤ i then none
  else if i % tails = 0 then
    some (Char.ofNat (firstLead + i / tails / vowels), Char.ofNat (firstVowel + i / tails % vowels))
  else some (Char.ofNat (c.toNat - i % tails), Char.ofNat (noTail + i % tails))

def joinSyllable? (a b : Char) : Option Char :=
  let lead := a.toNat - firstLead
  let vowel := b.toNat - firstVowel
  let i := a.toNat - firstSyllable
  let tail := b.toNat - noTail
  if firstLead ≤ a.toNat ∧ lead < leads ∧ firstVowel ≤ b.toNat ∧ vowel < vowels then
    some (Char.ofNat (firstSyllable + (lead * vowels + vowel) * tails))
  else if firstSyllable ≤ a.toNat ∧ i < leads * vowels * tails ∧ i % tails = 0 ∧
      noTail < b.toNat ∧ tail < tails then
    some (Char.ofNat (a.toNat + tail))
  else none

def split? (c : Char) : Option (Char × Char) :=
  match splitSyllable? c with
  | some pair => some pair
  | none =>
    match pairs.get? c with
    | some [a, b] => some (a, b)
    | _ => none

def join? (a b : Char) : Option Char :=
  match joinSyllable? a b with
  | some c => some c
  | none => pairs.key? [a, b]

/-! ## Taking apart and joining -/

/-- Takes a character apart as often as `depth` says. -/
def apart : Nat → Char → List Char
  | 0, c => [c]
  | depth + 1, c =>
    match split? c with
    | some (a, b) => apart depth a ++ [b]
    | none => [c]

/-- No character has more than three marks. -/
def maxDepth : Nat := 4

/-- Joins what follows onto `head`. `kept` holds the characters after it that were not
joined; one of them keeps those of its own class and of lower ones from `head`. -/
def joinOnto (head : Char) (kept : List Placed) : List Placed → List Char
  | [] => head :: kept.map (·.char)
  | p :: rest =>
    let blocked : Bool := match kept.getLast? with
      | some last => p.place ≤ last.place
      | none => false
    match if blocked then none else join? head p.char with
    | some c => joinOnto c kept rest
    | none =>
      if p.place = 0 then head :: kept.map (·.char) ++ joinOnto p.char [] rest
      else joinOnto head (kept ++ [p]) rest

/-- Joins ordered characters; marks in front have nothing to be joined to. -/
def joinAll : List Placed → List Char
  | [] => []
  | p :: rest => if p.place = 0 then joinOnto p.char [] rest else p.char :: joinAll rest

def composed (cs : List Char) : List Char :=
  if cs.all fun c => c.toNat < 0x300 then cs
  else joinAll (orderMarks ((cs.flatMap (apart maxDepth)).map Placed.ofChar))

end ChainGateway.Text
