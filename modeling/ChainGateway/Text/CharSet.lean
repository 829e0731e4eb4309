/-!
# Sets of characters

A set is its inclusive code point ranges. Tables are written as text, one
hexadecimal range per word, so that they can be read beside the standard.
-/

namespace ChainGateway.Text

structure CharSet where
  ranges : List (Nat × Nat)
  deriving DecidableEq, Repr, Inhabited

namespace CharSet

def contains (s : CharSet) (c : Char) : Bool :=
  s.ranges.any fun r => r.1 ≤ c.toNat && c.toNat ≤ r.2

def hexValue (c : Char) : Nat :=
  if c.isDigit then c.toNat - 48 else c.toNat - 87

/-- Reads words such as `30-39` and `5f` separated by single blanks. The first
state is the range being read: its lower end, if a dash was seen, and the digits so far. -/
def readRanges : Option Nat → Nat → List Char → List (Nat × Nat)
  | low, n, [] => [(low.getD n, n)]
  | low, n, ' ' :: rest => (low.getD n, n) :: readRanges none 0 rest
  | _, n, '-' :: rest => readRanges (some n) 0 rest
  | low, n, c :: rest => readRanges low (n * 16 + hexValue c) rest

/-- The union of the ranges of every line. -/
def ofLines (lines : List String) : CharSet :=
  ⟨lines.flatMap fun line => readRanges none 0 line.toList⟩

def empty : CharSet := ⟨[]⟩

def range (low high : Nat) : CharSet := ⟨[(low, high)]⟩

def single (c : Char) : CharSet := range c.toNat c.toNat

/-- Adds a range to disjoint ascending ranges and joins it with those it touches. -/
def insertRange (low high : Nat) : List (Nat × Nat) → List (Nat × Nat)
  | [] => [(low, high)]
  | (a, b) :: rest =>
    if high + 1 < a then (low, high) :: (a, b) :: rest
    else if b + 1 < low then (a, b) :: insertRange low high rest
    else insertRange (min a low) (max b high) rest

def insert (s : CharSet) (low high : Nat) : CharSet :=
  ⟨insertRange low high s.ranges⟩

def or (s t : CharSet) : CharSet :=
  ⟨t.ranges.foldr (fun r ranges => insertRange r.1 r.2 ranges) s.ranges⟩

def union (sets : List CharSet) : CharSet :=
  sets.foldl or empty

def ofChars (cs : List Char) : CharSet :=
  cs.foldl (fun s c => s.insert c.toNat c.toNat) empty

/-- Every character. -/
def all : CharSet := ⟨[(0, 0xD7FF), (0xE000, 0x10FFFF)]⟩

/-- The gaps of ascending ranges from `next` up to `last`. -/
def gaps (last : Nat) : Nat → List (Nat × Nat) → List (Nat × Nat)
  | next, [] => if next ≤ last then [(next, last)] else []
  | next, (a, b) :: rest =>
    if next < a then (next, a - 1) :: gaps last (b + 1) rest else gaps last (b + 1) rest

/-- All characters that are not in the set; surrogates are no characters. -/
def complement (s : CharSet) : CharSet :=
  ⟨gaps 0x10FFFF 0 (insertRange 0xD800 0xDFFF s.ranges)⟩

def and (s t : CharSet) : CharSet :=
  (s.complement.or t.complement).complement

/-- The characters of `s` that are not in `t`. -/
def without (s t : CharSet) : CharSet :=
  (s.complement.or t).complement

/-- The characters that are in one of the two sets only. -/
def either (s t : CharSet) : CharSet :=
  (s.without t).or (t.without s)

def isAscii (s : CharSet) : Bool :=
  s.ranges.all fun r => r.2 < 128

/-- The character of a set that has just one. -/
def single? (s : CharSet) : Option Char :=
  match s.ranges with
  | [(a, b)] => if a = b then some (Char.ofNat a) else none
  | _ => none

end CharSet

/-- A map of characters by runs `(first, last, stride, shift)`: every `stride`-th
character from `first` to `last` moves by `shift`; all others stay. -/
structure CharMap where
  runs : List (Nat × Nat × Nat × Int)

namespace CharMap

def hits (n : Nat) (run : Nat × Nat × Nat × Int) : Bool :=
  run.1 ≤ n && n ≤ run.2.1 && (n - run.1) % run.2.2.1 == 0

def apply (m : CharMap) (c : Char) : Char :=
  match m.runs.find? (hits c.toNat) with
  | some run => Char.ofNat (c.toNat + run.2.2.2).toNat
  | none => c

/-- The characters that some run moves onto `c`. -/
def sources (m : CharMap) (c : Char) : List Char :=
  m.runs.filterMap fun run =>
    let n := ((c.toNat : Int) - run.2.2.2).toNat
    if hits n run then some (Char.ofNat n) else none

end CharMap
end ChainGateway.Text
