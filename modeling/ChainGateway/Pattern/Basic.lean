import ChainGateway.Text.CaseFold
import ChainGateway.Text.Word

/-!
# Patterns

A pattern says which texts hold a match. Patterns are put together by `concat`,
`alternatives`, `ofSet` and `repeated`, which keep them in a simple form: no sequence
holds an empty part or two texts in a row, and no single character is written as a set.
-/

namespace ChainGateway

namespace Pattern

/-- A condition on a place between two characters. -/
inductive Anchor
  | start
  | stop
  | lineStart (crlf : Bool)
  | lineStop (crlf : Bool)
  | wordBoundary (ascii : Bool)
  | noWordBoundary (ascii : Bool)
  | wordStart (ascii : Bool)
  | wordStop (ascii : Bool)
  | wordStartHalf (ascii : Bool)
  | wordStopHalf (ascii : Bool)
  deriving DecidableEq, Repr

end Pattern

inductive Pattern
  | empty
  | text (cs : List Char)
  | oneOf (s : Text.CharSet)
  | anchor (a : Pattern.Anchor)
  /-- A numbered group whose match is remembered. -/
  | group (index : Nat) (p : Pattern)
  | seq (p q : Pattern)
  | alt (p q : Pattern)
  /-- At least `least` times, and no more than `most` times if that is given. -/
  | repeat (p : Pattern) (least : Nat) (most : Option Nat)
  deriving DecidableEq, Repr

namespace Pattern

/-- The pattern that matches nowhere. -/
def never : Pattern := .oneOf .empty

/-- The parts of a sequence, in order. -/
def parts : Pattern → List Pattern
  | .empty => []
  | .seq p q => p.parts ++ q.parts
  | p => [p]

/-- The branches of an alternative, in order. -/
def branches : Pattern → List Pattern
  | .alt p q => p.branches ++ q.branches
  | p => [p]

def ofParts : List Pattern → Pattern
  | [] => .empty
  | [p] => p
  | p :: q :: rest => .seq p (ofParts (q :: rest))

def ofBranches : List Pattern → Pattern
  | [] => never
  | [p] => p
  | p :: q :: rest => .alt p (ofBranches (q :: rest))

/-- Puts a part in front of others; a text joins the text behind it. -/
def consPart (p : Pattern) (rest : List Pattern) : List Pattern :=
  match p, rest with
  | .text a, .text b :: rest => .text (a ++ b) :: rest
  | p, rest => p :: rest

def concat (ps : List Pattern) : Pattern :=
  ofParts ((ps.flatMap parts).foldr consPart [])

/-- One character of a set. -/
def ofSet (s : Text.CharSet) : Pattern :=
  match s.single? with
  | some c => .text [c]
  | none => .oneOf s

def char? : Pattern → Option Char
  | .text [c] => some c
  | _ => none

def set? : Pattern → Option Text.CharSet
  | .oneOf s => some s
  | _ => none

/-- Branches joined: those that are single characters only, or sets only, make one set. -/
def joinBranches (ps : List Pattern) : Pattern :=
  match ps with
  | [] | [_] => ofBranches ps
  | _ =>
    match ps.mapM char?, ps.mapM set? with
    | some cs, _ => ofSet (.ofChars cs)
    | none, some sets => ofSet (.union sets)
    | none, none => ofBranches ps

/-- How many parts two sequences have in common at their start. -/
def commonParts : List Pattern → List Pattern → List Pattern
  | p :: ps, q :: qs => if p = q then p :: commonParts ps qs else []
  | _, _ => []

/-- One of several patterns. Parts that all sequences begin with stand in front. -/
def alternatives (ps : List Pattern) : Pattern :=
  match joinBranches (ps.flatMap branches) with
  | .alt p q =>
    let sequences := (Pattern.alt p q).branches.map parts
    match sequences with
    | [] => .alt p q
    | first :: others =>
      let common := others.foldl commonParts first
      if common = [] || sequences.any (·.length < 2) then .alt p q
      else
        let rest := sequences.map fun s => ofParts (s.drop common.length)
        concat (common ++ [joinBranches (rest.flatMap branches)])
  | p => p

/-- Whether every match is empty. -/
def onlyEmpty : Pattern → Bool
  | .empty => true
  | .text cs => cs.isEmpty
  | .oneOf _ => false
  | .anchor _ => true
  | .group _ p => p.onlyEmpty
  | .seq p q => p.onlyEmpty && q.onlyEmpty
  | .alt p q => p.onlyEmpty && q.onlyEmpty
  | .repeat p _ _ => p.onlyEmpty

/-- The characters of the shortest match. -/
def leastLength : Pattern → Nat
  | .empty => 0
  | .text cs => cs.length
  | .oneOf _ => 1
  | .anchor _ => 0
  | .group _ p => p.leastLength
  | .seq p q => p.leastLength + q.leastLength
  | .alt p q => min p.leastLength q.leastLength
  | .repeat p least _ => p.leastLength * least

/-- Repeats a pattern. What only matches the empty text need not be met more than once,
and what must not be met at all is empty. -/
def repeated (p : Pattern) (least : Nat) (most : Option Nat) : Pattern :=
  let (least, most) :=
    if p.onlyEmpty then (min least 1, some (min (most.getD 1) 1)) else (least, most)
  if most = some 0 then .empty
  else if least = 1 ∧ most = some 1 then p
  else .repeat p least most

/-- A place in a text: what is before it, the nearest first, and what is behind it. -/
structure Place where
  before : List Char
  after : List Char
  deriving DecidableEq, Repr

def isAsciiWord (c : Char) : Bool := c.isAlphanum || c == '_'

def isWord (ascii : Bool) (cs : List Char) : Bool :=
  match cs with
  | c :: _ => if ascii then isAsciiWord c else Text.isWordChar c
  | [] => false

def Anchor.holds (a : Anchor) (p : Place) : Bool :=
  match a with
  | .start => p.before.isEmpty
  | .stop => p.after.isEmpty
  | .lineStart crlf =>
    match p.before, p.after with
    | [], _ => true
    | '\n' :: _, _ => true
    | '\r' :: _, '\n' :: _ => false
    | '\r' :: _, _ => crlf
    | _, _ => false
  | .lineStop crlf =>
    match p.before, p.after with
    | _, [] => true
    | '\r' :: _, '\n' :: _ => !crlf
    | _, '\n' :: _ => true
    | _, '\r' :: _ => crlf
    | _, _ => false
  | .wordBoundary ascii => isWord ascii p.before != isWord ascii p.after
  | .noWordBoundary ascii => isWord ascii p.before == isWord ascii p.after
  | .wordStart ascii => !isWord ascii p.before && isWord ascii p.after
  | .wordStop ascii => isWord ascii p.before && !isWord ascii p.after
  | .wordStartHalf ascii => !isWord ascii p.before
  | .wordStopHalf ascii => !isWord ascii p.after

end Pattern
end ChainGateway
