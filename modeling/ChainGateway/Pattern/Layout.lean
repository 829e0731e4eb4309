import ChainGateway.Pattern.Basic
import ChainGateway.Text.ByteRange
import ChainGateway.Text.Utf8
import Std.Data.HashMap

/-!
# The room a pattern takes

A pattern is laid out twice as states that lead to one another over single bytes, once to
read texts forwards and once to read them backwards. Each layout has to fit into a budget.
Only the room is counted here: the number of states, and the bytes of the links that are
held outside them.
-/

namespace ChainGateway.Pattern

/-- What has been laid out so far. States are numbered in the order they are added. -/
structure Layout where
  states : Nat
  /-- Bytes of links outside the states. -/
  links : Nat
  deriving DecidableEq, Repr

namespace Layout

def budget : Nat := 10485760

def stateBytes : Nat := 32

/-- A link of a state that leads on over a range of bytes. -/
def byteLink : Nat := 8

/-- A link of a state that leads on at once. -/
def freeLink : Nat := 4

def bytes (l : Layout) : Nat := l.states * stateBytes + l.links

/-- Adds states with links; nothing when the budget is exceeded. -/
def grow (l : Layout) (states links : Nat) : Option Layout :=
  let l : Layout := ⟨l.states + states, l.links + links⟩
  if budget < l.bytes then none else some l

/-- The same layout `n` times. -/
def times (f : Layout → Option Layout) : Nat → Layout → Option Layout
  | 0, l => some l
  | n + 1, l =>
    match f l with
    | none => none
    | some l => times f n l

/-! ## Sets of characters -/

/-- Mixes a number into a hash. -/
def mix (h : UInt64) (n : Nat) : UInt64 :=
  (h ^^^ n.toUInt64) * 1099511628211

def hash (slots : Nat) (ns : List Nat) : Nat :=
  (ns.foldl mix 14695981039346656037).toNat % slots

/-- States that have been laid out for one set, by what they lead to. A state is found again
unless a later one took its slot. -/
abbrev Known := Std.HashMap Nat (List Nat × Nat)

/-- Finds a state by its content or adds it. -/
def intern (slots links : Nat) (content : List Nat) (known : Known) (l : Layout) :
    Option (Nat × Known × Layout) :=
  let slot := hash slots content
  let add := do
    let more ← l.grow 1 links
    some (l.states, known.insert slot (content, l.states), more)
  match known[slot]? with
  | some (old, state) => if old = content then some (state, known, l) else add
  | none => add

/-- Joins neighbours that begin with the same byte range. -/
def groupByHead : List (List (Nat × Nat)) → List ((Nat × Nat) × List (List (Nat × Nat)))
  | [] => []
  | [] :: rest => groupByHead rest
  | (r :: tail) :: rest =>
    match groupByHead rest with
    | (r', tails) :: groups =>
      if r = r' then (r, tail :: tails) :: groups else (r, [tail]) :: (r', tails) :: groups
    | [] => [(r, [tail])]

/-- Lays out byte ranges forwards, the last bytes first; states with the same links are one.
All sequences end in the state `target`. -/
def forward (target : Nat) : Nat → List (List (Nat × Nat)) → Known → Layout →
    Option (Nat × Known × Layout)
  | 0, _, known, l => some (target, known, l)
  | depth + 1, sequences, known, l => do
    if sequences.all List.isEmpty then some (target, known, l)
    else
      let (content, known, l) ← (groupByHead sequences).foldlM
        (fun (acc : List Nat × Known × Layout) (r, tails) => do
          let (content, known, l) := acc
          let (next, known, l) ← forward target depth tails known l
          some (next :: r.2 :: r.1 :: content, known, l)) ([], known, l)
      let content := content.reverse
      intern 10000 (byteLink * (content.length / 3)) content known l

/-- Lays out byte ranges backwards, the first bytes first; sequences share their beginnings. -/
def backward (target : Nat) (sequences : List (List (Nat × Nat))) (l : Layout) : Option Layout := do
  let (_, l) ← sequences.foldlM
    (fun (acc : Known × Layout) sequence => do
      let (known, l) := acc
      let (_, known, l) ← sequence.foldlM
        (fun (acc : Nat × Known × Layout) (low, high) => do
          let (next, known, l) := acc
          intern 1000 0 [next, low, high] known l) (target, known, l)
      some (known, ← l.grow 0 freeLink)) (∅, l)
  some l

def set (back : Bool) (s : Text.CharSet) (l : Layout) : Option Layout :=
  if s.isAscii then l.grow 2 (byteLink * s.ranges.length)
  else if back then do backward (l.states + 1) s.byteRanges (← l.grow 2 0)
  else do
    let (_, _, l) ← forward l.states 4 s.byteRanges ∅ (← l.grow 1 0)
    some l

/-! ## Texts to choose from -/

/-- Cuts a list of texts at its empty ones. -/
def segments : List (List Nat) → List (List (List Nat))
  | [] => [[]]
  | [] :: rest => [] :: segments rest
  | cs :: rest =>
    match segments rest with
    | [] => [[cs]]
    | first :: more => (cs :: first) :: more

/-- Groups texts by their first byte, in ascending order; texts of a group keep their order. -/
def byFirst (texts : List (List Nat)) : List (List (List Nat)) :=
  (List.range 256).filterMap fun b =>
    match texts.filterMap fun t => if t.head? = some b then some t.tail else none with
    | [] => none
    | tails => some tails

/-- Lays out the ends of some texts as a tree. A text that ends here cuts the texts that
stand before it from those behind it. -/
def tree : Nat → List (List Nat) → Layout → Option Layout
  | 0, _, l => some l
  | depth + 1, texts, l => do
    let cuts := match segments texts with
      | [] :: rest => [] :: rest.dropWhile List.isEmpty
      | cuts => cuts
    let l ← cuts.foldlM
      (fun (l : Layout) cut => do
        let groups := byFirst cut
        let l ← groups.foldlM
          (fun (l : Layout) tails =>
            if tails.all List.isEmpty then some l else tree depth tails l) l
        match groups with
        | [] => some l
        | [_] => l.grow 1 freeLink
        | _ => l.grow 1 (byteLink * groups.length + freeLink)) l
    l.grow 1 (freeLink * (cuts.length - 1))

end Layout

/-- The bytes of the shortest match; nothing for a pattern that may match nowhere. -/
def leastBytes? : Pattern → Option Nat
  | .empty => some 0
  | .text cs => some (Text.utf8Bytes cs).length
  | .oneOf s => s.ranges.head?.map fun r => (Text.charBytes (Char.ofNat r.1)).length
  | .anchor _ => some 0
  | .group _ p => p.leastBytes?
  | .seq p q => do some ((← p.leastBytes?) + (← q.leastBytes?))
  | .alt p q => do some (min (← p.leastBytes?) (← q.leastBytes?))
  | .repeat p least _ => do some ((← p.leastBytes?) * least)

/-- Whether each match has to begin under a condition. -/
def beginsWith (a : Anchor) : Pattern → Bool
  | .anchor b => a = b
  | .group _ p => p.beginsWith a
  | .seq p q => p.beginsWith a || (p.onlyEmpty && q.beginsWith a)
  | .alt p q => p.beginsWith a && q.beginsWith a
  | .repeat p least _ => 0 < least && p.beginsWith a
  | _ => false

/-- Whether each match has to end under a condition. -/
def endsWith (a : Anchor) : Pattern → Bool
  | .anchor b => a = b
  | .group _ p => p.endsWith a
  | .seq p q => q.endsWith a || (q.onlyEmpty && p.endsWith a)
  | .alt p q => p.endsWith a && q.endsWith a
  | .repeat p least _ => 0 < least && p.endsWith a
  | _ => false

/-- Where a pattern stands among the branches of an alternative. -/
inductive Branch
  | only
  | second
  | later

namespace Branch

/-- The room for a branch besides that of its pattern: the second one brings the states where
all branches begin and end. -/
def close (b : Branch) (l : Layout) : Option Layout :=
  match b with
  | only => some l
  | second => l.grow 2 (2 * Layout.freeLink)
  | later => l.grow 0 Layout.freeLink

def next : Branch → Branch
  | only => second
  | _ => later

def isOnly : Branch → Bool
  | only => true
  | _ => false

end Branch

/-- The bytes of the branches when all are texts. -/
def texts? (p : Pattern) : Option (List (List Nat)) :=
  p.branches.mapM fun
    | .text cs => some (Text.utf8Bytes cs)
    | _ => none

/-- Adds a pattern to a layout, read forwards or backwards. -/
def layOut (back : Bool) (branch : Branch) : Pattern → Layout → Option Layout
  | .empty, l => do branch.close (← l.grow 1 0)
  | .text cs, l => do branch.close (← l.grow (Text.utf8Bytes cs).length 0)
  | .oneOf s, l => do branch.close (← l.set back s)
  | .anchor _, l => do branch.close (← l.grow 1 0)
  | .group _ p, l => do
    let room := if back then 0 else 1
    let l ← p.layOut back .only (← l.grow room 0)
    branch.close (← l.grow room 0)
  | .seq p q, l => do
    let l ← if back then do p.layOut back .only (← q.layOut back .only l)
      else do q.layOut back .only (← p.layOut back .only l)
    branch.close l
  | .alt p q, l => do
    match if branch.isOnly then (Pattern.alt p q).texts? else none with
    | some texts =>
      let texts := if back then texts.map List.reverse else texts
      Layout.tree (texts.foldl (fun n t => max n t.length) 0 + 1) texts (← l.grow 1 0)
    | none =>
      let l ← branch.close (← p.layOut back .only l)
      q.layOut back branch.next l
  | .repeat p least most, l => do
    let again := p.layOut back .only
    let exactly (n : Nat) (l : Layout) := if n = 0 then l.grow 1 0 else Layout.times again n l
    let optional (l : Layout) := do again (← l.grow 1 (2 * Layout.freeLink))
    let l ← match most with
      | none =>
        if least = 0 && !(0 < p.leastBytes?.getD 0) then
          do (← again l).grow 3 (4 * Layout.freeLink)
        else if least = 0 then do again (← l.grow 1 (2 * Layout.freeLink))
        else do (← Layout.times again least l).grow 1 (2 * Layout.freeLink)
      | some most =>
        if least = 0 && most = 1 then do (← optional l).grow 1 0
        else if most = least then exactly least l
        else do Layout.times optional (most - least) (← (← exactly least l).grow 1 0)
    branch.close l

/-- The layout of a whole pattern: a start that passes over any bytes unless the pattern is
bound to the start of the text, and an end. -/
def wholeLayout? (back : Bool) (p : Pattern) : Option Layout := do
  let bound := if back then p.endsWith .stop else p.beginsWith .start
  let l : Layout := ⟨0, 0⟩
  let l ← if bound then l.grow 1 0
    else l.grow 3 (Layout.byteLink + 2 * Layout.freeLink)
  let room := if back then 0 else 1
  let l ← p.layOut back .only (← l.grow room 0)
  l.grow (room + 1) 0

/-- Whether both layouts fit into the budget. -/
def fits (p : Pattern) : Bool :=
  (p.wholeLayout? false).isSome && (p.wholeLayout? true).isSome

end ChainGateway.Pattern
