import ChainGateway.Pattern.Bracket
import ChainGateway.Pattern.Layout
import ChainGateway.Text.Letter
import ChainGateway.Text.Numeral

/-!
# Reading patterns

Patterns are alternatives of sequences of repeated items. A text is refused when it is no
pattern, when its constructs nest too deep, and when the pattern takes too much room.
-/

namespace ChainGateway.Pattern

/-! ## Repetitions -/

def maxCount : Nat := 4294967295

/-- Reads decimal digits. -/
def digits (f : Flags) : Nat → List Char → List Char × List Char
  | fuel + 1, c :: rest =>
    if c.isDigit then
      let (ds, rest) := digits f fuel (f.skip rest)
      (c :: ds, rest)
    else ([], c :: rest)
  | _, cs => ([], cs)

/-- Reads a number with blanks around it. -/
def count? (f : Flags) (cs : List Char) : Option (Nat × List Char) :=
  let (ds, rest) := digits f cs.length (cs.dropWhile Text.isBlank)
  match Text.readNatural maxCount ds with
  | .ok n => some (n, rest.dropWhile Text.isBlank)
  | .error _ => none

/-- How often an item is repeated. -/
abbrev Bounds := Nat × Option Nat

/-- Reads the bounds of a repetition after the opening brace. -/
def bounds? (f : Flags) (cs : List Char) : Option (Bounds × List Char) := do
  let (least, rest) ← count? f (f.skip cs)
  match rest with
  | ',' :: rest =>
    match f.skip rest with
    | c :: tail =>
      if c = closeBrace then some ((least, none), tail)
      else
        let (most, rest) ← count? f (c :: tail)
        match rest with
        | c :: rest =>
          if c = closeBrace && least ≤ most then some ((least, some most), rest) else none
        | [] => none
    | [] => none
  | c :: rest => if c = closeBrace then some ((least, some least), rest) else none
  | [] => none

/-- Drops the sign of a repetition that prefers fewer matches. -/
def dropPreference : List Char → List Char
  | '?' :: rest => rest
  | cs => cs

/-- Reads a repetition, if there is one here: its bounds, or nothing for a broken one. -/
def repetition (f : Flags) (cs : List Char) : Option (Option (Bounds × List Char)) :=
  match cs with
  | '*' :: rest => some (some ((0, none), dropPreference rest))
  | '+' :: rest => some (some ((1, none), dropPreference rest))
  | '?' :: rest => some (some ((0, some 1), dropPreference rest))
  | c :: rest =>
    if c = openBrace then
      some ((bounds? f rest).map fun (bounds, rest) => (bounds, dropPreference (f.skip rest)))
    else none
  | [] => none

/-! ## Groups -/

/-- A pattern that has been read. -/
structure Piece where
  pattern : Pattern
  /-- How deep the constructs in its text nest. -/
  depth : Nat
  /-- Flags stand among the items but are none that can be repeated. -/
  isFlags : Bool

namespace Piece

def flags : Piece := ⟨.empty, 0, true⟩

/-- Pieces in a row, the latest first; several nest one deeper than one. -/
def sequence (pieces : List Piece) : Piece :=
  let depth := pieces.foldl (fun n p => max n p.depth) 0
  match pieces with
  | [p] => p
  | [] => ⟨.empty, 0, false⟩
  | ps => ⟨concat (ps.reverse.map (·.pattern)), depth + 1, false⟩

end Piece

/-- What a group that is being read holds so far: finished alternatives and the items
of the last one, the latest first. -/
structure Partial where
  finished : List Piece
  items : List Piece

namespace Partial

def start : Partial := ⟨[], []⟩

def add (p : Partial) (pattern : Pattern) (depth : Nat) : Partial :=
  { p with items := ⟨pattern, depth, false⟩ :: p.items }

def alternative (p : Partial) : Partial := ⟨.sequence p.items :: p.finished, []⟩

def finish (p : Partial) : Piece :=
  match p.finished with
  | [] => .sequence p.items
  | _ =>
    let all := Piece.sequence p.items :: p.finished
    let depth := all.foldl (fun n p => max n p.depth) 0
    ⟨alternatives (all.reverse.map (·.pattern)), depth + 1, false⟩

/-- Repeats the last item. -/
def repeatLast? (p : Partial) (bounds : Bounds) : Option Partial :=
  match p.items with
  | [] => none
  | last :: items =>
    if last.isFlags then none
    else
      let again := repeated last.pattern bounds.1 bounds.2
      some { p with items := ⟨again, last.depth + 1, false⟩ :: items }

end Partial

/-- The groups that are remembered so far. -/
structure Groups where
  count : Nat
  names : List (List Char)

def isNameStart (c : Char) : Bool :=
  c = '_' || Text.isAlphabetic c

def isNameChar (c : Char) : Bool :=
  c = '_' || c = '.' || c = '[' || c = ']' || Text.isAlphabetic c || Text.isNumeric c

/-- Reads the name of a group; no two groups have one name. -/
def groupName? (names : List (List Char)) (cs : List Char) : Option (List Char × List Char) := do
  let (name, rest) ← Text.cut? '>' cs
  match name with
  | [] => none
  | c :: more =>
    if isNameStart c && more.all isNameChar && !names.contains name then some (name, rest) else none

/-- How a group begins. -/
inductive Opening
  | flags (f : Flags)
  /-- A group with the flags in it; it has a number when its match is remembered. -/
  | group (f : Flags) (groups : Groups) (index : Option Nat)

/-- Reads what follows an opening parenthesis. -/
def opening? (f : Flags) (groups : Groups) (cs : List Char) : Option (Opening × List Char) :=
  let count := groups.count + 1
  match cs with
  | '?' :: '=' :: _ | '?' :: '!' :: _ | '?' :: '<' :: '=' :: _ | '?' :: '<' :: '!' :: _ => none
  | '?' :: 'P' :: '<' :: rest | '?' :: '<' :: rest => do
    let (name, rest) ← groupName? groups.names rest
    some (.group f ⟨count, name :: groups.names⟩ (some count), rest)
  | '?' :: rest => do
    let letters := rest.takeWhile fun c => c ≠ ':' && c ≠ ')'
    let inner ← f.setAll? true [] letters
    match rest.dropWhile fun c => c ≠ ':' && c ≠ ')' with
    | ':' :: rest => some (.group inner groups none, rest)
    | ')' :: rest => if letters = [] then none else some (.flags inner, rest)
    | _ => none
  | cs => some (.group f ⟨count, groups.names⟩ (some count), cs)

/-- Reads a group up to its end: a closing parenthesis when it is `nested`, the end of the
text otherwise. -/
def group? (nested : Bool) : Nat → Flags → Groups → Partial → List Char →
    Option (Piece × Groups × List Char)
  | 0, _, _, _, _ => none
  | fuel + 1, f, groups, acc, cs =>
    let item (p : Pattern) (depth : Nat) (rest : List Char) :=
      group? nested fuel f groups (acc.add p depth) rest
    match f.skip cs with
    | [] => if nested then none else some (acc.finish, groups, [])
    | ')' :: rest => if nested then some (acc.finish, groups, rest) else none
    | '|' :: rest => group? nested fuel f groups acc.alternative rest
    | '(' :: rest => do
      match ← opening? f groups (f.skip rest) with
      | (.flags inner, rest) =>
        group? nested fuel inner groups { acc with items := .flags :: acc.items } rest
      | (.group inner groups index, rest) =>
        let (p, groups, rest) ← group? true fuel inner groups .start rest
        let pattern := match index with
          | some i => .group i p.pattern
          | none => p.pattern
        group? nested fuel f groups (acc.add pattern (p.depth + 1)) rest
    | '[' :: rest => do
      let (s, depth, rest) ← bracket? f rest
      item (.ofSet s) depth rest
    | '.' :: rest => do item (.ofSet (← f.dot?)) 0 rest
    | '^' :: rest => item (.anchor (if f.multiLine then .lineStart f.crlf else .start)) 0 rest
    | '$' :: rest => item (.anchor (if f.multiLine then .lineStop f.crlf else .stop)) 0 rest
    | '\\' :: rest => do
      match ← escape? f rest with
      | (.literal c byte, rest) => item (f.literal (← byteChar? f c byte)) 0 rest
      | (.set s, rest) => item (.ofSet s) 0 rest
      | (.anchor a, rest) => item (.anchor a) 0 rest
    | c :: rest =>
      match repetition f (c :: rest) with
      | some none => none
      | some (some (bounds, rest)) => do
        group? nested fuel f groups (← acc.repeatLast? bounds) rest
      | none => item (f.literal c) 0 rest

/-- How deep the constructs of a pattern may nest. -/
def maxDepth : Nat := 250

/-- Reads a text as a pattern. -/
def parse? (s : String) : Option Pattern := do
  let cs := s.toList
  let (p, _, _) ← group? false (2 * cs.length + 2) .standard ⟨0, []⟩ .start cs
  if maxDepth < p.depth then none else some p.pattern

/-- Why a text is refused as a pattern. -/
inductive Refusal
  | malformed
  | tooLarge
  deriving DecidableEq, Repr

def Refusal.message : Refusal → String
  | .malformed => "regex parse error"
  | .tooLarge => s!"Compiled regex exceeds size limit of {Layout.budget} bytes."

/-- Reads a text as a pattern that fits into the budget. -/
def read (s : String) : Except Refusal Pattern :=
  match parse? s with
  | none => .error .malformed
  | some p => if p.fits then .ok p else .error .tooLarge

end ChainGateway.Pattern
