import ChainGateway.Pattern.Basic

/-!
# Matching

To find a match, a pattern is written out with a mark at each of its characters. A text
is read once, from its start to its end: a mark stands where a match that began earlier
has just met its character. `exits` says whether the marks, or a match that begins here,
reach the end of the pattern at a place, and `step` moves all marks over one character.
-/

namespace ChainGateway.Pattern

/-- A pattern that is being met. -/
inductive Marked
  | empty
  | char (s : Text.CharSet) (mark : Bool)
  | anchor (a : Anchor)
  | seq (p q : Marked)
  | alt (p q : Marked)
  /-- Once or more often. -/
  | many (p : Marked)

namespace Marked

/-- Whether a match ends at a place; `enter` says that one may begin there. -/
def exits (place : Place) : Marked → Bool → Bool
  | .empty, enter => enter
  | .char _ mark, _ => mark
  | .anchor a, enter => enter && a.holds place
  | .seq p q, enter => q.exits place (p.exits place enter)
  | .alt p q, enter => p.exits place enter || q.exits place enter
  | .many p, enter => p.exits place enter

/-- Moves the marks over the character `c` that follows a place, and says whether a match
ended at the place. -/
def step (place : Place) (c : Char) : Marked → Bool → Marked × Bool
  | .empty, enter => (.empty, enter)
  | .char s mark, enter => (.char s (enter && s.contains c), mark)
  | .anchor a, enter => (.anchor a, enter && a.holds place)
  | .seq p q, enter =>
    let (p, met) := p.step place c enter
    let (q, met) := q.step place c met
    (.seq p q, met)
  | .alt p q, enter =>
    let (p, left) := p.step place c enter
    let (q, right) := q.step place c enter
    (.alt p q, left || right)
  | .many p, enter =>
    let (p, met) := p.step place c (enter || p.exits place enter)
    (.many p, met)

/-- Whether a match ends at a place of the text or behind it; matches may begin at each
place. -/
def scan (m : Marked) (before : List Char) : List Char → Bool
  | [] => m.exits ⟨before, []⟩ true
  | c :: rest =>
    let (m, met) := m.step ⟨before, c :: rest⟩ c true
    met || m.scan (c :: before) rest

/-- A pattern `n` times in a row. -/
def copies (p : Marked) (n : Nat) : Marked :=
  if n = 0 then .empty
  else if n = 1 then p
  else .seq (p.copies (n / 2)) (p.copies (n - n / 2))
termination_by n

end Marked

/-- A pattern written out without marks. In a text of less than `bound` characters no
pattern has to be met more than `bound` times, as all further matches would be empty; and
what needs more characters cannot be met at all. -/
def marked (bound : Nat) : Pattern → Marked
  | .empty => .empty
  | .text cs => cs.foldr (fun c rest => .seq (.char (.single c) false) rest) .empty
  | .oneOf s => .char s false
  | .anchor a => .anchor a
  | .group _ p => p.marked bound
  | .seq p q => .seq (p.marked bound) (q.marked bound)
  | .alt p q => .alt (p.marked bound) (q.marked bound)
  | .repeat p least most =>
    if bound ≤ p.leastLength * least then .char .empty false else
    let p := p.marked bound
    let least := min least bound
    match most with
    | none =>
      if least = 0 then .alt (.many p) .empty else .seq (p.copies (least - 1)) (.many p)
    | some most => .seq (p.copies least) (Marked.copies (.alt p .empty) (min most bound - least))

/-- Whether the text holds a match anywhere. -/
def isMatch (p : Pattern) (s : String) : Bool :=
  (p.marked (s.length + 1)).scan [] s.toList

end ChainGateway.Pattern
