import ChainGateway.Pattern.Escape

/-!
# Bracketed sets

A set of characters in brackets: characters, ranges, named sets, further brackets, and
operations between the unions of these.
-/

namespace ChainGateway.Pattern

/-- The named ASCII sets. -/
def asciiSet? (name : List Char) : Option Text.CharSet :=
  match String.ofList name with
  | "alnum" => some ⟨[(48, 57), (65, 90), (97, 122)]⟩
  | "alpha" => some ⟨[(65, 90), (97, 122)]⟩
  | "ascii" => some ⟨[(0, 127)]⟩
  | "blank" => some ⟨[(9, 9), (32, 32)]⟩
  | "cntrl" => some ⟨[(0, 31), (127, 127)]⟩
  | "digit" => some ⟨[(48, 57)]⟩
  | "graph" => some ⟨[(33, 126)]⟩
  | "lower" => some ⟨[(97, 122)]⟩
  | "print" => some ⟨[(32, 126)]⟩
  | "punct" => some ⟨[(33, 47), (58, 64), (91, 96), (123, 126)]⟩
  | "space" => some ⟨[(9, 13), (32, 32)]⟩
  | "upper" => some ⟨[(65, 90)]⟩
  | "word" => some ⟨[(48, 57), (65, 90), (95, 95), (97, 122)]⟩
  | "xdigit" => some ⟨[(48, 57), (65, 70), (97, 102)]⟩
  | _ => none

/-- What has been read of a union: its characters, how many items it has, and how deep
brackets nest in them. -/
structure Members where
  chars : Text.CharSet
  count : Nat
  depth : Nat

namespace Members

def none : Members := ⟨.empty, 0, 0⟩

def add (m : Members) (s : Text.CharSet) (depth : Nat) : Members :=
  ⟨m.chars.or s, m.count + 1, max m.depth depth⟩

/-- Several items nest one deeper than one item. -/
def nesting (m : Members) : Nat :=
  if m.count < 2 then m.depth else m.depth + 1

end Members

/-- One end of a range, or a whole set. -/
inductive Item
  | literal (c : Char)
  | set (s : Text.CharSet)

/-- Reads one item. Outside Unicode only ASCII stands in brackets. -/
def item? (f : Flags) (cs : List Char) : Option (Item × List Char) :=
  let literal (c : Char) (rest : List Char) : Option (Item × List Char) :=
    if f.unicode || c.toNat < 128 then some (.literal c, rest) else none
  match cs with
  | [] => none
  | '\\' :: rest => do
    match ← escape? f rest with
    | (.literal c _, rest) => literal c rest
    | (.set s, rest) => some (.set s, rest)
    | (.anchor _, _) => none
  | c :: rest => literal c rest

def Item.chars : Item → Text.CharSet
  | .literal c => .single c
  | .set s => s

/-- What stands behind a dash. Where blanks do not count they are passed over, and so is the
sign of a comment, but not its text. -/
def behindDash (f : Flags) (cs : List Char) : Option Char :=
  if !f.extended then cs.head?
  else go false cs <|> cs.head?
where
  go (comment : Bool) : List Char → Option Char
    | [] => none
    | c :: rest =>
      if Text.isBlank c then go comment rest
      else if c = '#' && !comment then go true rest
      else some c

/-- Reads a single item or a range. -/
def range? (f : Flags) (cs : List Char) : Option (Text.CharSet × List Char) := do
  let (first, rest) ← item? f cs
  match f.skip rest with
  | [] => none
  | '-' :: tail =>
    if behindDash f tail = some ']' || behindDash f tail = some '-' then
      some (first.chars, '-' :: tail)
    else
      match first, ← item? f (f.skip tail) with
      | .literal a, (.literal b, rest) =>
        if a.toNat ≤ b.toNat then some (.range a.toNat b.toNat, rest) else none
      | _, _ => none
  | rest => some (first.chars, rest)

/-- Reads a named ASCII set after its bracket. -/
def named? (cs : List Char) : Option (Text.CharSet × Bool × List Char) :=
  match cs with
  | ':' :: rest => do
    let (negated, rest) := match rest with
      | '^' :: rest => (true, rest)
      | rest => (false, rest)
    let (name, rest) ← Text.cut? ':' rest
    let rest ← Text.after? [']'] rest
    some (← asciiSet? name, negated, rest)
  | _ => none

/-- An operation between sets. -/
inductive SetOp
  | both
  | minus
  | either

def SetOp.apply : SetOp → Text.CharSet → Text.CharSet → Text.CharSet
  | .both, a, b => a.and b
  | .minus, a, b => a.without b
  | .either, a, b => a.either b

/-- The set to the left of an operation that waits for its right-hand side, with its
nesting. -/
abbrev Waiting := Option (SetOp × Text.CharSet × Nat)

/-- Completes an operation that waits; its sides do not tell cases apart if the flags say
so. -/
def close (f : Flags) (waiting : Waiting) (m : Members) : Text.CharSet × Nat :=
  match waiting with
  | none => (m.chars, m.nesting)
  | some (op, left, depth) => (op.apply (f.fold left) (f.fold m.chars), max depth m.nesting + 1)

/-- Reads dashes, which stand for themselves. -/
def dashes (f : Flags) : Nat → Members → List Char → Members × List Char
  | 0, m, cs => (m, cs)
  | fuel + 1, m, cs =>
    match cs with
    | '-' :: rest => dashes f fuel (m.add (.single '-') 0) (f.skip rest)
    | cs => (m, cs)

/-- Reads the start of a set after its bracket: a caret, and dashes or a bracket that
stand for themselves. -/
def opening (f : Flags) (cs : List Char) : Bool × Members × List Char :=
  let (negated, cs) := match f.skip cs with
    | '^' :: rest => (true, f.skip rest)
    | rest => (false, rest)
  match dashes f cs.length .none cs with
  | (m, ']' :: rest) =>
    if m.count = 0 then (negated, m.add (.single ']') 0, rest) else (negated, m, ']' :: rest)
  | (m, rest) => (negated, m, rest)

/-- The set of a bracket that has been read: without difference of case first, then turned
round. -/
def finish? (f : Flags) (negated : Bool) (s : Text.CharSet) : Option Text.CharSet :=
  f.negate? negated (f.fold s)

/-- Reads the rest of a set, with the nesting of its brackets. -/
def body? (f : Flags) :
    Nat → Waiting → Members → List Char → Option ((Text.CharSet × Nat) × List Char)
  | 0, _, _, _ => none
  | fuel + 1, waiting, m, cs =>
    let operation (op : SetOp) (rest : List Char) :=
      let (left, depth) := close f waiting m
      body? f fuel (some (op, left, depth)) .none rest
    match f.skip cs with
    | [] => none
    | ']' :: rest => some (close f waiting m, rest)
    | '&' :: '&' :: rest => operation .both rest
    | '-' :: '-' :: rest => operation .minus rest
    | '~' :: '~' :: rest => operation .either rest
    | '[' :: rest =>
      match named? rest with
      | some (s, negated, rest) => do
        body? f fuel waiting (m.add (← finish? f negated s) 0) rest
      | none => do
        let (negated, start, rest) := opening f rest
        let ((s, depth), rest) ← body? f fuel none start rest
        body? f fuel waiting (m.add (← finish? f negated s) (depth + 1)) rest
    | cs => do
      let (s, rest) ← range? f cs
      body? f fuel waiting (m.add s 0) rest

/-- Reads a bracketed set after its bracket, with the nesting of its brackets. -/
def bracket? (f : Flags) (cs : List Char) : Option (Text.CharSet × Nat × List Char) := do
  let (negated, start, rest) := opening f cs
  let ((s, depth), rest) ← body? f (rest.length + 1) none start rest
  some (← finish? f negated s, depth + 1, rest)

end ChainGateway.Pattern
