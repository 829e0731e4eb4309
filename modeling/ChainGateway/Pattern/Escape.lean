import ChainGateway.Pattern.Flags
import ChainGateway.Text.Digit
import ChainGateway.Text.Pieces
import ChainGateway.Text.Property.Query

/-!
# Escapes of patterns

An escape is one character, a set of characters or a condition on a place.
-/

namespace ChainGateway.Pattern

/-- What an escape stands for. -/
inductive Escape
  /-- A character; `byte` says that it was written as a byte in two digits. -/
  | literal (c : Char) (byte : Bool)
  | set (s : Text.CharSet)
  | anchor (a : Anchor)

def charOf? (n : Nat) : Option Char :=
  if n < 0xD800 ∨ (0xDFFF < n ∧ n < 0x110000) then some (Char.ofNat n) else none

/-- Reads exactly `n` hexadecimal digits. -/
def hexDigits? (f : Flags) : Nat → Nat → List Char → Option (Nat × List Char)
  | 0, acc, cs => some (acc, cs)
  | _ + 1, _, [] => none
  | n + 1, acc, c :: rest => do hexDigits? f n (acc * 16 + (← Text.hexDigit? c)) (f.skip rest)

/-- Reads a character by its number, of fixed width or in braces. -/
def hexEscape? (f : Flags) (width : Nat) (cs : List Char) : Option (Escape × List Char) :=
  match f.skip cs with
  | [] => none
  | c :: rest =>
    if c = openBrace then do
      let (digits, rest) ← braced? f rest
      if digits = [] then none
      else
        let values ← digits.mapM Text.hexDigit?
        let c ← charOf? (values.foldl (fun n d => n * 16 + d) 0)
        some (.literal c false, rest)
    else do
      let (n, rest) ← hexDigits? f width 0 (c :: rest)
      some (.literal (← charOf? n) (width = 2), rest)

/-- The text before and after the first `!=`. -/
def cutUnequal? : List Char → Option (List Char × List Char)
  | '!' :: '=' :: rest => some ([], rest)
  | c :: rest => (cutUnequal? rest).map fun (before, after) => (c :: before, after)
  | [] => none

/-- The characters of a property: a name, or a name and a value with `!=`, `:` or `=`
between them. The flag says whether the set is to be turned round. -/
def property? (query : List Char) : Option (Text.CharSet × Bool) :=
  match cutUnequal? query with
  | some (name, value) => (Text.charsWith? name (some value)).map (·, true)
  | none =>
    match Text.cut? ':' query <|> Text.cut? '=' query with
    | some (name, value) => (Text.charsWith? name (some value)).map (·, false)
    | none => (Text.charsWith? query none).map (·, false)

/-- Reads what follows `\p`: a letter, or a property in braces. -/
def propertyEscape? (f : Flags) (negated : Bool) (cs : List Char) :
    Option (Escape × List Char) :=
  match f.skip cs with
  | [] => none
  | c :: rest => do
    let (query, rest) ← if c = openBrace then braced? f rest
      else if c = '\\' then none
      else some ([c], f.skip rest)
    if !f.unicode then none
    else
      let (s, turned) ← property? query
      some (.set (← f.negate? (negated != turned) (f.fold s)), rest)

/-- The digits, blanks and word characters, of all scripts or of ASCII. -/
def letterSet? (f : Flags) (letter : Char) : Option Text.CharSet :=
  match letter, f.unicode with
  | 'd', true => some Text.decimalDigits
  | 's', true => some Text.blanks
  | 'w', true => some Text.wordChars
  | 'd', false => some ⟨[(48, 57)]⟩
  | 's', false => some ⟨[(9, 13), (32, 32)]⟩
  | 'w', false => some ⟨[(48, 57), (65, 90), (95, 95), (97, 122)]⟩
  | _, _ => none

/-- Which punctuation may follow a backslash and stands for itself. -/
def isEscapable (c : Char) : Bool :=
  c.toNat < 128 && !c.isAlphanum && c != '<' && c != '>'

/-- Reads what follows `\b`: nothing, or the name of a kind of word boundary in braces. A brace
that no letter follows is left for a repetition. -/
def boundary? (f : Flags) (cs : List Char) : Option (Anchor × List Char) :=
  let ascii := !f.unicode
  let isNameChar (c : Char) := c.isAlpha || c = '-'
  match cs with
  | [] => some (.wordBoundary ascii, [])
  | c :: rest =>
    if c ≠ openBrace then some (.wordBoundary ascii, cs)
    else match f.skip rest with
      | [] => none
      | first :: _ =>
        if !isNameChar first then some (.wordBoundary ascii, cs)
        else do
          let (name, rest) ← braced? f rest
          match String.ofList name with
          | "start" => some (.wordStart ascii, rest)
          | "end" => some (.wordStop ascii, rest)
          | "start-half" => some (.wordStartHalf ascii, rest)
          | "end-half" => some (.wordStopHalf ascii, rest)
          | _ => none

/-- Reads what follows a backslash. -/
def escape? (f : Flags) (cs : List Char) : Option (Escape × List Char) :=
  let char (n : Nat) (rest : List Char) : Option (Escape × List Char) :=
    some (.literal (Char.ofNat n) false, rest)
  let anchor (a : Anchor) (rest : List Char) : Option (Escape × List Char) := some (.anchor a, rest)
  let ascii := !f.unicode
  match cs with
  | [] => none
  | c :: rest =>
    if isEscapable c then some (.literal c false, rest)
    else match c with
      | 'a' => char 7 rest
      | 't' => char 9 rest
      | 'n' => char 10 rest
      | 'v' => char 11 rest
      | 'f' => char 12 rest
      | 'r' => char 13 rest
      | 'x' => hexEscape? f 2 rest
      | 'u' => hexEscape? f 4 rest
      | 'U' => hexEscape? f 8 rest
      | 'p' => propertyEscape? f false rest
      | 'P' => propertyEscape? f true rest
      | 'A' => anchor .start rest
      | 'z' => anchor .stop rest
      | 'b' => (boundary? f rest).map fun (a, rest) => (.anchor a, rest)
      | 'B' => anchor (.noWordBoundary ascii) rest
      | '<' => anchor (.wordStart ascii) rest
      | '>' => anchor (.wordStop ascii) rest
      | _ => do
        let s ← letterSet? f c.toLower
        some (.set (← f.negate? c.isUpper s), rest)

/-- A literal of an escape; outside Unicode a byte above ASCII is no character. -/
def byteChar? (f : Flags) (c : Char) (byte : Bool) : Option Char :=
  if byte && !f.unicode && 127 < c.toNat then none else some c

end ChainGateway.Pattern
