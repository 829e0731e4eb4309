import ChainGateway.Text.Digit
import ChainGateway.Text.Pieces

/-!
# Lexemes of the data format

Blanks, words and quoted strings. A reader takes the text before it and returns
what it read with the text behind it; strings are written with as few escapes as
the format allows.
-/

namespace ChainGateway.Json

/-- Why a text is not the wanted value. -/
inductive DecodeFault
  | missingField (name : String)
  | duplicateField (name : String)
  | malformed
  deriving DecidableEq, Repr

/-- Reads one `α` from the front of a text. -/
abbrev Reader (α : Type) := List Char → Except DecodeFault (α × List Char)

def isGap (c : Char) : Bool :=
  c == ' ' || c == '\n' || c == '\t' || c == '\r'

def skipGaps (cs : List Char) : List Char :=
  cs.dropWhile isGap

/-- Reads exactly `word`. -/
def readWord (word : List Char) (cs : List Char) : Except DecodeFault (List Char) :=
  match Text.after? word cs with
  | some rest => .ok rest
  | none => .error .malformed

/-! ## Strings -/

def escapedChar (c : Char) : List Char :=
  if c = '"' then ['\\', '"']
  else if c = '\\' then ['\\', '\\']
  else if c.toNat < 32 then
    if c.toNat = 8 then ['\\', 'b']
    else if c.toNat = 12 then ['\\', 'f']
    else if c = '\n' then ['\\', 'n']
    else if c = '\r' then ['\\', 'r']
    else if c = '\t' then ['\\', 't']
    else ['\\', 'u', '0', '0', Text.hexDigit (c.toNat / 16), Text.hexDigit (c.toNat % 16)]
  else [c]

/-- The quoted form of a text. -/
def writeString (s : String) : List Char :=
  '"' :: s.toList.flatMap escapedChar ++ ['"']

/-- The character that a one-letter escape stands for. -/
def simpleEscape? (c : Char) : Option Char :=
  if c = '"' || c = '\\' || c = '/' then some c
  else if c = 'b' then some (Char.ofNat 8)
  else if c = 'f' then some (Char.ofNat 12)
  else if c = 'n' then some '\n'
  else if c = 'r' then some '\r'
  else if c = 't' then some '\t'
  else none

def readHex4 : List Char → Except DecodeFault (Nat × List Char)
  | a :: b :: c :: d :: rest =>
    match Text.hexDigit? a, Text.hexDigit? b, Text.hexDigit? c, Text.hexDigit? d with
    | some a, some b, some c, some d => .ok (a * 4096 + b * 256 + c * 16 + d, rest)
    | _, _, _, _ => .error .malformed
  | _ => .error .malformed

/-- Reads what follows `\u`; a high surrogate needs its low one behind it. -/
def readUnicode (cs : List Char) : Except DecodeFault (Char × List Char) := do
  let (n, rest) ← readHex4 cs
  if 0xDC00 ≤ n && n < 0xE000 then .error .malformed
  else if 0xD800 ≤ n && n < 0xDC00 then
    let rest ← readWord ['\\', 'u'] rest
    let (m, rest) ← readHex4 rest
    if 0xDC00 ≤ m && m < 0xE000 then
      .ok (Char.ofNat (0x10000 + (n - 0xD800) * 0x400 + (m - 0xDC00)), rest)
    else .error .malformed
  else .ok (Char.ofNat n, rest)

/-- Reads characters up to the closing quote. Every step takes one, so the length of
the text is fuel enough. -/
def readCharsFrom : Nat → List Char → Except DecodeFault (List Char × List Char)
  | 0, _ | _, [] => .error .malformed
  | fuel + 1, c :: rest =>
    if c = '"' then .ok ([], rest)
    else if c = '\\' then
      match rest with
      | [] => .error .malformed
      | e :: rest =>
        if e = 'u' then do
          let (c, rest) ← readUnicode rest
          let (cs, rest) ← readCharsFrom fuel rest
          .ok (c :: cs, rest)
        else
          match simpleEscape? e with
          | none => .error .malformed
          | some c => do
            let (cs, rest) ← readCharsFrom fuel rest
            .ok (c :: cs, rest)
    else if c.toNat < 32 then .error .malformed
    else do
      let (cs, rest) ← readCharsFrom fuel rest
      .ok (c :: cs, rest)

def readString : Reader String := fun cs =>
  match skipGaps cs with
  | '"' :: rest => do
    let (chars, rest) ← readCharsFrom rest.length rest
    .ok (.ofList chars, rest)
  | _ => .error .malformed

end ChainGateway.Json
