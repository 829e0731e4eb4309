import ChainGateway.Json.Skip
import ChainGateway.Json.Value

/-!
# Codecs

A codec writes values of one type compactly and reads them with any blanks between
lexemes. A codec may have a value for a record field that is left out.
-/

namespace ChainGateway.Json

structure Codec (α : Type) where
  write : α → List Char
  read : Reader α
  /-- What a missing record field of this type means. -/
  missing : Option α := none

namespace Codec

variable {α : Type}

def encode (c : Codec α) (a : α) : String := .ofList (c.write a)

/-- The whole of a text as one value. -/
def decode (c : Codec α) (s : String) : Except DecodeFault α := do
  let (a, rest) ← c.read s.toList
  if skipGaps rest = [] then .ok a else .error .malformed

/-! ## Atoms -/

def text : Codec String where
  write := writeString
  read := readString

/-- Naturals up to `limit`, written as integers only. -/
def natural (limit : Nat) : Codec Nat where
  write := Text.natural
  read cs := do
    match ← readNumeral cs with
    | (.int n, rest) => if 0 ≤ n ∧ n ≤ limit then .ok (n.toNat, rest) else .error .malformed
    | (.real _, _) => .error .malformed

def boolean : Codec Bool where
  write b := if b then "true".toList else "false".toList
  read cs :=
    match skipGaps cs with
    | 't' :: rest => do .ok (true, ← readWord ['r', 'u', 'e'] rest)
    | 'f' :: rest => do .ok (false, ← readWord ['a', 'l', 's', 'e'] rest)
    | _ => .error .malformed

/-- Floating-point numbers: a number that is not finite is written as null, and an integer
is rounded once, whatever its size. -/
def floating (f : Binary.Format) : Codec (Binary.Number f) where
  write x := (x.wire?).getD "null".toList
  read cs := do
    match ← readNumeral cs with
    | (.int n, rest) => .ok (.ofInt f n, rest)
    | (.real x, rest) => .ok (x.convert f, rest)

/-! ## Combinators -/

/-- A value or null; a field of this type may be left out. -/
def optional (c : Codec α) : Codec (Option α) where
  write
    | some a => c.write a
    | none => "null".toList
  read cs :=
    match skipGaps cs with
    | 'n' :: rest => do .ok (none, ← readWord ['u', 'l', 'l'] rest)
    | cs => do let (a, rest) ← c.read cs; .ok (some a, rest)
  missing := some none

def writeItems (write : α → List Char) : List α → List Char
  | [] => []
  | [a] => write a
  | a :: rest => write a ++ ',' :: writeItems write rest

/-- Reads the items behind the opening bracket; each takes a character at least. -/
def readItems (read : Reader α) : Nat → Reader (List α)
  | 0, _ => .error .malformed
  | fuel + 1, cs => do
    let (a, rest) ← read cs
    match skipGaps rest with
    | ',' :: rest =>
      let (items, rest) ← readItems read fuel rest
      .ok (a :: items, rest)
    | ']' :: rest => .ok ([a], rest)
    | _ => .error .malformed

def list (c : Codec α) : Codec (List α) where
  write items := '[' :: writeItems c.write items ++ [']']
  read cs :=
    match skipGaps cs with
    | '[' :: rest =>
      match skipGaps rest with
      | ']' :: rest => .ok ([], rest)
      | rest => readItems c.read (rest.length + 1) rest
    | _ => .error .malformed

/-- A codec through an equivalent type. -/
def through {β : Type} (c : Codec α) (forth : β → α) (back : α → β) : Codec β where
  write b := c.write (forth b)
  read cs := do let (a, rest) ← c.read cs; .ok (back a, rest)
  missing := c.missing.map back

/-- Texts of which only some mean a value. -/
def parsed (print : α → String) (parse : String → Option α) : Codec α where
  write a := writeString (print a)
  read cs := do
    let (s, rest) ← readString cs
    match parse s with
    | some a => .ok (a, rest)
    | none => .error .malformed

/-- A fixed choice of words. A word may also be read as an object with that word for
its only name and null for its value. -/
def word [DecidableEq α] (all : List α) (name : α → String) : Codec α where
  write a := writeString (name a)
  read cs := do
    let choose (s : String) : Except DecodeFault α :=
      match all.find? fun a => name a = s with
      | some a => .ok a
      | none => .error .malformed
    match skipGaps cs with
    | '{' :: rest =>
      let (s, rest) ← readString rest
      let a ← choose s
      match skipGaps rest with
      | ':' :: rest =>
        match skipGaps rest with
        | 'n' :: rest =>
          match skipGaps (← readWord ['u', 'l', 'l'] rest) with
          | '}' :: rest => .ok (a, rest)
          | _ => .error .malformed
        | _ => .error .malformed
      | _ => .error .malformed
    | cs =>
      let (s, rest) ← readString cs
      .ok (← choose s, rest)

/-- Free-form values of limited depth. -/
def free (depth : Nat) : Codec Value where
  write := Value.write
  read := readValue depth

end Codec
end ChainGateway.Json
