import ChainGateway.Pattern.Basic
import ChainGateway.Text.Blank

/-!
# Flags of patterns

Flags change how the rest of a group is read: whether case counts, which places are ends of
lines, what a dot stands for, and whether blanks and comments are left out of account.
-/

namespace ChainGateway.Pattern

structure Flags where
  ignoreCase : Bool
  multiLine : Bool
  dotAll : Bool
  unicode : Bool
  crlf : Bool
  /-- Blanks and comments are left out of account. -/
  extended : Bool
  deriving DecidableEq, Repr

namespace Flags

def standard : Flags := ⟨false, false, false, true, false, false⟩

/-- Sets the flag of a letter; a letter that is no flag gives nothing. Whether repetitions
prefer short matches does not matter here. -/
def set? (f : Flags) (letter : Char) (on : Bool) : Option Flags :=
  match letter with
  | 'i' => some { f with ignoreCase := on }
  | 'm' => some { f with multiLine := on }
  | 's' => some { f with dotAll := on }
  | 'u' => some { f with unicode := on }
  | 'R' => some { f with crlf := on }
  | 'x' => some { f with extended := on }
  | 'U' => some f
  | _ => none

/-- Sets flags by their letters; each letter and the minus sign stand at most once. -/
def setAll? (f : Flags) (on : Bool) (seen : List Char) : List Char → Option Flags
  | [] => if seen.head? = some '-' then none else some f
  | c :: rest =>
    if c ∈ seen then none
    else if c = '-' then f.setAll? false ('-' :: seen) rest
    else do (← f.set? c on).setAll? on (c :: seen) rest

/-- Adds what is alike when case does not count. -/
def fold (f : Flags) (s : Text.CharSet) : Text.CharSet :=
  if !f.ignoreCase then s else if f.unicode then s.foldCase else s.foldAsciiCase

/-- A character, and those that are alike when case does not count. -/
def literal (f : Flags) (c : Char) : Pattern :=
  if !f.ignoreCase then .text [c]
  else if f.unicode then .ofSet (.ofChars (c :: Text.alike c))
  else .ofSet (Text.CharSet.single c).foldAsciiCase

/-- The set that `.` stands for; outside Unicode it could split a character. -/
def dot? (f : Flags) : Option Text.CharSet :=
  if !f.unicode then none
  else if f.dotAll then some .all
  else if f.crlf then some (Text.CharSet.ofChars ['\n', '\r']).complement
  else some (Text.CharSet.single '\n').complement

/-- A set or all that is not in it; outside Unicode the latter could split a character. -/
def negate? (f : Flags) (negated : Bool) (s : Text.CharSet) : Option Text.CharSet :=
  if !negated then some s else if f.unicode then some s.complement else none

/-- Drops blanks and comments where they do not count. -/
def skip (f : Flags) (cs : List Char) : List Char :=
  if f.extended then go cs.length cs else cs
where
  go : Nat → List Char → List Char
    | 0, cs => cs
    | fuel + 1, cs =>
      match cs.dropWhile Text.isBlank with
      | '#' :: rest => go fuel (rest.dropWhile (· ≠ '\n'))
      | cs => cs

end Flags

def openBrace : Char := Char.ofNat 0x7B

def closeBrace : Char := Char.ofNat 0x7D

/-- Reads up to the closing brace, without what does not count. -/
def braced? (f : Flags) (cs : List Char) : Option (List Char × List Char) :=
  go cs.length cs
where
  go : Nat → List Char → Option (List Char × List Char)
    | 0, _ => none
    | fuel + 1, cs =>
      match f.skip cs with
      | [] => none
      | c :: rest =>
        if c = closeBrace then some ([], rest)
        else (go fuel rest).map fun (inner, rest) => (c :: inner, rest)

end ChainGateway.Pattern
