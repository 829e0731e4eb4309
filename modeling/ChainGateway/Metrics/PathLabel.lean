import ChainGateway.Text.Digit
import ChainGateway.Text.Pieces

/-!
# Path labels

Metrics are kept per path, with identifiers replaced by placeholders so that there
are few labels. First unique identifiers are replaced wherever they stand, then whole
segments that are hexadecimal hashes, then whole segments of digits. One pass
takes the slash that closes a segment with it, so it misses the segment right after one
that it replaced; passes are repeated until there is nothing to replace.
-/

namespace ChainGateway.Metrics

open Text

namespace PathLabel

/-- The hexadecimal digits of the groups of a unique identifier. -/
def identifierGroups : List Nat := [8, 4, 4, 4, 12]

/-- What follows `n` hexadecimal digits. -/
def afterDigits? : Nat → List Char → Option (List Char)
  | 0, cs => some cs
  | n + 1, c :: cs => if isHexDigit c then afterDigits? n cs else none
  | _ + 1, [] => none

/-- What follows groups of hexadecimal digits with dashes between them. -/
def afterGroups? : List Nat → List Char → Option (List Char)
  | [], cs => some cs
  | [n], cs => afterDigits? n cs
  | n :: groups, cs => do
    match ← afterDigits? n cs with
    | '-' :: rest => afterGroups? groups rest
    | _ => none

/-- The number of characters of a unique identifier. -/
def identifierLength : Nat := 36

/-- Replaces unique identifiers from the left; the counter says how many characters still
belong to the one before. -/
def replaceIdentifiers : Nat → List Char → List Char
  | _, [] => []
  | skip + 1, _ :: rest => replaceIdentifiers skip rest
  | 0, c :: rest =>
    if (afterGroups? identifierGroups (c :: rest)).isSome then
      "\x7bid\x7d".toList ++ replaceIdentifiers (identifierLength - 1) rest
    else c :: replaceIdentifiers 0 rest

/-- A kind of segment with a placeholder. -/
inductive Mark
  | hash
  | number
  deriving DecidableEq, Repr

namespace Mark

def placeholder : Mark → List Char
  | .hash => "\x7bhash\x7d".toList
  | .number => "\x7bid\x7d".toList

def covers : Mark → List Char → Bool
  | .hash, '0' :: x :: digits =>
    (x = 'x' || x = 'X') && !digits.isEmpty && digits.all isHexDigit
  | .hash, _ => false
  | .number, segment => !segment.isEmpty && segment.all isDecimalDigit

/-- Whether a segment behind a slash is covered. -/
def occurs (m : Mark) (cs : List Char) : Bool := (pieces '/' cs).tail.any m.covers

/-- One pass from the left; the counter says how many characters still belong to the
segment replaced before, its closing slash among them. -/
def pass (m : Mark) : Nat → List Char → List Char
  | _, [] => []
  | skip + 1, _ :: rest => m.pass skip rest
  | 0, c :: rest =>
    let segment := rest.takeWhile (· ≠ '/')
    let closing := (rest.drop segment.length).take 1
    if c = '/' ∧ m.covers segment then
      '/' :: m.placeholder ++ closing ++ m.pass (segment.length + closing.length) rest
    else c :: m.pass 0 rest

/-- Passes until nothing is covered, at most `fuel` of them. -/
def exhaust (m : Mark) : Nat → List Char → List Char
  | 0, cs => cs
  | fuel + 1, cs => if m.occurs cs then m.exhaust fuel (m.pass 0 cs) else cs

end Mark

/-- The label of a path. -/
def ofPath (path : String) : String :=
  let cs := replaceIdentifiers 0 path.toList
  let cs := Mark.hash.exhaust cs.length cs
  .ofList (Mark.number.exhaust cs.length cs)

end PathLabel
end ChainGateway.Metrics
