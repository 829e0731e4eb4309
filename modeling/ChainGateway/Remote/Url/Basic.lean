import ChainGateway.Net.Percent
import ChainGateway.Text.Numeral
import ChainGateway.Text.Pieces

/-!
# Web addresses

The address of a resource on the web: a scheme, an authority, a path of segments, and
perhaps a query and a fragment. All parts are kept as they are written, so every part
is free of the characters that would end it. The path of a web scheme is never empty.
-/

namespace ChainGateway.Remote

open Text Net

/-- What a scheme says about the form of its addresses. -/
inductive SchemeForm
  /-- A scheme of the web, with the socket number that goes without saying. -/
  | web (portNumber : Nat)
  | file
  | other
  deriving DecidableEq, Repr

structure Authority where
  /-- Name and password, with the colon between them. -/
  user : List Char
  host : List Char
  portNumber : Option Nat
  deriving DecidableEq, Repr

structure Url where
  scheme : List Char
  authority : Option Authority
  /-- Whether a dot keeps the slashes in front of the path from opening an authority. -/
  guarded : Bool
  path : List (List Char)
  query : Option (List Char)
  fragment : Option (List Char)
  deriving DecidableEq, Repr

/-! ## Characters that are percent encoded -/

def encodedInFragment (c : Char) : Bool :=
  c.toNat ≤ 32 || c.toNat = 127 || "\"<>`".toList.contains c

def encodedInPath (c : Char) : Bool :=
  encodedInFragment c || "#?\x7b\x7d".toList.contains c

def encodedInUser (c : Char) : Bool :=
  encodedInPath c || "/:;=@[\\]^|".toList.contains c

/-- Within a segment of its own, the separators are encoded too. -/
def encodedInSegment (form : SchemeForm) (c : Char) : Bool :=
  encodedInPath c || c = '/' || c = '%' || (form ≠ .other && c = '\\')

def encodedInQuery (form : SchemeForm) (c : Char) : Bool :=
  c.toNat ≤ 32 || c.toNat = 127 || "\"#<>".toList.contains c || (form ≠ .other && c = '\'')

namespace Url

def formOf (scheme : List Char) : SchemeForm :=
  match String.ofList scheme with
  | "http" | "ws" => .web 80
  | "https" | "wss" => .web 443
  | "ftp" => .web 21
  | "file" => .file
  | _ => .other

def form (u : Url) : SchemeForm := formOf u.scheme

/-! ## Paths -/

/-- The one character that a dot may be written as, in either case. -/
def plainDots : List Char → List Char
  | '%' :: '2' :: 'e' :: rest | '%' :: '2' :: 'E' :: rest => '.' :: plainDots rest
  | c :: rest => c :: plainDots rest
  | [] => []

/-- Whether a segment names a drive. -/
def isDrive : List Char → Bool
  | [c, ':'] | [c, '|'] => c.isAlpha
  | _ => false

/-- Goes one segment up, but never out of a drive. -/
def leave (done : List (List Char)) : List (List Char) :=
  if done.getLast?.any isDrive then done else done.dropLast

/-- Tabs and line ends do not count. -/
def isIgnored (c : Char) : Bool := c = '\t' || c = '\n' || c = '\r'

def visible (cs : List Char) : List Char := cs.filter (!isIgnored ·)

/-- A drive and the rest of its segment, where an ignored character parts them. -/
def partDrive? (segment : List Char) : Option (List Char × List Char) := do
  let (drive, rest) ← cut? ':' segment
  if !isDrive (visible drive ++ [':']) || !rest.head?.any isIgnored || visible rest = [] then none
  else some (visible drive ++ [':'], visible rest)

/-- Adds a segment. A file's path starts with the drive, whose mark is a colon. -/
def append (form : SchemeForm) (done : List (List Char)) (segment : List Char) :
    List (List Char) :=
  let plain := done ++ [visible segment]
  if form = .file ∧ done = [] then
    if isDrive (visible segment) then [(visible segment).take 1 ++ [':']]
    else match partDrive? segment with
      | some (drive, rest) => [drive, rest]
      | none => plain
  else plain

/-- One more segment before others: a dot stands for no segment, and two dots lead out of
the last one. -/
def enter (form : SchemeForm) (done : List (List Char)) (segment : List Char) :
    List (List Char) :=
  match plainDots (visible segment) with
  | ['.'] => done
  | ['.', '.'] => leave done
  | _ => append form done segment

/-- The last segment; behind dots it is empty. -/
def close (form : SchemeForm) (done : List (List Char)) (segment : List Char) :
    List (List Char) :=
  match plainDots (visible segment) with
  | ['.'] | ['.', '.'] => enter form done segment ++ [[]]
  | _ => append form done segment

def resolve (form : SchemeForm) (done : List (List Char)) :
    List (List Char) → List (List Char)
  | [] => done
  | [segment] => close form done segment
  | segment :: rest => resolve form (enter form done segment) rest

/-- The path of a file has no empty segments in front. -/
def settle (form : SchemeForm) (path : List (List Char)) : List (List Char) :=
  if form = .file then
    match path.dropWhile (· = []) with
    | [] => [[]]
    | path => path
  else path

/-- An empty segment at the end is taken away, unless it is the only one. -/
def trimPath (u : Url) : Url :=
  if 1 < u.path.length ∧ u.path.getLast? = some [] then { u with path := u.path.dropLast } else u

/-- Adds a segment to the path, whose characters are encoded as far as needed. -/
def push (u : Url) (segment : String) : Url :=
  if segment = "." ∨ segment = ".." then u
  else
    let done := if u.path = [[]] then [] else u.path
    let text := percentEncode (encodedInSegment u.form) (visible segment.toList)
    { u with path := settle u.form (close u.form done text) }

/-- Adds `name` with a number to the query. -/
def ask (u : Url) (name : String) (n : Nat) : Url :=
  let pair := name.toList ++ '=' :: natural n
  match u.query with
  | none | some [] => { u with query := some pair }
  | some q => { u with query := some (q ++ '&' :: pair) }

/-! ## Text -/

def Authority.print (a : Authority) : List Char :=
  (if a.user = [] then [] else a.user ++ ['@']) ++ a.host ++
    match a.portNumber with
    | some n => ':' :: natural n
    | none => []

def pathText (u : Url) : List Char := u.path.flatMap ('/' :: ·)

def print (u : Url) : String :=
  .ofList <| u.scheme ++ ':' ::
    (match u.authority with
      | some a => '/' :: '/' :: Authority.print a
      | none => []) ++
    (if u.guarded then ['/', '.'] else []) ++ u.pathText ++
    (match u.query with
      | some q => '?' :: q
      | none => []) ++
    match u.fragment with
    | some f => '#' :: f
    | none => []

/-- The address without name and password. -/
def anonymous (u : Url) : Url :=
  { u with authority := u.authority.map fun a => { a with user := [] } }

def hasHost (u : Url) : Bool :=
  match u.authority with
  | some a => a.host ≠ []
  | none => false

end Url
end ChainGateway.Remote
