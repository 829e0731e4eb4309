import ChainGateway.Text.Lowercase
import ChainGateway.Text.Pieces
import ChainGateway.Text.Utf8

/-!
# Request targets

A target is a path with an optional query, a whole address with a scheme and an
authority in front of it, or an authority alone. A fragment is dropped. Paths and
queries are kept as they were sent.
-/

namespace ChainGateway.Net

open Text

structure Target where
  scheme : Option String
  authority : Option String
  path : String
  query : Option String
  deriving DecidableEq, Repr, Inhabited

namespace Target

/-- Targets have at most this many bytes. -/
def maxBytes : Nat := 65534

/-- Schemes have at most this many characters. -/
def maxScheme : Nat := 64

def isAlphanumeric (c : Char) : Bool := c.isDigit || c.isAlpha

def inSchemes (c : Char) : Bool := isAlphanumeric c || "+-.~".toList.contains c

def inAuthorities (c : Char) : Bool := isAlphanumeric c || "!$&'()*+,-.:;=@[]_~".toList.contains c

def inPaths (c : Char) : Bool :=
  128 ≤ c.toNat || (0x20 < c.toNat && !"#<>?`".toList.contains c)

def inQueries (c : Char) : Bool :=
  128 ≤ c.toNat || (0x20 < c.toNat && !"\"#<>".toList.contains c)

/-- A path with its query; an empty path is the root. -/
def readPath? (cs : List Char) : Option (String × Option String) :=
  let cs := cs.takeWhile (· ≠ '#')
  let (path, query) := match cut? '?' cs with
    | some (path, query) => (path, some query)
    | none => (cs, none)
  if path.all inPaths && (query.getD []).all inQueries then
    some (.ofList (if path = [] then ['/'] else path), query.map String.ofList)
  else none

/-- The state of a check of an authority. -/
structure AuthorityCheck where
  colons : Nat
  opened : Bool
  closed : Bool
  percent : Bool
  /-- Whether the last character was an at sign. -/
  atSign : Bool

/-- Colons and percent signs count only behind the last at sign and the brackets. -/
def checkAuthority (s : AuthorityCheck) (c : Char) : Option AuthorityCheck :=
  let s := { s with atSign := c = '@' }
  if c = ':' then if s.colons < 8 then some { s with colons := s.colons + 1 } else none
  else if c = '[' then if s.percent || s.opened then none else some { s with opened := true }
  else if c = ']' then
    if !s.opened || s.closed then none
    else some { s with closed := true, colons := 0, percent := false }
  else if c = '@' then some { s with colons := 0, percent := false }
  else if c = '%' then some { s with percent := true }
  else if inAuthorities c then some s
  else none

def isAuthority (cs : List Char) : Bool :=
  match cs.foldlM checkAuthority ⟨0, false, false, false, false⟩ with
  | some s => s.opened == s.closed && s.colons ≤ 1 && !s.atSign && !s.percent
  | none => false

inductive SchemeCut
  | none
  | tooLong
  | found (scheme rest : List Char)

/-- The scheme in front of a colon and two slashes. -/
def cutScheme (cs : List Char) : SchemeCut :=
  let scheme := cs.takeWhile inSchemes
  match cs.dropWhile inSchemes with
  | ':' :: '/' :: '/' :: rest =>
    let lower := scheme.map Char.toLower
    if lower = "http".toList || lower = "https".toList then .found lower rest
    else if maxScheme < scheme.length then .tooLong
    else .found scheme rest
  | _ => .none

def endsAuthority (c : Char) : Bool := c = '/' || c = '?' || c = '#'

/-- A target that does not start with a slash. -/
def readFull? (cs : List Char) : Option Target :=
  match cutScheme cs with
  | .tooLong => none
  | .none =>
    if cs ≠ [] ∧ isAuthority cs then some ⟨none, some (.ofList cs), "", none⟩ else none
  | .found scheme rest => do
    let authority := rest.takeWhile fun c => !endsAuthority c
    if authority = [] || !isAuthority authority then none
    let (path, query) ← readPath? (rest.dropWhile fun c => !endsAuthority c)
    some ⟨some (.ofList scheme), some (.ofList authority), path, query⟩

def parse? (s : String) : Option Target :=
  if maxBytes < byteLength s then none
  else match s.toList with
    | ['*'] => some ⟨none, none, "*", none⟩
    | '/' :: rest => do
      let (path, query) ← readPath? ('/' :: rest)
      some ⟨none, none, path, query⟩
    | cs => readFull? cs

def print (t : Target) : String :=
  let scheme := match t.scheme with
    | some s => s ++ "://"
    | none => ""
  let query := match t.query with
    | some q => "?" ++ q
    | none => ""
  scheme ++ t.authority.getD "" ++ t.path ++ query

/-- Lower-cases the ASCII letters of the path and leaves the query alone. -/
def lowercasePath (t : Target) : Target := { t with path := asciiLowercase t.path }

end Target
end ChainGateway.Net
