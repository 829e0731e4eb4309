import ChainGateway.Remote.Host
import ChainGateway.Remote.Url.Basic

/-!
# Reading web addresses

Blanks and control characters around an address are dropped, tabs and line ends also
inside it. A web scheme takes any number of slashes of either direction before its
host. An address whose path is not made of segments is rejected.
-/

namespace ChainGateway.Remote

open Text Net

namespace Url

def trimEnds (cs : List Char) : List Char :=
  let front := cs.dropWhile fun c => c.toNat ≤ 32
  (front.reverse.dropWhile fun c => c.toNat ≤ 32).reverse

/-- The text before `sep`, and behind it if there is one. -/
def cutOff (sep : Char) (cs : List Char) : List Char × Option (List Char) :=
  match cut? sep cs with
  | some (before, after) => (before, some after)
  | none => (cs, none)

def isSchemeChar (c : Char) : Bool :=
  c.isAlphanum || c = '+' || c = '-' || c = '.'

def readScheme (cs : List Char) : Except UrlFault (List Char × List Char) :=
  match cut? ':' cs with
  | some (front, rest) =>
    let scheme := visible front
    if scheme.head?.any Char.isAlpha && scheme.all isSchemeChar then
      .ok (scheme.map Char.toLower, rest)
    else .error .relative
  | none => .error .relative

/-! ## Authorities -/

/-- The host in front, up to a colon outside brackets. -/
def splitHost (inside : Bool) : List Char → List Char × List Char
  | [] => ([], [])
  | c :: rest =>
    if c = ':' && !inside then ([], c :: rest)
    else
      let inside := if c = '[' then true else if c = ']' then false else inside
      let (host, rest) := splitHost inside rest
      (c :: host, rest)

def readPortNumber (form : SchemeForm) (cs : List Char) : Except UrlFault (Option Nat) :=
  match cs with
  | [] => .ok none
  | cs =>
    match readDigits maxU16 0 cs with
    | .ok n => .ok (if form = .web n then none else some n)
    | .error _ => .error .invalidPortNumber

/-- A password that is empty is left out with its colon. -/
def readUser (cs : List Char) : List Char :=
  match cutOff ':' cs with
  | (name, none) | (name, some []) => percentEncode encodedInUser name
  | (name, some password) =>
    percentEncode encodedInUser name ++ ':' :: percentEncode encodedInUser password

/-- Reads an authority; `more` says whether anything follows it. A backslash ends a socket
number, and it is left with what is behind it. -/
def readAuthority (form : SchemeForm) (more : Bool) (cs : List Char) :
    Except UrlFault (Authority × List Char) := do
  let (user, cs, marked) :=
    match cutLast? '@' cs with
    | some (user, cs) => (readUser user, cs, user.isEmpty)
    | none => ([], cs, false)
  let (host, rest) := splitHost false cs
  if host = [] then
    if form ≠ .other || user ≠ [] || rest ≠ [] || (marked && more) then .error .emptyHost
    else .ok (⟨[], [], none⟩, [])
  else
    let host ← if form = .other then Host.readOther host else Host.read host
    let portNumber ← readPortNumber form (rest.tail.takeWhile (· ≠ '\\'))
    .ok (⟨user, host, portNumber⟩, rest.tail.dropWhile (· ≠ '\\'))

/-! ## Paths -/

def readPath (form : SchemeForm) (cs : List Char) : List (List Char) :=
  resolve form [] ((pieces '/' cs).map (percentEncode fun c => encodedInPath c && !isIgnored c))

/-- Host and path of a file. A drive is no host, and needs none. -/
def readFile (cs : List Char) : Except UrlFault (List Char × List (List Char)) :=
  match cs with
  | '/' :: '/' :: cs => do
    let (front, path) := cutOff '/' cs
    if isDrive (visible front) then .ok ([], readPath .file cs)
    else
      let host ← if visible front = [] then .ok [] else Host.read (visible front)
      if host = [] ∨ host = "localhost".toList then
        .ok ([], readPath .file (cs.drop front.length))
      else
        let path := readPath .file (path.getD [])
        .ok (if path.head?.any isDrive then [] else host, path)
  | '/' :: cs | cs => .ok ([], readPath .file cs)

/-- Slashes in front, with nothing ignored among them. -/
def settleSlashes (form : SchemeForm) (cs : List Char) : List Char :=
  let cs := if form = .other then cs else cs.map fun c => if c = '\\' then '/' else c
  let isFront (c : Char) : Bool := c = '/' || isIgnored c
  visible (cs.takeWhile isFront) ++ cs.dropWhile isFront

/-- What stands between scheme and query. -/
def readHierarchy (form : SchemeForm) (more : Bool) (cs : List Char) :
    Except UrlFault (Option Authority × List (List Char)) := do
  match form, settleSlashes form cs with
  | .web _, cs =>
    let cs := cs.dropWhile (· = '/')
    let (front, path) := cutOff '/' cs
    let (authority, _) ← readAuthority form (more || path.isSome) (visible front)
    .ok (some authority, readPath form (path.getD []))
  | .file, cs =>
    let (host, path) ← readFile cs
    .ok (some ⟨[], host, none⟩, settle .file path)
  | .other, '/' :: '/' :: cs =>
    let (front, path) := cutOff '/' cs
    let (authority, left) ← readAuthority form (more || path.isSome) (visible front)
    let path := if left = [] then path else some (joined ['/'] (left :: path.toList))
    .ok (some authority, (path.map (readPath form)).getD [])
  | .other, '/' :: cs => .ok (none, readPath form cs)
  | .other, _ => .error .opaquePath

/-! ## Addresses -/

def parse (s : String) : Except UrlFault Url := do
  let (scheme, rest) ← readScheme (trimEnds s.toList)
  let form := formOf scheme
  let (rest, fragment) := cutOff '#' rest
  let (rest, query) := cutOff '?' rest
  let (authority, path) ← readHierarchy form (query.isSome || fragment.isSome) rest
  .ok {
    scheme, authority, path
    guarded := authority.isNone && path.head? = some [] && 1 < path.length
    query := query.map fun q => percentEncode (encodedInQuery form) (visible q)
    fragment := fragment.map fun f => percentEncode encodedInFragment (visible f)
  }

end Url
end ChainGateway.Remote
