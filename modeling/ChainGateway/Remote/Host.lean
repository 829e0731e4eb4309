import ChainGateway.Net.Address
import ChainGateway.Net.Percent
import ChainGateway.Remote.Domain.Label

/-!
# Hosts

The host of an address on the web: a domain name in ASCII, or an address of version 4
or 6 in its canonical text. A name whose last label is a number is meant as an address
of version 4, which may have fewer than four parts and octal or hexadecimal ones.
-/

namespace ChainGateway.Remote

open Text

inductive UrlFault
  | relative
  | opaquePath
  | emptyHost
  | invalidPortNumber
  | invalidV6
  | invalidV4
  | invalidDomain
  | invalidCharacter
  deriving DecidableEq, Repr

def UrlFault.message : UrlFault → String
  | .relative => "relative URL without a base"
  | .opaquePath => "not a base URL"
  | .emptyHost => "empty host"
  | .invalidPortNumber => "invalid port number"
  | .invalidV6 => "invalid IPv6 address"
  | .invalidV4 => "invalid IPv4 address"
  | .invalidDomain => "invalid international domain name"
  | .invalidCharacter => "invalid domain character"

namespace Host

/-! ## Version 6 -/

def readV6 (cs : List Char) : Except UrlFault (List Char) :=
  match Net.Address.readEight? cs with
  | some (groups, []) => .ok ('[' :: Net.Address.compressed groups ++ [']'])
  | _ => .error .invalidV6

/-- A host in brackets, behind the opening one. -/
def readBracketed (cs : List Char) : Except UrlFault (List Char) :=
  if cs.getLast? = some ']' then readV6 cs.dropLast else .error .invalidV6

/-! ## Version 4 -/

/-- A part of an address: nothing when it is no number. -/
def numberPart? (cs : List Char) : Option Nat :=
  let value (base : Nat) (ds : List Char) : Option Nat :=
    ds.foldlM (fun n c => do
      let d ← hexDigit? c
      if d < base then some (n * base + d) else none) 0
  match cs with
  | [] => none
  | '0' :: 'x' :: ds | '0' :: 'X' :: ds => value 16 ds
  | '0' :: d :: ds => value 8 (d :: ds)
  | ds => value 10 ds

/-- The labels without the empty one behind a last dot. -/
def labels (domain : List Char) : List (List Char) :=
  let parts := pieces '.' domain
  if parts.getLast? = some [] then parts.dropLast else parts

def endsInNumber (domain : List Char) : Bool :=
  match (labels domain).getLast? with
  | some last => (last ≠ [] && last.all Char.isDigit) || (numberPart? last).isSome
  | none => false

/-- The last part fills the bytes that the parts before it leave. -/
def readV4 (domain : List Char) : Except UrlFault (List Char) :=
  match (labels domain).mapM numberPart? with
  | none => .error .invalidV4
  | some numbers =>
    let lead := numbers.dropLast
    let last := numbers.getLast?.getD 0
    if 4 < numbers.length || lead.any (255 < ·) || Nat.pow 256 (4 - lead.length) ≤ last then
      .error .invalidV4
    else
      let rest := (List.range (4 - lead.length)).map fun i =>
        last / Nat.pow 256 (3 - lead.length - i) % 256
      .ok (Net.Address.dotted (lead ++ rest))

/-! ## Hosts -/

/-- A host of an address on the web. -/
def read (cs : List Char) : Except UrlFault (List Char) :=
  match cs with
  | '[' :: rest => readBracketed rest
  | cs =>
    match Domain.ascii? (Net.percentDecode (utf8Bytes cs)) with
    | none => .error .invalidDomain
    | some [] => .error .emptyHost
    | some domain => if endsInNumber domain then readV4 domain else .ok domain

/-- A host of any other address; its characters are kept, control ones encoded. -/
def readOther (cs : List Char) : Except UrlFault (List Char) :=
  match cs with
  | '[' :: rest => readBracketed rest
  | cs =>
    if cs.any fun c => c = Char.ofNat 0 || " #/:<>?@[\\]^|".toList.contains c then
      .error .invalidCharacter
    else .ok (Net.percentEncode (fun c => c.toNat < 32 || c.toNat = 127) cs)

end Host
end ChainGateway.Remote
