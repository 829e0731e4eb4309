import ChainGateway.Admission.Client
import ChainGateway.Net.Address
import ChainGateway.Net.Target
import ChainGateway.Text.Blank

/-!
# Requests

A request as it arrives, and the client it comes from: the first address that a proxy
forwarded, else the address a proxy reports as real, else the peer of the connection.
A header that is no readable text or no address is passed over.
-/

namespace ChainGateway.Web

open Text Net

structure Request where
  method : String
  target : Target
  /-- Names are lower-case. -/
  headers : List (String × String)
  peer : Option Address
  deriving DecidableEq

namespace Request

def isTokenChar (c : Char) : Bool :=
  c.isDigit || c.isAlpha || "!#$%&'*+-.^_`|~".toList.contains c

def isToken (s : String) : Bool := !s.isEmpty && s.toList.all isTokenChar

/-- Values hold anything but control characters; a tab is allowed. -/
def isHeaderValue (s : String) : Bool :=
  s.toList.all fun c => c = '\t' || (32 ≤ c.toNat && c.toNat ≠ 127)

/-- A request, when its parts are well formed. -/
def build? (method uri : String) (headers : List (String × String)) (peer : Option Address) :
    Option Request := do
  let target ← Target.parse? uri
  if isToken method && headers.all fun (name, value) => isToken name && isHeaderValue value then
    some ⟨method, target, headers.map fun (name, value) => (asciiLowercase name, value), peer⟩
  else none

/-- The request with its path in lower case. -/
def lowercasePath (r : Request) : Request := { r with target := r.target.lowercasePath }

/-- The first header of a name, when it is readable. -/
def header? (r : Request) (name : String) : Option String := do
  let value := (← r.headers.find? fun h => h.1 = name).2
  if value.toList.all fun c => c = '\t' || (32 ≤ c.toNat && c.toNat < 127) then some value
  else none

def forwardedAddress? (r : Request) : Option Address := do
  let value ← r.header? "x-forwarded-for"
  Address.parse? (trimList (value.toList.takeWhile (· ≠ ',')))

def realAddress? (r : Request) : Option Address := do
  let value ← r.header? "x-real-ip"
  Address.parse? (trimList value.toList)

/-- The address of the caller, where one is known. -/
def address? (r : Request) : Option Address :=
  r.forwardedAddress? <|> r.realAddress? <|> r.peer

def client (r : Request) : Admission.Client :=
  match r.address? with
  | some a => ⟨.ofList a.print⟩
  | none => .unknown

end Request
end ChainGateway.Web
