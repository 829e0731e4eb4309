/-!
# Lanes

A lane is an independent budget of concurrent requests. Expensive lookups have a
lane of their own, with one slot.
-/

namespace ChainGateway.Admission

inductive Lane
  | standard
  | heavyLookup
  deriving DecidableEq, Repr

namespace Lane

def all : List Lane := [.standard, .heavyLookup]

def name : Lane → String
  | .standard => "standard"
  | .heavyLookup => "heavy_lookup"

end Lane
end ChainGateway.Admission
