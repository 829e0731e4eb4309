/-!
# Clients

A client is whoever shares one request budget: an address in its canonical text, or
all callers of unknown address together.
-/

namespace ChainGateway.Admission

structure Client where
  id : String
  deriving DecidableEq, Repr

def Client.unknown : Client := ⟨"unknown"⟩

end ChainGateway.Admission
