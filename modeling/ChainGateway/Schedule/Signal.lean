/-!
# Stop signals

A signal carries the latest value sent and whether its receiver has still to take
notice of it. It also tells the receiver when its sender is gone.
-/

namespace ChainGateway.Schedule

structure Signal where
  stop : Bool
  unseen : Bool
  connected : Bool
  deriving DecidableEq, Repr

namespace Signal

/-- A new signal; its first value is no news. -/
def new (stop : Bool) : Signal := ⟨stop, false, true⟩

def send (s : Signal) (stop : Bool) : Signal := { s with stop := stop, unseen := true }

def disconnect (s : Signal) : Signal := { s with connected := false }

/-- Whether the receiver has something to notice. -/
def pending (s : Signal) : Bool := s.unseen || !s.connected

/-- Takes notice: whether the receiver is to stop. -/
def notice (s : Signal) : Bool × Signal :=
  (s.stop || !s.connected, { s with unseen := false })

end Signal
end ChainGateway.Schedule
