import ChainGateway.Rehearsal.Result

/-!
# Store scripts

Steps on one store over virtual time.
-/

namespace ChainGateway.Rehearsal

open Cache

inductive StoreStep
  | insert (arguments : List Argument) (o : Outcome)
  | get (arguments : List Argument) (k : Model.Kind)
  | clear
  | purge
  | isEmpty
  | debug
  | sleep (millis : Nat)

namespace StoreStep

/-- One step on a store at the moment `now`. -/
def run (now : Nat) (s : Cache.Store) : StoreStep → Result × Nat × Cache.Store
  | .insert arguments o =>
    let (fault, s) := s.insert (.ofMillis now) (.ofArguments s.operation arguments) o
    (if fault.isSome then .failed else .nothing, now, s)
  | .get arguments k =>
    let (found, s) := s.get (.ofMillis now) (.ofArguments s.operation arguments)
    (.ofGet k found, now, s)
  | .clear => (.count s.size, now, s.clear)
  | .purge => (.count (s.expiredCount (.ofMillis now)), now, s.purge (.ofMillis now))
  | .isEmpty => (.flag (s.size == 0), now, s)
  | .debug => (.text s.debug, now, s)
  | .sleep millis => (.nothing, now + min millis thirtyYears, s)

/-- Runs steps from a moment on: each result with the counters after it. -/
def runAll (now : Nat) (s : Cache.Store) : List StoreStep → List (Result × Stats)
  | [] => []
  | step :: rest =>
    let (result, now, s) := step.run now s
    (result, s.stats) :: runAll now s rest

end StoreStep
end ChainGateway.Rehearsal
