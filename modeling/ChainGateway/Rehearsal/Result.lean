import ChainGateway.Cache.Report
import ChainGateway.Epoch.Tracker

/-!
# Results of rehearsal steps

What one step of a script shows.
-/

namespace ChainGateway.Rehearsal

inductive Result
  | nothing
  /-- The step could not be computed. -/
  | failed
  | miss
  | mismatch
  | outcome (o : Outcome)
  | count (n : Nat)
  | flag (b : Bool)
  | text (s : String)
  | span (s : Span)
  | time (t : Timestamp)
  | policy (p : Cache.Policy)
  | stats (s : List Cache.Stats)
  | report (r : Cache.Report)
  | poll (p : Epoch.Poll)
  | pacing (p : Epoch.Pacing)
  /-- The rounds of a stopped periodic job and what they removed. -/
  | rounds (done removed : Nat)
  /-- Whether a signal had a receiver, and whether that has finished. -/
  | signal (sent finished : Bool)
  /-- The tracker when its watch had stopped. -/
  | watched (epoch : Option UInt64) (advances pollErrors : Nat)

/-- What reading `o` as kind `k` shows. -/
def Result.ofReplay (k : Model.Kind) (o : Outcome) : Result :=
  match o.replay k with
  | none => .mismatch
  | some (.ok v) => .outcome (.ok ⟨k, v⟩)
  | some (.error e) => .outcome (.error e)

/-- What a read of a store as kind `k` shows. -/
def Result.ofGet (k : Model.Kind) (found : Option Outcome) : Result :=
  match found with
  | none => .miss
  | some o => ofReplay k o

end ChainGateway.Rehearsal
