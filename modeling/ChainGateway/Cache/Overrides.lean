import ChainGateway.Cache.Policy
import ChainGateway.Text.Blank
import ChainGateway.Text.Pieces

/-!
# Policy overrides

Overrides are listed with commas, each `Name=capacity:seconds` or `Name=bypass`;
blanks around every part and blank items are allowed. Items take effect in order, up
to the first that is rejected.
-/

namespace ChainGateway.Cache

namespace Overrides

def setting : String := "LEDGERLINE_CACHE_OVERRIDES"

def reject (item : List Char) (reason : String) : ConfigError :=
  .invalidValue setting (.ofList item) reason

def number (item part : List Char) (reason : String) : Except ConfigError Nat :=
  match Text.readNatural Text.maxU64 (Text.trimList part) with
  | .ok n => .ok n
  | .error _ => .error (reject item reason)

/-- Reads one item that has no blanks around it. -/
def parseItem (item : List Char) : Except ConfigError (Operation × Policy) :=
  match Text.cut? '=' item with
  | none => .error (reject item "expected Op=capacity:ttl_secs or Op=bypass")
  | some (name, rest) => do
    let op ← Operation.parse (.ofList (Text.trimList name))
    let rest := Text.trimList rest
    if rest.map Char.toLower = "bypass".toList then .ok (op, .bypass)
    else match Text.cut? ':' rest with
      | none => .error (reject item "expected capacity:ttl_secs")
      | some (capacity, ttl) => do
        let capacity ← number item capacity "capacity is not a number"
        let ttl ← number item ttl "ttl_secs is not a number"
        .ok (op, ⟨capacity, .ofSeconds ttl⟩)

def items (spec : String) : List (List Char) :=
  ((Text.pieces ',' spec.toList).map Text.trimList).filter (· ≠ [])

def applyItems (t : PolicyTable) : List (List Char) → PolicyTable × Option ConfigError
  | [] => (t, none)
  | item :: rest =>
    match parseItem item with
    | .ok (op, p) => applyItems (t.set op p) rest
    | .error e => (t, some e)

end Overrides

/-- The table after the items before the first rejected one, and why that was rejected. -/
def PolicyTable.applyOverrides (t : PolicyTable) (spec : String) :
    PolicyTable × Option ConfigError :=
  Overrides.applyItems t (Overrides.items spec)

end ChainGateway.Cache
