import ChainGateway.Cache.Registry

/-!
# Occupancy reports

How many stores and entries there are, with the stores that hold any, largest first.
-/

namespace ChainGateway.Cache

structure Report where
  totalStores : Nat
  emptyStores : Nat
  totalEntries : Nat
  occupied : List (Operation × Nat)
  deriving DecidableEq, Repr

namespace Report

/-- Larger stores first, those of one size by operation. -/
def before (a b : Operation × Nat) : Bool :=
  b.2 < a.2 || (a.2 == b.2 && a.1.index ≤ b.1.index)

def ofSnapshot (stats : List Stats) : Report :=
  let occupied := (stats.filter fun s => 0 < s.entries).map fun s => (s.operation, s.entries)
  { totalStores := stats.length
    emptyStores := stats.length - occupied.length
    totalEntries := occupied.foldr (fun o n => o.2 + n) 0
    occupied := occupied.mergeSort before }

def print (r : Report) : String :=
  "Total: " ++ toString r.totalStores ++ ", empty: " ++ toString r.emptyStores ++
    (if r.occupied = [] then ""
    else " (" ++ ", ".intercalate (r.occupied.map fun (op, n) => op.name ++ ": " ++ toString n)
      ++ ")")

end Report
end ChainGateway.Cache
