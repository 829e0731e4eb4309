import ChainGateway.Cache.Store

/-!
# The registry of stores

One store per operation, made on first use with the policy of that operation.
Clearing empties every store and keeps it.
-/

namespace ChainGateway.Cache

structure Registry where
  policies : PolicyTable
  /-- The stores made so far, no two of one operation. -/
  stores : List Store
  clears : Nat

namespace Registry

def new (policies : PolicyTable) : Registry := ⟨policies, [], 0⟩

def find? (r : Registry) (op : Operation) : Option Store :=
  r.stores.find? (·.operation = op)

/-- The store of an operation, a new one if there is none yet. -/
def store (r : Registry) (op : Operation) : Store :=
  (r.find? op).getD (.new op (r.policies.policy op))

def putStore (s : Store) : List Store → List Store
  | [] => [s]
  | t :: rest => if t.operation = s.operation then s :: rest else t :: putStore s rest

/-- Puts a store in the place of the one of its operation. -/
def put (r : Registry) (s : Store) : Registry :=
  { r with stores := putStore s r.stores }

def totalEntries (r : Registry) : Nat := r.stores.foldr (fun s n => s.size + n) 0

/-- Empties every store; the number of slots dropped goes with it. -/
def clear (r : Registry) : Nat × Registry :=
  (r.totalEntries, { r with stores := r.stores.map Store.clear, clears := r.clears + 1 })

/-- Drops expired slots everywhere. -/
def purge (r : Registry) (now : Instant) : Nat × Registry :=
  (r.stores.foldr (fun s n => s.expiredCount now + n) 0,
    { r with stores := r.stores.map fun s => s.purge now })

/-- The counters of all stores in the order of their operations. -/
def snapshot (r : Registry) : List Stats :=
  (Operation.all.filterMap r.find?).map Store.stats

def debug (r : Registry) : String :=
  debugRecord "CacheRegistry"
    [("stores", toString r.stores.length), ("clears", toString r.clears)]

end Registry
end ChainGateway.Cache
