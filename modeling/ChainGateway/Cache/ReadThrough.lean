import ChainGateway.Cache.Registry

/-!
# Reading through the cache

A read first looks for a live outcome of its key. Without one it calls the backing
store, and for a transaction that is not there the pool of pending ones, and keeps
whatever comes back. Reads of one key that run together each make their own call, and
the last to come back is kept. Operations without room are never looked up or kept.
-/

namespace ChainGateway.Cache

/-- How a read starts. -/
inductive Lookup
  | bypass
  | hit (o : Outcome)
  | miss

namespace Registry

/-- Looks up a call. -/
def lookup (r : Registry) (now : Instant) (c : Call) : Lookup × Registry :=
  if (r.policies.policy c.operation).isBypass then (.bypass, r)
  else
    let (found, store) := (r.store c.operation).get now (.ofCall c)
    let r := r.put store
    match found with
    | some (.ok a) => if a.kind = c.operation.result then (.hit (.ok a), r) else (.miss, r)
    | some (.error e) => (.hit (.error e), r)
    | none => (.miss, r)

/-- Keeps the outcome of a call that was a miss. -/
def keep (r : Registry) (now : Instant) (c : Call) (o : Outcome) : Option Fault × Registry :=
  let (fault, store) := (r.store c.operation).insert now (.ofCall c) o
  (fault, r.put store)

/-- Keeps the outcome of a call that was made, unless the operation is bypassed. -/
def finish (r : Registry) (now : Instant) (c : Call) (o : Outcome) : Option Fault × Registry :=
  if (r.policies.policy c.operation).isBypass then (none, r) else r.keep now c o

end Registry

/-- Whether the pool of pending transactions is asked after the store gave `o`. -/
def consultsPool (c : Call) (o : Outcome) : Bool :=
  (c.operation == .transaction || c.operation == .transactionRaw) &&
    match o with
    | .error e => e.isNotFound
    | .ok _ => false

end ChainGateway.Cache
