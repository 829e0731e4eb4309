import ChainGateway.Cache.ReadThrough
import ChainGateway.Pending

/-!
# Reads underway

Reads through the cache take time: a read that finds nothing calls the store, perhaps
asks the pool after it, and keeps what comes back. Any number of reads are underway at
once, and the cache may be cleared or purged between the steps of each.
-/

namespace ChainGateway.Cache

inductive ReadPhase
  /-- Nothing was found; the store has not been called yet. -/
  | missed
  /-- The store has been called. -/
  | loading
  /-- The pool has been asked. -/
  | asking
  deriving DecidableEq, Repr

structure OpenRead where
  id : Nat
  call : Call
  phase : ReadPhase

structure Reader where
  registry : Registry
  /-- Whether there is a pool of pending transactions. -/
  hasPool : Bool
  underway : List OpenRead

/-- What a step of a read leads to. -/
inductive ReadProgress
  | missed
  | load (c : Call)
  | ask (q : PendingQuery)
  | done (o : Outcome)
  | failed (f : Fault)
  /-- There is no read that could take the step. -/
  | nothing

namespace Reader

def new (t : PolicyTable) (hasPool : Bool) : Reader := ⟨.new t, hasPool, []⟩

def find? (r : Reader) (id : Nat) : Option OpenRead := r.underway.find? (·.id = id)

/-- Gives up a read. -/
def abandon (r : Reader) (id : Nat) : Reader :=
  { r with underway := r.underway.filter (·.id ≠ id) }

def setPhase (r : Reader) (id : Nat) (p : ReadPhase) : Reader :=
  { r with underway := r.underway.map fun x => if x.id = id then { x with phase := p } else x }

/-- Starts a read with a look into the cache. -/
def look (r : Reader) (now : Instant) (id : Nat) (c : Call) : ReadProgress × Reader :=
  match r.registry.lookup now c with
  | (.hit o, registry) => (.done o, { r with registry := registry })
  | (_, registry) =>
    (.missed, { r with registry := registry, underway := r.underway ++ [⟨id, c, .missed⟩] })

/-- Calls the store for a read that found nothing. -/
def begin (r : Reader) (id : Nat) : ReadProgress × Reader :=
  match r.find? id with
  | some ⟨_, c, .missed⟩ => (.load c, r.setPhase id .loading)
  | _ => (.nothing, r)

/-- Looks into the cache and calls the store at once if need be. -/
def start (r : Reader) (now : Instant) (id : Nat) (c : Call) : ReadProgress × Reader :=
  match r.look now id c with
  | (.missed, r) => r.begin id
  | other => other

/-- Keeps the outcome of a read and closes the read. -/
def settle (r : Reader) (now : Instant) (x : OpenRead) (o : Outcome) : ReadProgress × Reader :=
  let (fault, registry) := r.registry.finish now x.call o
  let r := { r.abandon x.id with registry := registry }
  match fault with
  | none => (.done o, r)
  | some f => (.failed f, r)

/-- The store has answered a read. -/
def loaded (r : Reader) (now : Instant) (id : Nat) (o : Outcome) : ReadProgress × Reader :=
  match r.find? id with
  | some ⟨_, c, .loading⟩ =>
    match PendingQuery.ofCall? c with
    | some q =>
      if r.hasPool && consultsPool c o then (.ask q, r.setPhase id .asking)
      else r.settle now ⟨id, c, .loading⟩ o
    | none => r.settle now ⟨id, c, .loading⟩ o
  | _ => (.nothing, r)

/-- The pool has answered a read. -/
def asked (r : Reader) (now : Instant) (id : Nat) (o : Outcome) : ReadProgress × Reader :=
  match r.find? id with
  | some ⟨_, c, .asking⟩ => r.settle now ⟨id, c, .asking⟩ o
  | _ => (.nothing, r)

def clear (r : Reader) : Nat × Reader :=
  let (n, registry) := r.registry.clear
  (n, { r with registry := registry })

def purge (r : Reader) (now : Instant) : Nat × Reader :=
  let (n, registry) := r.registry.purge now
  (n, { r with registry := registry })

end Reader
end ChainGateway.Cache
