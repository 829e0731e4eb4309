import ChainGateway.Operation
import ChainGateway.Time.Span

/-!
# Cache policies

A policy says how many outcomes of one operation are kept and for how long. A policy
without room is a bypass: every call goes through. The table has a policy for each
operation, the default one unless it is overridden.
-/

namespace ChainGateway.Cache

structure Policy where
  capacity : Nat
  ttl : Span
  deriving DecidableEq, Repr, Inhabited

namespace Policy

def bypass : Policy := ⟨0, .zero⟩

def isBypass (p : Policy) : Bool := p.capacity == 0

def standard : Policy := ⟨100, .ofSeconds 60⟩

end Policy

structure PolicyTable where
  default : Policy
  /-- The lifetime of aggregates that do not change once their epoch is over. -/
  permanentTtl : Span
  override : Operation → Option Policy

namespace PolicyTable

def standardPermanentTtl : Span := .ofMinutes 120

/-- The table without overrides. -/
def uniform (p : Policy) : PolicyTable := ⟨p, standardPermanentTtl, fun _ => none⟩

def set (t : PolicyTable) (op : Operation) (p : Policy) : PolicyTable :=
  { t with override := fun o => if o = op then some p else t.override o }

/-- Overrides the lifetime only. -/
def setTtl (t : PolicyTable) (op : Operation) (ttl : Span) : PolicyTable :=
  t.set op ⟨t.default.capacity, ttl⟩

def policy (t : PolicyTable) (op : Operation) : Policy := (t.override op).getD t.default

/-- Aggregates over an epoch that is over. -/
def permanentOperations : List Operation :=
  [.epochFlipStatesSummary, .epochIdentityStatesSummary, .epochRewardsSummary,
    .epochBadAuthorsCount, .epochBadAuthors, .epochIdentitiesRewards, .epochFundPayments,
    .epochRewardBounds, .upgrade, .epochIdentity]

/-- Reads that depend on more than the store. -/
def bypassedOperations : List Operation :=
  [.oracleVotingContracts, .oracleVotingContract, .estimatedOracleRewards,
    .addressContractTxBalanceUpdates]

def standardOverride (p : Policy) (permanentTtl : Span) (op : Operation) : Option Policy :=
  if op ∈ bypassedOperations then some .bypass
  else if op ∈ permanentOperations then some ⟨p.capacity, permanentTtl⟩
  else match op with
    | .lastBlock => some ⟨p.capacity, .ofSeconds 20⟩
    | .activeAddressesCount => some ⟨1, .ofMinutes 5⟩
    | .epochIdentityStatesInterimSummary => some ⟨p.capacity, .ofMinutes 5⟩
    | .epochInvitesSummary => some ⟨p.capacity, .ofMinutes 3⟩
    | .flipEpochAdjacentFlips | .flipAddressAdjacentFlips | .flipEpochIdentityAdjacentFlips =>
      some ⟨p.capacity, .ofMinutes 20⟩
    | _ => none

/-- The table of a deployed gateway with the given default and permanent lifetime. -/
def standardWith (p : Policy) (permanentTtl : Span) : PolicyTable :=
  ⟨p, permanentTtl, standardOverride p permanentTtl⟩

def standard : PolicyTable := standardWith .standard standardPermanentTtl

/-- Whether two tables have the same default, lifetime and overrides. -/
def same (a b : PolicyTable) : Bool :=
  a.default == b.default && a.permanentTtl == b.permanentTtl &&
    Operation.all.all fun op => a.override op == b.override op

/-- The operations whose policy is not the default one. -/
def differing (t : PolicyTable) : List (Operation × Policy) :=
  (Operation.all.map fun op => (op, t.policy op)).filter fun (_, p) => p != t.default

end PolicyTable
end ChainGateway.Cache
