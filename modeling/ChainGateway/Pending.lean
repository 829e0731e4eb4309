import ChainGateway.Call

/-!
# Pending transactions

Transactions that are in no block yet are not in the store; a pool of them is asked
with queries of its own. It answers a query for one transaction with that, and one for
a listing with summaries.
-/

namespace ChainGateway

inductive PendingQuery
  | transaction (hash : String)
  | raw (hash : String)
  | all (count : Nat)
  | ofAddress (address : String) (count : Nat)
  deriving DecidableEq, Repr

namespace PendingQuery

/-- The kind of the answer. -/
def result : PendingQuery → Model.Kind
  | .transaction _ => .one .transactionDetail
  | .raw _ => .one .rawTransaction
  | .all _ | .ofAddress .. => .list .transactionSummary

/-- The query that stands in for a read of one transaction. -/
def ofCall? (c : Call) : Option PendingQuery :=
  match c.operation, c.arguments with
  | .transaction, [.text hash] => some (.transaction hash)
  | .transactionRaw, [.text hash] => some (.raw hash)
  | _, _ => none

end PendingQuery
end ChainGateway
