import ChainGateway.Cache.ReadThrough
import ChainGateway.Epoch.Marker
import ChainGateway.Pending

/-!
# A rehearsal backing store

A stand-in for the store behind the gateway: it counts calls, answers late if it is
told to, fails where it is told to, and otherwise answers with a set value or a
fixture made from the arguments.
-/

namespace ChainGateway.Rehearsal

open Model

structure Backend where
  /-- Milliseconds that every call takes. -/
  delay : Nat
  failures : List (Operation × ReadError)
  values : List (Operation × Answer)
  lastEpoch : EpochDetail
  /-- The calls that arrived, the latest first. -/
  calls : List Operation

namespace Backend

def new : Backend := ⟨0, [], [], default, []⟩

def fail (b : Backend) (op : Operation) (e : ReadError) : Backend :=
  { b with failures := (op, e) :: b.failures.filter (·.1 ≠ op) }

def unfail (b : Backend) (op : Operation) : Backend :=
  { b with failures := b.failures.filter (·.1 ≠ op) }

def setValue (b : Backend) (op : Operation) (a : Answer) : Backend :=
  { b with values := (op, a) :: b.values.filter (·.1 ≠ op) }

def setLastEpoch (b : Backend) (m : Epoch.Marker) : Backend :=
  { b with lastEpoch := { (default : EpochDetail) with
      epoch := m.epoch, validationTime := m.validationTime } }

def arrive (b : Backend) (op : Operation) : Backend := { b with calls := op :: b.calls }

def callsOf (b : Backend) (op : Operation) : Nat := b.calls.count op

/-- A value with the kind of the operation, if it has that kind's type. -/
def answer (i : Item) (v : i.Carrier) : Answer := ⟨.one i, v⟩

/-- The numbers of a page that starts where `token` says, and the token after it. -/
def pageNumbers (count : Int) (token : Argument) : Except Fault (List Nat × Option String) :=
  let first := match token with
    | .present (.text s) => (Text.readU64? s).getD 0
    | _ => 0
  if Text.maxU64 < first + count.toNat then .error .pageOverflow
  else .ok ((List.range count.toNat).map (first + ·), some (toString (first + count.toNat)))

def transactionFixture (hash : String) : TransactionDetail :=
  { (default : TransactionDetail) with
    hash := hash
    kind := "SendTx"
    sender := "0x1111"
    recipient := some "0x2222"
    amount := "1.5" }

def word (n : Int) : UInt64 := UInt64.ofNat n.toNat

/-- The fixture of one record or of an empty listing. -/
def record (b : Backend) (c : Call) : Answer :=
  match c.operation, c.arguments with
  | .search, [.text value] => ⟨.list .entity, [(⟨"Address", value⟩ : Entity)]⟩
  | .circulatingSupply, _ => answer .text "1000"
  | .activeAddressesCount, _ => answer .count (42 : UInt64)
  | .lastEpoch, _ => answer .epochDetail b.lastEpoch
  | .epoch, [.integer n] =>
    answer .epochDetail { (default : EpochDetail) with epoch := word n }
  | .epochIdentitiesCount, [_, .list before, .list after] =>
    answer .count (UInt64.ofNat (before.length + after.length))
  | .epochRewardsSummary, [.integer n] =>
    answer .rewardsSummary { (default : RewardsSummary) with epoch := word n }
  | .epochIdentity, [.integer n, .text address] =>
    answer .epochIdentity { (default : EpochIdentity) with epoch := word n, address := address }
  | .blockByHeight, [.integer n] =>
    answer .blockDetail { (default : BlockDetail) with height := word n }
  | .blockByHash, [.text hash] =>
    answer .blockDetail { (default : BlockDetail) with hash := hash }
  | .transaction, [.text hash] => answer .transactionDetail (transactionFixture hash)
  | .transactionRaw, [.text hash] => answer .rawTransaction ⟨"raw:" ++ hash⟩
  | .identity, [.text address] =>
    answer .identity { (default : Identity) with address := address, state := "Human" }
  | .address, [.text address] =>
    answer .addressSummary { (default : AddressSummary) with address := address }
  | op, _ => ⟨op.result, default⟩

/-- The page of numbered items that a call asks for. -/
def pageFixture (i : Item) (count : Int) (token : Argument) (item : Nat → i.Carrier) :
    Except Fault Answer := do
  let (numbers, next) ← pageNumbers count token
  .ok ⟨.page i, (⟨numbers.map item, next⟩ : Page i.Carrier)⟩

/-- The fixture for a call. -/
def fixture (b : Backend) (c : Call) : Except Fault Answer :=
  match c.operation, c.arguments with
  | .epochs, [.integer count, token] =>
    pageFixture .epochSummary count token fun n =>
      { (default : EpochSummary) with epoch := UInt64.ofNat n }
  | .transactionEvents, [.text hash, .integer count, token] =>
    pageFixture .transactionEvent count token fun n =>
      (⟨"event" ++ toString n, [hash]⟩ : TransactionEvent)
  | _, _ => .ok (b.record c)

/-- What a call comes to once its time has passed. The fixture is made even where a set
value takes its place. -/
def outcome (b : Backend) (c : Call) : Except Fault Outcome :=
  match b.failures.find? (·.1 = c.operation) with
  | some (_, e) => .ok (.error e)
  | none => do
    let made ← b.fixture c
    .ok (.ok (((b.values.find? (·.1 = c.operation)).map (·.2)).getD made))

/-- The marker of the last epoch, if it answers with one. -/
def marker (b : Backend) : Except ReadError Epoch.Marker :=
  match b.outcome ⟨.lastEpoch, []⟩ with
  | .ok (.ok a) =>
    match a.as? (.one .epochDetail) with
    | some d => .ok ⟨(d : EpochDetail).epoch, (d : EpochDetail).validationTime⟩
    | none => .error .notFound
  | .ok (.error e) => .error e
  | .error _ => .error .notFound

end Backend

/-- A fixed set of pending transactions, which counts how often it is asked for one. -/
structure PendingPool where
  transactions : List TransactionDetail
  lookups : Nat

namespace PendingPool

def summary (t : TransactionDetail) : TransactionSummary :=
  { (default : TransactionSummary) with
    hash := t.hash
    kind := t.kind
    sender := t.sender
    recipient := t.recipient
    amount := t.amount }

/-- A pool of transactions by hash; of two with one hash the later counts. -/
def ofList (ts : List TransactionDetail) : PendingPool :=
  let add (kept : List TransactionDetail) (t : TransactionDetail) : List TransactionDetail :=
    kept.filter (·.hash ≠ t.hash) ++ [t]
  ⟨(ts.foldl add []).mergeSort fun s t => !(t.hash < s.hash), 0⟩

def find? (p : PendingPool) (hash : String) : Option TransactionDetail :=
  p.transactions.find? (·.hash = hash)

/-- The first `count` pending transactions. -/
def listing (p : PendingPool) (count : Nat) : List TransactionSummary :=
  (p.transactions.take count).map summary

/-- The first `count` pending transactions from or to an address. -/
def listingOf (p : PendingPool) (address : String) (count : Nat) : List TransactionSummary :=
  ((p.transactions.filter fun t => t.sender == address || t.recipient == some address).take
    count).map summary

/-- Answers a query; queries for one transaction are counted. -/
def answer (p : PendingPool) : PendingQuery → Outcome × PendingPool
  | .transaction hash =>
    (match p.find? hash with
      | some t => .ok ⟨.one .transactionDetail, t⟩
      | none => .error .notFound,
      { p with lookups := p.lookups + 1 })
  | .raw hash =>
    (match p.find? hash with
      | some t => .ok ⟨.one .rawTransaction, (⟨"pending:" ++ t.hash⟩ : RawTransaction)⟩
      | none => .error .notFound,
      { p with lookups := p.lookups + 1 })
  | .all count => (.ok ⟨.list .transactionSummary, p.listing count⟩, p)
  | .ofAddress address count => (.ok ⟨.list .transactionSummary, p.listingOf address count⟩, p)

end PendingPool
end ChainGateway.Rehearsal
