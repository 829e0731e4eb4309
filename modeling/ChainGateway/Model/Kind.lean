import ChainGateway.Model.Block
import ChainGateway.Model.Contract
import ChainGateway.Model.Epoch
import ChainGateway.Model.Flip
import ChainGateway.Model.Identity
import ChainGateway.Model.Page
import ChainGateway.Model.Search

/-!
# Kinds of answers

Every operation answers with one kind of value: a single item, a list or a page of
items. An answer carries its kind, so that answers of all operations can be kept in
one store and are only given back as what they were.
-/

namespace ChainGateway.Model

open Json

inductive Item
  | text
  | count
  | smallCount
  | rawTransaction
  | entity
  | coinTotals
  | epochSummary
  | epochDetail
  | tally
  | inviteCounts
  | rewardsSummary
  | badAuthor
  | reward
  | identityRewards
  | fundPayment
  | rewardHolder
  | rewardRange
  | epochIdentity
  | blockSummary
  | blockDetail
  | transactionSummary
  | transactionDetail
  | transactionEvent
  | identity
  | addressSummary
  | balance
  | flipSummary
  | flipDetail
  | neighbour
  | neighbours
  | contract
  | oracleVoting
  | oracleRewardEstimate
  | contractBalanceUpdate
  | upgrade
  | token
  | tokenBalance
  deriving DecidableEq, Repr

def Item.Carrier : Item → Type
  | .text => String
  | .count => UInt64
  | .smallCount => UInt32
  | .rawTransaction => RawTransaction
  | .entity => Entity
  | .coinTotals => CoinTotals
  | .epochSummary => EpochSummary
  | .epochDetail => EpochDetail
  | .tally => Tally
  | .inviteCounts => InviteCounts
  | .rewardsSummary => RewardsSummary
  | .badAuthor => BadAuthor
  | .reward => Reward
  | .identityRewards => IdentityRewards
  | .fundPayment => FundPayment
  | .rewardHolder => RewardHolder
  | .rewardRange => RewardRange
  | .epochIdentity => EpochIdentity
  | .blockSummary => BlockSummary
  | .blockDetail => BlockDetail
  | .transactionSummary => TransactionSummary
  | .transactionDetail => TransactionDetail
  | .transactionEvent => TransactionEvent
  | .identity => Identity
  | .addressSummary => AddressSummary
  | .balance => Balance
  | .flipSummary => FlipSummary
  | .flipDetail => FlipDetail
  | .neighbour => Neighbour
  | .neighbours => Neighbours
  | .contract => Contract
  | .oracleVoting => OracleVoting
  | .oracleRewardEstimate => OracleRewardEstimate
  | .contractBalanceUpdate => ContractBalanceUpdate
  | .upgrade => Upgrade
  | .token => Token
  | .tokenBalance => TokenBalance

def Item.codec : (i : Item) → Codec i.Carrier
  | .text => Codec.text
  | .count => Codec.word64
  | .smallCount => Codec.word32
  | .rawTransaction => RawTransaction.codec
  | .entity => Entity.codec
  | .coinTotals => CoinTotals.codec
  | .epochSummary => EpochSummary.codec
  | .epochDetail => EpochDetail.codec
  | .tally => Tally.codec
  | .inviteCounts => InviteCounts.codec
  | .rewardsSummary => RewardsSummary.codec
  | .badAuthor => BadAuthor.codec
  | .reward => Reward.codec
  | .identityRewards => IdentityRewards.codec
  | .fundPayment => FundPayment.codec
  | .rewardHolder => RewardHolder.codec
  | .rewardRange => RewardRange.codec
  | .epochIdentity => EpochIdentity.codec
  | .blockSummary => BlockSummary.codec
  | .blockDetail => BlockDetail.codec
  | .transactionSummary => TransactionSummary.codec
  | .transactionDetail => TransactionDetail.codec
  | .transactionEvent => TransactionEvent.codec
  | .identity => Identity.codec
  | .addressSummary => AddressSummary.codec
  | .balance => Balance.codec
  | .flipSummary => FlipSummary.codec
  | .flipDetail => FlipDetail.codec
  | .neighbour => Neighbour.codec
  | .neighbours => Neighbours.codec
  | .contract => Contract.codec
  | .oracleVoting => OracleVoting.codec
  | .oracleRewardEstimate => OracleRewardEstimate.codec
  | .contractBalanceUpdate => ContractBalanceUpdate.codec
  | .upgrade => Upgrade.codec
  | .token => Token.codec
  | .tokenBalance => TokenBalance.codec

instance : (i : Item) → Inhabited i.Carrier
  | .text => inferInstanceAs (Inhabited String)
  | .count => inferInstanceAs (Inhabited UInt64)
  | .smallCount => inferInstanceAs (Inhabited UInt32)
  | .rawTransaction => inferInstanceAs (Inhabited RawTransaction)
  | .entity => inferInstanceAs (Inhabited Entity)
  | .coinTotals => inferInstanceAs (Inhabited CoinTotals)
  | .epochSummary => inferInstanceAs (Inhabited EpochSummary)
  | .epochDetail => inferInstanceAs (Inhabited EpochDetail)
  | .tally => inferInstanceAs (Inhabited Tally)
  | .inviteCounts => inferInstanceAs (Inhabited InviteCounts)
  | .rewardsSummary => inferInstanceAs (Inhabited RewardsSummary)
  | .badAuthor => inferInstanceAs (Inhabited BadAuthor)
  | .reward => inferInstanceAs (Inhabited Reward)
  | .identityRewards => inferInstanceAs (Inhabited IdentityRewards)
  | .fundPayment => inferInstanceAs (Inhabited FundPayment)
  | .rewardHolder => inferInstanceAs (Inhabited RewardHolder)
  | .rewardRange => inferInstanceAs (Inhabited RewardRange)
  | .epochIdentity => inferInstanceAs (Inhabited EpochIdentity)
  | .blockSummary => inferInstanceAs (Inhabited BlockSummary)
  | .blockDetail => inferInstanceAs (Inhabited BlockDetail)
  | .transactionSummary => inferInstanceAs (Inhabited TransactionSummary)
  | .transactionDetail => inferInstanceAs (Inhabited TransactionDetail)
  | .transactionEvent => inferInstanceAs (Inhabited TransactionEvent)
  | .identity => inferInstanceAs (Inhabited Identity)
  | .addressSummary => inferInstanceAs (Inhabited AddressSummary)
  | .balance => inferInstanceAs (Inhabited Balance)
  | .flipSummary => inferInstanceAs (Inhabited FlipSummary)
  | .flipDetail => inferInstanceAs (Inhabited FlipDetail)
  | .neighbour => inferInstanceAs (Inhabited Neighbour)
  | .neighbours => inferInstanceAs (Inhabited Neighbours)
  | .contract => inferInstanceAs (Inhabited Contract)
  | .oracleVoting => inferInstanceAs (Inhabited OracleVoting)
  | .oracleRewardEstimate => inferInstanceAs (Inhabited OracleRewardEstimate)
  | .contractBalanceUpdate => inferInstanceAs (Inhabited ContractBalanceUpdate)
  | .upgrade => inferInstanceAs (Inhabited Upgrade)
  | .token => inferInstanceAs (Inhabited Token)
  | .tokenBalance => inferInstanceAs (Inhabited TokenBalance)

instance : (i : Item) → DecidableEq i.Carrier
  | .text => inferInstanceAs (DecidableEq String)
  | .count => inferInstanceAs (DecidableEq UInt64)
  | .smallCount => inferInstanceAs (DecidableEq UInt32)
  | .rawTransaction => inferInstanceAs (DecidableEq RawTransaction)
  | .entity => inferInstanceAs (DecidableEq Entity)
  | .coinTotals => inferInstanceAs (DecidableEq CoinTotals)
  | .epochSummary => inferInstanceAs (DecidableEq EpochSummary)
  | .epochDetail => inferInstanceAs (DecidableEq EpochDetail)
  | .tally => inferInstanceAs (DecidableEq Tally)
  | .inviteCounts => inferInstanceAs (DecidableEq InviteCounts)
  | .rewardsSummary => inferInstanceAs (DecidableEq RewardsSummary)
  | .badAuthor => inferInstanceAs (DecidableEq BadAuthor)
  | .reward => inferInstanceAs (DecidableEq Reward)
  | .identityRewards => inferInstanceAs (DecidableEq IdentityRewards)
  | .fundPayment => inferInstanceAs (DecidableEq FundPayment)
  | .rewardHolder => inferInstanceAs (DecidableEq RewardHolder)
  | .rewardRange => inferInstanceAs (DecidableEq RewardRange)
  | .epochIdentity => inferInstanceAs (DecidableEq EpochIdentity)
  | .blockSummary => inferInstanceAs (DecidableEq BlockSummary)
  | .blockDetail => inferInstanceAs (DecidableEq BlockDetail)
  | .transactionSummary => inferInstanceAs (DecidableEq TransactionSummary)
  | .transactionDetail => inferInstanceAs (DecidableEq TransactionDetail)
  | .transactionEvent => inferInstanceAs (DecidableEq TransactionEvent)
  | .identity => inferInstanceAs (DecidableEq Identity)
  | .addressSummary => inferInstanceAs (DecidableEq AddressSummary)
  | .balance => inferInstanceAs (DecidableEq Balance)
  | .flipSummary => inferInstanceAs (DecidableEq FlipSummary)
  | .flipDetail => inferInstanceAs (DecidableEq FlipDetail)
  | .neighbour => inferInstanceAs (DecidableEq Neighbour)
  | .neighbours => inferInstanceAs (DecidableEq Neighbours)
  | .contract => inferInstanceAs (DecidableEq Contract)
  | .oracleVoting => inferInstanceAs (DecidableEq OracleVoting)
  | .oracleRewardEstimate => inferInstanceAs (DecidableEq OracleRewardEstimate)
  | .contractBalanceUpdate => inferInstanceAs (DecidableEq ContractBalanceUpdate)
  | .upgrade => inferInstanceAs (DecidableEq Upgrade)
  | .token => inferInstanceAs (DecidableEq Token)
  | .tokenBalance => inferInstanceAs (DecidableEq TokenBalance)

inductive Kind
  | one (i : Item)
  | list (i : Item)
  | page (i : Item)
  deriving DecidableEq, Repr

def Kind.Carrier : Kind → Type
  | .one i => i.Carrier
  | .list i => List i.Carrier
  | .page i => Page i.Carrier

def Kind.codec : (k : Kind) → Codec k.Carrier
  | .one i => i.codec
  | .list i => i.codec.list
  | .page i => Page.codec i.codec

instance : (k : Kind) → Inhabited k.Carrier
  | .one i => inferInstanceAs (Inhabited i.Carrier)
  | .list _ => ⟨[]⟩
  | .page _ => ⟨.last []⟩

instance : (k : Kind) → DecidableEq k.Carrier
  | .one i => inferInstanceAs (DecidableEq i.Carrier)
  | .list i => inferInstanceAs (DecidableEq (List i.Carrier))
  | .page i => inferInstanceAs (DecidableEq (Page i.Carrier))

/-- A value with its kind. -/
structure Answer where
  kind : Kind
  value : kind.Carrier

namespace Answer

instance : DecidableEq Answer := fun a b =>
  match a, b with
  | ⟨k, x⟩, ⟨l, y⟩ =>
    if h : k = l then by
      subst h
      exact if hx : x = y then .isTrue (by rw [hx]) else .isFalse (by simp [hx])
    else .isFalse (by simp [h])

instance : Inhabited Answer := ⟨⟨.one .count, (0 : UInt64)⟩⟩

/-- The value, when it is of kind `k`. -/
def as? (k : Kind) (a : Answer) : Option k.Carrier :=
  if h : a.kind = k then some (h ▸ a.value) else none

def encode (a : Answer) : String := a.kind.codec.encode a.value

end Answer
end ChainGateway.Model
