import ChainGateway.Epoch.Marker
import ChainGateway.Model.Kind
import ChainGateway.Proofs.Model.Records

/-!
# Nothing is lost on the wire

Every value of the read models comes back from its text, so no two of them have the same text. That
takes of its timestamps to be some there are, and of its floating-point numbers to come back
themselves, which not all finite ones do.
-/

namespace ChainGateway

open Json

variable {α : Type} {c : Codec α} {P : α → Prop}

namespace Json.Codec

end Json.Codec

namespace Model

-- ---------------------------------------------------------------------------
-- Items
-- ---------------------------------------------------------------------------

/-- What is asked of an item: proper timestamps, and floating-point numbers that come back. -/
def Item.Proper : (i : Item) → i.Carrier → Prop
  | .epochSummary, m => EpochSummary.Proper m
  | .epochDetail, m => EpochDetail.Proper m
  | .epochIdentity, m => EpochIdentity.Proper m
  | .blockSummary, m => BlockSummary.Proper m
  | .blockDetail, m => BlockDetail.Proper m
  | .transactionSummary, m => TransactionSummary.Proper m
  | .transactionDetail, m => TransactionDetail.Proper m
  | .identity, m => Identity.Proper m
  | .flipSummary, m => FlipSummary.Proper m
  | .flipDetail, m => FlipDetail.Proper m
  | .oracleVoting, m => OracleVoting.Proper m
  | .contractBalanceUpdate, m => ContractBalanceUpdate.Proper m
  | .upgrade, m => Upgrade.Proper m
  | _, _ => True

theorem RawTransaction.solid (m : RawTransaction) : RawTransaction.codec.Solid m :=
  .through .text rfl

theorem Item.Proper.solid {i : Item} {m : i.Carrier} (h : i.Proper m) : i.codec.Solid m := by
  cases i with
  | text => exact .text
  | count => exact .word64
  | smallCount => exact .word32
  | rawTransaction => exact RawTransaction.solid m
  | entity => exact Entity.solid m
  | coinTotals => exact CoinTotals.solid m
  | epochSummary => exact EpochSummary.Proper.solid h
  | epochDetail => exact EpochDetail.Proper.solid h
  | tally => exact Tally.solid m
  | inviteCounts => exact InviteCounts.solid m
  | rewardsSummary => exact RewardsSummary.solid m
  | badAuthor => exact BadAuthor.solid m
  | reward => exact Reward.solid m
  | identityRewards => exact IdentityRewards.solid m
  | fundPayment => exact FundPayment.solid m
  | rewardHolder => exact RewardHolder.solid m
  | rewardRange => exact RewardRange.solid m
  | epochIdentity => exact EpochIdentity.Proper.solid h
  | blockSummary => exact BlockSummary.Proper.solid h
  | blockDetail => exact BlockDetail.Proper.solid h
  | transactionSummary => exact TransactionSummary.Proper.solid h
  | transactionDetail => exact TransactionDetail.Proper.solid h
  | transactionEvent => exact TransactionEvent.solid m
  | identity => exact Identity.Proper.solid h
  | addressSummary => exact AddressSummary.solid m
  | balance => exact Balance.solid m
  | flipSummary => exact FlipSummary.Proper.solid h
  | flipDetail => exact FlipDetail.Proper.solid h
  | neighbour => exact Neighbour.solid m
  | neighbours => exact Neighbours.solid m
  | contract => exact Contract.solid m
  | oracleVoting => exact OracleVoting.Proper.solid h
  | oracleRewardEstimate => exact OracleRewardEstimate.solid m
  | contractBalanceUpdate => exact ContractBalanceUpdate.Proper.solid h
  | upgrade => exact Upgrade.Proper.solid h
  | token => exact Token.solid m
  | tokenBalance => exact TokenBalance.solid m

-- ---------------------------------------------------------------------------
-- Pages and markers
-- ---------------------------------------------------------------------------

/-- A page without a token leaves its field out, and gets it back for there being none. -/
theorem Page.solid {p : Page α} (h : ∀ a ∈ p.items, c.Solid a) : (Page.codec c).Solid p :=
  .record (show ["items", "continuationToken"].Nodup by decide)
    (.named (.list h) <| .sparse (fun _ _ => .text) .done) rfl

def Kind.Proper : (k : Kind) → k.Carrier → Prop
  | .one i, m => i.Proper m
  | .list i, (ms : List i.Carrier) => ∀ m ∈ ms, i.Proper m
  | .page i, (p : Page i.Carrier) => ∀ m ∈ p.items, i.Proper m

theorem Kind.Proper.solid {k : Kind} {a : k.Carrier} (h : k.Proper a) : k.codec.Solid a := by
  cases k with
  | one i => exact Item.Proper.solid h
  | list i => exact .list fun m hm => Item.Proper.solid (h m hm)
  | page i => exact Page.solid fun m hm => Item.Proper.solid (h m hm)

end Model

namespace Epoch

def Marker.Proper (m : Marker) : Prop := m.validationTime.Proper

theorem Marker.Proper.solid {m : Marker} (h : m.Proper) : Marker.codec.Solid m :=
  .record (by decide) (.named .word64 <| .named (Timestamp.Proper.solid h) .done) rfl

end Epoch

-- ---------------------------------------------------------------------------
-- The codecs
-- ---------------------------------------------------------------------------

namespace Model

open Epoch (Marker)

end Model
end ChainGateway
