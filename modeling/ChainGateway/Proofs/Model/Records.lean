import ChainGateway.Model.Block
import ChainGateway.Model.Contract
import ChainGateway.Model.Epoch
import ChainGateway.Model.Flip
import ChainGateway.Model.Identity
import ChainGateway.Model.Search
import ChainGateway.Proofs.Json.RecordLaws
import ChainGateway.Proofs.Time.TimestampTexts

/-!
# Read models that come back

What is asked of a value is asked of its timestamps and of its floating-point numbers; of texts,
integers and truth values nothing is. Each proof goes through the fields in the order of the record.
-/

namespace ChainGateway.Model

open Json

-- ---------------------------------------------------------------------------
-- Search results and coins
-- ---------------------------------------------------------------------------

theorem Entity.solid (m : Entity) : Entity.codec.Solid m :=
  .record (by decide) (.named .text <| .named .text .done) rfl

theorem CoinTotals.solid (m : CoinTotals) : CoinTotals.codec.Solid m :=
  .record (by decide) (.named .text <| .named .text <| .named .text <| .named .text .done) rfl

-- ---------------------------------------------------------------------------
-- Epochs and their rewards
-- ---------------------------------------------------------------------------

structure EpochSummary.Proper (m : EpochSummary) : Prop where
  validationTime : ∀ t ∈ m.validationTime, t.Proper
  minScoreForInvite : m.minScoreForInvite.Prints

theorem EpochSummary.Proper.solid {m : EpochSummary} (h : m.Proper) : EpochSummary.codec.Solid m :=
  .record (by decide)
    (.named .word64 <| .optional (fun t ht => (h.validationTime t ht).solid) <| .named .word32 <|
    .named .word32 <| .named .word32 <| .named .word32 <|
    .named h.minScoreForInvite.solid .done) rfl

def EpochDetail.Proper (m : EpochDetail) : Prop := m.validationTime.Proper

theorem EpochDetail.Proper.solid {m : EpochDetail} (h : m.Proper) : EpochDetail.codec.Solid m :=
  .record (by decide)
    (.named .word64 <| .named (Timestamp.Proper.solid h) <| .named .word64 <| .named .text <|
    .optional (fun _ _ => .text) .done) rfl

theorem Tally.solid (m : Tally) : Tally.codec.Solid m :=
  .record (by decide) (.named .text <| .named .word64 .done) rfl

theorem InviteCounts.solid (m : InviteCounts) : InviteCounts.codec.Solid m :=
  .record (by decide) (.named .word64 <| .named .word64 .done) rfl

theorem RewardsSummary.solid (m : RewardsSummary) : RewardsSummary.codec.Solid m :=
  .record (by decide)
    (.named .word64 <| .named .text <| .named .text <| .named .text <| .named .text <|
    .named .text <| .named .text <| .optional (fun _ _ => .text) <|
    .optional (fun _ _ => .text) <| .optional (fun _ _ => .text) .done) rfl

theorem BadAuthor.solid (m : BadAuthor) : BadAuthor.codec.Solid m :=
  .record (by decide) (.named .text <| .named .text <| .named .text <| .named .text .done) rfl

theorem Reward.solid (m : Reward) : Reward.codec.Solid m :=
  .record (by decide) (.named .text <| .named .text <| .named .text .done) rfl

theorem IdentityRewards.solid (m : IdentityRewards) : IdentityRewards.codec.Solid m :=
  .record (by decide)
    (.named .text <| .named .text <| .named .text <| .named .word16 <|
    .named (.list fun r _ => r.solid) .done) rfl

theorem FundPayment.solid (m : FundPayment) : FundPayment.codec.Solid m :=
  .record (by decide) (.named .text <| .named .text <| .named .text .done) rfl

theorem RewardHolder.solid (m : RewardHolder) : RewardHolder.codec.Solid m :=
  .record (by decide) (.named .text <| .named .text .done) rfl

theorem RewardRange.solid (m : RewardRange) : RewardRange.codec.Solid m :=
  .record (by decide) (.named .byte <| .named m.min.solid <| .named m.max.solid .done) rfl

structure EpochIdentity.Proper (m : EpochIdentity) : Prop where
  shortAnswersScore : ∀ x ∈ m.shortAnswersScore, x.Prints
  longAnswersScore : ∀ x ∈ m.longAnswersScore, x.Prints
  totalShortAnswersScore : ∀ x ∈ m.totalShortAnswersScore, x.Prints

theorem EpochIdentity.Proper.solid {m : EpochIdentity} (h : m.Proper) :
    EpochIdentity.codec.Solid m :=
  .record (by decide)
    (.named .text <| .named .word64 <| .named .text <| .named .text <|
    .optional (fun x hx => (h.shortAnswersScore x hx).solid) <|
    .optional (fun x hx => (h.longAnswersScore x hx).solid) <|
    .optional (fun x hx => (h.totalShortAnswersScore x hx).solid) <| .named .byte <|
    .named .byte <| .named .text <| .named .word64 .done) rfl

-- ---------------------------------------------------------------------------
-- Blocks and transactions
-- ---------------------------------------------------------------------------

def BlockSummary.Proper (m : BlockSummary) : Prop := ∀ t ∈ m.timestamp, t.Proper

theorem BlockSummary.Proper.solid {m : BlockSummary} (h : m.Proper) : BlockSummary.codec.Solid m :=
  .record (by decide)
    (.named .word64 <| .named .text <| .optional (fun t ht => (h t ht).solid) <|
    .named .word16 <| .named .text <| .named .word64 <| .named (.list fun _ _ => .text) .done) rfl

structure BlockDetail.Proper (m : BlockDetail) : Prop where
  timestamp : ∀ t ∈ m.timestamp, t.Proper
  proposerVrfScore : ∀ x ∈ m.proposerVrfScore, x.Prints

theorem BlockDetail.Proper.solid {m : BlockDetail} (h : m.Proper) : BlockDetail.codec.Solid m :=
  .record (by decide)
    (.named .word64 <| .named .word64 <| .named .text <|
    .optional (fun t ht => (h.timestamp t ht).solid) <| .named .word16 <| .named .text <|
    .optional (fun x hx => (h.proposerVrfScore x hx).solid) <| .named .word64 <|
    .named .word64 <| .named .word64 <| .named (.list fun _ _ => .text) <|
    .optional (fun _ _ => .word32) <| .named .text .done) rfl

def TransactionSummary.Proper (m : TransactionSummary) : Prop := ∀ t ∈ m.timestamp, t.Proper

theorem TransactionSummary.Proper.solid {m : TransactionSummary} (h : m.Proper) :
    TransactionSummary.codec.Solid m :=
  .record (by decide)
    (.named .text <| .named .text <| .optional (fun t ht => (h t ht).solid) <| .named .text <|
    .optional (fun _ _ => .text) <| .named .text <| .named .text <| .named .text <|
    .named .text <| .named .word32 .done) rfl

def TransactionDetail.Proper (m : TransactionDetail) : Prop := ∀ t ∈ m.timestamp, t.Proper

theorem TransactionDetail.Proper.solid {m : TransactionDetail} (h : m.Proper) :
    TransactionDetail.codec.Solid m :=
  .record (by decide)
    (.named .word64 <| .named .word64 <| .named .text <| .named .text <| .named .text <|
    .optional (fun t ht => (h t ht).solid) <| .named .text <| .optional (fun _ _ => .text) <|
    .named .text <| .named .text <| .named .text <| .named .text <| .named .word32 <|
    .named .word32 <| .optional (fun _ _ => .boolean) <| .optional (fun _ _ => .text) .done) rfl

theorem TransactionEvent.solid (m : TransactionEvent) : TransactionEvent.codec.Solid m :=
  .record (by decide) (.named .text <| .named (.list fun _ _ => .text) .done) rfl

-- ---------------------------------------------------------------------------
-- Identities and addresses
-- ---------------------------------------------------------------------------

def Identity.Proper (m : Identity) : Prop := ∀ x ∈ m.totalShortAnswersScore, x.Prints

theorem Identity.Proper.solid {m : Identity} (h : m.Proper) : Identity.codec.Solid m :=
  .record (by decide)
    (.named .text <| .named .text <| .named .text <| .named .word32 <| .named .word32 <|
    .optional (fun x hx => (h x hx).solid) <| .named .text .done) rfl

theorem AddressSummary.solid (m : AddressSummary) : AddressSummary.codec.Solid m :=
  .record (by decide)
    (.named .text <| .named .text <| .named .text <| .named .word64 <| .named .word64 <|
    .named .word64 <| .named .word64 .done) rfl

theorem Balance.solid (m : Balance) : Balance.codec.Solid m :=
  .record (by decide) (.named .text <| .named .text <| .named .text .done) rfl

-- ---------------------------------------------------------------------------
-- Flips
-- ---------------------------------------------------------------------------

def FlipSummary.Proper (m : FlipSummary) : Prop := ∀ t ∈ m.timestamp, t.Proper

theorem FlipSummary.Proper.solid {m : FlipSummary} (h : m.Proper) : FlipSummary.codec.Solid m :=
  .record (by decide)
    (.named .text <| .named .text <| .named .word64 <| .named .text <| .named .text <|
    .named .word32 <| .named .word32 <| .optional (fun t ht => (h t ht).solid) .done) rfl

def FlipDetail.Proper (m : FlipDetail) : Prop := ∀ t ∈ m.timestamp, t.Proper

theorem FlipDetail.Proper.solid {m : FlipDetail} (h : m.Proper) : FlipDetail.codec.Solid m :=
  .record (by decide)
    (.named .text <| .named .word64 <| .named .text <| .named .text <| .named .word64 <|
    .optional (fun t ht => (h t ht).solid) <| .named .word32 <| .named .text <| .named .text <|
    .optional (fun _ _ => .byte) .done) rfl

theorem Neighbour.solid (m : Neighbour) : Neighbour.codec.Solid m :=
  .record (by decide) (.named .text <| .named .boolean .done) rfl

theorem Neighbours.solid (m : Neighbours) : Neighbours.codec.Solid m :=
  .record (by decide) (.named m.previous.solid <| .named m.next.solid .done) rfl

-- ---------------------------------------------------------------------------
-- Contracts, upgrades and tokens
-- ---------------------------------------------------------------------------

theorem Contract.solid (m : Contract) : Contract.codec.Solid m :=
  .record (by decide)
    (.named .text <| .named .text <| .named .text <| .named .text <| .named .text .done) rfl

structure OracleVoting.Proper (m : OracleVoting) : Prop where
  startTime : ∀ t ∈ m.startTime, t.Proper
  estimatedTerminationTime : ∀ t ∈ m.estimatedTerminationTime, t.Proper

theorem OracleVoting.Proper.solid {m : OracleVoting} (h : m.Proper) : OracleVoting.codec.Solid m :=
  .record (by decide)
    (.named .text <| .named .text <| .named .text <| .named .text <| .named .text <|
    .optional (fun _ _ => .text) <| .optional (fun t ht => (h.startTime t ht).solid) <|
    .optional (fun t ht => (h.estimatedTerminationTime t ht).solid) <| .named .word64 .done) rfl

theorem OracleRewardEstimate.solid (m : OracleRewardEstimate) :
    OracleRewardEstimate.codec.Solid m :=
  .record (by decide) (.named .text <| .named .text .done) rfl

def ContractBalanceUpdate.Proper (m : ContractBalanceUpdate) : Prop := ∀ t ∈ m.timestamp, t.Proper

theorem ContractBalanceUpdate.Proper.solid {m : ContractBalanceUpdate} (h : m.Proper) :
    ContractBalanceUpdate.codec.Solid m :=
  .record (by decide)
    (.named .text <| .named .text <| .optional (fun t ht => (h t ht).solid) <| .named .text <|
    .named .text <| .optional (fun _ _ => .text) .done) rfl

def Upgrade.Proper (m : Upgrade) : Prop := ∀ t ∈ m.timestamp, t.Proper

theorem Upgrade.Proper.solid {m : Upgrade} (h : m.Proper) : Upgrade.codec.Solid m :=
  .record (by decide)
    (.named .word32 <| .named .word64 <| .named .text <|
    .optional (fun t ht => (h t ht).solid) <| .optional (fun _ _ => .text) .done) rfl

theorem Token.solid (m : Token) : Token.codec.Solid m :=
  .record (by decide) (.named .text <| .named .text <| .named .text <| .named .byte .done) rfl

theorem TokenBalance.solid (m : TokenBalance) : TokenBalance.codec.Solid m :=
  .record (by decide) (.named .text <| .named .text <| .optional (fun t _ => t.solid) .done) rfl

end ChainGateway.Model
