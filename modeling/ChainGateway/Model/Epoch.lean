import ChainGateway.Model.Atom

/-!
# Epochs and their rewards
-/

namespace ChainGateway.Model

open Json Binary

/-- One epoch in a listing. -/
structure EpochSummary where
  epoch : UInt64
  validationTime : Option Timestamp
  validFlips : UInt32
  qualifiedFlips : UInt32
  blockCount : UInt32
  txCount : UInt32
  minScoreForInvite : Single
  deriving DecidableEq, Inhabited, Repr

def EpochSummary.codec : Codec EpochSummary :=
  .record
    (.field (.named "epoch" Codec.word64) <|
    .field (.named "validationTime" Timestamp.codec.optional) <|
    .field (.named "validFlips" Codec.word32) <|
    .field (.named "qualifiedFlips" Codec.word32) <|
    .field (.named "blockCount" Codec.word32) <|
    .field (.named "txCount" Codec.word32) <|
    .field (.named "minScoreForInvite" Codec.single) .done)
    (fun m => (m.epoch, m.validationTime, m.validFlips, m.qualifiedFlips, m.blockCount,
      m.txCount, m.minScoreForInvite, ()))
    (fun (epoch, validationTime, validFlips, qualifiedFlips, blockCount, txCount, minScoreForInvite,
      ()) =>
      ⟨epoch, validationTime, validFlips, qualifiedFlips, blockCount, txCount, minScoreForInvite⟩)

/-- One epoch by itself. -/
structure EpochDetail where
  epoch : UInt64
  validationTime : Timestamp
  validationFirstBlockHeight : UInt64
  stateRoot : String
  discriminationStakeThreshold : Option String
  deriving DecidableEq, Inhabited, Repr

def EpochDetail.codec : Codec EpochDetail :=
  .record
    (.field (.named "epoch" Codec.word64) <|
    .field (.named "validationTime" Timestamp.codec) <|
    .field (.named "validationFirstBlockHeight" Codec.word64) <|
    .field (.named "stateRoot" Codec.text) <|
    .field (.named "discriminationStakeThreshold" Codec.text.optional) .done)
    (fun m => (m.epoch, m.validationTime, m.validationFirstBlockHeight, m.stateRoot,
      m.discriminationStakeThreshold, ()))
    (fun (epoch, validationTime, validationFirstBlockHeight, stateRoot,
      discriminationStakeThreshold, ()) =>
      ⟨epoch, validationTime, validationFirstBlockHeight, stateRoot, discriminationStakeThreshold⟩)

/-- A value and how often it occurs. -/
structure Tally where
  value : String
  count : UInt64
  deriving DecidableEq, Inhabited, Repr

def Tally.codec : Codec Tally :=
  .record
    (.field (.named "value" Codec.text) <|
    .field (.named "count" Codec.word64) .done)
    (fun m => (m.value, m.count, ()))
    (fun (value, count, ()) => ⟨value, count⟩)

/-- Invitations issued and used in an epoch. -/
structure InviteCounts where
  allCount : UInt64
  usedCount : UInt64
  deriving DecidableEq, Inhabited, Repr

def InviteCounts.codec : Codec InviteCounts :=
  .record
    (.field (.named "allCount" Codec.word64) <|
    .field (.named "usedCount" Codec.word64) .done)
    (fun m => (m.allCount, m.usedCount, ()))
    (fun (allCount, usedCount, ()) => ⟨allCount, usedCount⟩)

/-- Rewards paid for an epoch, by reason. -/
structure RewardsSummary where
  epoch : UInt64
  total : String
  validation : String
  flips : String
  invitations : String
  foundation : String
  zeroWallet : String
  validationShare : Option String
  flipsShare : Option String
  invitationsShare : Option String
  deriving DecidableEq, Inhabited, Repr

def RewardsSummary.codec : Codec RewardsSummary :=
  .record
    (.field (.named "epoch" Codec.word64) <|
    .field (.named "total" Codec.text) <|
    .field (.named "validation" Codec.text) <|
    .field (.named "flips" Codec.text) <|
    .field (.named "invitations" Codec.text) <|
    .field (.named "foundation" Codec.text) <|
    .field (.named "zeroWallet" Codec.text) <|
    .field (.named "validationShare" Codec.text.optional) <|
    .field (.named "flipsShare" Codec.text.optional) <|
    .field (.named "invitationsShare" Codec.text.optional) .done)
    (fun m => (m.epoch, m.total, m.validation, m.flips, m.invitations, m.foundation,
      m.zeroWallet, m.validationShare, m.flipsShare, m.invitationsShare, ()))
    (fun (epoch, total, validation, flips, invitations, foundation, zeroWallet, validationShare,
      flipsShare, invitationsShare, ()) =>
      ⟨epoch, total, validation, flips, invitations, foundation, zeroWallet, validationShare,
        flipsShare, invitationsShare⟩)

/-- An author whose flips were reported. -/
structure BadAuthor where
  address : String
  reason : String
  prevState : String
  state : String
  deriving DecidableEq, Inhabited, Repr

def BadAuthor.codec : Codec BadAuthor :=
  .record
    (.field (.named "address" Codec.text) <|
    .field (.named "reason" Codec.text) <|
    .field (.named "prevState" Codec.text) <|
    .field (.named "state" Codec.text) .done)
    (fun m => (m.address, m.reason, m.prevState, m.state, ()))
    (fun (address, reason, prevState, state, ()) => ⟨address, reason, prevState, state⟩)

/-- A reward of one kind. -/
structure Reward where
  balance : String
  stake : String
  kind : String
  deriving DecidableEq, Inhabited, Repr

def Reward.codec : Codec Reward :=
  .record
    (.field (.named "balance" Codec.text) <|
    .field (.named "stake" Codec.text) <|
    .field (.named "type" Codec.text) .done)
    (fun m => (m.balance, m.stake, m.kind, ()))
    (fun (balance, stake, kind, ()) => ⟨balance, stake, kind⟩)

/-- The rewards of one identity for an epoch. -/
structure IdentityRewards where
  address : String
  prevState : String
  state : String
  age : UInt16
  rewards : List Reward
  deriving DecidableEq, Inhabited, Repr

def IdentityRewards.codec : Codec IdentityRewards :=
  .record
    (.field (.named "address" Codec.text) <|
    .field (.named "prevState" Codec.text) <|
    .field (.named "state" Codec.text) <|
    .field (.named "age" Codec.word16) <|
    .field (.named "rewards" Reward.codec.list) .done)
    (fun m => (m.address, m.prevState, m.state, m.age, m.rewards, ()))
    (fun (address, prevState, state, age, rewards, ()) => ⟨address, prevState, state, age, rewards⟩)

/-- A payment to a fund. -/
structure FundPayment where
  address : String
  balance : String
  kind : String
  deriving DecidableEq, Inhabited, Repr

def FundPayment.codec : Codec FundPayment :=
  .record
    (.field (.named "address" Codec.text) <|
    .field (.named "balance" Codec.text) <|
    .field (.named "type" Codec.text) .done)
    (fun m => (m.address, m.balance, m.kind, ()))
    (fun (address, balance, kind, ()) => ⟨address, balance, kind⟩)

/-- A reward and who got it. -/
structure RewardHolder where
  amount : String
  address : String
  deriving DecidableEq, Inhabited, Repr

def RewardHolder.codec : Codec RewardHolder :=
  .record
    (.field (.named "amount" Codec.text) <|
    .field (.named "address" Codec.text) .done)
    (fun m => (m.amount, m.address, ()))
    (fun (amount, address, ()) => ⟨amount, address⟩)

/-- The least and the greatest reward of one kind. -/
structure RewardRange where
  kind : UInt8
  min : RewardHolder
  max : RewardHolder
  deriving DecidableEq, Inhabited, Repr

def RewardRange.codec : Codec RewardRange :=
  .record
    (.field (.named "type" Codec.byte) <|
    .field (.named "min" RewardHolder.codec) <|
    .field (.named "max" RewardHolder.codec) .done)
    (fun m => (m.kind, m.min, m.max, ()))
    (fun (kind, min, max, ()) => ⟨kind, min, max⟩)

/-- An identity's part in one epoch. -/
structure EpochIdentity where
  address : String
  epoch : UInt64
  prevState : String
  state : String
  shortAnswersScore : Option Single
  longAnswersScore : Option Single
  totalShortAnswersScore : Option Single
  madeFlips : UInt8
  availableFlips : UInt8
  totalValidationReward : String
  birthEpoch : UInt64
  deriving DecidableEq, Inhabited, Repr

def EpochIdentity.codec : Codec EpochIdentity :=
  .record
    (.field (.named "address" Codec.text) <|
    .field (.named "epoch" Codec.word64) <|
    .field (.named "prevState" Codec.text) <|
    .field (.named "state" Codec.text) <|
    .field (.named "shortAnswersScore" Codec.single.optional) <|
    .field (.named "longAnswersScore" Codec.single.optional) <|
    .field (.named "totalShortAnswersScore" Codec.single.optional) <|
    .field (.named "madeFlips" Codec.byte) <|
    .field (.named "availableFlips" Codec.byte) <|
    .field (.named "totalValidationReward" Codec.text) <|
    .field (.named "birthEpoch" Codec.word64) .done)
    (fun m => (m.address, m.epoch, m.prevState, m.state, m.shortAnswersScore,
      m.longAnswersScore, m.totalShortAnswersScore, m.madeFlips, m.availableFlips,
      m.totalValidationReward, m.birthEpoch, ()))
    (fun (address, epoch, prevState, state, shortAnswersScore, longAnswersScore,
      totalShortAnswersScore, madeFlips, availableFlips, totalValidationReward, birthEpoch, ()) =>
      ⟨address, epoch, prevState, state, shortAnswersScore, longAnswersScore,
        totalShortAnswersScore, madeFlips, availableFlips, totalValidationReward, birthEpoch⟩)

end ChainGateway.Model
