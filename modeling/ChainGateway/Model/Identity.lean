import ChainGateway.Model.Atom

/-!
# Identities and addresses
-/

namespace ChainGateway.Model

open Json Binary

/-- A validated person. -/
structure Identity where
  address : String
  state : String
  prevState : String
  madeFlips : UInt32
  qualifiedFlips : UInt32
  totalShortAnswersScore : Option Single
  totalValidationReward : String
  deriving DecidableEq, Inhabited, Repr

def Identity.codec : Codec Identity :=
  .record
    (.field (.named "address" Codec.text) <|
    .field (.named "state" Codec.text) <|
    .field (.named "prevState" Codec.text) <|
    .field (.named "madeFlips" Codec.word32) <|
    .field (.named "qualifiedFlips" Codec.word32) <|
    .field (.named "totalShortAnswersScore" Codec.single.optional) <|
    .field (.named "totalValidationReward" Codec.text) .done)
    (fun m => (m.address, m.state, m.prevState, m.madeFlips, m.qualifiedFlips,
      m.totalShortAnswersScore, m.totalValidationReward, ()))
    (fun (address, state, prevState, madeFlips, qualifiedFlips, totalShortAnswersScore,
      totalValidationReward, ()) =>
      ⟨address, state, prevState, madeFlips, qualifiedFlips, totalShortAnswersScore,
        totalValidationReward⟩)

/-- What an address holds and has done. -/
structure AddressSummary where
  address : String
  balance : String
  stake : String
  txCount : UInt64
  flipsCount : UInt64
  reportedFlipsCount : UInt64
  tokenCount : UInt64
  deriving DecidableEq, Inhabited, Repr

def AddressSummary.codec : Codec AddressSummary :=
  .record
    (.field (.named "address" Codec.text) <|
    .field (.named "balance" Codec.text) <|
    .field (.named "stake" Codec.text) <|
    .field (.named "txCount" Codec.word64) <|
    .field (.named "flipsCount" Codec.word64) <|
    .field (.named "reportedFlipsCount" Codec.word64) <|
    .field (.named "tokenCount" Codec.word64) .done)
    (fun m => (m.address, m.balance, m.stake, m.txCount, m.flipsCount, m.reportedFlipsCount,
      m.tokenCount, ()))
    (fun (address, balance, stake, txCount, flipsCount, reportedFlipsCount, tokenCount, ()) =>
      ⟨address, balance, stake, txCount, flipsCount, reportedFlipsCount, tokenCount⟩)

/-- The holdings of an address. -/
structure Balance where
  address : String
  balance : String
  stake : String
  deriving DecidableEq, Inhabited, Repr

def Balance.codec : Codec Balance :=
  .record
    (.field (.named "address" Codec.text) <|
    .field (.named "balance" Codec.text) <|
    .field (.named "stake" Codec.text) .done)
    (fun m => (m.address, m.balance, m.stake, ()))
    (fun (address, balance, stake, ()) => ⟨address, balance, stake⟩)

end ChainGateway.Model
