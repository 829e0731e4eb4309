import ChainGateway.Model.Kind
import ChainGateway.Operation

/-!
# The read surface

What every operation takes and what it answers with. A call is an operation with its
arguments; the surface says which arguments fit.
-/

namespace ChainGateway

open Model

/-- A value given to an operation. -/
inductive Argument
  | text (s : String)
  | integer (n : Int)
  | flag (b : Bool)
  | time (t : Timestamp)
  | absent
  | present (a : Argument)
  | list (items : List Argument)
  deriving Inhabited

inductive Parameter
  | text
  | optionalText
  | number
  | texts
  | flag
  | time
  deriving DecidableEq, Repr

namespace Argument

def number (n : Nat) : Argument := .integer n

def optionalText : Option String → Argument
  | none => .absent
  | some s => .present (.text s)

def texts (items : List String) : Argument := .list (items.map .text)

def isText : Argument → Bool
  | .text _ => true
  | _ => false

/-- Whether an argument may stand for a parameter. -/
def fits : Parameter → Argument → Bool
  | .text, .text _ => true
  | .optionalText, .absent => true
  | .optionalText, .present (.text _) => true
  | .number, .integer n => 0 ≤ n && n ≤ Text.maxU64
  | .texts, .list items => items.all isText
  | .flag, .flag _ => true
  | .time, .time _ => true
  | _, _ => false

end Argument

namespace Operation

def parameters : Operation → List Parameter
  | .search => [.text]
  | .coins => []
  | .circulatingSupply => [.texts]
  | .activeAddressesCount => [.time]
  | .epochsCount => []
  | .epochs => [.number, .optionalText]
  | .lastEpoch => []
  | .epoch => [.number]
  | .epochBlocksCount => [.number]
  | .epochBlocks => [.number, .number, .optionalText]
  | .epochFlipsCount => [.number]
  | .epochFlips => [.number, .number, .optionalText]
  | .epochFlipStatesSummary => [.number]
  | .epochIdentitiesCount => [.number, .texts, .texts]
  | .epochIdentities => [.number, .texts, .texts, .number, .optionalText]
  | .epochIdentityStatesSummary => [.number]
  | .epochIdentityStatesInterimSummary => [.number]
  | .epochInvitesSummary => [.number]
  | .epochTxsCount => [.number]
  | .epochTxs => [.number, .number, .optionalText]
  | .epochRewardsSummary => [.number]
  | .epochBadAuthorsCount => [.number]
  | .epochBadAuthors => [.number, .number, .optionalText]
  | .epochIdentitiesRewards => [.number, .number, .optionalText]
  | .epochFundPayments => [.number]
  | .epochRewardBounds => [.number]
  | .epochIdentity => [.number, .text]
  | .epochIdentityRewards => [.number, .text]
  | .lastBlock => []
  | .blockByHeight => [.number]
  | .blockByHash => [.text]
  | .blockTxs => [.text, .number, .optionalText]
  | .transaction => [.text]
  | .transactionRaw => [.text]
  | .transactionEvents => [.text, .number, .optionalText]
  | .identity => [.text]
  | .identityEpochs => [.text, .number, .optionalText]
  | .identityFlips => [.text, .number, .optionalText]
  | .address => [.text]
  | .addressTxs => [.text, .number, .optionalText]
  | .balancesCount => []
  | .balances => [.optionalText, .number, .optionalText]
  | .flip => [.text]
  | .flipEpochAdjacentFlips => [.text]
  | .flipAddressAdjacentFlips => [.text]
  | .flipEpochIdentityAdjacentFlips => [.text]
  | .contract => [.text]
  | .oracleVotingContracts =>
    [.optionalText, .optionalText, .texts, .flag, .optionalText, .number, .optionalText]
  | .oracleVotingContract => [.text, .optionalText]
  | .estimatedOracleRewards => [.number]
  | .addressContractTxBalanceUpdates => [.text, .text, .number, .optionalText]
  | .upgrades => [.number, .optionalText]
  | .upgrade => [.number]
  | .token => [.text]
  | .tokenHolders => [.text, .number, .optionalText]
  | .addressTokens => [.text, .number, .optionalText]

def result : Operation → Kind
  | .search => .list .entity
  | .coins => .one .coinTotals
  | .circulatingSupply => .one .text
  | .activeAddressesCount => .one .count
  | .epochsCount => .one .count
  | .epochs => .page .epochSummary
  | .lastEpoch => .one .epochDetail
  | .epoch => .one .epochDetail
  | .epochBlocksCount => .one .count
  | .epochBlocks => .page .blockSummary
  | .epochFlipsCount => .one .count
  | .epochFlips => .page .flipSummary
  | .epochFlipStatesSummary => .list .tally
  | .epochIdentitiesCount => .one .count
  | .epochIdentities => .page .epochIdentity
  | .epochIdentityStatesSummary => .list .tally
  | .epochIdentityStatesInterimSummary => .list .tally
  | .epochInvitesSummary => .one .inviteCounts
  | .epochTxsCount => .one .count
  | .epochTxs => .page .transactionSummary
  | .epochRewardsSummary => .one .rewardsSummary
  | .epochBadAuthorsCount => .one .count
  | .epochBadAuthors => .page .badAuthor
  | .epochIdentitiesRewards => .page .identityRewards
  | .epochFundPayments => .list .fundPayment
  | .epochRewardBounds => .list .rewardRange
  | .epochIdentity => .one .epochIdentity
  | .epochIdentityRewards => .list .reward
  | .lastBlock => .one .blockDetail
  | .blockByHeight => .one .blockDetail
  | .blockByHash => .one .blockDetail
  | .blockTxs => .page .transactionSummary
  | .transaction => .one .transactionDetail
  | .transactionRaw => .one .rawTransaction
  | .transactionEvents => .page .transactionEvent
  | .identity => .one .identity
  | .identityEpochs => .page .epochIdentity
  | .identityFlips => .page .flipSummary
  | .address => .one .addressSummary
  | .addressTxs => .page .transactionSummary
  | .balancesCount => .one .count
  | .balances => .page .balance
  | .flip => .one .flipDetail
  | .flipEpochAdjacentFlips => .one .neighbours
  | .flipAddressAdjacentFlips => .one .neighbours
  | .flipEpochIdentityAdjacentFlips => .one .neighbours
  | .contract => .one .contract
  | .oracleVotingContracts => .page .oracleVoting
  | .oracleVotingContract => .one .oracleVoting
  | .estimatedOracleRewards => .list .oracleRewardEstimate
  | .addressContractTxBalanceUpdates => .page .contractBalanceUpdate
  | .upgrades => .page .upgrade
  | .upgrade => .one .upgrade
  | .token => .one .token
  | .tokenHolders => .page .tokenBalance
  | .addressTokens => .page .tokenBalance

end Operation

/-- One read. -/
structure Call where
  operation : Operation
  arguments : List Argument
  deriving Inhabited

namespace Call

def fits (c : Call) : Bool :=
  c.arguments.length == c.operation.parameters.length &&
    (c.operation.parameters.zip c.arguments).all fun (p, a) => a.fits p

end Call

/-- What a read comes to. -/
abbrev Outcome := Except ReadError Answer

end ChainGateway
