import ChainGateway.Error

/-!
# Operations

Every read has a stable name; it selects the cache store, the cache policy and the
place in reports. Operations are ordered as they are listed.
-/

namespace ChainGateway

inductive Operation
  | search
  | coins
  | circulatingSupply
  | activeAddressesCount
  | epochsCount
  | epochs
  | lastEpoch
  | epoch
  | epochBlocksCount
  | epochBlocks
  | epochFlipsCount
  | epochFlips
  | epochFlipStatesSummary
  | epochIdentitiesCount
  | epochIdentities
  | epochIdentityStatesSummary
  | epochIdentityStatesInterimSummary
  | epochInvitesSummary
  | epochTxsCount
  | epochTxs
  | epochRewardsSummary
  | epochBadAuthorsCount
  | epochBadAuthors
  | epochIdentitiesRewards
  | epochFundPayments
  | epochRewardBounds
  | epochIdentity
  | epochIdentityRewards
  | lastBlock
  | blockByHeight
  | blockByHash
  | blockTxs
  | transaction
  | transactionRaw
  | transactionEvents
  | identity
  | identityEpochs
  | identityFlips
  | address
  | addressTxs
  | balancesCount
  | balances
  | flip
  | flipEpochAdjacentFlips
  | flipAddressAdjacentFlips
  | flipEpochIdentityAdjacentFlips
  | contract
  | oracleVotingContracts
  | oracleVotingContract
  | estimatedOracleRewards
  | addressContractTxBalanceUpdates
  | upgrades
  | upgrade
  | token
  | tokenHolders
  | addressTokens
  deriving DecidableEq, Inhabited, Repr

namespace Operation

def all : List Operation := [
  .search, .coins, .circulatingSupply, .activeAddressesCount, .epochsCount, .epochs, .lastEpoch,
  .epoch, .epochBlocksCount, .epochBlocks, .epochFlipsCount, .epochFlips,
  .epochFlipStatesSummary, .epochIdentitiesCount, .epochIdentities, .epochIdentityStatesSummary,
  .epochIdentityStatesInterimSummary, .epochInvitesSummary, .epochTxsCount, .epochTxs,
  .epochRewardsSummary, .epochBadAuthorsCount, .epochBadAuthors, .epochIdentitiesRewards,
  .epochFundPayments, .epochRewardBounds, .epochIdentity, .epochIdentityRewards, .lastBlock,
  .blockByHeight, .blockByHash, .blockTxs, .transaction, .transactionRaw, .transactionEvents,
  .identity, .identityEpochs, .identityFlips, .address, .addressTxs, .balancesCount, .balances,
  .flip, .flipEpochAdjacentFlips, .flipAddressAdjacentFlips, .flipEpochIdentityAdjacentFlips,
  .contract, .oracleVotingContracts, .oracleVotingContract, .estimatedOracleRewards,
  .addressContractTxBalanceUpdates, .upgrades, .upgrade, .token, .tokenHolders, .addressTokens]

def name : Operation → String
  | .search => "Search"
  | .coins => "Coins"
  | .circulatingSupply => "CirculatingSupply"
  | .activeAddressesCount => "ActiveAddressesCount"
  | .epochsCount => "EpochsCount"
  | .epochs => "Epochs"
  | .lastEpoch => "LastEpoch"
  | .epoch => "Epoch"
  | .epochBlocksCount => "EpochBlocksCount"
  | .epochBlocks => "EpochBlocks"
  | .epochFlipsCount => "EpochFlipsCount"
  | .epochFlips => "EpochFlips"
  | .epochFlipStatesSummary => "EpochFlipStatesSummary"
  | .epochIdentitiesCount => "EpochIdentitiesCount"
  | .epochIdentities => "EpochIdentities"
  | .epochIdentityStatesSummary => "EpochIdentityStatesSummary"
  | .epochIdentityStatesInterimSummary => "EpochIdentityStatesInterimSummary"
  | .epochInvitesSummary => "EpochInvitesSummary"
  | .epochTxsCount => "EpochTxsCount"
  | .epochTxs => "EpochTxs"
  | .epochRewardsSummary => "EpochRewardsSummary"
  | .epochBadAuthorsCount => "EpochBadAuthorsCount"
  | .epochBadAuthors => "EpochBadAuthors"
  | .epochIdentitiesRewards => "EpochIdentitiesRewards"
  | .epochFundPayments => "EpochFundPayments"
  | .epochRewardBounds => "EpochRewardBounds"
  | .epochIdentity => "EpochIdentity"
  | .epochIdentityRewards => "EpochIdentityRewards"
  | .lastBlock => "LastBlock"
  | .blockByHeight => "BlockByHeight"
  | .blockByHash => "BlockByHash"
  | .blockTxs => "BlockTxs"
  | .transaction => "Transaction"
  | .transactionRaw => "TransactionRaw"
  | .transactionEvents => "TransactionEvents"
  | .identity => "Identity"
  | .identityEpochs => "IdentityEpochs"
  | .identityFlips => "IdentityFlips"
  | .address => "Address"
  | .addressTxs => "AddressTxs"
  | .balancesCount => "BalancesCount"
  | .balances => "Balances"
  | .flip => "Flip"
  | .flipEpochAdjacentFlips => "FlipEpochAdjacentFlips"
  | .flipAddressAdjacentFlips => "FlipAddressAdjacentFlips"
  | .flipEpochIdentityAdjacentFlips => "FlipEpochIdentityAdjacentFlips"
  | .contract => "Contract"
  | .oracleVotingContracts => "OracleVotingContracts"
  | .oracleVotingContract => "OracleVotingContract"
  | .estimatedOracleRewards => "EstimatedOracleRewards"
  | .addressContractTxBalanceUpdates => "AddressContractTxBalanceUpdates"
  | .upgrades => "Upgrades"
  | .upgrade => "Upgrade"
  | .token => "Token"
  | .tokenHolders => "TokenHolders"
  | .addressTokens => "AddressTokens"

/-- The place of an operation in `all`. -/
def index (op : Operation) : Nat := op.ctorIdx

def parse (s : String) : Except ConfigError Operation :=
  match all.find? fun op => op.name = s with
  | some op => .ok op
  | none => .error (.unknownOperation s)

/-- Operations in their order, equal ones together. -/
def sorted (ops : List Operation) : List Operation :=
  all.flatMap fun op => ops.filter (· = op)

end Operation
end ChainGateway
