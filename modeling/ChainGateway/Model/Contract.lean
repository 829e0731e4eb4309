import ChainGateway.Model.Atom

/-!
# Contracts, upgrades and tokens
-/

namespace ChainGateway.Model

open Json Binary

/-- A deployed contract. -/
structure Contract where
  address : String
  kind : String
  author : String
  deployTxHash : String
  stake : String
  deriving DecidableEq, Inhabited, Repr

def Contract.codec : Codec Contract :=
  .record
    (.field (.named "address" Codec.text) <|
    .field (.named "type" Codec.text) <|
    .field (.named "author" Codec.text) <|
    .field (.named "deployTxHash" Codec.text) <|
    .field (.named "stake" Codec.text) .done)
    (fun m => (m.address, m.kind, m.author, m.deployTxHash, m.stake, ()))
    (fun (address, kind, author, deployTxHash, stake, ()) =>
      ⟨address, kind, author, deployTxHash, stake⟩)

/-- A voting contract. -/
structure OracleVoting where
  contractAddress : String
  author : String
  balance : String
  state : String
  fact : String
  votingMinPayment : Option String
  startTime : Option Timestamp
  estimatedTerminationTime : Option Timestamp
  votesCount : UInt64
  deriving DecidableEq, Inhabited, Repr

def OracleVoting.codec : Codec OracleVoting :=
  .record
    (.field (.named "contractAddress" Codec.text) <|
    .field (.named "author" Codec.text) <|
    .field (.named "balance" Codec.text) <|
    .field (.named "state" Codec.text) <|
    .field (.named "fact" Codec.text) <|
    .field (.named "votingMinPayment" Codec.text.optional) <|
    .field (.named "startTime" Timestamp.codec.optional) <|
    .field (.named "estimatedTerminationTime" Timestamp.codec.optional) <|
    .field (.named "votesCount" Codec.word64) .done)
    (fun m => (m.contractAddress, m.author, m.balance, m.state, m.fact, m.votingMinPayment,
      m.startTime, m.estimatedTerminationTime, m.votesCount, ()))
    (fun (contractAddress, author, balance, state, fact, votingMinPayment, startTime,
      estimatedTerminationTime, votesCount, ()) =>
      ⟨contractAddress, author, balance, state, fact, votingMinPayment, startTime,
        estimatedTerminationTime, votesCount⟩)

/-- An estimated reward of one kind. -/
structure OracleRewardEstimate where
  amount : String
  kind : String
  deriving DecidableEq, Inhabited, Repr

def OracleRewardEstimate.codec : Codec OracleRewardEstimate :=
  .record
    (.field (.named "amount" Codec.text) <|
    .field (.named "type" Codec.text) .done)
    (fun m => (m.amount, m.kind, ()))
    (fun (amount, kind, ()) => ⟨amount, kind⟩)

/-- A change of balance by a call of a contract. -/
structure ContractBalanceUpdate where
  hash : String
  kind : String
  timestamp : Option Timestamp
  sender : String
  contractAddress : String
  balanceChange : Option String
  deriving DecidableEq, Inhabited, Repr

def ContractBalanceUpdate.codec : Codec ContractBalanceUpdate :=
  .record
    (.field (.named "hash" Codec.text) <|
    .field (.named "type" Codec.text) <|
    .field (.named "timestamp" Timestamp.codec.optional) <|
    .field (.named "from" Codec.text) <|
    .field (.named "contractAddress" Codec.text) <|
    .field (.named "balanceChange" Codec.text.optional) .done)
    (fun m => (m.hash, m.kind, m.timestamp, m.sender, m.contractAddress, m.balanceChange, ()))
    (fun (hash, kind, timestamp, sender, contractAddress, balanceChange, ()) =>
      ⟨hash, kind, timestamp, sender, contractAddress, balanceChange⟩)

/-- A protocol upgrade that took effect. -/
structure Upgrade where
  upgrade : UInt32
  height : UInt64
  hash : String
  timestamp : Option Timestamp
  url : Option String
  deriving DecidableEq, Inhabited, Repr

def Upgrade.codec : Codec Upgrade :=
  .record
    (.field (.named "upgrade" Codec.word32) <|
    .field (.named "height" Codec.word64) <|
    .field (.named "hash" Codec.text) <|
    .field (.named "timestamp" Timestamp.codec.optional) <|
    .field (.named "url" Codec.text.optional) .done)
    (fun m => (m.upgrade, m.height, m.hash, m.timestamp, m.url, ()))
    (fun (upgrade, height, hash, timestamp, url, ()) => ⟨upgrade, height, hash, timestamp, url⟩)

/-- A token contract. -/
structure Token where
  contractAddress : String
  name : String
  symbol : String
  decimals : UInt8
  deriving DecidableEq, Inhabited, Repr

def Token.codec : Codec Token :=
  .record
    (.field (.named "contractAddress" Codec.text) <|
    .field (.named "name" Codec.text) <|
    .field (.named "symbol" Codec.text) <|
    .field (.named "decimals" Codec.byte) .done)
    (fun m => (m.contractAddress, m.name, m.symbol, m.decimals, ()))
    (fun (contractAddress, name, symbol, decimals, ()) => ⟨contractAddress, name, symbol, decimals⟩)

/-- The holding of a token. -/
structure TokenBalance where
  address : String
  balance : String
  token : Option Token
  deriving DecidableEq, Inhabited, Repr

def TokenBalance.codec : Codec TokenBalance :=
  .record
    (.field (.named "address" Codec.text) <|
    .field (.named "balance" Codec.text) <|
    .field (.named "token" Token.codec.optional) .done)
    (fun m => (m.address, m.balance, m.token, ()))
    (fun (address, balance, token, ()) => ⟨address, balance, token⟩)

end ChainGateway.Model
