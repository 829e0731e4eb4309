import ChainGateway.Model.Atom

/-!
# Blocks and transactions
-/

namespace ChainGateway.Model

open Json Binary

/-- One block in a listing. -/
structure BlockSummary where
  height : UInt64
  hash : String
  timestamp : Option Timestamp
  txCount : UInt16
  proposer : String
  size : UInt64
  flags : List String
  deriving DecidableEq, Inhabited, Repr

def BlockSummary.codec : Codec BlockSummary :=
  .record
    (.field (.named "height" Codec.word64) <|
    .field (.named "hash" Codec.text) <|
    .field (.named "timestamp" Timestamp.codec.optional) <|
    .field (.named "txCount" Codec.word16) <|
    .field (.named "proposer" Codec.text) <|
    .field (.named "size" Codec.word64) <|
    .field (.named "flags" Codec.text.list) .done)
    (fun m => (m.height, m.hash, m.timestamp, m.txCount, m.proposer, m.size, m.flags, ()))
    (fun (height, hash, timestamp, txCount, proposer, size, flags, ()) =>
      ⟨height, hash, timestamp, txCount, proposer, size, flags⟩)

/-- One block by itself. -/
structure BlockDetail where
  epoch : UInt64
  height : UInt64
  hash : String
  timestamp : Option Timestamp
  txCount : UInt16
  proposer : String
  proposerVrfScore : Option Double
  size : UInt64
  fullSize : UInt64
  bodySize : UInt64
  flags : List String
  upgrade : Option UInt32
  feeRate : String
  deriving DecidableEq, Inhabited, Repr

def BlockDetail.codec : Codec BlockDetail :=
  .record
    (.field (.named "epoch" Codec.word64) <|
    .field (.named "height" Codec.word64) <|
    .field (.named "hash" Codec.text) <|
    .field (.named "timestamp" Timestamp.codec.optional) <|
    .field (.named "txCount" Codec.word16) <|
    .field (.named "proposer" Codec.text) <|
    .field (.named "proposerVrfScore" Codec.double.optional) <|
    .field (.named "size" Codec.word64) <|
    .field (.named "fullSize" Codec.word64) <|
    .field (.named "bodySize" Codec.word64) <|
    .field (.named "flags" Codec.text.list) <|
    .field (.named "upgrade" Codec.word32.optional) <|
    .field (.named "feeRate" Codec.text) .done)
    (fun m => (m.epoch, m.height, m.hash, m.timestamp, m.txCount, m.proposer,
      m.proposerVrfScore, m.size, m.fullSize, m.bodySize, m.flags, m.upgrade, m.feeRate, ()))
    (fun (epoch, height, hash, timestamp, txCount, proposer, proposerVrfScore, size, fullSize,
      bodySize, flags, upgrade, feeRate, ()) =>
      ⟨epoch, height, hash, timestamp, txCount, proposer, proposerVrfScore, size, fullSize,
        bodySize, flags, upgrade, feeRate⟩)

/-- One transaction in a listing. -/
structure TransactionSummary where
  hash : String
  kind : String
  timestamp : Option Timestamp
  sender : String
  recipient : Option String
  amount : String
  tips : String
  maxFee : String
  fee : String
  size : UInt32
  deriving DecidableEq, Inhabited, Repr

def TransactionSummary.codec : Codec TransactionSummary :=
  .record
    (.field (.named "hash" Codec.text) <|
    .field (.named "type" Codec.text) <|
    .field (.named "timestamp" Timestamp.codec.optional) <|
    .field (.named "from" Codec.text) <|
    .field (.named "to" Codec.text.optional) <|
    .field (.named "amount" Codec.text) <|
    .field (.named "tips" Codec.text) <|
    .field (.named "maxFee" Codec.text) <|
    .field (.named "fee" Codec.text) <|
    .field (.named "size" Codec.word32) .done)
    (fun m => (m.hash, m.kind, m.timestamp, m.sender, m.recipient, m.amount, m.tips, m.maxFee,
      m.fee, m.size, ()))
    (fun (hash, kind, timestamp, sender, recipient, amount, tips, maxFee, fee, size, ()) =>
      ⟨hash, kind, timestamp, sender, recipient, amount, tips, maxFee, fee, size⟩)

/-- One transaction by itself. -/
structure TransactionDetail where
  epoch : UInt64
  blockHeight : UInt64
  blockHash : String
  hash : String
  kind : String
  timestamp : Option Timestamp
  sender : String
  recipient : Option String
  amount : String
  tips : String
  maxFee : String
  fee : String
  size : UInt32
  nonce : UInt32
  success : Option Bool
  error : Option String
  deriving DecidableEq, Inhabited, Repr

def TransactionDetail.codec : Codec TransactionDetail :=
  .record
    (.field (.named "epoch" Codec.word64) <|
    .field (.named "blockHeight" Codec.word64) <|
    .field (.named "blockHash" Codec.text) <|
    .field (.named "hash" Codec.text) <|
    .field (.named "type" Codec.text) <|
    .field (.named "timestamp" Timestamp.codec.optional) <|
    .field (.named "from" Codec.text) <|
    .field (.named "to" Codec.text.optional) <|
    .field (.named "amount" Codec.text) <|
    .field (.named "tips" Codec.text) <|
    .field (.named "maxFee" Codec.text) <|
    .field (.named "fee" Codec.text) <|
    .field (.named "size" Codec.word32) <|
    .field (.named "nonce" Codec.word32) <|
    .field (.named "success" Codec.boolean.optional) <|
    .field (.named "error" Codec.text.optional) .done)
    (fun m => (m.epoch, m.blockHeight, m.blockHash, m.hash, m.kind, m.timestamp, m.sender,
      m.recipient, m.amount, m.tips, m.maxFee, m.fee, m.size, m.nonce, m.success, m.error, ()))
    (fun (epoch, blockHeight, blockHash, hash, kind, timestamp, sender, recipient, amount, tips,
      maxFee, fee, size, nonce, success, error, ()) =>
      ⟨epoch, blockHeight, blockHash, hash, kind, timestamp, sender, recipient, amount, tips,
        maxFee, fee, size, nonce, success, error⟩)

/-- An event that a contract raised in a transaction. -/
structure TransactionEvent where
  eventName : String
  data : List String
  deriving DecidableEq, Inhabited, Repr

def TransactionEvent.codec : Codec TransactionEvent :=
  .record
    (.field (.named "eventName" Codec.text) <|
    .field (.named "data" Codec.text.list) .done)
    (fun m => (m.eventName, m.data, ()))
    (fun (eventName, data, ()) => ⟨eventName, data⟩)

end ChainGateway.Model
