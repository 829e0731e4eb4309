import ChainGateway.Model.Atom

/-!
# Flips
-/

namespace ChainGateway.Model

open Json Binary

/-- One flip in a listing. -/
structure FlipSummary where
  cid : String
  author : String
  epoch : UInt64
  status : String
  answer : String
  shortRespCount : UInt32
  longRespCount : UInt32
  timestamp : Option Timestamp
  deriving DecidableEq, Inhabited, Repr

def FlipSummary.codec : Codec FlipSummary :=
  .record
    (.field (.named "cid" Codec.text) <|
    .field (.named "author" Codec.text) <|
    .field (.named "epoch" Codec.word64) <|
    .field (.named "status" Codec.text) <|
    .field (.named "answer" Codec.text) <|
    .field (.named "shortRespCount" Codec.word32) <|
    .field (.named "longRespCount" Codec.word32) <|
    .field (.named "timestamp" Timestamp.codec.optional) .done)
    (fun m => (m.cid, m.author, m.epoch, m.status, m.answer, m.shortRespCount, m.longRespCount,
      m.timestamp, ()))
    (fun (cid, author, epoch, status, answer, shortRespCount, longRespCount, timestamp, ()) =>
      ⟨cid, author, epoch, status, answer, shortRespCount, longRespCount, timestamp⟩)

/-- One flip by itself. -/
structure FlipDetail where
  author : String
  epoch : UInt64
  txHash : String
  blockHash : String
  blockHeight : UInt64
  timestamp : Option Timestamp
  size : UInt32
  status : String
  answer : String
  grade : Option UInt8
  deriving DecidableEq, Inhabited, Repr

def FlipDetail.codec : Codec FlipDetail :=
  .record
    (.field (.named "author" Codec.text) <|
    .field (.named "epoch" Codec.word64) <|
    .field (.named "txHash" Codec.text) <|
    .field (.named "blockHash" Codec.text) <|
    .field (.named "blockHeight" Codec.word64) <|
    .field (.named "timestamp" Timestamp.codec.optional) <|
    .field (.named "size" Codec.word32) <|
    .field (.named "status" Codec.text) <|
    .field (.named "answer" Codec.text) <|
    .field (.named "grade" Codec.byte.optional) .done)
    (fun m => (m.author, m.epoch, m.txHash, m.blockHash, m.blockHeight, m.timestamp, m.size,
      m.status, m.answer, m.grade, ()))
    (fun (author, epoch, txHash, blockHash, blockHeight, timestamp, size, status, answer, grade, ())
      =>
      ⟨author, epoch, txHash, blockHash, blockHeight, timestamp, size, status, answer, grade⟩)

/-- A neighbour in an ordered sequence; `cycled` when the sequence wrapped around to reach it. -/
structure Neighbour where
  value : String
  cycled : Bool
  deriving DecidableEq, Inhabited, Repr

def Neighbour.codec : Codec Neighbour :=
  .record
    (.field (.named "value" Codec.text) <|
    .field (.named "cycled" Codec.boolean) .done)
    (fun m => (m.value, m.cycled, ()))
    (fun (value, cycled, ()) => ⟨value, cycled⟩)

/-- The neighbours on both sides. -/
structure Neighbours where
  previous : Neighbour
  next : Neighbour
  deriving DecidableEq, Inhabited, Repr

def Neighbours.codec : Codec Neighbours :=
  .record
    (.field (.named "prev" Neighbour.codec) <|
    .field (.named "next" Neighbour.codec) .done)
    (fun m => (m.previous, m.next, ()))
    (fun (previous, next, ()) => ⟨previous, next⟩)

end ChainGateway.Model
