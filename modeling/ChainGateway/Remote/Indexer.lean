import ChainGateway.Net.Target
import ChainGateway.Pending
import ChainGateway.Remote.Url.Parser

/-!
# The indexer

Pending transactions are kept by an indexer, which is asked over the web. Every query
has an address below the indexer's own: the text of a caller is one segment of its
path, and the size of a listing its query. A reply wraps its value in an envelope.
-/

namespace ChainGateway.Remote

open Json Model

structure Indexer where
  base : Url
  /-- The address as it was set, without slashes at its end. -/
  name : String
  deriving DecidableEq

/-- What comes back for a query. -/
inductive LinkReply
  /-- No reply: no connection, or none in time. -/
  | none
  | reply (status : Nat) (body : String)
  deriving DecidableEq, Repr

/-- What an indexer says about a query that it cannot answer. -/
structure Complaint where
  message : String
  /-- A text for users, which is preferred when there is one. -/
  userMessage : Option String
  deriving DecidableEq, Repr

namespace Complaint

def codec : Codec Complaint :=
  .record
    (.field
      { Field.named "message" { Codec.text with missing := some "" } with short := some "" } <|
    .field { Field.named "userMessage" Codec.text.optional with short := some none } .done)
    (fun c => (c.message, c.userMessage, ())) (fun (message, user, ()) => ⟨message, user⟩)

def text (c : Complaint) : String :=
  match c.userMessage with
  | none | some "" => c.message
  | some user => user

end Complaint

/-- A value or none, or a complaint. -/
def wrapper {α : Type} (c : Codec α) : Codec (Option α × Option Complaint) :=
  .record
    (.field (.named "result" c.optional) <|
    .field (.named "error" Complaint.codec.optional) .done)
    (fun (result, error) => (result, error, ())) (fun (result, error, ()) => (result, error))

namespace Indexer

def new (address : String) : Except ConfigError Indexer :=
  let name := String.ofList (address.toList.reverse.dropWhile (· = '/')).reverse
  match Url.parse name with
  | .ok base => .ok ⟨base, name⟩
  | .error e => .error (.invalidValue "LEDGERLINE_INDEXER_URL" address e.message)

def debug (x : Indexer) : String :=
  debugRecord "IndexerClient" [("base_url", Text.quoted x.name)]

/-- The address below the indexer's own with these segments. -/
def endpoint (x : Indexer) (segments : List String) : Url :=
  segments.foldl Url.push x.base.trimPath

/-- A caller's text as a segment; a text that would not stay one is refused. -/
def segment (field value : String) : Except ReadError String :=
  if value = "" ∨ value = "." ∨ value = ".." then
    .error (.validation (.invalidValue field "not a valid path segment"))
  else .ok value

/-- The address of a query. -/
def address (x : Indexer) : PendingQuery → Except ReadError Url
  | .transaction hash => do
    .ok (x.endpoint ["api", "MemPool", "Transaction", ← segment "hash" hash])
  | .raw hash => do
    .ok (x.endpoint ["api", "MemPool", "Transaction", ← segment "hash" hash, "Raw"])
  | .ofAddress address count => do
    let url := x.endpoint
      ["api", "MemPool", "Address", ← segment "address" address, "Transactions"]
    .ok (url.ask "limit" count)
  | .all count => .ok ((x.endpoint ["api", "MemPool", "Transactions"]).ask "limit" count)

/-- A page of a listing may be left out, a single record may not. -/
def unwrap : (k : Kind) → Option k.Carrier → Except ReadError Answer
  | k, some a => .ok ⟨k, a⟩
  | .list i, none => .ok ⟨.list i, []⟩
  | _, none => .error .notFound

def readReply (k : Kind) (url body : String) : Except ReadError Answer :=
  match (wrapper k.codec).decode body with
  | .error _ => .error (.remote (.invalidResponse url "error decoding response body"))
  | .ok (_, some complaint) => .error (.remote (.errorResponse url complaint.text))
  | .ok (result, none) => unwrap k result

/-- Whether a query can be sent to an address: its scheme is one of the web's own, and
the address can be the target of a request. -/
def isReachable (u : Url) : Bool :=
  ["http".toList, "https".toList].contains u.scheme && (Net.Target.parse? u.print).isSome

/-- What a reply means for the query that was sent to `url`. -/
def receive (k : Kind) (url : Url) (r : LinkReply) : Except ReadError Answer :=
  let shown := url.print
  let failed (what : String) (u : Url) : Except ReadError Answer :=
    .error (.remote (.requestFailed shown (what ++ " for url (" ++ u.print ++ ")")))
  if !url.hasHost then failed "builder error" url
  else if !isReachable url.anonymous then failed "builder error" url.anonymous
  else match r with
    | .none => failed "error sending request" url.anonymous
    | .reply status body =>
      if status < 200 ∨ 299 < status then .error (.remote (.badStatus shown status))
      else readReply k shown body

/-- The outcome of a query over a link that replies with `r`. -/
def outcome (x : Indexer) (q : PendingQuery) (r : LinkReply) : Except ReadError Answer := do
  receive q.result (← x.address q) r

end Indexer
end ChainGateway.Remote
