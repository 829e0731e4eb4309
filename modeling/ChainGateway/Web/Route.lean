import ChainGateway.Net.Percent
import ChainGateway.Pending
import ChainGateway.Text.Quoted
import ChainGateway.Web.Query

/-!
# Routes

A route is a path of literal segments and parameters, with what is read for it. The
values of the parameters come first among the arguments of a read, then those from the
query. Paths are matched in lower case and percent encoded; the value of a parameter is
decoded afterwards. A parameter at the end of a path is not empty.
-/

namespace ChainGateway.Web

open Text

/-- A segment of a route's path. -/
inductive PathPart
  | literal (word : String)
  | number (name : String)
  | text (name : String)
  deriving DecidableEq, Repr

inductive PendingForm
  | all
  | ofAddress
  | transaction
  | raw
  deriving DecidableEq, Repr

/-- What is read for a route. -/
inductive Endpoint
  | read (op : Operation) (query : List QueryArgument)
  /-- The number of addresses that were active during the last day. -/
  | activeAddresses
  /-- A block by its height or its hash. -/
  | block
  | pending (form : PendingForm)
  deriving DecidableEq, Repr

structure Route where
  parts : List PathPart
  endpoint : Endpoint
  /-- Fields of the query that are read and not used. -/
  unused : List QueryField
  deriving DecidableEq, Repr

/-! ## Matching -/

/-- The values that segments give to the parameters among `parts`. -/
def matchParts : List PathPart → List (List Char) → Option (List (List Char))
  | [], [] => some []
  | .literal word :: parts, segment :: segments =>
    if segment = word.toList then matchParts parts segments else none
  | .number _ :: parts, segment :: segments | .text _ :: parts, segment :: segments =>
    if parts = [] ∧ segment = [] then none
    else (matchParts parts segments).map (segment :: ·)
  | _, _ => none

/-- The segments of a path that starts with a slash. -/
def pathSegments? (path : String) : Option (List (List Char)) :=
  match pieces '/' path.toList with
  | [] :: segments => some segments
  | _ => none

/-! ## Values of parameters -/

inductive PathFault
  | encoding (name : String)
  /-- A value that is no number; among several values its place is told. -/
  | number (value : String) (place : Option Nat)
  deriving DecidableEq, Repr

namespace PathFault

def reason : PathFault → String
  | .encoding name => "Invalid UTF-8 in `" ++ name ++ "`"
  | .number value none => "Cannot parse `" ++ quoted value ++ "` to a `u64`"
  | .number value (some place) =>
    "Cannot parse value at index " ++ toString place ++ " with value `" ++ quoted value ++
      "` to a `u64`"

def toReply (f : PathFault) : Reply := .text 400 ("Invalid URL: " ++ f.reason)

end PathFault

namespace PathPart

def name : PathPart → String
  | .literal word => word
  | .number name | .text name => name

def isParameter : PathPart → Bool
  | .literal _ => false
  | _ => true

/-- The text that a segment stands for. -/
def decode (p : PathPart) (segment : List Char) : Except PathFault String :=
  match decode? (Net.percentDecode (utf8Bytes segment)) with
  | some cs => .ok (.ofList cs)
  | none => .error (.encoding p.name)

def argument (place : Option Nat) (p : PathPart) (value : String) : Except PathFault Argument :=
  match p with
  | .number _ =>
    match readU64? value with
    | some n => .ok (.number n)
    | none => .error (.number value place)
  | _ => .ok (.text value)

end PathPart

namespace Route

def parameters (r : Route) : List PathPart := r.parts.filter PathPart.isParameter

/-- The arguments that segments stand for: all are decoded before any is read. -/
def pathArguments (r : Route) (segments : List (List Char)) : Except PathFault (List Argument) := do
  let values ← (r.parameters.zip segments).mapM fun (p, segment) => do
    .ok (p, ← p.decode segment)
  values.zipIdx.mapM fun ((p, value), place) =>
    p.argument (if 1 < values.length then some place else none) value

end Route

/-! ## Tasks -/

/-- How a block is named. -/
inductive BlockName
  | height (n : Nat)
  | hash (s : String)
  deriving DecidableEq, Repr

namespace BlockName

def ofText (s : String) : BlockName :=
  match readU64? s with
  | some n => .height n
  | none => .hash s

def call : BlockName → Call
  | .height n => ⟨.blockByHeight, [.number n]⟩
  | .hash s => ⟨.blockByHash, [.text s]⟩

end BlockName

/-- What a request asks for. -/
inductive Task
  | read (c : Call)
  | pending (q : PendingQuery)

/-- How far back an address counts as active, in nanoseconds. -/
def activitySpan : Int := 24 * 3600 * 1000000000

namespace Endpoint

/-- The fields of the query that are used. -/
def fields : Endpoint → List QueryField
  | .read _ query => query.map QueryArgument.field
  | .pending .all | .pending .ofAddress => [QueryArgument.limitField, QueryArgument.tokenField]
  | _ => []

/-- The task for arguments from the path and a query. -/
def task (e : Endpoint) (clock : Timestamp) (arguments : List Argument) (q : Query) :
    Except Problem Task := do
  match e, arguments with
  | .read op query, arguments =>
    .ok (.read ⟨op, arguments ++ (← query.mapM fun x => x.argument q)⟩)
  | .activeAddresses, _ =>
    .ok (.read ⟨.activeAddressesCount, [.time ((clock.move? (-activitySpan)).getD clock)]⟩)
  | .block, [.text s] => .ok (.read (BlockName.ofText s).call)
  | .pending .all, _ => .ok (.pending (.all (← pageSize (q.number? QueryArgument.limitField))))
  | .pending .ofAddress, [.text address] =>
    .ok (.pending (.ofAddress address (← pageSize (q.number? QueryArgument.limitField))))
  | .pending .transaction, [.text hash] => .ok (.pending (.transaction hash))
  | .pending .raw, [.text hash] => .ok (.pending (.raw hash))
  | _, _ => .error (.ofCode .entityNotFound)

end Endpoint

/-- The task of a route for the segments of its parameters and a query, or the reply that
says what is wrong with them. -/
def Route.task (r : Route) (clock : Timestamp) (segments : List (List Char)) (query : String) :
    Except Reply Task :=
  match r.pathArguments segments with
  | .error fault => .error fault.toReply
  | .ok arguments =>
    match Query.read (r.endpoint.fields ++ r.unused) query with
    | .error fault => .error fault.toReply
    | .ok q =>
      match r.endpoint.task clock arguments q with
      | .error problem => .error problem.toReply
      | .ok task => .ok task

end ChainGateway.Web
