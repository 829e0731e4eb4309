import ChainGateway.Admission.Gate
import ChainGateway.Json.Record
import ChainGateway.Web.Reply

/-!
# Problems

A problem is what callers are told when a request cannot be answered. Its code fixes
the status. Messages of the store and of remote services stay inside, except where a
remote service answered with a message of its own.
-/

namespace ChainGateway.Web

open Json

inductive ProblemCode
  | invalidInput
  | missingField
  | invalidRange
  | entityNotFound
  | tooManyRequests
  | serviceUnavailable
  | internalError
  | databaseError
  | remoteError
  deriving DecidableEq, Repr, Inhabited

namespace ProblemCode

def all : List ProblemCode := [
  .invalidInput, .missingField, .invalidRange, .entityNotFound, .tooManyRequests,
  .serviceUnavailable, .internalError, .databaseError, .remoteError]

/-- The code in replies. -/
def name : ProblemCode → String
  | .invalidInput => "INVALID_INPUT"
  | .missingField => "MISSING_FIELD"
  | .invalidRange => "INVALID_RANGE"
  | .entityNotFound => "ENTITY_NOT_FOUND"
  | .tooManyRequests => "TOO_MANY_REQUESTS"
  | .serviceUnavailable => "SERVICE_UNAVAILABLE"
  | .internalError => "INTERNAL_ERROR"
  | .databaseError => "DATABASE_ERROR"
  | .remoteError => "UPSTREAM_ERROR"

/-- The code in descriptions. -/
def label : ProblemCode → String
  | .invalidInput => "InvalidInput"
  | .missingField => "MissingField"
  | .invalidRange => "InvalidRange"
  | .entityNotFound => "EntityNotFound"
  | .tooManyRequests => "TooManyRequests"
  | .serviceUnavailable => "ServiceUnavailable"
  | .internalError => "InternalError"
  | .databaseError => "DatabaseError"
  | .remoteError => "UpstreamError"

def status : ProblemCode → Nat
  | .invalidInput | .missingField | .invalidRange => 400
  | .entityNotFound => 404
  | .tooManyRequests => 429
  | .serviceUnavailable => 503
  | .internalError | .databaseError | .remoteError => 500

def defaultMessage : ProblemCode → String
  | .invalidInput => "Invalid input data"
  | .missingField => "Required field is missing"
  | .invalidRange => "Value is out of valid range"
  | .entityNotFound => "No data found"
  | .tooManyRequests => "Request number limit exceeded"
  | .serviceUnavailable => "Service is overloaded, retry later"
  | .internalError => "Internal server error"
  | .databaseError => "Database operation failed"
  | .remoteError => "Upstream request failed"

def codec : Codec ProblemCode := .word all name

end ProblemCode

structure Problem where
  code : ProblemCode
  message : String
  details : Option Value
  deriving Inhabited

namespace Problem

/-- Containers that details may nest inside the problem's own. -/
def detailDepth : Nat := 126

def codec : Codec Problem :=
  .record
    (.field (.named "code" ProblemCode.codec) <|
    .field (.named "message" Codec.text) <|
    .field (.sparse "details" (Codec.free detailDepth)) .done)
    (fun p => (p.code, p.message, p.details, ()))
    (fun (code, message, details, ()) => ⟨code, message, details⟩)

def new (code : ProblemCode) (message : String) : Problem := ⟨code, message, none⟩

def ofCode (code : ProblemCode) : Problem := new code code.defaultMessage

def withDetails (p : Problem) (details : Value) : Problem := { p with details := some details }

def status (p : Problem) : Nat := p.code.status

def describe (p : Problem) : String := p.code.label ++ ": " ++ p.message

/-! ## Causes -/

def missingField (field : String) : Problem :=
  new .missingField ("Required field '" ++ field ++ "' is missing")

def invalidRange (field : String) (low high : Int) : Problem :=
  new .invalidRange
    ("Field '" ++ field ++ "' must be between " ++ toString low ++ " and " ++ toString high)

/-- The member of the details that holds the seconds to wait. -/
def retryMember : String := "retryAfterSecs"

def tooManyRequests : Option Nat → Problem
  | some seconds =>
    (new .tooManyRequests
      ("Request number limit exceeded. Retry after " ++ toString seconds ++ " seconds")).withDetails
      (.ofMembers [(retryMember, .nat seconds)])
  | none => ofCode .tooManyRequests

def invalidSetting (e : ConfigError) : Problem :=
  new .internalError ("Invalid configuration: " ++ e.message)

/-- What callers are told about a failed read. -/
def ofReadError : ReadError → Problem
  | .storage .notFound => ofCode .entityNotFound
  | .storage _ => ofCode .databaseError
  | .remote (.errorResponse _ message) => new .remoteError message
  | .remote _ => ofCode .remoteError
  | .validation (.requiredFieldMissing field) => missingField field
  | .validation e => new .invalidInput e.message
  | .config e => invalidSetting e

/-- What callers are told when they are turned away; they wait whole seconds, one at
least. -/
def ofRejection : Admission.Rejection → Problem
  | .rateLimited delay => tooManyRequests (some (max 1 delay.ceilSeconds))
  | .overloaded lane =>
    (new .serviceUnavailable
      ("Service is overloaded (" ++ lane.name ++ " lane), retry later")).withDetails
      (.ofMembers [("lane", .str lane.name)])

/-! ## Replies -/

/-- The seconds to wait, where the details hold them as a natural number of 64 bits. -/
def retryAfter (p : Problem) : Option Nat :=
  match p.details.bind fun d => d.member? retryMember with
  | some (.num (.int n)) => if 0 ≤ n ∧ n ≤ Text.maxU64 then some n.toNat else none
  | _ => none

def toReply (p : Problem) : Reply :=
  let body := "\x7b\"error\":" ++ codec.encode p ++ "\x7d"
  (Reply.json p.status body).addHeaders
    (match p.retryAfter with
    | some seconds => [("retry-after", toString seconds)]
    | none => [])

end Problem
end ChainGateway.Web
