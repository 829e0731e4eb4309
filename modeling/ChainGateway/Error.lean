import ChainGateway.Text.Quoted

/-!
# Errors

What can go wrong with a read: the store, a remote service, an argument or a setting.
`message` is for callers, `debug` shows every field for diagnosis.
-/

namespace ChainGateway

inductive StorageError
  /-- The query ran and there is no such record. -/
  | notFound
  | queryFailed (query reason : String)
  | connectionFailed (reason : String)
  | decodeFailed (query reason : String)
  deriving DecidableEq, Repr

inductive RemoteError
  | requestFailed (url reason : String)
  | badStatus (url : String) (status : Nat)
  | errorResponse (url message : String)
  | invalidResponse (url reason : String)
  deriving DecidableEq, Repr

inductive ValidationError
  | requiredFieldMissing (field : String)
  | invalidValue (field reason : String)
  deriving DecidableEq, Repr

inductive ConfigError
  | missingRequired (field : String)
  | invalidValue (field value reason : String)
  | unknownOperation (name : String)
  deriving DecidableEq, Repr

inductive ReadError
  | storage (e : StorageError)
  | remote (e : RemoteError)
  | validation (e : ValidationError)
  | config (e : ConfigError)
  deriving DecidableEq, Repr

/-- What the gateway cannot compute: a time beyond the clock, more lane slots than a
lane can count, a periodic job without a period, or a page beyond the last number. -/
inductive Fault
  | timeOverflow
  | tooManySlots
  | zeroPeriod
  | pageOverflow
  deriving DecidableEq, Repr

def StorageError.message : StorageError → String
  | .notFound => "No data found"
  | .queryFailed query reason => "Query " ++ query ++ " failed: " ++ reason
  | .connectionFailed reason => "Connection to backing store failed: " ++ reason
  | .decodeFailed query reason => "Failed to decode " ++ query ++ " result: " ++ reason

def RemoteError.message : RemoteError → String
  | .requestFailed url reason => "Request to " ++ url ++ " failed: " ++ reason
  | .badStatus url status => "Request to " ++ url ++ " returned status " ++ toString status
  | .errorResponse url message => "Got error response from " ++ url ++ ": " ++ message
  | .invalidResponse url reason => "Invalid response from " ++ url ++ ": " ++ reason

def ValidationError.message : ValidationError → String
  | .requiredFieldMissing field => "Required field missing: " ++ field
  | .invalidValue field reason => "Invalid value for " ++ field ++ ": " ++ reason

def ConfigError.message : ConfigError → String
  | .missingRequired field => "Missing required configuration field: " ++ field
  | .invalidValue field value reason =>
    "Invalid value for " ++ field ++ ": " ++ value ++ " - " ++ reason
  | .unknownOperation name => "Unknown operation: " ++ name

def ReadError.message : ReadError → String
  | .storage e => "Storage error: " ++ e.message
  | .remote e => "Upstream error: " ++ e.message
  | .validation e => "Validation error: " ++ e.message
  | .config e => "Config error: " ++ e.message

/-- A record with its name and fields in braces. -/
def debugRecord (name : String) (fields : List (String × String)) : String :=
  name ++ " \x7b " ++ ", ".intercalate (fields.map fun (n, v) => n ++ ": " ++ v) ++ " \x7d"

open Text (quoted)

def StorageError.debug : StorageError → String
  | .notFound => "NotFound"
  | .queryFailed query reason =>
    debugRecord "QueryFailed" [("query", quoted query), ("reason", quoted reason)]
  | .connectionFailed reason => debugRecord "ConnectionFailed" [("reason", quoted reason)]
  | .decodeFailed query reason =>
    debugRecord "DecodeFailed" [("query", quoted query), ("reason", quoted reason)]

def RemoteError.debug : RemoteError → String
  | .requestFailed url reason =>
    debugRecord "RequestFailed" [("url", quoted url), ("reason", quoted reason)]
  | .badStatus url status =>
    debugRecord "BadStatus" [("url", quoted url), ("status", toString status)]
  | .errorResponse url message =>
    debugRecord "ErrorResponse" [("url", quoted url), ("message", quoted message)]
  | .invalidResponse url reason =>
    debugRecord "InvalidResponse" [("url", quoted url), ("reason", quoted reason)]

def ValidationError.debug : ValidationError → String
  | .requiredFieldMissing field => debugRecord "RequiredFieldMissing" [("field", quoted field)]
  | .invalidValue field reason =>
    debugRecord "InvalidValue" [("field", quoted field), ("reason", quoted reason)]

def ConfigError.debug : ConfigError → String
  | .missingRequired field => debugRecord "MissingRequired" [("field", quoted field)]
  | .invalidValue field value reason =>
    debugRecord "InvalidValue"
      [("field", quoted field), ("value", quoted value), ("reason", quoted reason)]
  | .unknownOperation name => debugRecord "UnknownOperation" [("name", quoted name)]

def ReadError.debug : ReadError → String
  | .storage e => "Storage(" ++ e.debug ++ ")"
  | .remote e => "Upstream(" ++ e.debug ++ ")"
  | .validation e => "Validation(" ++ e.debug ++ ")"
  | .config e => "Config(" ++ e.debug ++ ")"

namespace ReadError

def notFound : ReadError := .storage .notFound

def isNotFound (e : ReadError) : Bool := e == notFound

end ReadError
end ChainGateway
