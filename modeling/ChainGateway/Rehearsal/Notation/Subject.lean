import ChainGateway.Cache.Overrides
import ChainGateway.Rehearsal.Backend
import ChainGateway.Rehearsal.Notation.Field
import ChainGateway.Settings.Gateway
import ChainGateway.Web.Request

/-!
# Subjects of scripts

How scripts write errors, arguments, calls, cache policies, settings, and the stand-ins
for a backing store and a pool.
-/

namespace ChainGateway.Rehearsal.Notation

open Json

/-! ## Errors -/

def asError (v : Value) : Reading ReadError := do
  let f := text v
  match ← f "kind" with
  | "Storage.NotFound" => .ok (.storage .notFound)
  | "Storage.QueryFailed" => .ok (.storage (.queryFailed (← f "query") (← f "reason")))
  | "Storage.ConnectionFailed" => .ok (.storage (.connectionFailed (← f "reason")))
  | "Storage.DecodeFailed" => .ok (.storage (.decodeFailed (← f "query") (← f "reason")))
  | "Upstream.RequestFailed" => .ok (.remote (.requestFailed (← f "url") (← f "reason")))
  | "Upstream.BadStatus" => .ok (.remote (.badStatus (← f "url") (← nat v "status")))
  | "Upstream.ErrorResponse" => .ok (.remote (.errorResponse (← f "url") (← f "message")))
  | "Upstream.InvalidResponse" => .ok (.remote (.invalidResponse (← f "url") (← f "reason")))
  | "Validation.RequiredFieldMissing" => .ok (.validation (.requiredFieldMissing (← f "field")))
  | "Validation.InvalidValue" =>
    .ok (.validation (.invalidValue (← f "field") (← f "reason")))
  | "Config.MissingRequired" => .ok (.config (.missingRequired (← f "field")))
  | "Config.InvalidValue" =>
    .ok (.config (.invalidValue (← f "field") (← f "value") (← f "reason")))
  | "Config.UnknownOperation" => .ok (.config (.unknownOperation (← f "name")))
  | _ => bad "unknown kind of error"

def errorOf (v : Value) : Reading ReadError := do asError (← field v "error")

/-! ## Arguments and calls -/

mutual

/-- An argument as an object whose only name says its kind. -/
def asArgument : Value → Reading Argument
  | .obj [(kind, x)] =>
    match kind with
    | "str" | "string" => do .ok (.text (← asText x))
    | "u8" | "u16" | "u32" | "u64" | "usize" | "i32" | "i64" => do .ok (.integer (← asInt x))
    | "bool" => do .ok (.flag (← asBool x))
    | "time" => do .ok (.time (← asTime x))
    | "opt" => asOptionalArgument x
    | "list" =>
      match x with
      | .arr items => do .ok (.list (← asArguments items))
      | _ => bad "not a list"
    | _ => bad "unknown kind of argument"
  | _ => bad "not an argument"

def asOptionalArgument : Value → Reading Argument
  | .null => .ok .absent
  | v => do .ok (.present (← asArgument v))

def asArguments : List Value → Reading (List Argument)
  | [] => .ok []
  | v :: rest => do .ok ((← asArgument v) :: (← asArguments rest))

end

def arguments (v : Value) (name : String) : Reading (List Argument) := do
  asArguments (← list v name)

/-- An argument for a parameter, which tells its kind. -/
def argumentFor (p : Parameter) (v : Value) : Reading Argument := do
  match p, v with
  | .text, .str s => .ok (.text s)
  | .optionalText, .null => .ok .absent
  | .optionalText, .str s => .ok (.present (.text s))
  | .number, v => .ok (.integer (← asInt v))
  | .texts, v => .ok (.texts (← texts v))
  | .flag, v => .ok (.flag (← asBool v))
  | .time, v => .ok (.time (← asTime (← field v "time")))
  | _, _ => bad "not an argument"

def asCall (v : Value) : Reading Call := do
  let op ← operation v
  let args ← list v "args"
  .ok ⟨op, ← (op.parameters.zip args).mapM fun (p, a) => argumentFor p a⟩

/-- What an operation is made to answer. -/
def answerOf (v : Value) : Reading (Operation × Model.Answer) := do
  let op ← operation v
  .ok (op, ⟨op.result, ← decoded op.result.codec (← field v "value")⟩)

def asMarker (v : Value) : Reading Epoch.Marker := decoded Epoch.Marker.codec v

def markerOf (v : Value) : Reading Epoch.Marker := do asMarker (← field v "marker")

/-! ## Cache policies -/

def policy (v : Value) : Reading Cache.Policy := do
  match given v "bypass" with
  | some (.bool true) => .ok .bypass
  | _ => .ok ⟨← nat v "capacity", ← span v "ttl"⟩

/-- An edit of a policy table: what is wrong with it, if it is a list of overrides. -/
def editTable (t : Cache.PolicyTable) (v : Value) :
    Reading (Option (Option ConfigError) × Cache.PolicyTable) := do
  match ← text v "do" with
  | "set" | "with" => .ok (none, t.set (← operation v) (← policy v))
  | "set_ttl" => .ok (none, t.setTtl (← operation v) (← span v "ttl"))
  | "overrides" =>
    let (t, e) := t.applyOverrides (← text v "spec")
    .ok (some e, t)
  | _ => bad "unknown edit"

def editedTable (v : Value) :
    Reading (List (Option (Option ConfigError)) × Cache.PolicyTable) := do
  let permanent := (← span? v "permanent").getD Cache.PolicyTable.standardPermanentTtl
  let table : Cache.PolicyTable ← match ← givenOr v "base" asText "standard" with
    | "standard" | "default" => .ok .standard
    | "new" => do .ok (.uniform (← policy v))
    | "standard_with" => do .ok (.standardWith (← policy v) permanent)
    | _ => bad "unknown base"
  (← items v "edits").foldlM (fun (outs, t) e => do
    let (out, t) ← editTable t e
    .ok (outs ++ [out], t)) ([], table)

def table (v : Value) : Reading Cache.PolicyTable :=
  givenOr v "table" (fun t => do .ok (← editedTable t).2) .standard

/-! ## Settings -/

def asSettings (v : Value) : Reading Settings := do
  let s := Settings.standard
  let span (name : String) (other : Span) : Reading Span := do .ok ((← span? v name).getD other)
  .ok {
    maxRequests := ← givenOr v "max_req_count" asNat s.maxRequests
    admissionTimeout := ← span "admission_timeout" s.admissionTimeout
    rateLimit := ← givenOr v "reqs_per_minute_limit" asNat s.rateLimit
    rateWindow := ← span "rate_window" s.rateWindow
    heavyPatterns := ← givenOr v "heavy_route_patterns" texts s.heavyPatterns
    sweepInterval := ← span "rate_sweep_interval" s.sweepInterval
    cachePolicy := ⟨← givenOr v "cache_default_capacity" asNat s.cachePolicy.capacity,
      ← span "cache_default_ttl" s.cachePolicy.ttl⟩
    permanentTtl := ← span "cache_permanent_ttl" s.permanentTtl
    cacheOverrides := ← givenOr v "cache_overrides" asText s.cacheOverrides
    reportInterval := ← span "cache_report_interval" s.reportInterval
    pacing := ⟨← span "epoch_poll_interval" s.pacing.pollInterval,
      ← span "epoch_resume_delay" s.pacing.resumeDelay⟩
    crossOrigin := ← givenOr v "cors_enabled" asBool s.crossOrigin
    indexerUrl := ← optional v "indexer_url" asText
    indexerTimeout := ← span "indexer_timeout" s.indexerTimeout
  }

/-! ## Requests -/

def asHeader (v : Value) : Reading (String × String) := do
  match ← texts v with
  | [name, value] => .ok (name, value)
  | _ => bad "not a header"

/-- A request, unless its parts make none. -/
def asRequest (v : Value) : Reading (Option Web.Request) := do
  let peer ← optional v "socket" asText
  .ok (Web.Request.build? (← givenOr v "method" asText "GET") (← givenOr v "uri" asText "/")
    (← (← items v "headers").mapM asHeader) (peer.bind fun s => Net.Address.ofSocket? s.toList))

/-! ## Stand-ins -/

def asBackend (v : Value) : Reading Backend := do
  let b := { Backend.new with delay := ((← span? v "delay").map Span.ceilMillis).getD 0 }
  let b ← (← items v "fail").foldlM (fun (b : Backend) f => do
    .ok (b.fail (← operation f) (← errorOf f))) b
  let b ← (← items v "values").foldlM (fun (b : Backend) f => do
    let (op, a) ← answerOf f
    .ok (b.setValue op a)) b
  match ← optional v "last_epoch" asMarker with
  | none => .ok b
  | some m => .ok (b.setLastEpoch m)

/-- A pending transaction; one without a recipient says so with a flag. -/
def asPending (v : Value) : Reading Model.TransactionDetail := do
  let t := Backend.transactionFixture (← text v "hash")
  let t := { t with sender := ← givenOr v "from" asText t.sender }
  match given v "to" with
  | none => .ok t
  | some (.bool _) => .ok { t with recipient := none }
  | some x => .ok { t with recipient := some (← asText x) }

def pool (v : Value) : Reading (Option PendingPool) := do
  match given v "mempool" with
  | some (.arr items) => .ok (some (.ofList (← items.mapM asPending)))
  | _ => .ok none

end ChainGateway.Rehearsal.Notation
