import ChainGateway.Rehearsal.Admission
import ChainGateway.Rehearsal.Caching
import ChainGateway.Rehearsal.Gateway
import ChainGateway.Rehearsal.Notation.Subject
import ChainGateway.Rehearsal.RateWindow
import ChainGateway.Rehearsal.Registry
import ChainGateway.Rehearsal.Store
import ChainGateway.Rehearsal.Tracker

/-!
# Scripts

How the steps of every kind of rehearsal are written. The field `do` names a step, the
other fields hold what it is done with.
-/

namespace ChainGateway.Rehearsal.Notation

open Json

def script {α : Type} (step : Value → String → Reading α) (v : Value) : Reading (List α) := do
  (← list v "steps").mapM fun s => do step s (← text s "do")

def unknownStep {α : Type} : Reading α := bad "unknown step"

/-! ## Stores and registries -/

/-- A value of a cache entry: a number, a text or a list of texts. -/
def asEntryValue (v : Value) : Reading Outcome := do
  match v with
  | .num (.int n) => .ok (.ok ⟨.one .count, UInt64.ofNat n.toNat⟩)
  | .str s => .ok (.ok ⟨.one .text, s⟩)
  | .arr items => .ok (.ok ⟨.list .text, ← items.mapM asText⟩)
  | _ => bad "not a value of an entry"

def entry (v : Value) : Reading Outcome := do
  match given v "error" with
  | some e => .ok (.error (← asError e))
  | none => asEntryValue (← field v "value")

def asKind (v : Value) : Reading Model.Kind := do
  match ← asText v with
  | "u64" => .ok (.one .count)
  | "u32" => .ok (.one .smallCount)
  | "string" => .ok (.one .text)
  | "list" => .ok (.list .text)
  | "page" => .ok (.page .text)
  | _ => bad "unknown type"

def kind (v : Value) : Reading Model.Kind := do asKind (← field v "as")

def storeStep (v : Value) : String → Reading StoreStep
  | "insert" => do .ok (.insert (← arguments v "key") (← entry v))
  | "get" => do .ok (.get (← arguments v "key") (← kind v))
  | "clear" => .ok .clear
  | "purge" => .ok .purge
  | "is_empty" => .ok .isEmpty
  | "debug" => .ok .debug
  | "sleep" => do .ok (.sleep (← millis v "sleep"))
  | _ => unknownStep

def registryStep (v : Value) : String → Reading RegistryStep
  | "insert" => do .ok (.insert (← operation v) (← arguments v "key") (← entry v))
  | "get" => do .ok (.get (← operation v) (← arguments v "key") (← kind v))
  | "clear" => do .ok (.clear (← operation v))
  | "purge" => do .ok (.purge (← operation v))
  | "is_empty" => do .ok (.isEmpty (← operation v))
  | "debug" => do .ok (.debug (← operation v))
  | "store" => do .ok (.storePolicy (← operation v))
  | "same_store" => do .ok (.sameStore (← operation v))
  | "sleep" => do .ok (.sleep (← millis v "sleep"))
  | "clear_all" => .ok .clearAll
  | "purge_all" => .ok .purgeAll
  | "clear_count" => .ok .clearCount
  | "policy" => do .ok (.policy (← operation v))
  | "default_policy" => .ok .defaultPolicy
  | "snapshot" => .ok .snapshot
  | "report" => .ok .report
  | "debug_registry" => .ok .debugRegistry
  | "start_report" => do
    .ok (.startReport ((← span? v "interval").getD standardReportInterval))
  | "signal" => do .ok (.signal (← flag v "value"))
  | "stop_report" => do .ok (.stopReport (← givenOr v "drop" asBool false))
  | _ => unknownStep

/-! ## Trackers -/

def asMarkerOutcome (v : Value) : Reading (Except ReadError Epoch.Marker) := do
  match given v "error" with
  | some e => .ok (.error (← asError e))
  | none => .ok (.ok (← asMarker v))

def markerRef (v : Value) : Reading MarkerRef := do
  match given v "marker" with
  | none => .ok .none
  | some (.str _) => .ok .current
  | some m => .ok (.marker (← asMarker m))

def trackerStep (v : Value) : String → Reading TrackerStep
  | "poll" => .ok .poll
  | "next_wake" => do .ok (.nextWake (← markerRef v))
  | "register" => .ok .register
  | "set_clock" => do .ok (.setClock (← asTime (← field v "now")))
  | "advance_clock" => do .ok (.advanceClock (← asInt (← field v "ms")))
  | "push" => do .ok (.push (← asMarkerOutcome (← field v "outcome")))
  | "set_last_epoch" => do .ok (.setLastEpoch (← markerOf v))
  | "fail" => do .ok (.fail (← errorOf v))
  | "unfail" => .ok .unfail
  | "sleep" => do .ok (.sleep (← millis v "sleep"))
  | "config" => .ok .pacing
  | "start" => do .ok (.start (← givenOr v "already_stopped" asBool false))
  | "signal" => do .ok (.signal (← flag v "value"))
  | "stop" => do .ok (.stop (← givenOr v "drop" asBool false))
  | _ => unknownStep

def asPacing (v : Value) : Reading Epoch.Pacing := do
  let standard := Epoch.Pacing.standard
  .ok ⟨(← span? v "poll").getD standard.pollInterval,
    (← span? v "resume").getD standard.resumeDelay⟩

/-- A tracker before the first step. -/
def trackerWorld (v : Value) : Reading TrackerWorld := do
  let source : Source ← match given v "source" with
    | some (.str "accessor") => .ok (.backend .new)
    | _ => do .ok (.ofScript (← (← list v "script").mapM asMarkerOutcome))
  .ok (.start (← givenOr v "config" asPacing .standard) (← asTime (← field v "now")) source)

/-! ## Rates and admission -/

def windowStep (v : Value) (name : String) : Reading WindowStep := do
  let t : Instant := .ofMillis (← nat v "at_ms")
  match name with
  | "record" => .ok (.record t)
  | "stale" => .ok (.stale t)
  | "retry_after" => .ok (.retryAfter t (← nat v "limit"))
  | "same_as_new" => .ok (.sameAsNew t)
  | _ => unknownStep

def limiterStep (v : Value) : String → Reading LimiterStep
  | "check" => do .ok (.check ⟨← text v "client"⟩)
  | "sleep" => do .ok (.sleep (← millis v "sleep"))
  | "sweep" => .ok .sweep
  | _ => unknownStep

def patterns (v : Value) : Reading (List String) :=
  givenOr v "patterns" texts [Admission.Classifier.standardPattern]

def limits (v : Value) : Reading Admission.Limits := do
  let standard := Admission.Limits.standard
  .ok ⟨← givenOr v "max_req_count" asNat standard.standardSlots,
    (← span? v "timeout").getD standard.timeout, ← givenOr v "limit" asNat standard.rateLimit,
    (← span? v "window").getD standard.rateWindow⟩

def admissionStep (v : Value) : String → Reading AdmissionStep
  | "admit" => do .ok (.enter ⟨← text v "client"⟩ (← text v "route") (← text v "as"))
  | "admit_bg" => do
    .ok (.enterAside ⟨← text v "client"⟩ (← text v "route") (← text v "as")
      ((← span? v "hold").map Span.ceilMillis))
  | "release" | "drop" => do .ok (.leave (← text v "as"))
  | "held" => do .ok (.held (← text v "as"))
  | "sleep" => do .ok (.sleep (← millis v "sleep"))
  | "sweep" => .ok .sweep
  | "classify" => do .ok (.classify (← text v "route"))
  | "start_sweep" => do
    .ok (.startSweep ((← span? v "interval").getD standardSweepInterval))
  | "signal" => do .ok (.signal (← flag v "value"))
  | "stop_sweep" => do .ok (.stopSweep (← givenOr v "drop" asBool false))
  | _ => unknownStep

/-! ## Caching -/

def cachingStep (v : Value) : String → Reading CachingStep
  | "call" => do .ok (.call (← asCall v))
  | "parallel" => do .ok (.together (← (← list v "calls").mapM asCall))
  | "poll" => .ok .poll
  | "advance_event" => .ok .advance
  | "sleep" => do .ok (.sleep (← millis v "sleep"))
  | "snapshot" => .ok .snapshot
  | "report" => .ok .report
  | "lookups" => .ok .lookups
  | "calls" => do .ok (.calls (← operation v))
  | "fail" => do .ok (.fail (← operation v) (← errorOf v))
  | "unfail" => do .ok (.unfail (← operation v))
  | "value" => do
    let (op, a) ← answerOf v
    .ok (.value op a)
  | "set_last_epoch" => do .ok (.setLastEpoch (← markerOf v))
  | _ => unknownStep

/-! ## Gateways -/

def gatewayStep (v : Value) : String → Reading GatewayStep
  | "http" => do .ok (.request (← asRequest v))
  | "parallel" => do .ok (.together (← (← list v "requests").mapM asRequest))
  | "metrics" => .ok .metrics
  | "state" => .ok .state
  | "sleep" => do .ok (.sleep (← millis v "sleep"))
  | "start" => .ok .start
  | "shutdown" => .ok .shutdown
  | "fail" => do .ok (.fail (← operation v) (← errorOf v))
  | "unfail" => do .ok (.unfail (← operation v))
  | "value" => do
    let (op, a) ← answerOf v
    .ok (.value op a)
  | "set_last_epoch" => do .ok (.setLastEpoch (← markerOf v))
  | _ => unknownStep

/-- The pool of a gateway, unless it is the indexer that is set. -/
def poolSource (v : Value) : Reading (Option PoolSource) := do
  match given v "mempool" with
  | some (.str _) => .ok none
  | _ =>
    match ← pool v with
    | some p => .ok (some (.fixed p))
    | none => .ok (some .none)

/-- A gateway before the first step. -/
def gatewayWorld (v : Value) : Reading (Except SetupFault GatewayWorld) := do
  let settings ← givenOr v "config" asSettings .standard
  .ok (GatewayWorld.new settings (← asBackend (← field v "accessor")) (← poolSource v))

end ChainGateway.Rehearsal.Notation
