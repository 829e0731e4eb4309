import ChainGateway.Settings.Gateway
import ChainGateway.Text.Lowercase

/-!
# Settings from the environment

Each setting has a variable. A variable whose text does not fit leaves the standard
value in place.
-/

namespace ChainGateway

open Text

/-- The variables that are set. -/
structure Environment where
  entries : List (String × String)

namespace Environment

def get? (env : Environment) (name : String) : Option String :=
  (env.entries.find? (·.1 = name)).map (·.2)

/-- A natural number up to `limit`, with blanks around it allowed. -/
def natural (env : Environment) (limit : Nat) (name : String) (standard : Nat) : Nat :=
  match env.get? name with
  | some s => ((readNatural limit (trimList s.toList)).toOption).getD standard
  | none => standard

/-- A span in whole seconds. -/
def seconds (env : Environment) (name : String) (standard : Span) : Span :=
  match (env.get? name).bind fun s => (readNatural maxU64 (trimList s.toList)).toOption with
  | some n => .ofSeconds n
  | none => standard

end Environment

namespace Settings

/-- The items of a list with commas, without blank ones. -/
def splitList (s : String) : List String :=
  (((pieces ',' s.toList).map trimList).filter (· ≠ [])).map String.ofList

/-- An address without blanks around it and without slashes at its end. -/
def trimUrl (s : String) : Option String :=
  match ((trimList s.toList).reverse.dropWhile (· = '/')).reverse with
  | [] => none
  | cs => some (.ofList cs)

def ofEnvironment (env : Environment) : Settings where
  maxRequests := env.natural maxU64 "LEDGERLINE_MAX_REQ_COUNT" standard.maxRequests
  admissionTimeout := env.seconds "LEDGERLINE_ADMISSION_TIMEOUT_SECS" standard.admissionTimeout
  rateLimit := env.natural maxU32 "LEDGERLINE_REQS_PER_MINUTE_LIMIT" standard.rateLimit
  rateWindow := env.seconds "LEDGERLINE_RATE_WINDOW_SECS" standard.rateWindow
  heavyPatterns :=
    match env.get? "LEDGERLINE_HEAVY_ROUTE_PATTERNS" with
    | some s => splitList s
    | none => standard.heavyPatterns
  sweepInterval := env.seconds "LEDGERLINE_RATE_SWEEP_INTERVAL_SECS" standard.sweepInterval
  cachePolicy :=
    ⟨env.natural maxU64 "LEDGERLINE_CACHE_DEFAULT_CAPACITY" standard.cachePolicy.capacity,
      env.seconds "LEDGERLINE_CACHE_DEFAULT_TTL_SECS" standard.cachePolicy.ttl⟩
  permanentTtl := env.seconds "LEDGERLINE_CACHE_PERMANENT_TTL_SECS" standard.permanentTtl
  cacheOverrides := (env.get? "LEDGERLINE_CACHE_OVERRIDES").getD standard.cacheOverrides
  reportInterval := env.seconds "LEDGERLINE_CACHE_REPORT_INTERVAL_SECS" standard.reportInterval
  pacing :=
    ⟨env.seconds "LEDGERLINE_EPOCH_POLL_INTERVAL_SECS" standard.pacing.pollInterval,
      env.seconds "LEDGERLINE_EPOCH_RESUME_DELAY_SECS" standard.pacing.resumeDelay⟩
  crossOrigin :=
    match env.get? "LEDGERLINE_CORS_ENABLED" with
    | some s => lowercase s ≠ "false"
    | none => standard.crossOrigin
  indexerUrl := (env.get? "LEDGERLINE_INDEXER_URL").bind trimUrl
  indexerTimeout := env.seconds "LEDGERLINE_INDEXER_TIMEOUT_SECS" standard.indexerTimeout

end Settings
end ChainGateway
