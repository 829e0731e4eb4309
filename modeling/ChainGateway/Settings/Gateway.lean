import ChainGateway.Admission.Classifier
import ChainGateway.Admission.Gate
import ChainGateway.Cache.Overrides
import ChainGateway.Epoch.Tracker

/-!
# Gateway settings

Everything about a gateway that can be set, with its standard value, and the rules
that accepted settings keep.
-/

namespace ChainGateway

structure Settings where
  maxRequests : Nat
  admissionTimeout : Span
  /-- Attempts of one client in two rate windows; zero for no limit. -/
  rateLimit : Nat
  rateWindow : Span
  heavyPatterns : List String
  sweepInterval : Span
  cachePolicy : Cache.Policy
  permanentTtl : Span
  cacheOverrides : String
  reportInterval : Span
  pacing : Epoch.Pacing
  crossOrigin : Bool
  indexerUrl : Option String
  indexerTimeout : Span
  deriving DecidableEq, Repr

namespace Settings

def standard : Settings where
  maxRequests := 50
  admissionTimeout := .ofSeconds 60
  rateLimit := 0
  rateWindow := .ofSeconds 30
  heavyPatterns := [Admission.Classifier.standardPattern]
  sweepInterval := .ofSeconds 60
  cachePolicy := .standard
  permanentTtl := Cache.PolicyTable.standardPermanentTtl
  cacheOverrides := ""
  reportInterval := .ofSeconds 60
  pacing := .standard
  crossOrigin := true
  indexerUrl := none
  indexerTimeout := .ofSeconds 30

instance : Inhabited Settings := ⟨standard⟩

/-- The settings whose value must not be zero, by name. -/
def periods (s : Settings) : List (String × Span) := [
  ("rate_window", s.rateWindow), ("rate_sweep_interval", s.sweepInterval),
  ("cache_report_interval", s.reportInterval), ("epoch_poll_interval", s.pacing.pollInterval)]

/-- Why settings are rejected, if they are: a lane without slots or a period of zero. -/
def fault? (s : Settings) : Option ConfigError :=
  if s.maxRequests = 0 then
    some (.invalidValue "max_req_count" "0" "standard lane needs at least one slot")
  else
    (s.periods.find? fun p => p.2 = .zero).map fun p =>
      .invalidValue p.1 "0" "must be at least one second"

def cachePolicies (s : Settings) : Except ConfigError Cache.PolicyTable :=
  match (Cache.PolicyTable.standardWith s.cachePolicy s.permanentTtl).applyOverrides
    s.cacheOverrides with
  | (table, none) => .ok table
  | (_, some e) => .error e

def limits (s : Settings) : Admission.Limits :=
  ⟨s.maxRequests, s.admissionTimeout, s.rateLimit, s.rateWindow⟩

def limitsRate (s : Settings) : Bool := 0 < s.rateLimit

end Settings
end ChainGateway
