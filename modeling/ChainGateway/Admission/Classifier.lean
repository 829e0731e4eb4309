import ChainGateway.Admission.Lane
import ChainGateway.Error
import ChainGateway.Pattern.Match
import ChainGateway.Pattern.Parser

/-!
# Route classification

A route is an expensive lookup when one of the configured patterns matches somewhere
in its path.
-/

namespace ChainGateway.Admission

structure Classifier where
  heavy : List Pattern

namespace Classifier

def setting : String := "LEDGERLINE_HEAVY_ROUTE_PATTERNS"

/-- The pattern of the adjacent-flip lookups. -/
def standardPattern : String := "(?i)/adjacentflips$"

/-- Reads the patterns in order; the first that is none is reported. -/
def ofPatterns (patterns : List String) : Except ConfigError Classifier := do
  let heavy ← patterns.mapM fun p =>
    match Pattern.read p with
    | .ok q => .ok q
    | .error refusal => .error (ConfigError.invalidValue setting p refusal.message)
  .ok ⟨heavy⟩

def classify (c : Classifier) (path : String) : Lane :=
  if c.heavy.any (·.isMatch path) then .heavyLookup else .standard

end Classifier
end ChainGateway.Admission
