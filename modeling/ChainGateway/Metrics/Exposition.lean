import ChainGateway.Binary.Text
import ChainGateway.Metrics.Meters

/-!
# Exposition of meters

Meters are shown as families in the order of their names, the samples of a family in
the order of their label values. A family without samples is left out. Values are
doubles, written plainly.
-/

namespace ChainGateway.Metrics

open Admission Binary

structure Sample where
  /-- What follows the family's name. -/
  suffix : String
  labels : List (String × String)
  value : String
  deriving DecidableEq, Repr

inductive FamilyType
  | counter
  | gauge
  | histogram
  deriving DecidableEq, Repr

def FamilyType.name : FamilyType → String
  | .counter => "counter"
  | .gauge => "gauge"
  | .histogram => "histogram"

structure Family where
  name : String
  help : String
  type : FamilyType
  samples : List Sample
  deriving DecidableEq, Repr

namespace Family

def escapeChar : Char → List Char
  | '\\' => ['\\', '\\']
  | '\n' => ['\\', 'n']
  | '"' => ['\\', '"']
  | c => [c]

def escaped (s : String) : String := .ofList (s.toList.flatMap escapeChar)

def sampleLine (f : Family) (s : Sample) : String :=
  let labels := ",".intercalate (s.labels.map fun (n, v) => n ++ "=\"" ++ escaped v ++ "\"")
  f.name ++ s.suffix ++ (if s.labels = [] then "" else "\x7b" ++ labels ++ "\x7d") ++ " " ++ s.value

def lines (f : Family) : List String :=
  if f.samples = [] then []
  else
    ["# HELP " ++ f.name ++ " " ++ f.help, "# TYPE " ++ f.name ++ " " ++ f.type.name] ++
      f.samples.map f.sampleLine

end Family

namespace Meters

def value (x : Double) : String := .ofList x.plain

def natValue (n : Nat) : String := value (.ofNat _ n)

def laneLabel (l : Lane) : String × String := ("lane", l.name)

/-- The lanes in the order of their names. -/
def lanes : List Lane := [.heavyLookup, .standard]

/-- A lane has been used once a request was admitted to it. -/
def used (m : Meters) (l : Lane) : Bool := m.waits l != []

def inFlightFamily (m : Meters) : Family where
  name := "ledgerline_admission_in_flight"
  help := "Admission slots currently held"
  type := .gauge
  samples := (lanes.filter m.used).map fun l => ⟨"", [laneLabel l], value (.ofInt _ (m.inFlight l))⟩

def endingsFamily (m : Meters) : Family where
  name := "ledgerline_admission_outcomes_total"
  help := "Admission decisions by lane and outcome"
  type := .counter
  samples := lanes.flatMap fun l => Ending.all.filterMap fun e =>
    let n := count (l, e) m.endings
    if n = 0 then none else some ⟨"", [laneLabel l, ("outcome", e.name)], natValue n⟩

/-- The upper bounds of the buckets for waits: as shown, and in microseconds. -/
def waitBounds : List (String × Nat) := [
  ("0.0005", 500), ("0.001", 1000), ("0.005", 5000), ("0.01", 10000), ("0.05", 50000),
  ("0.1", 100000), ("0.5", 500000), ("1", 1000000), ("5", 5000000), ("15", 15000000),
  ("30", 30000000), ("60", 60000000)]

/-- A wait in seconds: whole seconds and a fraction, each the nearest double. -/
def waitSeconds (millis : Nat) : Double :=
  .add (.ofNat _ (millis / 1000))
    (.div (.ofNat _ (millis % 1000 * 1000000)) (.ofNat _ 1000000000))

def waitTotal (w : Waits) : Double :=
  w.reverse.foldl (fun total millis => .add total (waitSeconds millis)) (.zero _)

def waitSamples (m : Meters) (l : Lane) : List Sample :=
  let w := m.waits l
  let bucket (bound : String) (n : Nat) : Sample :=
    ⟨"_bucket", [laneLabel l, ("le", bound)], natValue n⟩
  waitBounds.map (fun (shown, micros) => bucket shown (w.countP fun t => t * 1000 ≤ micros)) ++
    [bucket "+Inf" w.length, ⟨"_sum", [laneLabel l], value (waitTotal w)⟩,
      ⟨"_count", [laneLabel l], natValue w.length⟩]

def waitsFamily (m : Meters) : Family where
  name := "ledgerline_admission_wait_seconds"
  help := "Time spent waiting for an admission slot in seconds"
  type := .histogram
  samples := (lanes.filter m.used).flatMap m.waitSamples

def storeFamily (m : Meters) (name help : String) (f : Cache.Stats → Nat) : Family where
  name := name
  help := help
  type := .gauge
  samples := (m.stores.mergeSort fun a b => !(b.operation.name < a.operation.name)).map fun s =>
    ⟨"", [("operation", s.operation.name)], natValue (f s)⟩

def currentEpochFamily (m : Meters) : Family where
  name := "ledgerline_current_epoch"
  help := "Latest observed epoch"
  type := .gauge
  samples := [⟨"", [], natValue m.currentEpoch.toNat⟩]

def epochClearsFamily (m : Meters) : Family where
  name := "ledgerline_epoch_clears_total"
  help := "Cache clears triggered by a new epoch"
  type := .counter
  samples := [⟨"", [], natValue m.epochClears⟩]

/-- The requests in the order of method, path and status. -/
def sortedRequests (m : Meters) : List (RequestLabel × Nat) :=
  let key (r : RequestLabel × Nat) : List String :=
    [r.1.method, r.1.path, toString r.1.status]
  m.requests.mergeSort fun a b => !(key b < key a)

/-- How many requests of each method and path there were. -/
def durations (m : Meters) : List ((String × String) × Nat) :=
  m.sortedRequests.foldl
    (fun counts (r, n) =>
      match counts.getLast? with
      | some (key, total) =>
        if key = (r.method, r.path) then counts.dropLast ++ [(key, total + n)]
        else counts ++ [((r.method, r.path), n)]
      | none => [((r.method, r.path), n)])
    []

/-- Durations differ from run to run; their number is shown. -/
def durationsFamily (m : Meters) : Family where
  name := "ledgerline_http_request_duration_seconds"
  help := "HTTP request duration in seconds"
  type := .histogram
  samples := m.durations.map fun ((method, path), n) =>
    ⟨"_count", [("method", method), ("path", path)], natValue n⟩

def requestsFamily (m : Meters) : Family where
  name := "ledgerline_http_requests_total"
  help := "Total number of HTTP requests"
  type := .counter
  samples := m.sortedRequests.map fun (r, n) =>
    ⟨"", [("method", r.method), ("path", r.path), ("status", toString r.status)], natValue n⟩

def trackedFamily (m : Meters) : Family where
  name := "ledgerline_rate_tracked_clients"
  help := "Clients with a live rate window"
  type := .gauge
  samples := [⟨"", [], natValue m.trackedClients⟩]

def families (m : Meters) : List Family := [
  m.inFlightFamily,
  m.endingsFamily,
  m.waitsFamily,
  m.storeFamily "ledgerline_cache_entries" "Entries held per operation store" (·.entries),
  m.storeFamily "ledgerline_cache_evictions"
    "Live entries evicted by capacity pressure per operation store" (·.evictions),
  m.storeFamily "ledgerline_cache_hits" "Cache hits per operation store" (·.hits),
  m.storeFamily "ledgerline_cache_misses" "Cache misses per operation store" (·.misses),
  m.currentEpochFamily,
  m.epochClearsFamily,
  m.durationsFamily,
  m.requestsFamily,
  m.trackedFamily]

def lines (m : Meters) : List String := m.families.flatMap Family.lines

end Meters
end ChainGateway.Metrics
