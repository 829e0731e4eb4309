import ChainGateway.Cache.Reader
import ChainGateway.Epoch.Tracker
import ChainGateway.Metrics.Exposition
import ChainGateway.Remote.Indexer
import ChainGateway.Settings.Gateway
import ChainGateway.Settings.Telemetry
import ChainGateway.Web.Health
import ChainGateway.Web.Request
import ChainGateway.Web.Site

/-!
# The gateway

A gateway holds the admission gate, the reads through the cache, the epoch tracker and
the meters, and the visits underway. A visit is a request for a route below `/api`,
from its arrival until its reply.
-/

namespace ChainGateway

open Web Admission Cache Metrics

inductive VisitPhase
  /-- The visit waits for a slot. -/
  | queued
  /-- The visit holds a ticket. -/
  | working
  deriving DecidableEq, Repr

structure Visit where
  id : Nat
  /-- The request with its path in lower case. -/
  request : Request
  target : ApiMatch
  lane : Lane
  phase : VisitPhase

/-- Virtual time in milliseconds, and what the wall clock shows. -/
structure Moment where
  now : Nat
  clock : Timestamp

def Moment.instant (m : Moment) : Instant := .ofMillis m.now

structure Gateway where
  settings : Settings
  classifier : Classifier
  gate : Gate
  reader : Reader
  tracker : Epoch.Tracker
  meters : Meters
  visits : List Visit

/-- Why a gateway cannot be set up. -/
inductive SetupFault
  | setting (e : ConfigError)
  | fault (f : Fault)

def SetupFault.ofSetting {α : Type} : Except ConfigError α → Except SetupFault α
  | .ok a => .ok a
  | .error e => .error (.setting e)

/-- The indexer that is set, if one is. -/
def Settings.indexer (s : Settings) : Except ConfigError (Option Remote.Indexer) :=
  match s.indexerUrl with
  | none => .ok none
  | some url => do .ok (some (← Remote.Indexer.new url))

namespace Gateway

def new (s : Settings) (hasPool : Bool) : Except SetupFault Gateway := do
  if let some e := s.fault? then .error (.setting e)
  let policies ← SetupFault.ofSetting s.cachePolicies
  let classifier ← SetupFault.ofSetting (Classifier.ofPatterns s.heavyPatterns)
  match Gate.new s.limits with
  | .error f => .error (.fault f)
  | .ok gate => .ok ⟨s, classifier, gate, .new policies hasPool, .new s.pacing, .start, []⟩

def find? (g : Gateway) (id : Nat) : Option Visit := g.visits.find? (·.id = id)

/-- Puts a visit behind the others. -/
def putVisit (g : Gateway) (v : Visit) : Gateway :=
  { g with visits := g.visits.filter (·.id ≠ v.id) ++ [v] }

def dropVisit (g : Gateway) (id : Nat) : Gateway :=
  { g with visits := g.visits.filter (·.id ≠ id) }

/-! ## Reports -/

def health (g : Gateway) (now : Nat) : Health :=
  let registry := g.reader.registry
  { status := if g.tracker.current.isSome then .healthy else .degraded
    version := version
    uptime := now / 1000
    epoch := g.tracker.current.map Epoch.Marker.epoch
    admission := {
      standardInFlight := g.gate.inFlight .standard
      standardCapacity := (g.gate.lane .standard).capacity
      heavyInFlight := g.gate.inFlight .heavyLookup
      trackedClients := g.gate.limiter.trackedClients
      totals := g.gate.tally }
    cache := {
      stores := registry.stores.length
      entries := registry.totalEntries
      clears := registry.clears } }

def healthReply (g : Gateway) (now : Nat) : Reply := .json 200 (Health.codec.encode (g.health now))

def metricsReply (g : Gateway) : Reply :=
  { status := 200
    headers := [("content-type", "text/plain; version=0.0.4; charset=utf-8")]
    body := String.join (g.meters.lines.map (· ++ "\n")) }

/-! ## Jobs -/

/-- Takes in the outcome of asking for the last epoch. The cache is cleared when the epoch
advances, and the advance is counted after that. -/
def observe (g : Gateway) (o : Except ReadError Epoch.Marker) : Epoch.Poll × Gateway :=
  let (poll, advance, tracker) := g.tracker.poll o
  let g := { g with tracker := tracker }
  (poll,
    match advance with
    | none => g
    | some a =>
      { g with reader := g.reader.clear.2, meters := g.meters.countAdvance a.current.epoch })

/-- Purges the cache and meters what is left. -/
def report (g : Gateway) (now : Nat) : Nat × Gateway :=
  let (n, reader) := g.reader.purge (.ofMillis now)
  (n, { g with
    reader := reader
    meters := g.meters.reportStores reader.registry.snapshot })

/-- Drops stale rate windows and meters how many are left. -/
def sweep (g : Gateway) (now : Nat) : Except Fault (Nat × Gateway) := do
  let (n, gate) ← g.gate.sweep now
  .ok (n, { g with
    gate := gate
    meters := g.meters.reportClients gate.limiter.trackedClients })

end Gateway
end ChainGateway
