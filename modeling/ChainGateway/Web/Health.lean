import ChainGateway.Admission.Gate
import ChainGateway.Model.Atom

/-!
# Health reports

A gateway is healthy once it has seen an epoch. The report also shows the lanes and
the cache.
-/

namespace ChainGateway.Web

open Json

inductive HealthStatus
  | healthy
  | degraded
  deriving DecidableEq, Repr

def HealthStatus.name : HealthStatus → String
  | .healthy => "healthy"
  | .degraded => "degraded"

def HealthStatus.codec : Codec HealthStatus := .word [.healthy, .degraded] name

/-- The codec of the totals of an admission gate. -/
def tallyCodec : Codec Admission.Tally :=
  let count := Codec.natural Text.maxU64
  .record
    (.field (.named "admitted" count) <|
    .field (.named "rate_limited" count) <|
    .field (.named "overloaded" count) .done)
    (fun t => (t.admitted, t.rateLimited, t.overloaded, ()))
    (fun (admitted, rateLimited, overloaded, ()) => ⟨admitted, rateLimited, overloaded⟩)

structure AdmissionHealth where
  standardInFlight : Nat
  standardCapacity : Nat
  heavyInFlight : Nat
  trackedClients : Nat
  totals : Admission.Tally
  deriving DecidableEq, Repr

def AdmissionHealth.codec : Codec AdmissionHealth :=
  let count := Codec.natural Text.maxU64
  .record
    (.field (.named "standard_in_flight" count) <|
    .field (.named "standard_capacity" count) <|
    .field (.named "heavy_in_flight" count) <|
    .field (.named "tracked_clients" count) <|
    .field (.named "totals" tallyCodec) .done)
    (fun h => (h.standardInFlight, h.standardCapacity, h.heavyInFlight, h.trackedClients,
      h.totals, ()))
    (fun (standardInFlight, standardCapacity, heavyInFlight, trackedClients, totals, ()) =>
      ⟨standardInFlight, standardCapacity, heavyInFlight, trackedClients, totals⟩)

structure CacheHealth where
  stores : Nat
  entries : Nat
  clears : Nat
  deriving DecidableEq, Repr

def CacheHealth.codec : Codec CacheHealth :=
  let count := Codec.natural Text.maxU64
  .record
    (.field (.named "stores" count) <|
    .field (.named "entries" count) <|
    .field (.named "clears" count) .done)
    (fun h => (h.stores, h.entries, h.clears, ()))
    (fun (stores, entries, clears, ()) => ⟨stores, entries, clears⟩)

structure Health where
  status : HealthStatus
  version : String
  uptime : Nat
  epoch : Option UInt64
  admission : AdmissionHealth
  cache : CacheHealth
  deriving DecidableEq, Repr

def Health.codec : Codec Health :=
  .record
    (.field (.named "status" HealthStatus.codec) <|
    .field (.named "version" Codec.text) <|
    .field (.named "uptime_seconds" (Codec.natural Text.maxU64)) <|
    .field (.sparse "epoch" Codec.word64) <|
    .field (.named "admission" AdmissionHealth.codec) <|
    .field (.named "cache" CacheHealth.codec) .done)
    (fun h => (h.status, h.version, h.uptime, h.epoch, h.admission, h.cache, ()))
    (fun (status, version, uptime, epoch, admission, cache, ()) =>
      ⟨status, version, uptime, epoch, admission, cache⟩)

end ChainGateway.Web
