import ChainGateway.Epoch.Watch
import ChainGateway.Gateway.Step
import ChainGateway.Rehearsal.Backend
import ChainGateway.Schedule.Agenda
import ChainGateway.Schedule.Periodic

/-!
# Gateway scripts

Requests to a gateway over virtual time, one after the other or together, with the calls
that get to the store behind it. Once started, the gateway watches the epoch, reports on
its cache and, when it limits rates, sweeps its rate windows. The wall clock stands
still.
-/

namespace ChainGateway.Rehearsal

open Schedule Web

/-- Where pending transactions come from. An indexer is asked over a link that is down. -/
inductive PoolSource
  | none
  | fixed (p : PendingPool)
  | indexer (x : Remote.Indexer)

namespace PoolSource

def isSome : PoolSource → Bool
  | .none => false
  | _ => true

def answer (s : PoolSource) (q : PendingQuery) : Outcome × PoolSource :=
  match s with
  | .none => (.error .notFound, s)
  | .fixed p => let (o, p) := p.answer q; (o, .fixed p)
  | .indexer x => (x.outcome q .none, s)

end PoolSource

inductive GatewayStep
  | request (r : Option Request)
  | together (rs : List (Option Request))
  | metrics
  | state
  | sleep (millis : Nat)
  | start
  | shutdown
  | fail (op : Operation) (e : ReadError)
  | unfail (op : Operation)
  | value (op : Operation) (a : Model.Answer)
  | setLastEpoch (m : Epoch.Marker)

/-- What comes of a request. -/
inductive RequestResult
  /-- The parts made no request. -/
  | malformed
  | reply (r : Reply)
  | failed

inductive GatewayResult
  | nothing
  | flag (b : Bool)
  | one (r : RequestResult)
  | many (rs : List RequestResult)
  | metrics (r : Reply)
  /-- The state is that of the world after the step. -/
  | state

inductive GatewayTask
  | arrive (id : Nat) (r : Request)
  | look (id : Nat) (expired : Bool)
  | loaded (id : Nat) (c : Call)
  | asked (id : Nat) (q : PendingQuery)
  | fetch
  | fetched
  | watch
  | report
  | sweep

/-- The request that a task belongs to. -/
def GatewayTask.request? : GatewayTask → Option Nat
  | .arrive id _ | .look id _ | .loaded id _ | .asked id _ => some id
  | _ => none

structure GatewayWorld where
  agenda : Agenda GatewayTask
  gateway : Gateway
  backend : Backend
  pool : PoolSource
  /-- The calls that got through since the step began. -/
  reached : List Call
  results : List (Nat × RequestResult)
  /-- The number of the next request. -/
  next : Nat
  watch : Option Epoch.Watch
  report : Option Periodic
  sweep : Option Periodic

/-- What the wall clock shows: the start of 2026. -/
def wallClock : Timestamp := ⟨1767225600, 0⟩

namespace GatewayWorld

def start (g : Gateway) (b : Backend) (p : PoolSource) : GatewayWorld :=
  ⟨.start, g, b, p, [], [], 0, none, none, none⟩

/-- A gateway with the pool of a script, or with the indexer that is set. -/
def new (s : Settings) (b : Backend) (p : Option PoolSource) : Except SetupFault GatewayWorld := do
  let pool : PoolSource ← match p with
    | some p => .ok p
    | none =>
      match ← SetupFault.ofSetting s.indexer with
      | some x => .ok (.indexer x)
      | none => .ok .none
  .ok (.start (← Gateway.new s pool.isSome) b pool)

def now (w : GatewayWorld) : Nat := w.agenda.now

def moment (w : GatewayWorld) : Moment := ⟨w.now, wallClock⟩

/-! ## Requests -/

/-- A call gets to the store behind the cache, and `task` goes on when it answers. -/
def reach (w : GatewayWorld) (c : Call) (task : GatewayTask) : GatewayWorld :=
  { w with
    reached := w.reached ++ [c]
    backend := w.backend.arrive c.operation
    agenda :=
      if w.backend.delay = 0 then w.agenda.goOn task
      else w.agenda.wait (w.now + w.backend.delay) task }

def perform (w : GatewayWorld) : Gateway.Effect → GatewayWorld
  | .reply id r => { w with results := (id, .reply r) :: w.results }
  | .fail id _ => { w with results := (id, .failed) :: w.results }
  | .wait id millis => { w with agenda := w.agenda.wait (w.now + millis) (.look id true) }
  | .wake id => { w with agenda := w.agenda.wake (.look id false) }
  | .load id c => w.reach c (.loaded id c)
  | .ask id q => { w with agenda := w.agenda.goOn (.asked id q) }

def handle (w : GatewayWorld) (e : Gateway.Event) : GatewayWorld :=
  let (effects, gateway) := w.gateway.step w.moment e
  effects.foldl perform { w with gateway := gateway }

/-! ## Jobs -/

def waitForWatch (w : GatewayWorld) (watch : Epoch.Watch) : GatewayWorld :=
  { w with
    watch := some watch
    agenda := match watch.phase with
      | .waiting _ due => w.agenda.wait due .watch
      | _ => w.agenda }

/-- The store has told the watch its last epoch. -/
def fetched (w : GatewayWorld) : GatewayWorld :=
  match w.watch with
  | none => w
  | some watch =>
    let (poll, gateway) := w.gateway.observe w.backend.marker
    let next := gateway.tracker.pacing.nextWake wallClock poll.marker
    { w with gateway := gateway }.waitForWatch ((watch.polled w.now next).heed w.now)

def runWatch (w : GatewayWorld) : GatewayWorld :=
  match w.watch with
  | none => w
  | some watch =>
    match watch.phase with
    | .waiting .. =>
      let heeded := watch.heed w.now
      if heeded.isDue w.now then
        { w with watch := some heeded.fetch }.reach ⟨.lastEpoch, []⟩ .fetched
      else if heeded = watch then w
      else w.waitForWatch heeded
    | _ => w

/-- Lets a job heed its signal and do the round that is due: `work` says how many things it
removed. -/
def runJob (w : GatewayWorld) (job : Periodic) (task : GatewayTask)
    (work : Gateway → Except Fault (Nat × Gateway)) : Periodic × GatewayWorld :=
  let job := job.heed
  if job.isDue w.now then
    match work w.gateway with
    | .error f => ({ job with phase := .failed f }, w)
    | .ok (n, gateway) =>
      let job := job.worked n
      (job,
        { w with
          gateway := gateway
          agenda := match job.due? with
            | some due => w.agenda.wait due task
            | none => w.agenda })
  else (job, w)

def runReport (w : GatewayWorld) : GatewayWorld :=
  match w.report with
  | none => w
  | some job =>
    let (job, w) := w.runJob job .report fun g => .ok (g.report w.now)
    { w with report := some job }

def runSweep (w : GatewayWorld) : GatewayWorld :=
  match w.sweep with
  | none => w
  | some job =>
    let (job, w) := w.runJob job .sweep fun g => g.sweep w.now
    { w with sweep := some job }

def run (t : GatewayTask) (w : GatewayWorld) : GatewayWorld :=
  match t with
  | .arrive id r => w.handle (.arrive id r)
  | .look id expired => w.handle (.look id expired)
  | .loaded id c =>
    match w.backend.outcome c with
    | .ok o => w.handle (.loaded id o)
    | .error f => w.handle (.broken id f)
  | .asked id q =>
    let (o, pool) := w.pool.answer q
    { w with pool := pool }.handle (.asked id o)
  | .fetch => w.reach ⟨.lastEpoch, []⟩ .fetched
  | .fetched => w.fetched
  | .watch => w.runWatch
  | .report => w.runReport
  | .sweep => w.runSweep

def stage : Stage GatewayWorld GatewayTask where
  agenda := GatewayWorld.agenda
  withAgenda w a := { w with agenda := a }
  run := run

/-! ## Steps -/

def resultOf (w : GatewayWorld) (id : Nat) : Option RequestResult :=
  (w.results.find? (·.1 = id)).map (·.2)

/-- Sends a request and waits for what comes of it. -/
def request (w : GatewayWorld) (r : Option Request) : RequestResult × GatewayWorld :=
  match r with
  | none => (.malformed, w)
  | some r =>
    let id := w.next
    let w := { w with results := [], next := id + 1, agenda := w.agenda.wake (.arrive id r) }
    let w := stage.await (·.request? = some id) (fun w => (w.resultOf id).isSome) w
    ((w.resultOf id).getD .failed, w)

/-- Sends requests together and lets time pass until there is something to show for each. -/
def requestAll (w : GatewayWorld) (rs : List (Option Request)) :
    List RequestResult × GatewayWorld :=
  let numbered := rs.zipIdx w.next
  let tasks := numbered.filterMap fun (r, id) => r.map (GatewayTask.arrive id)
  let w := { w with
    results := []
    next := w.next + rs.length
    agenda := w.agenda.wakeAll tasks }
  let w := stage.passUntil (fun w => w.results.length = tasks.length) w
  (numbered.map fun (r, id) =>
    match r with
    | none => .malformed
    | some _ => (w.resultOf id).getD .failed, w)

def startJobs (w : GatewayWorld) : GatewayWorld :=
  let s := w.gateway.settings
  let signal := Signal.new false
  stage.settle
    { w with
      watch := some (.start signal)
      report := some (.start s.reportInterval signal w.now)
      sweep := if s.limitsRate then some (.start s.sweepInterval signal w.now) else none
      agenda := w.agenda.wakeAll
        ([.fetch, .report] ++ if s.limitsRate then [.sweep] else []) }

def isStopped (w : GatewayWorld) : Bool :=
  (w.watch.map Epoch.Watch.isFinished).getD true &&
    !(w.report.map Periodic.isWaiting).getD false && !(w.sweep.map Periodic.isWaiting).getD false

/-- Tells the jobs to stop and waits for them. -/
def shutdown (w : GatewayWorld) : GatewayWorld :=
  let tell (p : Periodic) : Periodic := { p with signal := p.signal.send true }
  stage.passUntil isStopped
    { w with
      watch := w.watch.map fun x => { x with signal := x.signal.send true }
      report := w.report.map tell
      sweep := w.sweep.map tell
      agenda := w.agenda.wakeAll [.watch, .report, .sweep] }

def metricsRequest : Option Request := Request.build? "GET" "/metrics" [] none

/-- What a step shows, and the world after it. -/
def step (w : GatewayWorld) : GatewayStep → GatewayResult × GatewayWorld
  | .request r => let (r, w) := w.request r; (.one r, w)
  | .together rs => let (rs, w) := w.requestAll rs; (.many rs, w)
  | .metrics =>
    let (r, w) := w.request metricsRequest
    match r with
    | .reply r => (.metrics r, w)
    | _ => (.nothing, w)
  | .state => (.state, w)
  | .sleep millis => (.nothing, stage.pass millis w)
  | .start => (.nothing, w.startJobs)
  | .shutdown => (.flag w.watch.isSome, w.shutdown)
  | .fail op e => (.nothing, { w with backend := w.backend.fail op e })
  | .unfail op => (.nothing, { w with backend := w.backend.unfail op })
  | .value op a => (.nothing, { w with backend := w.backend.setValue op a })
  | .setLastEpoch m => (.nothing, { w with backend := w.backend.setLastEpoch m })

/-- Each result with the world after its step, whose calls are those of the step. A request
that fails by itself ends the script without results. -/
def runAll? (w : GatewayWorld) : List GatewayStep → Option (List (GatewayResult × GatewayWorld))
  | [] => some []
  | s :: rest =>
    match { w with reached := [] }.step s with
    | (.one .failed, _) => none
    | (result, w) => (runAll? w rest).map ((result, w) :: ·)

end GatewayWorld
end ChainGateway.Rehearsal
