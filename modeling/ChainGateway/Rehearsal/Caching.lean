import ChainGateway.Cache.Reader
import ChainGateway.Epoch.Tracker
import ChainGateway.Rehearsal.Backend
import ChainGateway.Rehearsal.Result
import ChainGateway.Schedule.Agenda

/-!
# Caching scripts

Reads through the cache over virtual time, alone or together, with the calls that get
to the store behind it. A poll reads the epoch past the cache, and an advance clears
the cache.
-/

namespace ChainGateway.Rehearsal

open Cache Schedule

inductive CachingStep
  | call (c : Call)
  | together (cs : List Call)
  | poll
  | advance
  | sleep (millis : Nat)
  | snapshot
  | report
  | lookups
  | calls (op : Operation)
  | fail (op : Operation) (e : ReadError)
  | unfail (op : Operation)
  | value (op : Operation) (a : Model.Answer)
  | setLastEpoch (m : Epoch.Marker)

inductive CachingResult
  | plain (r : Result)
  | many (rs : List Result)
  | polled (advanced : Bool) (clears : Nat)
  | lookups (n : Option Nat)
  | counts (ofOperation total : Nat)

inductive CachingTask
  | start (id : Nat) (c : Call)
  | loaded (id : Nat) (c : Call)
  | asked (id : Nat) (q : PendingQuery)
  | fetch
  | fetched

structure CachingWorld where
  agenda : Agenda CachingTask
  reader : Reader
  backend : Backend
  pool : Option PendingPool
  tracker : Epoch.Tracker
  /-- The calls that got through since the step began. -/
  reached : List Call
  results : List (Nat × Result)
  polled : Option Epoch.Poll

namespace CachingWorld

def start (t : PolicyTable) (b : Backend) (p : Option PendingPool) : CachingWorld :=
  ⟨.start, .new t p.isSome, b, p, .new .standard, [], [], none⟩

def now (w : CachingWorld) : Instant := .ofMillis w.agenda.now

def finish (w : CachingWorld) (id : Nat) (r : Result) : CachingWorld :=
  { w with results := (id, r) :: w.results }

/-- A call gets to the store behind the cache. -/
def reach (w : CachingWorld) (c : Call) : CachingWorld :=
  { w with reached := w.reached ++ [c], backend := w.backend.arrive c.operation }

/-- Goes on with a read. -/
def goOn (w : CachingWorld) (id : Nat) : ReadProgress → CachingWorld
  | .load c =>
    let w := w.reach c
    { w with agenda :=
        if w.backend.delay = 0 then w.agenda.goOn (.loaded id c)
        else w.agenda.wait (w.agenda.now + w.backend.delay) (.loaded id c) }
  | .ask q => { w with agenda := w.agenda.goOn (.asked id q) }
  | .done o => w.finish id (.outcome o)
  | .failed _ => w.finish id .failed
  | .missed | .nothing => w

/-- Takes a step of a read. -/
def read (w : CachingWorld) (id : Nat) (step : Reader → ReadProgress × Reader) : CachingWorld :=
  let (progress, reader) := step w.reader
  { w with reader := reader }.goOn id progress

/-- What the pool answers. -/
def ask (w : CachingWorld) (q : PendingQuery) : Outcome × CachingWorld :=
  match w.pool with
  | some pool =>
    let (o, pool) := pool.answer q
    (o, { w with pool := some pool })
  | none => (.error .notFound, w)

def clear (w : CachingWorld) : Nat × CachingWorld :=
  let (n, reader) := w.reader.clear
  (n, { w with reader := reader })

def fetched (w : CachingWorld) : CachingWorld :=
  let (poll, advance, tracker) := w.tracker.poll w.backend.marker
  let w := { w with tracker := tracker, polled := some poll }
  if advance.isSome then w.clear.2 else w

def fetch (w : CachingWorld) : CachingWorld :=
  let w := w.reach ⟨.lastEpoch, []⟩
  if w.backend.delay = 0 then w.fetched
  else { w with agenda := w.agenda.wait (w.agenda.now + w.backend.delay) .fetched }

def run (t : CachingTask) (w : CachingWorld) : CachingWorld :=
  match t with
  | .start id c => w.read id (·.start w.now id c)
  | .loaded id c =>
    match w.backend.outcome c with
    | .ok o => w.read id (·.loaded w.now id o)
    | .error f => w.read id fun r => (.failed f, r.abandon id)
  | .asked id q =>
    let (o, w) := w.ask q
    w.read id (·.asked w.now id o)
  | .fetch => w.fetch
  | .fetched => w.fetched

def stage : Stage CachingWorld CachingTask where
  agenda := CachingWorld.agenda
  withAgenda w a := { w with agenda := a }
  run := run

def resultOf (w : CachingWorld) (id : Nat) : Option Result :=
  (w.results.find? (·.1 = id)).map (·.2)

/-- Starts calls together and lets time pass until all have come back. -/
def callAll (w : CachingWorld) (cs : List Call) : List Result × CachingWorld :=
  let w := { w with
    results := []
    agenda := w.agenda.wakeAll (cs.zipIdx.map fun (c, id) => .start id c) }
  let w := stage.passUntil (fun w => w.results.length = cs.length) w
  ((List.range cs.length).map fun id => (w.resultOf id).getD .failed, w)

def step (w : CachingWorld) : CachingStep → CachingResult × CachingWorld
  | .call c =>
    let (rs, w) := w.callAll [c]
    (.plain (rs.headD .failed), w)
  | .together cs => let (rs, w) := w.callAll cs; (.many rs, w)
  | .poll =>
    let w := { w with polled := none, agenda := w.agenda.wake .fetch }
    let w := stage.passUntil (fun w => w.polled.isSome) w
    (.polled ((w.polled.map Epoch.Poll.advanced).getD false) w.reader.registry.clears, w)
  | .advance =>
    let (_, w) := w.clear
    (.plain (.count w.reader.registry.clears), w)
  | .sleep millis => (.plain .nothing, stage.pass millis w)
  | .snapshot => (.plain (.stats w.reader.registry.snapshot), w)
  | .report => (.plain (.report (.ofSnapshot w.reader.registry.snapshot)), w)
  | .lookups => (.lookups (w.pool.map PendingPool.lookups), w)
  | .calls op => (.counts (w.backend.callsOf op) w.backend.calls.length, w)
  | .fail op e => (.plain .nothing, { w with backend := w.backend.fail op e })
  | .unfail op => (.plain .nothing, { w with backend := w.backend.unfail op })
  | .value op a => (.plain .nothing, { w with backend := w.backend.setValue op a })
  | .setLastEpoch m => (.plain .nothing, { w with backend := w.backend.setLastEpoch m })

/-- Each result with the calls that got through during its step, and the world at the end.
A call that fails by itself ends the script without results. -/
def runAll? (w : CachingWorld) :
    List CachingStep → Option (List (CachingResult × List Call) × CachingWorld)
  | [] => some ([], w)
  | s :: rest =>
    match { w with reached := [] }.step s with
    | (.plain .failed, _) => none
    | (result, w) =>
      (w.runAll? rest).map fun (results, last) => ((result, w.reached) :: results, last)

end CachingWorld
end ChainGateway.Rehearsal
