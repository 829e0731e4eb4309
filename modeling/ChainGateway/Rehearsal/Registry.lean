import ChainGateway.Rehearsal.Result
import ChainGateway.Schedule.Agenda
import ChainGateway.Schedule.Periodic

/-!
# Registry scripts

Steps on a registry of stores over virtual time, with the job that purges and reports
on it once per interval.
-/

namespace ChainGateway.Rehearsal

open Cache Schedule

/-- The interval of a report job that is given none. -/
def standardReportInterval : Span := .ofSeconds 60

inductive RegistryStep
  | insert (op : Operation) (arguments : List Argument) (o : Outcome)
  | get (op : Operation) (arguments : List Argument) (k : Model.Kind)
  | clear (op : Operation)
  | purge (op : Operation)
  | isEmpty (op : Operation)
  | debug (op : Operation)
  | storePolicy (op : Operation)
  | sameStore (op : Operation)
  | sleep (millis : Nat)
  | clearAll
  | purgeAll
  | clearCount
  | policy (op : Operation)
  | defaultPolicy
  | snapshot
  | report
  | debugRegistry
  | startReport (interval : Span)
  | signal (stop : Bool)
  | stopReport (drop : Bool)

structure RegistryWorld where
  agenda : Agenda Unit
  registry : Registry
  job : Option Periodic

namespace RegistryWorld

def start (t : PolicyTable) : RegistryWorld := ⟨.start, .new t, none⟩

def now (w : RegistryWorld) : Instant := .ofMillis w.agenda.now

/-- Lets the report job heed its signal and do the round that is due. -/
def runJob (w : RegistryWorld) : RegistryWorld :=
  match w.job with
  | none => w
  | some job =>
    let job := job.heed
    if job.isDue w.agenda.now then
      let (removed, registry) := w.registry.purge w.now
      let job := job.worked removed
      { agenda := match job.due? with
          | some due => w.agenda.wait due ()
          | none => w.agenda
        registry := registry
        job := some job }
    else { w with job := some job }

def stage : Stage RegistryWorld Unit where
  agenda := RegistryWorld.agenda
  withAgenda w a := { w with agenda := a }
  run _ := runJob

/-- Applies a change to the store of an operation. -/
def onStore (w : RegistryWorld) (op : Operation) (f : Cache.Store → Result × Cache.Store) :
    Result × RegistryWorld :=
  let (result, s) := f (w.registry.store op)
  (result, { w with registry := w.registry.put s })

/-- Sends on the signal of the job; whether someone receives it. -/
def send (w : RegistryWorld) (f : Signal → Signal) : Bool × RegistryWorld :=
  match w.job with
  | none => (false, w)
  | some job =>
    (job.isWaiting, stage.settle
      { w with job := some { job with signal := f job.signal }, agenda := w.agenda.wake () })

def step (w : RegistryWorld) : RegistryStep → Result × RegistryWorld
  | .insert op arguments o =>
    w.onStore op fun s =>
      let (fault, s) := s.insert w.now (.ofArguments op arguments) o
      (if fault.isSome then .failed else .nothing, s)
  | .get op arguments k =>
    w.onStore op fun s =>
      let (found, s) := s.get w.now (.ofArguments op arguments)
      (.ofGet k found, s)
  | .clear op => w.onStore op fun s => (.count s.size, s.clear)
  | .purge op => w.onStore op fun s => (.count (s.expiredCount w.now), s.purge w.now)
  | .isEmpty op => w.onStore op fun s => (.flag (s.size == 0), s)
  | .debug op => w.onStore op fun s => (.text s.debug, s)
  | .storePolicy op => w.onStore op fun s => (.policy s.policy, s)
  | .sameStore op => w.onStore op fun s => (.flag true, s)
  | .sleep millis => (.nothing, stage.pass millis w)
  | .clearAll => let (n, r) := w.registry.clear; (.count n, { w with registry := r })
  | .purgeAll => let (n, r) := w.registry.purge w.now; (.count n, { w with registry := r })
  | .clearCount => (.count w.registry.clears, w)
  | .policy op => (.policy (w.registry.policies.policy op), w)
  | .defaultPolicy => (.policy w.registry.policies.default, w)
  | .snapshot => (.stats w.registry.snapshot, w)
  | .report => (.report (.ofSnapshot w.registry.snapshot), w)
  | .debugRegistry => (.text w.registry.debug, w)
  | .startReport interval =>
    (.nothing, stage.settle
      { w with
        job := some (.start interval (.new false) w.agenda.now)
        agenda := w.agenda.wake () })
  | .signal stop => let (sent, w) := w.send (·.send stop); (.flag sent, w)
  | .stopReport drop =>
    let (_, w) := w.send fun s => if drop then s.disconnect else s.send true
    match w.job with
    | some ⟨_, _, .failed _, _, _⟩ | none => (.failed, { w with job := none })
    | some job => (.rounds job.rounds job.removed, { w with job := none })

def runAll (w : RegistryWorld) : List RegistryStep → List Result × RegistryWorld
  | [] => ([], w)
  | s :: rest =>
    let (result, w) := w.step s
    let (results, w) := w.runAll rest
    (result :: results, w)

end RegistryWorld
end ChainGateway.Rehearsal
