import ChainGateway.Epoch.Watch
import ChainGateway.Rehearsal.Backend
import ChainGateway.Rehearsal.Result
import ChainGateway.Schedule.Agenda

/-!
# Tracker scripts

Steps on an epoch tracker over virtual time. Its source replays a list of outcomes
and then repeats the last, or asks a backing store. The wall clock stands still
unless a step moves it.
-/

namespace ChainGateway.Rehearsal

open Epoch Schedule

inductive Source
  | script (left : List (Except ReadError Marker)) (last : Except ReadError Marker) (fetches : Nat)
  | backend (b : Backend)

namespace Source

def ofScript (outcomes : List (Except ReadError Marker)) : Source :=
  .script outcomes (.error .notFound) 0

def fetch : Source → Except ReadError Marker × Source
  | .script [] last n => (last, .script [] last (n + 1))
  | .script (next :: left) _ n => (next, .script left next (n + 1))
  | .backend b =>
    let b := b.arrive .lastEpoch
    (b.marker, .backend b)

def fetches : Source → Nat
  | .script _ _ n => n
  | .backend b => b.callsOf .lastEpoch

def push (s : Source) (o : Except ReadError Marker) : Source :=
  match s with
  | .script left last n => .script (left ++ [o]) last n
  | s => s

def onBackend (s : Source) (f : Backend → Backend) : Source :=
  match s with
  | .backend b => .backend (f b)
  | s => s

end Source

/-- A marker that a step refers to. -/
inductive MarkerRef
  | none
  | current
  | marker (m : Marker)

inductive TrackerStep
  | poll
  | nextWake (m : MarkerRef)
  | register
  | setClock (t : Timestamp)
  | advanceClock (millis : Int)
  | push (o : Except ReadError Marker)
  | setLastEpoch (m : Marker)
  | fail (e : ReadError)
  | unfail
  | sleep (millis : Nat)
  | pacing
  | start (stopped : Bool)
  | signal (stop : Bool)
  | stop (drop : Bool)

structure TrackerWorld where
  agenda : Agenda Unit
  tracker : Tracker
  source : Source
  clock : Timestamp
  /-- What each observer was told, in order of registration. -/
  observed : List (List Advance)
  watch : Option Watch

namespace TrackerWorld

def start (p : Pacing) (clock : Timestamp) (s : Source) : TrackerWorld :=
  ⟨.start, .new p, s, clock, [], none⟩

def poll (w : TrackerWorld) : Poll × TrackerWorld :=
  let (outcome, source) := w.source.fetch
  let (poll, advance, tracker) := w.tracker.poll outcome
  (poll,
    { w with
      tracker := tracker
      source := source
      observed := match advance with
        | some a => w.observed.map (· ++ [a])
        | none => w.observed })

def nextWake (w : TrackerWorld) (m : Option Marker) : Except Fault Span :=
  w.tracker.pacing.nextWake w.clock m

/-- Polls for the watch and lets it wait for the next time. -/
def watchPoll (w : TrackerWorld) (watch : Watch) : TrackerWorld :=
  let (poll, w) := w.poll
  let watch := (watch.polled w.agenda.now (w.nextWake poll.marker)).heed w.agenda.now
  { w with
    watch := some watch
    agenda := match watch.phase with
      | .waiting _ due => w.agenda.wait due ()
      | _ => w.agenda }

def runWatch (w : TrackerWorld) : TrackerWorld :=
  match w.watch with
  | none => w
  | some watch =>
    match watch.phase with
    | .fetching => w.watchPoll watch
    | .waiting .. =>
      let heeded := watch.heed w.agenda.now
      if heeded.isDue w.agenda.now then w.watchPoll heeded.fetch
      else
        { w with
          watch := some heeded
          agenda := match heeded.phase with
            | .waiting _ due => if heeded = watch then w.agenda else w.agenda.wait due ()
            | _ => w.agenda }
    | _ => w

def stage : Stage TrackerWorld Unit where
  agenda := TrackerWorld.agenda
  withAgenda w a := { w with agenda := a }
  run _ := runWatch

/-- Sends on the signal of the watch; whether someone receives it. -/
def send (w : TrackerWorld) (f : Signal → Signal) : Bool × TrackerWorld :=
  match w.watch with
  | none => (false, w)
  | some watch =>
    (!watch.isFinished, stage.settle
      { w with
        watch := some { watch with signal := f watch.signal }
        agenda := w.agenda.wake () })

def finished (w : TrackerWorld) : Bool :=
  match w.watch with
  | some watch => watch.isFinished
  | none => true

def resolve (w : TrackerWorld) : MarkerRef → Option Marker
  | .none => none
  | .current => w.tracker.current
  | .marker m => some m

def step (w : TrackerWorld) : TrackerStep → Result × TrackerWorld
  | .poll => let (p, w) := w.poll; (.poll p, w)
  | .nextWake m =>
    match w.nextWake (w.resolve m) with
    | .ok s => (.span s, w)
    | .error _ => (.failed, w)
  | .register => (.nothing, { w with observed := w.observed ++ [[]] })
  | .setClock t => (.nothing, { w with clock := t })
  | .advanceClock millis =>
    match w.clock.move? (millis * 1000000) with
    | some t => (.time t, { w with clock := t })
    | none => (.failed, w)
  | .push o => (.nothing, { w with source := w.source.push o })
  | .setLastEpoch m =>
    (.nothing, { w with source := w.source.onBackend (·.setLastEpoch m) })
  | .fail e => (.nothing, { w with source := w.source.onBackend (·.fail .lastEpoch e) })
  | .unfail => (.nothing, { w with source := w.source.onBackend (·.unfail .lastEpoch) })
  | .sleep millis => (.nothing, stage.pass millis w)
  | .pacing => (.pacing w.tracker.pacing, w)
  | .start stopped =>
    (.nothing, stage.settle
      { w with watch := some (.start (.new stopped)), agenda := w.agenda.wake () })
  | .signal stop =>
    let (sent, w) := w.send (·.send stop)
    (.signal sent w.finished, w)
  | .stop drop =>
    let (_, w) := w.send fun s => if drop then s.disconnect else s.send true
    match w.watch with
    | some ⟨_, .failed _⟩ | none => (.failed, { w with watch := none })
    | some _ =>
      (.watched (w.tracker.current.map Marker.epoch) w.tracker.advances w.tracker.pollErrors,
        { w with watch := none })

/-- Each result with the world after its step. -/
def runAll (w : TrackerWorld) : List TrackerStep → List (Result × TrackerWorld)
  | [] => []
  | s :: rest =>
    let (result, w) := w.step s
    (result, w) :: runAll w rest

end TrackerWorld
end ChainGateway.Rehearsal
