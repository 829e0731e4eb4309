import ChainGateway.Admission.Classifier
import ChainGateway.Admission.Gate
import ChainGateway.Schedule.Agenda
import ChainGateway.Schedule.Periodic

/-!
# Admission scripts

Steps at an admission gate over virtual time. A ticket is kept under a name, and a
ticket that was kept under that name before is given back. Requests in the background
report their outcome as an event, and may hold their name for a time only: when it is
up, whatever ticket has the name then is given back.
-/

namespace ChainGateway.Rehearsal

open Admission Schedule

inductive AdmissionStep
  | enter (client : Client) (route : String) (name : String)
  | enterAside (client : Client) (route : String) (name : String) (hold : Option Nat)
  | leave (name : String)
  | held (name : String)
  | sleep (millis : Nat)
  | sweep
  | classify (route : String)
  | startSweep (interval : Span)
  | signal (stop : Bool)
  | stopSweep (drop : Bool)

/-- The interval of a sweep job that is given none. -/
def standardSweepInterval : Span := .ofSeconds 60

/-- How a request was decided. -/
inductive Decision
  | admitted (lane : Lane)
  | rejected (r : Rejection)
  | failed

inductive AdmissionResult
  | nothing
  | failed
  | decision (d : Decision)
  | flag (b : Bool)
  | span (s : Span)
  | count (n : Nat)
  | lane (l : Lane)
  | rounds (done removed : Nat)

/-- What is ready or waits in an admission script. -/
inductive AdmissionTask
  | enter (id : Nat) (client : Client) (lane : Lane)
  | look (id : Nat) (lane : Lane) (expired : Bool)
  | free (name : String)
  | job

/-- The request that a task decides. -/
def AdmissionTask.request? : AdmissionTask → Option Nat
  | .enter id .. | .look id .. => some id
  | _ => none

/-- A request of a script. -/
structure Visit where
  id : Nat
  name : String
  aside : Bool
  hold : Option Nat

structure AdmissionWorld where
  agenda : Agenda AdmissionTask
  classifier : Classifier
  gate : Gate
  visits : List Visit
  /-- The tickets that are kept by name. -/
  kept : List (String × Nat)
  decisions : List (Nat × Decision)
  events : List (String × Decision × Nat)
  job : Option Periodic

namespace AdmissionWorld

def start (l : Limits) (c : Classifier) : Except Fault AdmissionWorld := do
  .ok ⟨.start, c, ← Gate.new l, [], [], [], [], none⟩

def now (w : AdmissionWorld) : Nat := w.agenda.now

/-- Applies an event to the gate; whoever was handed a slot by it becomes ready. -/
def apply (w : AdmissionWorld) (e : Event) (lane : Lane) : Answer × AdmissionWorld :=
  let (answer, woken, gate) := w.gate.step w.now e
  (answer,
    { w with
      gate := gate
      agenda := match woken with
        | some id => w.agenda.wake (.look id lane false)
        | none => w.agenda })

/-- Gives a ticket back. -/
def giveBack (w : AdmissionWorld) (id : Nat) : AdmissionWorld :=
  match w.gate.tickets.find? (·.id = id) with
  | some t => (w.apply (.leave id) t.lane).2
  | none => w

/-- Reports the outcome of a request in the background. -/
def tell (w : AdmissionWorld) (v : Visit) (d : Decision) : AdmissionWorld :=
  { w with events := if v.aside then w.events ++ [(v.name, d, w.now)] else w.events }

/-- Keeps a ticket under its name. -/
def keep (w : AdmissionWorld) (name : String) (id : Nat) : AdmissionWorld :=
  let w := match w.kept.find? (·.1 = name) with
    | some (_, old) => w.giveBack old
    | none => w
  { w with kept := (name, id) :: w.kept.filter (·.1 ≠ name) }

/-- Gives back the ticket of a name; whether there was one. -/
def free (w : AdmissionWorld) (name : String) : Bool × AdmissionWorld :=
  match w.kept.find? (·.1 = name) with
  | none => (false, w)
  | some (_, id) =>
    let w := w.giveBack id
    (true, { w with kept := w.kept.filter (·.1 ≠ name) })

/-- Notes how a request was decided. One in the background that fails is silent. -/
def decide (w : AdmissionWorld) (id : Nat) (d : Decision) : AdmissionWorld :=
  match w.visits.find? (·.id = id) with
  | none => w
  | some v =>
    let w := { w with decisions := (id, d) :: w.decisions }
    match d with
    | .failed => w
    | .rejected _ => w.tell v d
    | .admitted _ =>
      let w := (w.tell v d).keep v.name id
      match v.hold with
      | some 0 => (w.free v.name).2
      | some millis => { w with agenda := w.agenda.wait (w.now + millis) (.free v.name) }
      | none => w

/-- Takes up the answer of the gate to a request. -/
def answered (w : AdmissionWorld) (id : Nat) : Answer → AdmissionWorld
  | .admitted lane _ => w.decide id (.admitted lane)
  | .rejected r => w.decide id (.rejected r)
  | .failed _ => w.decide id .failed
  | _ => w

def runJob (w : AdmissionWorld) : AdmissionWorld :=
  match w.job with
  | none => w
  | some job =>
    let job := job.heed
    if job.isDue w.now then
      match w.gate.sweep w.now with
      | .error f => { w with job := some { job with phase := .failed f } }
      | .ok (dropped, gate) =>
        let job := job.worked dropped
        { w with
          gate := gate
          job := some job
          agenda := match job.due? with
            | some due => w.agenda.wait due .job
            | none => w.agenda }
    else { w with job := some job }

def run (t : AdmissionTask) (w : AdmissionWorld) : AdmissionWorld :=
  match t with
  | .enter id client lane =>
    let (answer, w) := w.apply (.enter id client lane) lane
    match answer with
    | .waiting =>
      { w with agenda := w.agenda.wait (w.now + w.gate.patience w.now) (.look id lane true) }
    | answer => w.answered id answer
  | .look id lane expired =>
    let (answer, w) := w.apply (.look id lane expired) lane
    w.answered id answer
  | .free name => (w.free name).2
  | .job => w.runJob

def stage : Stage AdmissionWorld AdmissionTask where
  agenda := AdmissionWorld.agenda
  withAgenda w a := { w with agenda := a }
  run := run

/-- Lets a request come to the gate. -/
def visit (w : AdmissionWorld) (client : Client) (route name : String) (aside : Bool)
    (hold : Option Nat) : Nat × AdmissionWorld :=
  let id := w.visits.length
  (id,
    { w with
      visits := w.visits ++ [⟨id, name, aside, hold⟩]
      agenda := w.agenda.wake (.enter id client (w.classifier.classify route)) })

def decisionOf (w : AdmissionWorld) (id : Nat) : Option Decision :=
  (w.decisions.find? (·.1 = id)).map (·.2)

def send (w : AdmissionWorld) (f : Signal → Signal) : Bool × AdmissionWorld :=
  match w.job with
  | none => (false, w)
  | some job =>
    (job.isWaiting, stage.settle
      { w with job := some { job with signal := f job.signal }, agenda := w.agenda.wake .job })

def step (w : AdmissionWorld) : AdmissionStep → AdmissionResult × AdmissionWorld
  | .enter client route name =>
    let (id, w) := w.visit client route name false none
    let w := stage.settle <|
      stage.await (·.request? = some id) (fun w => (w.decisionOf id).isSome) w
    match w.decisionOf id with
    | some d => (.decision d, w)
    | none => (.nothing, w)
  | .enterAside client route name hold =>
    let (_, w) := w.visit client route name true hold
    (.nothing, stage.settle w)
  | .leave name => let (found, w) := w.free name; (.flag found, stage.settle w)
  | .held name =>
    match w.kept.find? (·.1 = name) with
    | none => (.nothing, w)
    | some (_, id) =>
      match w.gate.tickets.find? (·.id = id) with
      | some t => (.span (Gate.heldFor w.now t), w)
      | none => (.nothing, w)
  | .sleep millis => (.nothing, stage.pass millis w)
  | .sweep =>
    match w.gate.sweep w.now with
    | .ok (n, gate) => (.count n, { w with gate := gate })
    | .error _ => (.failed, w)
  | .classify route => (.lane (w.classifier.classify route), w)
  | .startSweep interval =>
    (.nothing, stage.settle
      { w with
        job := some (.start interval (.new false) w.now)
        agenda := w.agenda.wake .job })
  | .signal stop => let (sent, w) := w.send (·.send stop); (.flag sent, w)
  | .stopSweep drop =>
    let (_, w) := w.send fun s => if drop then s.disconnect else s.send true
    match w.job with
    | some ⟨_, _, .failed _, _, _⟩ | none => (.failed, { w with job := none })
    | some job => (.rounds job.rounds job.removed, { w with job := none })

/-- Each result with the world after its step, whose events are those of the step. A request
that is waited for and fails ends the script without results. -/
def runAll? (w : AdmissionWorld) :
    List AdmissionStep → Option (List (AdmissionResult × AdmissionWorld))
  | [] => some []
  | s :: rest =>
    match { w with events := [] }.step s with
    | (.decision .failed, _) => none
    | (result, w) => (runAll? w rest).map ((result, w) :: ·)

end AdmissionWorld
end ChainGateway.Rehearsal
