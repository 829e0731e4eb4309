import ChainGateway.Time.Span

/-!
# Agendas

An agenda is virtual time in whole milliseconds, with tasks that are ready to run and
tasks that wait for a moment. Time passes only when nothing is ready, and then to
the next moment for which a task waits. Tasks due at one moment become ready in the
order in which they began to wait, and ready tasks run in the order in which they
became ready. Whoever waits for tasks of its own has those run first.
-/

namespace ChainGateway.Schedule

structure Timer (τ : Type) where
  due : Nat
  task : τ

structure Agenda (τ : Type) where
  now : Nat
  /-- Waiting tasks, the oldest first. -/
  timers : List (Timer τ)
  ready : List τ

namespace Agenda

variable {τ : Type}

def start : Agenda τ := ⟨0, [], []⟩

/-- Lets a task wait until `due`. -/
def wait (a : Agenda τ) (due : Nat) (task : τ) : Agenda τ :=
  { a with timers := a.timers ++ [⟨due, task⟩] }

/-- Makes a task ready. -/
def wake (a : Agenda τ) (task : τ) : Agenda τ :=
  { a with ready := a.ready ++ [task] }

/-- Makes a task ready that goes on with the one that is running. -/
def goOn (a : Agenda τ) (task : τ) : Agenda τ :=
  { a with ready := task :: a.ready }

def wakeAll (a : Agenda τ) (tasks : List τ) : Agenda τ :=
  { a with ready := a.ready ++ tasks }

/-- The next moment for which a task waits. -/
def next? (a : Agenda τ) : Option Nat :=
  (a.timers.map Timer.due).min?

/-- Lets time pass to `moment`; the tasks that waited for it or less become ready, those
with the earliest moment first. -/
def advance (a : Agenda τ) (moment : Nat) : Agenda τ :=
  let due := a.timers.filter fun t => t.due ≤ moment
  { now := max a.now moment
    timers := a.timers.filter fun t => moment < t.due
    ready := a.ready ++ (due.mergeSort fun s t => s.due ≤ t.due).map Timer.task }

/-- The first ready task that `pick` chooses, and the agenda without it. -/
def take? (a : Agenda τ) (pick : τ → Bool) : Option (τ × Agenda τ) :=
  let (before, rest) := a.ready.span fun t => !pick t
  match rest with
  | [] => none
  | task :: after => some (task, { a with ready := before ++ after })

end Agenda

/-- A world with an agenda, and what running a task does to it. -/
structure Stage (ω τ : Type) where
  agenda : ω → Agenda τ
  withAgenda : ω → Agenda τ → ω
  run : τ → ω → ω

namespace Stage

variable {ω τ : Type}

/-- Runs the ready tasks that `pick` chooses until none of them is left or the fuel is used
up. -/
def settleFrom (s : Stage ω τ) (pick : τ → Bool) : Nat → ω → ω
  | 0, w => w
  | fuel + 1, w =>
    match (s.agenda w).take? pick with
    | none => w
    | some (task, a) => s.settleFrom pick fuel (s.run task (s.withAgenda w a))

/-- More tasks than any script wakes at one moment. -/
def settleFuel : Nat := 1000000

def settle (s : Stage ω τ) (w : ω) : ω := s.settleFrom (fun _ => true) settleFuel w

/-- Lets time pass to `moment`. Every round but the last takes time forward. -/
def passFrom (s : Stage ω τ) (moment : Nat) : Nat → ω → ω
  | 0, w => w
  | fuel + 1, w =>
    let a := s.agenda w
    match a.next? with
    | some due =>
      if due ≤ moment then
        s.passFrom moment fuel (s.settle (s.withAgenda w (a.advance due)))
      else s.withAgenda w (a.advance moment)
    | none => s.withAgenda w (a.advance moment)

/-- Lets a pause of `millis` pass, with everything that is due meanwhile. -/
def pass (s : Stage ω τ) (millis : Nat) (w : ω) : ω :=
  let pause := min millis thirtyYears
  let w := s.settle w
  s.passFrom ((s.agenda w).now + pause) (pause + 2) w

/-- Lets time pass until `done` holds, from moment to moment. -/
def passUntilFrom (s : Stage ω τ) (done : ω → Bool) : Nat → ω → ω
  | 0, w => w
  | fuel + 1, w =>
    if done w then w
    else match (s.agenda w).next? with
      | some due => s.passUntilFrom done fuel (s.settle (s.withAgenda w ((s.agenda w).advance due)))
      | none => w

/-- More moments than any script waits for. -/
def waitFuel : Nat := 100000000

def passUntil (s : Stage ω τ) (done : ω → Bool) (w : ω) : ω :=
  s.passUntilFrom done waitFuel (s.settle w)

/-- Runs the ready tasks of `mine` before all others, and stops as soon as `done` holds,
which may leave others ready. -/
def awaitFrom (s : Stage ω τ) (mine : τ → Bool) (done : ω → Bool) : Nat → ω → ω
  | 0, w => w
  | fuel + 1, w =>
    let w := s.settleFrom mine settleFuel w
    if done w then w
    else
      let w := s.settleFrom (fun t => !mine t) settleFuel w
      if (s.agenda w).ready.isEmpty then
        match (s.agenda w).next? with
        | some due => s.awaitFrom mine done fuel (s.withAgenda w ((s.agenda w).advance due))
        | none => w
      else s.awaitFrom mine done fuel w

/-- Waits for the tasks of `mine`, which come first at every moment, until `done` holds. -/
def await (s : Stage ω τ) (mine : τ → Bool) (done : ω → Bool) (w : ω) : ω :=
  s.awaitFrom mine done waitFuel w

end Stage
end ChainGateway.Schedule
