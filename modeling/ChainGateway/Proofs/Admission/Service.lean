import ChainGateway.Proofs.Admission.Conservation

/-!
# A gate in service

A service lets a ledger run by a clock of its own. Time stands still while somebody has a slot
to take up and goes no further than the next timer; otherwise requests come, are polled, give
their tickets back and go away in any order. The log has what became of them, and when.
-/

namespace ChainGateway.Admission

open Metrics (Meters)

inductive Deed
  /-- Ticketed as it came. -/
  | admitted
  /-- Handed a slot while it waited. -/
  | granted
  /-- Ticketed for the slot that it was handed. -/
  | seated
  | overloaded
  deriving DecidableEq

structure Entry where
  deed : Deed
  id : Nat
  lane : Lane
  time : Nat
  deriving DecidableEq

/-- The requests of a lane that a deed was done to, the latest first. -/
def numbers (d : Deed) (l : Lane) (log : List Entry) : List Nat :=
  (log.filter fun e => e.deed = d ∧ e.lane = l).map (·.id)

@[simp] theorem numbers_cons {d : Deed} {l : Lane} {e : Entry} {log : List Entry} :
    numbers d l (e :: log) =
      if e.deed = d ∧ e.lane = l then e.id :: numbers d l log else numbers d l log := by
  by_cases h : e.deed = d ∧ e.lane = l <;> simp [numbers, h]

theorem mem_numbers {d : Deed} {l : Lane} {log : List Entry} {i : Nat} :
    i ∈ numbers d l log ↔ ∃ t, ⟨d, i, l, t⟩ ∈ log := by
  unfold numbers
  simp only [List.mem_map, List.mem_filter, decide_eq_true_eq]
  constructor
  · rintro ⟨e, ⟨he, rfl, rfl⟩, rfl⟩
    exact ⟨e.time, he⟩
  · rintro ⟨t, ht⟩
    exact ⟨_, ⟨ht, rfl, rfl⟩, rfl⟩

/-- What the answer to an event does to the request that it is about, and in which lane. -/
def deed? : Event → Answer → Option (Deed × Lane)
  | .enter .., .admitted l _ => some (.admitted, l)
  | .look .., .admitted l _ => some (.seated, l)
  | .enter .., .rejected (.overloaded l) | .look .., .rejected (.overloaded l) =>
    some (.overloaded, l)
  | _, _ => none

/-- What is entered in the log: what was done to a request, and who was handed a slot of the lane
`l` by it. -/
def entries (now id : Nat) (l : Lane) (d : Option (Deed × Lane)) (woken : Option Nat) :
    List Entry :=
  (d.map fun d => ⟨d.1, id, d.2, now⟩).toList ++ (woken.map (⟨.granted, ·, l, now⟩)).toList

inductive Happening
  | arrive (c : Client) (route : String)
  /-- A request that waits is polled. -/
  | wake (id : Nat)
  /-- The timer of a request goes off, and it is polled. -/
  | timer (id : Nat)
  /-- A ticket is released or dropped. -/
  | leave (id : Nat)
  | cancel (id : Nat)
  | sweep
  /-- The clock goes on to the millisecond `t`. -/
  | pass (t : Nat)

structure Service where
  ledger : Ledger
  now : Nat
  /-- When the requests came, by number. -/
  came : List Nat
  /-- The latest first. -/
  log : List Entry

namespace Service

def new (classifier : Classifier) (gate : Gate) (meters : Meters) : Service :=
  ⟨.new classifier gate meters, 0, [], []⟩

def gate (s : Service) : Gate := s.ledger.gate

def lane (s : Service) (l : Lane) : LaneQueue := s.gate.lane l

/-- The gate answers an event of a request, which stands as in `x` if it is told nothing. -/
def meet (s : Service) (id : Nat) (x : Attempt) (e : Event) : Service :=
  let r := s.gate.step s.now e
  { s with
    ledger := s.ledger.meet s.now id x e
    log := entries s.now id x.lane (deed? e r.1) r.2.1 ++ s.log }

/-- A new request has its number and its place among those that came. -/
def push (s : Service) (l : Lane) : Service :=
  { s with ledger := s.ledger.push l, came := s.came ++ [s.now] }

def arrive (s : Service) (c : Client) (route : String) : Service :=
  let id := s.ledger.attempts.length
  let l := s.ledger.classifier.classify route
  (s.push l).meet id ⟨l, .arrived⟩ (.enter id c l)

def look (s : Service) (id : Nat) (expired : Bool) : Service :=
  match s.ledger.attempts[id]? with
  | some x => s.meet id x (.look id x.lane expired)
  | none => s

def leave (s : Service) (id : Nat) : Service :=
  match s.ledger.attempts[id]? with
  | some x => s.meet id x (.leave id)
  | none => s

def cancel (s : Service) (id : Nat) : Service :=
  match s.ledger.attempts[id]? with
  | some ⟨l, .waiting⟩ => s.meet id ⟨l, .cancelled⟩ (.cancel id l)
  | _ => s.leave id

def step (s : Service) : Happening → Service
  | .arrive c route => s.arrive c route
  | .wake id => s.look id false
  | .timer id => s.look id true
  | .leave id => s.leave id
  | .cancel id => s.cancel id
  | .sweep => { s with ledger := s.ledger.sweep s.now }
  | .pass t => { s with now := t }

def run (s : Service) (happenings : List Happening) : Service := happenings.foldl step s

/-- The moment at which the timer of a request goes off. -/
def due? (s : Service) (id : Nat) : Option Nat :=
  s.came[id]?.map (Instant.deadline · s.gate.timeout)

def IsDue (s : Service) (id t : Nat) : Prop :=
  ∃ since, s.came[id]? = some since ∧ t = Instant.deadline since s.gate.timeout

theorem mem_due? {s : Service} {id t : Nat} : t ∈ s.due? id ↔ s.IsDue id t := by
  rw [due?, Option.mem_def, Option.map_eq_some_iff]
  exact exists_congr fun _ => and_congr_right fun _ => eq_comm

/-- Timers go off just when they are due, and the clock waits for them and for everyone who has a
slot to take up. -/
def Allowed (s : Service) : Happening → Prop
  | .timer id => s.now ∈ s.due? id
  | .pass t => s.now ≤ t ∧ s.gate.Quiescent ∧
      ∀ l, ∀ w ∈ (s.lane l).waiting, ∀ due ∈ s.due? w.id, t ≤ due
  | _ => True

/-- Requests that were handed slots of one lane are polled in the order in which they were. -/
def InTurn (s : Service) : Happening → Prop
  | .wake id | .timer id => ∀ l, id ∈ (s.lane l).handed.map (·.id) →
      ((s.lane l).handed.map (·.id)).head? = some id
  | _ => True

/-- What happens has `P` where it happens. -/
def Throughout (P : Service → Happening → Prop) (s : Service) : List Happening → Prop
  | [] => True
  | h :: hs => P s h ∧ Throughout P (s.step h) hs

instance {P : Lane → Prop} [DecidablePred P] : Decidable (∀ l, P l) :=
  decidable_of_iff (P .standard ∧ P .heavyLookup)
    ⟨fun h l => match l with
      | .standard => h.1
      | .heavyLookup => h.2, fun h => ⟨h _, h _⟩⟩

instance (g : Gate) : Decidable g.Quiescent := by unfold Gate.Quiescent; infer_instance

instance (s : Service) : DecidablePred s.Allowed
  | .timer id => inferInstanceAs (Decidable (s.now ∈ s.due? id))
  | .pass t => inferInstanceAs (Decidable (s.now ≤ t ∧ s.gate.Quiescent ∧
      ∀ l, ∀ w ∈ (s.lane l).waiting, ∀ due ∈ s.due? w.id, t ≤ due))
  | .arrive .. | .wake _ | .leave _ | .cancel _ | .sweep => isTrue trivial

instance (s : Service) : DecidablePred s.InTurn
  | .wake id | .timer id => inferInstanceAs (Decidable (∀ l, id ∈ (s.lane l).handed.map (·.id) →
      ((s.lane l).handed.map (·.id)).head? = some id))
  | .arrive .. | .pass _ | .leave _ | .cancel _ | .sweep => isTrue trivial

instance decidableThroughout {P : Service → Happening → Prop} [∀ s, DecidablePred (P s)]
    (s : Service) : ∀ happenings, Decidable (Throughout P s happenings)
  | [] => isTrue trivial
  | h :: hs => @instDecidableAnd _ _ _ (decidableThroughout (s.step h) hs)

/-- What the ledger sees of it. -/
def visitation (now : Nat) : Happening → Option Visitation
  | .arrive c route => some (.arrive now c route)
  | .wake id => some (.look now id false)
  | .timer id => some (.look now id true)
  | .leave id => some (.leave now id)
  | .cancel id => some (.cancel now id)
  | .sweep => some (.sweep now)
  | .pass _ => none

/-- A service is a ledger with a clock and a log. -/
theorem step_ledger (s : Service) (h : Happening) :
    (s.step h).ledger = ((visitation s.now h).map s.ledger.step).getD s.ledger := by
  have hleave : ∀ id, (s.leave id).ledger = s.ledger.leave s.now id := by
    intro id
    unfold leave Ledger.leave
    split <;> simp_all [meet]
  have hlook : ∀ id expired, (s.look id expired).ledger = s.ledger.look s.now id expired := by
    intro id expired
    unfold look Ledger.look
    split <;> simp_all [meet]
  cases h with
  | arrive c route => rfl
  | wake id => exact hlook id false
  | timer id => exact hlook id true
  | leave id => exact hleave id
  | cancel id =>
    show (s.cancel id).ledger = s.ledger.cancel s.now id
    unfold cancel Ledger.cancel
    split
    · simp_all [meet]
    · simp_all
  | sweep => rfl
  | pass t => rfl

end Service
end ChainGateway.Admission
