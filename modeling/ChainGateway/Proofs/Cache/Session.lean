import ChainGateway.Cache.Reader
import ChainGateway.Epoch.Tracker
import ChainGateway.Proofs.Cache.KeyLaws
import ChainGateway.Proofs.Cache.RegistryLaws

/-!
# Sessions

A session is any interleaving of the steps of reads through the cache with clears, purges
and polls of the epoch, over a store and a pool that answer as they like. A step brings its
own reading of the clock, which is taken before a lock is, so readings need not be in order.
The log of a session says what happened, the latest first.
-/

namespace ChainGateway.Cache

/-- A call whose arguments fit, as every typed caller makes it. -/
abbrev FittingCall := { c : Call // c.fits = true }

inductive Deed
  /-- A read started. What it found it returns at once. -/
  | looked (id : Nat) (t : Instant) (c : Call) (found : Option Outcome)
  /-- The store was called. -/
  | called (id : Nat) (c : Call)
  | answered (id : Nat) (o : Outcome)
  /-- The pool was asked. -/
  | consulted (id : Nat) (q : PendingQuery)
  | told (id : Nat) (o : Outcome)
  /-- A load was completed: its outcome was kept, if there is room, and returned. -/
  | returned (id : Nat) (t : Instant) (c : Call) (o : Outcome)
  | failed (id : Nat) (f : Fault)
  | abandoned (id : Nat)
  /-- One store was emptied, or all of them. -/
  | cleared (op : Option Operation)
  /-- The epoch advanced, which empties all stores. -/
  | advanced (a : Epoch.Advance)

inductive Move
  | look (t : Instant) (c : FittingCall)
  | begin (id : Nat)
  | loaded (t : Instant) (id : Nat) (o : Outcome)
  | asked (t : Instant) (id : Nat) (o : Outcome)
  | abandon (id : Nat)
  | clear
  | clearOne (op : Operation)
  | purge (t : Instant)
  | purgeOne (t : Instant) (op : Operation)
  /-- The last epoch has been asked for, with this outcome. -/
  | poll (o : Except ReadError Epoch.Marker)

structure Session where
  reader : Reader
  tracker : Epoch.Tracker
  /-- How many reads have started; reads are numbered in that order. -/
  started : Nat
  log : List Deed

-- ---------------------------------------------------------------------------
-- Steps
-- ---------------------------------------------------------------------------

def ReadProgress.found? : ReadProgress → Option Outcome
  | .done o => some o
  | _ => none

/-- What is done when an answer `d` comes to a read. -/
def ReadProgress.deeds (t : Instant) (x : OpenRead) (d : Deed) : ReadProgress → List Deed
  | .ask q => [.consulted x.id q, d]
  | .done o => [.returned x.id t x.call o, d]
  | .failed f => [.failed x.id f, d]
  | _ => []

namespace Session

def new (p : PolicyTable) (hasPool : Bool) (tracker : Epoch.Tracker) : Session :=
  ⟨.new p hasPool, tracker, 0, []⟩

def note (s : Session) (r : Reader) (ds : List Deed) : Session :=
  { s with reader := r, log := ds ++ s.log }

def look (s : Session) (t : Instant) (c : Call) : Session :=
  let (p, r) := s.reader.look t s.started c
  { s.note r [.looked s.started t c p.found?] with started := s.started + 1 }

def begin (s : Session) (id : Nat) : Session :=
  match s.reader.begin id with
  | (.load c, r) => s.note r [.called id c]
  | _ => s

def loaded (s : Session) (t : Instant) (id : Nat) (o : Outcome) : Session :=
  match s.reader.find? id with
  | some x =>
    let (p, r) := s.reader.loaded t id o
    s.note r (p.deeds t x (.answered id o))
  | none => s

def asked (s : Session) (t : Instant) (id : Nat) (o : Outcome) : Session :=
  match s.reader.find? id with
  | some x =>
    let (p, r) := s.reader.asked t id o
    s.note r (p.deeds t x (.told id o))
  | none => s

def abandon (s : Session) (id : Nat) : Session :=
  match s.reader.find? id with
  | some _ => s.note (s.reader.abandon id) [.abandoned id]
  | none => s

def poll (s : Session) (o : Except ReadError Epoch.Marker) : Session :=
  let (_, advance, tracker) := s.tracker.poll o
  match advance with
  | some a => { s.note s.reader.clear.2 [.advanced a] with tracker := tracker }
  | none => { s with tracker := tracker }

/-- The session with another registry, after the deeds `ds`. -/
def rearrange (s : Session) (r : Registry) (ds : List Deed) : Session :=
  s.note { s.reader with registry := r } ds

def step (s : Session) : Move → Session
  | .look t c => s.look t c
  | .begin id => s.begin id
  | .loaded t id o => s.loaded t id o
  | .asked t id o => s.asked t id o
  | .abandon id => s.abandon id
  | .clear => s.note s.reader.clear.2 [.cleared none]
  | .clearOne op => s.rearrange (s.reader.registry.clearOne op) [.cleared (some op)]
  | .purge t => s.note (s.reader.purge t).2 []
  | .purgeOne t op => s.rearrange (s.reader.registry.purgeOne t op) []
  | .poll o => s.poll o

def run (s : Session) (moves : List Move) : Session := moves.foldl step s

end Session

-- ---------------------------------------------------------------------------
-- What a log says
-- ---------------------------------------------------------------------------

namespace Deed

/-- The read that did it. -/
def read? : Deed → Option Nat
  | .looked id .. | .called id _ | .answered id _ | .consulted id _ | .told id _
  | .returned id .. | .failed id _ | .abandoned id => some id
  | .cleared _ | .advanced _ => none

/-- Whether the store of an operation was emptied. -/
def empties (op : Operation) : Deed → Bool
  | .cleared none | .advanced _ => true
  | .cleared (some op') => op' = op
  | _ => false

/-- Whether a read of an operation started. -/
def starts (op : Operation) : Deed → Bool
  | .looked _ _ c _ => c.operation = op
  | _ => false

/-- Whether a read found something. -/
def isHit : Deed → Bool
  | .looked _ _ _ (some _) => true
  | _ => false

/-- The reading of the clock that was taken for it. -/
def reading? : Deed → Option Instant
  | .looked _ t .. | .returned _ t .. => some t
  | _ => none

/-- Whether a load was completed whose outcome belongs in the slot of a key. -/
def fills (k : Key) : Deed → Bool
  | .returned _ _ c _ => Key.ofCall c = k
  | _ => false

end Deed

namespace Move

def isLook : Move → Bool
  | .look .. => true
  | _ => false

def reading? : Move → Option Instant
  | .look t _ | .loaded t .. | .asked t .. | .purge t | .purgeOne t _ => some t
  | _ => none

end Move

/-- What one read has done, the latest first. -/
def lifeOf (id : Nat) (log : List Deed) : List Deed := log.filter (·.read? = some id)

/-- How many reads of an operation have started. -/
def starts (op : Operation) (log : List Deed) : Nat := log.countP (·.starts op)

/-- Nothing came between the load `d` and the end of the log that made its outcome give way
in the slot of `k`. -/
def Lasting (k : Key) (d : Deed) (log : List Deed) : Prop :=
  ∃ since prior, log = since ++ d :: prior ∧
    ∀ e ∈ since, e.fills k = false ∧ e.empties k.operation = false

variable {k : Key} {d e : Deed} {log ds : List Deed} {id id' : Nat} {op : Operation}

theorem lifeOf_append : lifeOf id (ds ++ log) = lifeOf id ds ++ lifeOf id log :=
  List.filter_append ..

theorem lifeOf_of_others (h : ∀ d ∈ ds, d.read? ≠ some id) :
    lifeOf id (ds ++ log) = lifeOf id log := by
  rw [lifeOf_append, lifeOf, List.filter_eq_nil_iff.mpr (by simpa using h), List.nil_append]

theorem lifeOf_of_own (ds : List Deed) (h : ∀ d ∈ ds, d.read? = some id) :
    lifeOf id (ds ++ log) = ds ++ lifeOf id log := by
  rw [lifeOf_append, lifeOf, List.filter_eq_self.mpr (by simpa using h)]

theorem mem_lifeOf : d ∈ lifeOf id log ↔ d ∈ log ∧ d.read? = some id := by
  simp [lifeOf]

theorem starts_append : starts op (ds ++ log) = starts op ds + starts op log :=
  List.countP_append

theorem starts_of_none (h : ∀ d ∈ ds, d.starts op = false) :
    starts op (ds ++ log) = starts op log := by
  rw [starts_append, starts, List.countP_eq_zero.mpr (by simpa using h), Nat.zero_add]

theorem Lasting.here : Lasting k d (d :: log) := ⟨[], log, rfl, by simp⟩

theorem Lasting.append (h : Lasting k d log) (ds : List Deed)
    (hd : ∀ e ∈ ds, e.fills k = false ∧ e.empties k.operation = false) :
    Lasting k d (ds ++ log) := by
  obtain ⟨since, prior, rfl, hs⟩ := h
  refine ⟨ds ++ since, prior, by simp, ?_⟩
  intro e he
  rcases List.mem_append.mp he with he | he
  · exact hd e he
  · exact hs e he

theorem Lasting.mem (h : Lasting k d log) : d ∈ log := by
  obtain ⟨since, prior, rfl, -⟩ := h
  simp

-- ---------------------------------------------------------------------------
-- What a step adds to the log
-- ---------------------------------------------------------------------------

/-- What a deed of the move `m` may be: its reading is the move's, and only a look finds. -/
def Deed.Of (m : Move) (d : Deed) : Prop :=
  (∀ t, d.reading? = some t → m.reading? = some t) ∧ (m.isLook = false → d.isHit = false)

theorem ReadProgress.deeds_of {q : ReadProgress} {m : Move} {t : Instant} {x : OpenRead}
    (ht : m.reading? = some t) (hd : d.Of m) : ∀ e ∈ q.deeds t x d, e.Of m := by
  have hpair : ∀ e : Deed, e.Of m → ∀ b ∈ [e, d], b.Of m := by
    intro e he
    simpa using ⟨he, hd⟩
  cases q with
  | ask q => exact hpair _ ⟨nofun, fun _ => rfl⟩
  | done o => exact hpair _ ⟨fun _ hu => ht.trans hu, fun _ => rfl⟩
  | failed f => exact hpair _ ⟨nofun, fun _ => rfl⟩
  | missed | load | nothing => exact fun _ hb => absurd hb List.not_mem_nil

theorem Session.step_log {s : Session} {m : Move} :
    ∃ ds, (s.step m).log = ds ++ s.log ∧ ∀ d ∈ ds, d.Of m := by
  have hnone : ∃ ds, s.log = ds ++ s.log ∧ ∀ d ∈ ds, d.Of m := ⟨[], rfl, by simp⟩
  have hone : ∀ e : Deed, e.Of m → ∃ ds, e :: s.log = ds ++ s.log ∧ ∀ d ∈ ds, d.Of m :=
    fun e he => ⟨[e], rfl, by simpa using he⟩
  cases m with
  | look t c => exact hone _ ⟨fun _ hu => hu, nofun⟩
  | begin id =>
    simp only [step, begin]
    split
    · exact hone _ ⟨nofun, fun _ => rfl⟩
    · exact hnone
  | loaded t id o =>
    simp only [step, loaded]
    split
    · exact ⟨_, rfl, ReadProgress.deeds_of rfl ⟨nofun, fun _ => rfl⟩⟩
    · exact hnone
  | asked t id o =>
    simp only [step, asked]
    split
    · exact ⟨_, rfl, ReadProgress.deeds_of rfl ⟨nofun, fun _ => rfl⟩⟩
    · exact hnone
  | abandon id =>
    simp only [step, abandon]
    split
    · exact hone _ ⟨nofun, fun _ => rfl⟩
    · exact hnone
  | clear => exact hone _ ⟨nofun, fun _ => rfl⟩
  | clearOne op => exact hone _ ⟨nofun, fun _ => rfl⟩
  | purge t => exact hnone
  | purgeOne t op => exact hnone
  | poll e =>
    simp only [step, poll]
    split
    · exact hone _ ⟨nofun, fun _ => rfl⟩
    · exact hnone

end ChainGateway.Cache
