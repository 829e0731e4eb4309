import ChainGateway.Metrics.Meters
import ChainGateway.Proofs.Admission.GateLaws

/-!
# Standings

At a gate every request waits, holds a ticket, or is done with, by what the gate has answered
to it. A book has how requests stand. The queues and the tickets of a gate never come apart
from a book that is kept by its answers.
-/

namespace ChainGateway.Admission

open Metrics (Meters)

inductive Standing
  /-- Not answered yet. -/
  | arrived
  | waiting
  | holding
  /-- The ticket was given back. -/
  | left
  | rateLimited
  | overloaded
  | failed
  /-- Gone while it waited. -/
  | cancelled
  deriving DecidableEq, Repr

structure Attempt where
  lane : Lane
  standing : Standing
  deriving DecidableEq, Repr

/-- How an attempt stands after an answer. -/
def Standing.after (s : Standing) : Answer → Standing
  | .admitted .. => .holding
  | .rejected (.rateLimited _) => .rateLimited
  | .rejected (.overloaded _) => .overloaded
  | .failed _ => .failed
  | .left _ => .left
  | .waiting => .waiting
  | .nothing => s

/-- The slots of a lane. -/
def Limits.slots (limits : Limits) : Lane → Nat
  | .standard => limits.standardSlots
  | .heavyLookup => Gate.heavySlots

-- ---------------------------------------------------------------------------
-- Books
-- ---------------------------------------------------------------------------

/-- How requests stand, by number. -/
abbrev Book := Nat → Option Attempt

def Book.put (b : Book) (id : Nat) (x : Attempt) : Book := fun i => if i = id then some x else b i

/-- The request `id` is for the lane `l` and stands as in `z`. -/
def Stands (b : Book) (z : Standing) (l : Lane) (id : Nat) : Prop := b id = some ⟨l, z⟩

variable {slots : Lane → Nat} {g g' : Gate} {b : Book} {st st' y z : Standing} {l l' : Lane}
  {now id i : Nat} {c : Client} {a : Answer} {m : Meters}

namespace Book

theorem put_self {x : Attempt} (hx : b id = some x) : b.put id x = b := by
  funext i
  unfold put
  split
  · rename_i hi
    rw [hi, hx]
  · rfl

theorem put_put {x x' : Attempt} : (b.put id x).put id x' = b.put id x' := by
  funext i
  unfold put
  split <;> rfl

end Book

theorem stands_put : Stands (b.put id ⟨l, st'⟩) z l' i ↔
    (i = id ∧ l' = l ∧ z = st') ∨ (i ≠ id ∧ Stands b z l' i) := by
  unfold Stands Book.put
  by_cases h : i = id <;> simp [h, eq_comm]

theorem stands_self (hx : b id = some ⟨l, st⟩) : Stands b z l' id ↔ l' = l ∧ z = st := by
  simp [Stands, hx, eq_comm]

/-- A standing that a request does not come to is only lost to it. -/
theorem stands_put_of_ne (h : z ≠ st') :
    Stands (b.put id ⟨l, st'⟩) z l' i ↔ Stands b z l' i ∧ i ≠ id := by
  rw [stands_put]
  simp [h, and_comm]

theorem stands_put_of_ne_ne (hx : b id = some ⟨l, st⟩) (h : z ≠ st) (h' : z ≠ st') :
    Stands (b.put id ⟨l, st'⟩) z l' i ↔ Stands b z l' i := by
  rw [stands_put_of_ne h']
  refine ⟨fun hs => hs.1, fun hs => ⟨hs, ?_⟩⟩
  rintro rfl
  exact h ((stands_self hx).mp hs).2

theorem stands_put_at (hx : b id = some ⟨l, st⟩) :
    Stands (b.put id ⟨l, st'⟩) st' l' i ↔ Stands b st' l' i ∨ (i = id ∧ l' = l) := by
  rw [stands_put]
  by_cases hi : i = id
  · subst hi
    rw [stands_self hx]
    by_cases hl : l' = l <;> simp [hl]
  · simp [hi]

theorem stands_put_other_lane (hx : b id = some ⟨l, st⟩) (h : l' ≠ l) :
    Stands (b.put id ⟨l, st'⟩) z l' i ↔ Stands b z l' i := by
  rw [stands_put]
  by_cases hi : i = id
  · subst hi
    rw [stands_self hx]
    simp [h]
  · simp [hi, h]

-- ---------------------------------------------------------------------------
-- The gate and the book
-- ---------------------------------------------------------------------------

/-- Just the requests that wait are in the queues, and just those that hold have tickets. -/
def Tracked (slots : Lane → Nat) (b : Book) (g : Gate) : Prop :=
  g.Balanced slots (Stands b .waiting) (Stands b .holding)

/-- What an answer adds to the tickets of a lane that are out. -/
def Answer.issues (l : Lane) : Answer → Int
  | .admitted l' _ => if l' = l then 1 else 0
  | .left l' => if l' = l then -1 else 0
  | _ => 0

theorem addInFlight_inFlight {n : Int} :
    (m.addInFlight l n).inFlight l' = m.inFlight l' + if l = l' then n else 0 := by
  cases l <;> cases l' <;> first | rfl | exact (Int.add_zero _).symm

/-- The gauge of a lane goes with the tickets that are out. -/
theorem inFlight_note : (m.note l a).inFlight l' = m.inFlight l' + a.issues l' := by
  cases a with
  | admitted k n =>
    refine Eq.trans ?_ (addInFlight_inFlight (m := m.countEnding k .admitted) (l := k))
    cases k <;> cases l' <;> rfl
  | left k => exact addInFlight_inFlight
  | rejected r => cases l' <;> exact (Int.add_zero _).symm
  | waiting | failed | nothing => exact (Int.add_zero _).symm

def Tally.count (t : Tally) : Answer → Tally
  | .admitted .. => { t with admitted := t.admitted + 1 }
  | .rejected (.rateLimited _) => { t with rateLimited := t.rateLimited + 1 }
  | .rejected (.overloaded _) => { t with overloaded := t.overloaded + 1 }
  | _ => t

/-- Whether a request for the lane `l` that stands as in `st` may be answered so; `y` is how
it stands if it is told nothing. -/
def Standing.Meets (st y : Standing) (l : Lane) : Answer → Prop
  | .admitted l' _ => l' = l ∧ (st = .arrived ∨ st = .waiting)
  | .rejected _ | .waiting => st = .arrived ∨ st = .waiting
  | .failed _ => st = .arrived
  | .left l' => l' = l ∧ st = .holding
  | .nothing => y = st ∨ (st = .waiting ∧ y = .cancelled)

/-- What an event of the request `id` makes of a gate. -/
structure Answered (slots : Lane → Nat) (b : Book) (id : Nat) (l : Lane) (st y : Standing)
    (g : Gate) (r : Answer × Option Nat × Gate) : Prop where
  meets : st.Meets y l r.1
  tracked : Tracked slots (b.put id ⟨l, y.after r.1⟩) r.2.2
  held : ∀ l', (r.2.2.held l' : Int) = g.held l' + r.1.issues l'
  tally : r.2.2.tally = g.tally.count r.1

theorem Answered.intro {woken : Option Nat} (meets : st.Meets y l a)
    (tracked : Tracked slots (b.put id ⟨l, y.after a⟩) g')
    (held : ∀ l', (g'.held l' : Int) = g.held l' + a.issues l')
    (tally : g'.tally = g.tally.count a) : Answered slots b id l st y g (a, woken, g') :=
  ⟨meets, tracked, held, tally⟩

namespace Tracked

theorem new {limits : Limits} (h : Gate.new limits = .ok g) (hb : ∀ id, b id = none) :
    Tracked limits.slots b g := by
  unfold Gate.new at h
  split at h
  · cases h
  · cases h
    refine ⟨?_, ?_, List.nodup_nil, ?_⟩
    · intro l
      cases l <;> rfl
    · intro l
      cases l <;> exact .new (by simp [Stands, hb])
    · simp [Stands, hb]

/-- Nothing changed for the lanes, and the request neither waited nor held nor does so now. -/
theorem aside (h : Tracked slots b g) (st' : Standing) (hx : b id = some ⟨l, st⟩)
    (hst : st ≠ .waiting ∧ st ≠ .holding) (hst' : st' ≠ .waiting ∧ st' ≠ .holding)
    (hl : ∀ l, g'.lane l = g.lane l) (ht : g'.tickets = g.tickets) :
    Tracked slots (b.put id ⟨l, st'⟩) g' :=
  h.congr hl ht (fun _ _ => stands_put_of_ne_ne hx hst.1.symm hst'.1.symm)
    fun _ _ => stands_put_of_ne_ne hx hst.2.symm hst'.2.symm

/-- A request that is new neither waits nor holds a ticket. -/
theorem arrive (h : Tracked slots b g) (hx : b id = none) :
    Tracked slots (b.put id ⟨l, .arrived⟩) g := by
  have hput : ∀ z, z ≠ .arrived → ∀ l' i,
      Stands (b.put id ⟨l, .arrived⟩) z l' i ↔ Stands b z l' i := by
    intro z hz l' i
    rw [stands_put_of_ne hz]
    refine ⟨fun hs => hs.1, fun hs => ⟨hs, ?_⟩⟩
    rintro rfl
    cases hx.symm.trans hs
  exact h.congr (fun _ => rfl) rfl (hput .waiting (by decide)) (hput .holding (by decide))

theorem same (h : Tracked slots b g) (hx : b id = some ⟨l, st⟩) :
    Tracked slots (b.put id ⟨l, st⟩) g := by
  rw [Book.put_self hx]
  exact h

theorem held_kept {q : LaneQueue} : (((g.setLane l q).held l' : Nat) : Int) = g.held l' + 0 := by
  rw [Gate.held_setLane, Int.add_zero]

theorem held_issues {q : LaneQueue} {since n : Nat} :
    ((((g.setLane l q).issue now id since l).2.held l' : Nat) : Int) =
      g.held l' + (Answer.admitted l n).issues l' := by
  rw [Gate.held_issue, Gate.held_setLane, Answer.issues]
  split <;> simp

theorem issue {q : LaneQueue} {since : Nat} (h : Tracked slots b g)
    (hx : b id = some ⟨l, st⟩) (hst : st ≠ .holding) (hc : q.capacity = slots l)
    (hq : q.Sound (g.held l + 1) (Stands (b.put id ⟨l, .holding⟩) .waiting l)) :
    Tracked slots (b.put id ⟨l, .holding⟩) ((g.setLane l q).issue now id since l).2 :=
  Gate.Balanced.issue h hc hq (fun _ hne _ => stands_put_other_lane hx hne)
    (fun _ hs => hst ((stands_self hx).mp hs).2.symm) fun _ _ => stands_put_at hx

theorem setLane {q : LaneQueue} (h : Tracked slots b g) (st' : Standing) (hx : b id = some ⟨l, st⟩)
    (hst : st ≠ .holding) (hst' : st' ≠ .holding) (hc : q.capacity = slots l)
    (hq : q.Sound (g.held l) (Stands (b.put id ⟨l, st'⟩) .waiting l)) :
    Tracked slots (b.put id ⟨l, st'⟩) (g.setLane l q) :=
  Gate.Balanced.setLane h hc hq (fun _ hne _ => stands_put_other_lane hx hne)
    fun _ _ => stands_put_of_ne_ne hx hst.symm hst'.symm

/-- What is in a queue waits. -/
theorem waiting_of_mem (h : Tracked slots b g) (hx : b id = some ⟨l, st⟩)
    (hm : id ∈ (g.lane l).ids) : st = .waiting :=
  ((stands_self hx).mp (((h.lanes l).queued id).mp hm)).2.symm

theorem waiting_of_handed {x : Waiter} (h : Tracked slots b g)
    (hx : b id = some ⟨l, st⟩) (hh : (g.lane l).handedTo? id = some x) :
    st = .waiting := by
  obtain ⟨hm, rfl⟩ := LaneQueue.handedTo?_some hh
  exact h.waiting_of_mem hx (List.mem_map_of_mem (List.mem_append_right _ hm))

theorem waiting_of_waits (h : Tracked slots b g) (hx : b id = some ⟨l, st⟩)
    (hw : (g.lane l).waits id = true) : st = .waiting := by
  obtain ⟨x, hm, hid⟩ := List.any_eq_true.mp hw
  obtain rfl : x.id = id := by simpa using hid
  exact h.waiting_of_mem hx (List.mem_map_of_mem (List.mem_append_left _ hm))

theorem enter (h : Tracked slots b g) (now : Nat) (c : Client) (hx : b id = some ⟨l, .arrived⟩) :
    Answered slots b id l .arrived .arrived g (g.step now (.enter id c l)) := by
  have hlane : ∀ limiter l', ({ g with limiter := limiter } : Gate).lane l' = g.lane l' := by
    intro limiter l'
    cases l' <;> rfl
  have hgate : ∀ limiter, Tracked slots b { g with limiter := limiter } := fun limiter =>
    h.congr (hlane limiter) rfl (fun _ _ => Iff.rfl) fun _ _ => Iff.rfl
  -- every answer may change the limiter, only being let in or having to wait changes a lane
  obtain ⟨limiter, ⟨d, hs⟩ | ⟨f, hs⟩ | ⟨q, hq, n, hs⟩ | ⟨hq, hs⟩ | ⟨hq, hs⟩⟩ :=
    g.enter_cases now id c l <;> rw [hs]
  · exact .intro (.inl rfl) (h.aside .rateLimited hx (by decide) (by decide)
      (fun l => by cases l <;> rfl) rfl) (fun l' => (Int.add_zero _).symm) rfl
  · exact .intro rfl (h.aside .failed hx (by decide) (by decide) (hlane limiter) rfl)
      (fun l' => (Int.add_zero _).symm) rfl
  · refine .intro ⟨rfl, .inl rfl⟩ ((hgate limiter).issue hx (by decide) ?_ ?_) (fun l' => ?_) ?_
    · rw [LaneQueue.acquire?_capacity hq, h.capacity]
    · exact ((h.lanes l).acquire hq).congr fun i =>
        stands_put_of_ne_ne hx (by decide) (by decide)
    · exact held_issues (g := { g with limiter := limiter })
    · simp [Gate.issue, Tally.count, Gate.setLane_tally]
  · exact .intro (.inl rfl) (h.aside .overloaded hx (by decide) (by decide)
      (fun l => by cases l <;> rfl) rfl) (fun l' => (Int.add_zero _).symm) rfl
  · refine .intro (.inl rfl)
      ((hgate limiter).setLane .waiting hx (by decide) (by decide) (h.capacity l) ?_)
      (fun l' => ?_) ?_
    · refine (h.lanes l).enqueue hq (fun hw => ?_) fun i => ?_
      · exact absurd ((stands_self hx).mp hw).2 (by decide)
      · exact (stands_put_at hx).trans (by simp)
    · exact held_kept
    · rw [Gate.setLane_tally]
      rfl

theorem look (h : Tracked slots b g) (now : Nat) (expired : Bool) (hx : b id = some ⟨l, st⟩) :
    Answered slots b id l st st g (g.step now (.look id l expired)) := by
  have hlost : ∀ st', st' ≠ .waiting → ∀ i, Stands (b.put id ⟨l, st'⟩) .waiting l i ↔
      Stands b .waiting l i ∧ i ≠ id := fun st' hne i => stands_put_of_ne hne.symm
  obtain ⟨x, hh, n, hs⟩ | ⟨hh, hw, hs⟩ | ⟨hh, hw, hs⟩ | ⟨hh, hw, hs⟩ :=
    g.look_cases now id l expired <;> rw [hs]
  · obtain rfl := h.waiting_of_handed hx hh
    refine .intro ⟨rfl, .inr rfl⟩ (h.issue hx (by decide) (h.capacity l) ?_) (fun l' => ?_) ?_
    · exact (h.lanes l).take hh (hlost _ (by decide))
    · exact held_issues
    · simp [Gate.issue, Tally.count, Gate.setLane_tally]
  · obtain rfl := h.waiting_of_waits hx hw
    have hset : Tracked slots (b.put id ⟨l, .overloaded⟩)
        (g.setLane l ((g.lane l).leave id)) :=
      h.setLane .overloaded hx (by decide) (by decide) (h.capacity l)
        ((h.lanes l).leave hh (hlost _ (by decide)))
    refine .intro (.inr rfl)
      (hset.congr (fun l' => ?_) rfl (fun _ _ => Iff.rfl) (fun _ _ => Iff.rfl)) (fun l' => ?_) ?_
    · cases l' <;> rfl
    · exact held_kept (q := (g.lane l).leave id)
    · simp [Gate.overload, Tally.count, Gate.setLane_tally]
  · obtain rfl := h.waiting_of_waits hx hw
    exact .intro (.inr rfl) (h.same hx) (fun l' => (Int.add_zero _).symm) rfl
  · exact .intro (.inl rfl) (h.same hx) (fun l' => (Int.add_zero _).symm) rfl

theorem leave (h : Tracked slots b g) (now : Nat) (hx : b id = some ⟨l, st⟩) :
    Answered slots b id l st st g (g.step now (.leave id)) := by
  obtain ⟨-, hs⟩ | ⟨t, ht, rfl, woken, hs⟩ := g.leave_cases now id <;> rw [hs]
  · exact .intro (.inl rfl) (h.same hx) (fun l' => (Int.add_zero _).symm) rfl
  -- the ticket is the request's own, so it stands as holding one, and for the ticket's lane
  · obtain ⟨rfl, rfl⟩ := (stands_self hx).mp ((h.tickets _ _).mp ⟨t, ht, rfl, rfl⟩)
    refine .intro ⟨rfl, rfl⟩ (h.giveBack ht (fun _ _ => ?_) fun _ _ => ?_) (fun l' => ?_) ?_
    · exact stands_put_of_ne_ne hx (by decide) (by simp [Standing.after])
    · exact stands_put_of_ne (by simp [Standing.after])
    · have hcount := Gate.held_without (l := l') h.nodup ht
      rw [Gate.held_setLane, Answer.issues]
      by_cases hl : t.lane = l'
      · rw [if_pos hl] at hcount ⊢
        omega
      · rw [if_neg hl] at hcount ⊢
        omega
    · rw [Gate.setLane_tally]
      rfl

/-- Who holds a ticket can give it back. -/
theorem leave_answer (h : Tracked slots b g) (now : Nat) (hx : b id = some ⟨l, .holding⟩) :
    (g.step now (.leave id)).1 = .left l := by
  obtain ⟨t, ht, hid, hl⟩ := (h.tickets l id).mpr hx
  obtain ⟨hno, -⟩ | ⟨u, hu, huid, woken, hs⟩ := g.leave_cases now id
  · exact absurd hid (hno t ht)
  · have htu := Labels.find?_of_nodup h.nodup ht
    have hut := Labels.find?_of_nodup h.nodup hu
    rw [hid] at htu
    rw [huid, htu] at hut
    rw [hs, ← Option.some.inj hut, hl]

theorem cancel (h : Tracked slots b g) (now : Nat) (hx : b id = some ⟨l, .waiting⟩) :
    Answered slots b id l .waiting .cancelled g (g.step now (.cancel id l)) := by
  have hlost : ∀ i, Stands (b.put id ⟨l, .cancelled⟩) .waiting l i ↔
      Stands b .waiting l i ∧ i ≠ id := fun i => stands_put_of_ne (by decide)
  obtain ⟨x, hh, woken, hs⟩ | ⟨hh, hs⟩ := g.cancel_cases now id l <;> rw [hs]
  -- handed a slot that it has not taken up, the request takes it and gives it back at once
  · refine .intro (.inr ⟨rfl, rfl⟩)
      (h.setLane .cancelled hx (by decide) (by decide) ?_ ?_) (fun l' => ?_) ?_
    · rw [LaneQueue.release_capacity]
      exact h.capacity l
    · exact ((h.lanes l).take hh hlost).release
    · exact held_kept
    · exact Gate.setLane_tally
  · refine .intro (.inr ⟨rfl, rfl⟩) (h.setLane .cancelled hx (by decide) (by decide)
      (h.capacity l) ((h.lanes l).leave hh hlost)) (fun l' => ?_) ?_
    · exact held_kept
    · exact Gate.setLane_tally

end Tracked

end ChainGateway.Admission
