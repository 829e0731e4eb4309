import ChainGateway.Proofs.Admission.Ledger

/-!
# Conservation of slots

In every run of a gate the slots of a lane are free, handed over, or held by exactly the
attempts that were admitted and have not left; nobody else holds one, none is lost and none
comes back twice. Meters and tallies agree with how the attempts ended.
-/

namespace ChainGateway.Admission

open Metrics (Meters)

variable {slots : Lane → Nat} {g : Gate} {table : List Attempt} {st y : Standing} {l l' : Lane}
  {now id : Nat} {c : Client} {a : Answer} {m : Meters} {s : Ledger}

-- ---------------------------------------------------------------------------
-- Counts
-- ---------------------------------------------------------------------------

/-- How many attempts for a lane hold a ticket. -/
def holding (table : List Attempt) (l : Lane) : Nat := table.countP (· = ⟨l, .holding⟩)

def Standing.wasAdmitted (st : Standing) : Bool := st = .holding || st = .left

/-- How the attempts of a table were decided. -/
def decisions (table : List Attempt) : Tally where
  admitted := table.countP (·.standing.wasAdmitted)
  rateLimited := table.countP (·.standing = .rateLimited)
  overloaded := table.countP (·.standing = .overloaded)

/-- An attempt comes to hold a ticket, or to hold it no more, just as the answer says. -/
theorem Standing.Meets.holding (hm : st.Meets y l a) (l' : Lane) :
    ((if (⟨l, y.after a⟩ : Attempt) = ⟨l', .holding⟩ then 1 else 0 : Nat) : Int) =
      (if (⟨l, st⟩ : Attempt) = ⟨l', .holding⟩ then 1 else 0 : Nat) + a.issues l' := by
  cases a with
  | admitted k n =>
    obtain ⟨rfl, rfl | rfl⟩ := hm <;> by_cases h : k = l' <;> simp [after, Answer.issues, h]
  | rejected r => cases r <;> obtain rfl | rfl := hm <;> simp [after, Answer.issues]
  | waiting => obtain rfl | rfl := hm <;> simp [after, Answer.issues]
  | left k =>
    obtain ⟨rfl, rfl⟩ := hm
    by_cases h : k = l' <;> simp [after, Answer.issues, h]
  | failed f => obtain rfl := hm; simp [after, Answer.issues]
  | nothing => obtain rfl | ⟨rfl, rfl⟩ := hm <;> simp [after, Answer.issues]

theorem holding_set (l' : Lane) (hx : table[id]? = some ⟨l, st⟩) (hm : st.Meets y l a) :
    (holding (table.set id ⟨l, y.after a⟩) l' : Int) = holding table l' + a.issues l' := by
  have hset := Labels.countP_set_add (p := (· = ⟨l', .holding⟩)) (y := ⟨l, y.after a⟩) hx
  have hmeets := hm.holding l'
  simp only [decide_eq_true_eq] at hset
  unfold holding
  omega

/-- An answer is tallied as the standing to which it brings the attempt. -/
theorem decisions_set (hx : table[id]? = some ⟨l, st⟩) (hm : st.Meets y l a) :
    decisions (table.set id ⟨l, y.after a⟩) = (decisions table).count a := by
  have hadm := Labels.countP_set_add (p := (·.standing.wasAdmitted)) (y := ⟨l, y.after a⟩) hx
  have hrate := Labels.countP_set_add (p := (·.standing = .rateLimited)) (y := ⟨l, y.after a⟩) hx
  have hover := Labels.countP_set_add (p := (·.standing = .overloaded)) (y := ⟨l, y.after a⟩) hx
  unfold decisions Tally.count
  cases a with
  | admitted k n =>
    obtain ⟨rfl, rfl | rfl⟩ := hm <;> simp_all [Standing.after, Standing.wasAdmitted]
  | rejected r =>
    cases r <;> obtain rfl | rfl := hm <;> simp_all [Standing.after, Standing.wasAdmitted]
  | waiting => obtain rfl | rfl := hm <;> simp_all [Standing.after, Standing.wasAdmitted]
  | left k => obtain ⟨rfl, rfl⟩ := hm; simp_all [Standing.after, Standing.wasAdmitted]
  | failed f => obtain rfl := hm; simp_all [Standing.after, Standing.wasAdmitted]
  | nothing =>
    obtain rfl | ⟨rfl, rfl⟩ := hm
    · obtain ⟨hlt, hget⟩ := List.getElem?_eq_some_iff.mp hx
      rw [Standing.after, ← hget, List.set_getElem_self hlt]
    · simp_all [Standing.after, Standing.wasAdmitted]

-- ---------------------------------------------------------------------------
-- Runs
-- ---------------------------------------------------------------------------

/-- What holds of a ledger whose meters started as `m`, after every step. -/
structure Ledger.Sound (slots : Lane → Nat) (m : Meters) (s : Ledger) : Prop where
  tracked : Tracked slots s.book s.gate
  held : ∀ l, s.gate.held l = holding s.attempts l
  metered : ∀ l, s.meters.inFlight l = m.inFlight l + s.gate.held l
  tally : s.gate.tally = decisions s.attempts

namespace Ledger

theorem book_push : (s.push l).book = s.book.put s.attempts.length ⟨l, .arrived⟩ := by
  funext i
  unfold book push Book.put
  dsimp only
  by_cases h : i = s.attempts.length
  · rw [if_pos h, h, List.getElem?_append_right (Nat.le_refl _), Nat.sub_self]
    rfl
  · rw [if_neg h, List.getElem?_append]
    split
    · rfl
    · rw [List.getElem?_eq_none (by simp; omega), List.getElem?_eq_none (by omega)]

theorem book_meet {e : Event} (hx : s.book id = some ⟨l, st⟩) :
    (s.meet now id ⟨l, y⟩ e).book = s.book.put id ⟨l, y.after (s.gate.step now e).1⟩ := by
  have hlt : id < s.attempts.length := (List.getElem?_eq_some_iff.mp hx).1
  funext i
  unfold book meet Book.put
  dsimp only
  by_cases h : i = id
  · rw [if_pos h, h, List.getElem?_set_self hlt]
  · rw [if_neg h, List.getElem?_set_ne (Ne.symm h)]

namespace Sound

theorem new {limits : Limits} {classifier : Classifier} (h : Gate.new limits = .ok g) :
    (new classifier g m).Sound limits.slots m where
  tracked := .new h fun _ => rfl
  held _ := Gate.held_new h
  metered l := by
    rw [Ledger.new, Gate.held_new h]
    exact (Int.add_zero _).symm
  tally := by
    rw [Ledger.new, Gate.tally_new h]
    rfl

theorem push (h : s.Sound slots m) : (s.push l).Sound slots m where
  tracked := by
    rw [book_push]
    exact h.tracked.arrive (List.getElem?_eq_none (Nat.le_refl _))
  held l' := by
    rw [Ledger.push, holding, List.countP_append]
    simpa [holding] using h.held l'
  metered := h.metered
  tally := by
    rw [Ledger.push, decisions, List.countP_append, List.countP_append, List.countP_append]
    simpa [decisions, Standing.wasAdmitted] using h.tally

theorem meet {e : Event} (h : s.Sound slots m) (hx : s.book id = some ⟨l, st⟩)
    (ha : Answered slots s.book id l st y s.gate (s.gate.step now e)) :
    (s.meet now id ⟨l, y⟩ e).Sound slots m where
  tracked := by
    rw [book_meet hx]
    exact ha.tracked
  held l' := by
    have hset := holding_set l' hx ha.meets
    have hheld := ha.held l'
    rw [h.held l', ← hset] at hheld
    exact Int.ofNat_inj.mp hheld
  metered l' := by
    have hnote : (s.meters.note l (s.gate.step now e).1).inFlight l' = _ := inFlight_note
    rw [h.metered, Int.add_assoc, ← ha.held l'] at hnote
    exact hnote
  tally := by
    have htally := decisions_set hx ha.meets
    rw [← h.tally] at htally
    exact ha.tally.trans htally.symm

theorem arrive {route : String} (h : s.Sound slots m) : (s.arrive now c route).Sound slots m := by
  have hx : (s.push (s.classifier.classify route)).book s.attempts.length =
      some ⟨s.classifier.classify route, .arrived⟩ := by
    rw [book_push, Book.put, if_pos rfl]
  have hpush := h.push (l := s.classifier.classify route)
  exact hpush.meet hx (hpush.tracked.enter now c hx)

theorem look {expired : Bool} (h : s.Sound slots m) : (s.look now id expired).Sound slots m := by
  unfold Ledger.look
  split
  · rename_i x hx
    exact h.meet hx (h.tracked.look now expired hx)
  · exact h

theorem leave (h : s.Sound slots m) : (s.leave now id).Sound slots m := by
  unfold Ledger.leave
  split
  · rename_i x hx
    exact h.meet hx (h.tracked.leave now hx)
  · exact h

theorem cancel (h : s.Sound slots m) : (s.cancel now id).Sound slots m := by
  unfold Ledger.cancel
  split
  · rename_i l hx
    exact h.meet hx (h.tracked.cancel now hx)
  · exact h.leave

/-- Only the rate limiter is swept. -/
theorem sweep (h : s.Sound slots m) : (s.sweep now).Sound slots m := by
  unfold Ledger.sweep Gate.sweep
  cases s.gate.limiter.sweep (.ofMillis now) with
  | error f => exact h
  | ok swept =>
    refine ⟨h.tracked.congr (fun l => ?_) rfl (fun _ _ => Iff.rfl) fun _ _ => Iff.rfl,
      h.held, h.metered, h.tally⟩
    cases l <;> rfl

theorem step {v : Visitation} (h : s.Sound slots m) : (s.step v).Sound slots m := by
  cases v with
  | arrive now c route => exact h.arrive
  | look now id expired => exact h.look
  | leave now id => exact h.leave
  | cancel now id => exact h.cancel
  | sweep now => exact h.sweep

theorem run (h : s.Sound slots m) (visitations : List Visitation) :
    (s.run visitations).Sound slots m := by
  induction visitations generalizing s with
  | nil => exact h
  | cons v visitations ih => exact ih h.step

end Sound
end Ledger

-- ---------------------------------------------------------------------------
-- Conservation
-- ---------------------------------------------------------------------------

/-- The request `id` has a slot: it holds a ticket or has been handed one. -/
def Gate.HasSlot (g : Gate) (id : Nat) : Prop :=
  (∃ t ∈ g.tickets, t.id = id) ∨ ∃ l, ∃ x ∈ (g.lane l).handed, x.id = id

/-- Nobody has still to take up a slot that it was handed. -/
def Gate.Quiescent (g : Gate) : Prop := ∀ l, (g.lane l).handed = []

/-- What becomes of the slots in a run, for a ledger whose meters started as `m`. -/
structure Ledger.Conserved (limits : Limits) (m : Meters) (s : Ledger) : Prop where
  /-- No slot is lost and none comes back twice. -/
  slots : ∀ l, (s.gate.lane l).free + (s.gate.lane l).handed.length + holding s.attempts l =
    limits.slots l
  /-- Nobody waits for a slot that is free. -/
  busy : ∀ l, (s.gate.lane l).waiting ≠ [] → (s.gate.lane l).free = 0
  inFlight : s.gate.Quiescent → ∀ l, s.gate.inFlight l = holding s.attempts l
  gauge : s.gate.Quiescent → ∀ l, s.meters.inFlight l - m.inFlight l = s.gate.inFlight l
  bounded : ∀ l, s.gate.inFlight l ≤ limits.slots l
  /-- Only who waits or was admitted may have a slot. -/
  slotless : ∀ id x, s.attempts[id]? = some x → x.standing ≠ .waiting →
    x.standing ≠ .holding → ¬s.gate.HasSlot id
  tally : s.gate.tally = decisions s.attempts

namespace Ledger

theorem Sound.not_hasSlot {x : Attempt} (h : s.Sound slots m) (hx : s.attempts[id]? = some x)
    (hw : x.standing ≠ .waiting) (hh : x.standing ≠ .holding) : ¬s.gate.HasSlot id := by
  rintro (⟨t, ht, rfl⟩ | ⟨l, y, hy, rfl⟩)
  · have hs := (h.tracked.tickets t.lane t.id).mp ⟨t, ht, rfl, rfl⟩
    exact hh ((stands_self hx).mp hs).2.symm
  · have hm : y.id ∈ (s.gate.lane l).ids :=
      List.mem_map_of_mem (List.mem_append_right _ hy)
    exact hw ((stands_self hx).mp (((h.tracked.lanes l).queued y.id).mp hm)).2.symm

theorem Sound.inFlight (h : s.Sound slots m) (hq : s.gate.Quiescent) :
    s.gate.inFlight l = s.gate.held l := by
  have hslots := (h.tracked.lanes l).slots
  rw [hq l, List.length_nil, Nat.add_zero] at hslots
  rw [Gate.inFlight, LaneQueue.inFlight]
  omega

theorem Sound.toConserved {limits : Limits} (h : s.Sound limits.slots m) :
    s.Conserved limits m where
  slots l := by
    rw [← h.held, (h.tracked.lanes l).slots, h.tracked.capacity]
  busy l := (h.tracked.lanes l).busy
  inFlight hq l := by rw [h.inFlight hq, h.held]
  gauge hq l := by
    rw [h.inFlight hq, h.metered]
    omega
  bounded l := by
    rw [Gate.inFlight, LaneQueue.inFlight, h.tracked.capacity]
    omega
  slotless id x := h.not_hasSlot
  tally := h.tally

/-- Slots are conserved in every run of a gate. -/
theorem conserved {limits : Limits} (h : Gate.new limits = .ok g) (classifier : Classifier)
    (m : Meters) (visitations : List Visitation) :
    ((new classifier g m).run visitations).Conserved limits m :=
  ((Sound.new h).run visitations).toConserved

/-- With one slot: the first request is cancelled while it holds it, the second goes while
it waits, and the slot comes to the third. -/
theorem conserved_of_cancelled : ∃ g, Gate.new ⟨1, .ofSeconds 60, 0, .ofSeconds 30⟩ = .ok g ∧
    let visitations := [.arrive 0 .unknown "/a", .arrive 1 .unknown "/b",
      .arrive 2 .unknown "/c",
      .cancel 3 1, .cancel 4 0, .look 5 2 false]
    let s := (new ⟨[]⟩ g .start).run visitations
    s.attempts.map (·.standing) = [.left, .cancelled, .holding] ∧
      s.Conserved ⟨1, .ofSeconds 60, 0, .ofSeconds 30⟩ .start :=
  ⟨_, rfl, rfl, conserved rfl ⟨[]⟩ .start _⟩

end Ledger
end ChainGateway.Admission
