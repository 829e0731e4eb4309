import ChainGateway.Proofs.Admission.Turns
import Mathlib.Data.List.Pairwise

/-!
# A service in order

What the clock, the queues and the log of a service agree on, whatever happens to it: every lane
is served in order, nobody waits beyond its time, and who is turned away has waited just that
long and was granted nothing.
-/

namespace ChainGateway.Admission

open Metrics (Meters)

namespace Service

variable {s s' : Service} {polled : Prop} {id i t due : Nat} {l : Lane} {timeout : Span} {slots : Lane → Nat}
  {m : Meters} {es : List Entry} {w : Waiter} {x : Attempt}

-- ---------------------------------------------------------------------------
-- What every step keeps
-- ---------------------------------------------------------------------------

/-- What the clock, the queues and the log of a service agree on. -/
structure Orderly (timeout : Span) (s : Service) : Prop where
  timeout_eq : s.gate.timeout = timeout
  clocked : s.came.length = s.ledger.attempts.length
  laned : ∀ e ∈ s.log, s.lanes[e.id]? = some e.lane
  past : ∀ e ∈ s.log, e.time ≤ s.now
  timed : s.log.Pairwise fun e f => f.time ≤ e.time
  lines : ∀ l, InLine l s.now s.log (s.lane l)
  seated : ∀ i l t, ⟨.seated, i, l, t⟩ ∈ s.log → ⟨.granted, i, l, t⟩ ∈ s.log
  patient : ∀ l, ∀ w ∈ (s.lane l).waiting, ∀ due, s.IsDue w.id due → s.now ≤ due
  overloaded : ∀ i l t, ⟨.overloaded, i, l, t⟩ ∈ s.log →
    s.IsDue i t ∧ i ∉ numbers .granted l s.log ∧ i ∉ (s.lane l).waiting.map (·.id)

/-- Who is in a queue waits for a slot of its lane. -/
theorem waiting_attempt (h : s.ledger.Sound slots m)
    (hw : w ∈ (s.lane l).waiting ++ (s.lane l).handed) :
    s.ledger.attempts[w.id]? = some ⟨l, .waiting⟩ :=
  ((h.tracked.lanes l).queued w.id).mp (List.mem_map_of_mem hw)

theorem waiting_lanes (h : s.ledger.Sound slots m) (hw : w ∈ (s.lane l).waiting) :
    s.lanes[w.id]? = some l :=
  lanes_of_attempt (waiting_attempt h (List.mem_append_left _ hw))

/-- Only the rate limiter is swept. -/
theorem sweep_gate : ∃ limiter, (s.step .sweep).ledger =
    { s.ledger with gate := { s.ledger.gate with limiter := limiter } } := by
  show ∃ limiter, s.ledger.sweep s.now = _
  unfold Ledger.sweep Gate.sweep
  cases s.ledger.gate.limiter.sweep (.ofMillis s.now) with
  | error f => exact ⟨s.ledger.gate.limiter, rfl⟩
  | ok swept => exact ⟨swept.2, rfl⟩

theorem sweep_lane : (s.step .sweep).lane l = s.lane l := by
  obtain ⟨limiter, h⟩ := s.sweep_gate
  rw [lane, gate, h]
  cases l <;> rfl

theorem sweep_timeout : (s.step .sweep).gate.timeout = s.gate.timeout := by
  obtain ⟨limiter, h⟩ := s.sweep_gate
  rw [gate, h]
  rfl

theorem sweep_lanes : (s.step .sweep).lanes = s.lanes := by
  obtain ⟨limiter, h⟩ := s.sweep_gate
  rw [lanes, h]
  rfl

theorem mem_numbers_append {d : Deed} {log : List Entry} :
    i ∈ numbers d l (es ++ log) ↔ i ∈ numbers d l es ∨ i ∈ numbers d l log := by
  simp [numbers]

theorem Follows.isDue (hf : s.Follows l es s') : s'.IsDue i t ↔ s.IsDue i t := by
  rw [IsDue, hf.came, hf.timeout, IsDue]

theorem lane_new {limits : Limits} {g : Gate} {classifier : Classifier}
    (h : Gate.new limits = .ok g) : (new classifier g m).lane l = .new (limits.slots l) := by
  unfold Gate.new at h
  split at h <;> cases h
  cases l <;> rfl

namespace Orderly

theorem new {limits : Limits} {g : Gate} {classifier : Classifier} (h : Gate.new limits = .ok g) :
    (new classifier g m).Orderly limits.timeout where
  timeout_eq := by
    unfold Gate.new at h
    split at h <;> cases h
    rfl
  clocked := rfl
  laned := by simp [Service.new]
  past := by simp [Service.new]
  timed := List.Pairwise.nil
  lines l := by
    rw [lane_new h]
    exact .new
  seated := by simp [Service.new]
  patient l w hw := by
    rw [lane_new h] at hw
    cases hw
  overloaded := by simp [Service.new]

section
variable (h : s.Orderly timeout) (hs : s.ledger.Sound slots m) (hid : s.lanes[id]? = some l)
  (hf : s.Follows l es s') (ht : s.Turn polled id l (s'.lane l) es)

include hs hid ht

/-- What is entered in a turn is entered now and for a request of the lane. -/
theorem entered {e : Entry} (he : e ∈ es) :
    e.time = s.now ∧ e.lane = l ∧ s.lanes[e.id]? = some l := by
  obtain ⟨htime, hlane, hnum⟩ := ht.entry he
  refine ⟨htime, hlane, ?_⟩
  rcases hnum with hnum | ⟨w, hw, hnum⟩
  · rw [hnum, hid]
  · rw [hnum, waiting_lanes hs hw]

include h hf

theorem turn_timed : s'.log.Pairwise fun e f => f.time ≤ e.time := by
  rw [hf.log, List.pairwise_append]
  refine ⟨List.pairwise_of_forall_mem_list fun e he f hf => ?_, h.timed, fun e he f hf => ?_⟩
  · have hnow : e.time = f.time := (entered hs hid ht he).1.trans (entered hs hid ht hf).1.symm
    exact hnow ▸ Nat.le_refl _
  · rw [(entered hs hid ht he).1]
    exact h.past f hf

theorem turn_lines (l' : Lane) : InLine l' s'.now s'.log (s'.lane l') := by
  rw [hf.log, hf.now]
  by_cases hl : l' = l
  · subst hl
    exact ht.inLine (h.lines l')
  · rw [hf.others l' hl]
    exact (h.lines l').notes fun e he => (entered hs hid ht he).2.1 ▸ Ne.symm hl

theorem turn_seated {i t : Nat} {l' : Lane} (he : ⟨.seated, i, l', t⟩ ∈ s'.log) :
    ⟨.granted, i, l', t⟩ ∈ s'.log := by
  rw [hf.log] at he ⊢
  rcases List.mem_append.mp he with he | he
  · obtain rfl : l' = l := (entered hs hid ht he).2.1
    exact List.mem_append_right _ (ht.seated (h.lines l') he)
  · exact List.mem_append_right _ (h.seated i l' t he)

omit hs hid in
theorem turn_patient {l' : Lane} (hw : w ∈ (s'.lane l').waiting) (hdue : s'.IsDue w.id due) :
    s'.now ≤ due := by
  rw [hf.isDue] at hdue
  rw [hf.now]
  by_cases hl : l' = l
  · subst hl
    rcases ht.waiting hw with hw | ⟨rfl, -, hcame⟩
    · exact h.patient l' w hw due hdue
    · obtain ⟨since, hsince, rfl⟩ := hdue
      obtain rfl := Option.some.inj (hcame.symm.trans hsince)
      exact Instant.le_deadline
  · rw [hf.others l' hl] at hw
    exact h.patient l' w hw due hdue

theorem turn_overloaded {i t : Nat} {l' : Lane} (he : ⟨.overloaded, i, l', t⟩ ∈ s'.log) :
    s'.IsDue i t ∧ i ∉ numbers .granted l' s'.log ∧ i ∉ (s'.lane l').waiting.map (·.id) := by
  rw [hf.isDue]
  rw [hf.log] at he ⊢
  rcases List.mem_append.mp he with he | he
  · obtain rfl : l' = l := (entered hs hid ht he).2.1
    exact ht.overloaded (h.lines l') he
  · obtain ⟨hdue, hgranted, hwaiting⟩ := h.overloaded i l' t he
    refine ⟨hdue, fun hg => ?_, fun hm => ?_⟩
    · obtain ⟨u, hu⟩ := mem_numbers.mp ((mem_numbers_append.mp hg).resolve_right hgranted)
      obtain rfl : l' = l := (entered hs hid ht hu).2.1
      exact hwaiting (ht.granted hu)
    · by_cases hl : l' = l
      · subst hl
        obtain ⟨w, hw, rfl⟩ := List.mem_map.mp hm
        rcases ht.waiting hw with hw | ⟨hnum, hnew, -⟩
        · exact hwaiting (List.mem_map_of_mem hw)
        · exact Nat.lt_irrefl _ (hnum ▸ hnew.1 _ he)
      · rw [hf.others l' hl] at hm
        exact hwaiting hm

end

theorem turn (h : s.Orderly timeout) (hs : s.ledger.Sound slots m)
    (ht : s.Turns polled id l s') : s'.Orderly timeout := by
  obtain ⟨hid, es, hf, ht⟩ := ht
  refine ⟨hf.timeout.trans h.timeout_eq, ?_, ?_, ?_, h.turn_timed hs hid hf ht,
    h.turn_lines hs hid hf ht, fun _ _ _ => h.turn_seated hs hid hf ht,
    fun _ _ hw _ => h.turn_patient hf ht hw, fun _ _ _ => h.turn_overloaded hs hid hf ht⟩
  · have := congrArg List.length hf.lanes
    simp only [lanes, List.length_map] at this
    rw [hf.came, h.clocked, this]
  · rw [hf.log, hf.lanes]
    refine List.forall_mem_append.mpr ⟨fun e he => ?_, h.laned⟩
    rw [(entered hs hid ht he).2.1, (entered hs hid ht he).2.2]
  · rw [hf.log, hf.now]
    exact List.forall_mem_append.mpr
      ⟨fun e he => Nat.le_of_eq (entered hs hid ht he).1, h.past⟩

theorem push (h : s.Orderly timeout) (hs : s.ledger.Sound slots m) :
    (s.push l).Orderly timeout where
  timeout_eq := h.timeout_eq
  clocked := by simp [Service.push, Ledger.push, h.clocked]
  laned e he := by
    have := h.laned e he
    have hlt : e.id < s.lanes.length := (List.getElem?_eq_some_iff.mp this).1
    have hlanes : (s.push l).lanes = s.lanes ++ [l] := by simp [lanes, Service.push, Ledger.push]
    rw [hlanes, List.getElem?_append_left hlt, this]
  past := h.past
  timed := h.timed
  lines := h.lines
  seated := h.seated
  patient l' w hw due hdue := by
    refine h.patient l' w hw due ?_
    obtain ⟨since, hsince, rfl⟩ := hdue
    have hlt : w.id < s.came.length := h.clocked ▸ lt_of_lanes (waiting_lanes hs hw)
    exact ⟨since, by rwa [Service.push, List.getElem?_append_left hlt] at hsince, rfl⟩
  overloaded i l' t he := by
    obtain ⟨⟨since, hsince, hdue⟩, hrest⟩ := h.overloaded i l' t he
    refine ⟨⟨since, ?_, hdue⟩, hrest⟩
    rw [Service.push, List.getElem?_append_left (List.getElem?_eq_some_iff.mp hsince).1, hsince]

/-- The next number is above all that were seen. -/
theorem fresh (h : s.Orderly timeout) (hs : s.ledger.Sound slots m) :
    (s.push l).Fresh s.ledger.attempts.length :=
  ⟨fun e he => lt_of_lanes (h.laned e he), fun _ _ hw => lt_of_lanes (waiting_lanes hs hw)⟩

theorem arrive_turns (h : s.Orderly timeout) (hs : s.ledger.Sound slots m) (c : Client)
    (route : String) : (s.push (s.ledger.classifier.classify route)).Turns False
      s.ledger.attempts.length (s.ledger.classifier.classify route) (s.arrive c route) := by
  have hx : (s.push (s.ledger.classifier.classify route)).ledger.attempts[
      s.ledger.attempts.length]? = some ⟨s.ledger.classifier.classify route, .arrived⟩ := by
    simp [Service.push, Ledger.push]
  exact enter_turns hx (h.fresh hs) (by simp [Service.push, ← h.clocked])

theorem sweep (h : s.Orderly timeout) : (s.step .sweep).Orderly timeout where
  timeout_eq := sweep_timeout.trans h.timeout_eq
  clocked := by
    have := congrArg List.length (sweep_lanes (s := s))
    simp only [lanes, List.length_map] at this
    exact h.clocked.trans this.symm
  laned := by
    rw [sweep_lanes]
    exact h.laned
  past := h.past
  timed := h.timed
  lines l := by
    rw [sweep_lane]
    exact h.lines l
  seated := h.seated
  patient l w hw due hdue := by
    rw [sweep_lane] at hw
    rw [IsDue, sweep_timeout] at hdue
    exact h.patient l w hw due hdue
  overloaded i l t he := by
    rw [IsDue, sweep_timeout, sweep_lane]
    exact h.overloaded i l t he

theorem pass (h : s.Orderly timeout) (ha : s.Allowed (.pass t)) :
    (s.step (.pass t)).Orderly timeout := by
  obtain ⟨hnow, hquiet, hdue⟩ := ha
  refine ⟨h.timeout_eq, h.clocked, h.laned, fun e he => Nat.le_trans (h.past e he) hnow, h.timed,
    fun l => ⟨(h.lines l).order, fun w hw => ?_⟩, h.seated,
    fun l w hw due hd => hdue l w hw due (mem_due?.mpr hd), h.overloaded⟩
  have hw : w ∈ (s.gate.lane l).handed := hw
  rw [hquiet l] at hw
  cases hw

theorem step {happening : Happening} (h : s.Orderly timeout) (hs : s.ledger.Sound slots m)
    (ha : s.Allowed happening) : (s.step happening).Orderly timeout := by
  have hstay : ∀ {polled id s'}, (s' = s ∨ ∃ l, s.Turns polled id l s') → s'.Orderly timeout := by
    rintro polled id s' (rfl | ⟨l, ht⟩)
    · exact h
    · exact h.turn hs ht
  cases happening with
  | arrive c route => exact (h.push hs).turn hs.push (h.arrive_turns hs c route)
  | wake id => exact hstay (look_stays_or_turns (by simp))
  | timer id => exact hstay (look_stays_or_turns fun _ => mem_due?.mp ha)
  | leave id => exact hstay (leave_stays_or_turns hs)
  | cancel id => exact hstay (cancel_stays_or_turns hs)
  | sweep => exact h.sweep
  | pass t => exact h.pass ha

end Orderly

theorem sound_step {happening : Happening} (h : s.ledger.Sound slots m) :
    (s.step happening).ledger.Sound slots m := by
  rw [step_ledger]
  cases visitation s.now happening with
  | none => exact h
  | some v => exact h.step

end Service
end ChainGateway.Admission
