import ChainGateway.Proofs.Admission.Orderly

/-!
# The discipline of a gate

In every run by the clock a request that passes the rate check is ticketed at once just when its
lane has a free slot and nobody waits there; no slot is free while somebody waits; slots go to
those who wait in the order in which they came, and are taken up at the very instant; and a
request is turned away as overloaded just when its time is up and it has been granted nothing.
-/

namespace ChainGateway.Admission

open Metrics (Meters)

-- ---------------------------------------------------------------------------
-- Seats in turn
-- ---------------------------------------------------------------------------

/-- Seats of a lane were taken in the order of the numbers, which those who have a slot to take up
and those who wait carry on. -/
def InStep (l : Lane) (log : List Entry) (q : LaneQueue) : Prop :=
  ((numbers .seated l log).reverse ++ (q.handed ++ q.waiting).map (·.id)).Pairwise (· < ·)

namespace InStep

variable {l : Lane} {log : List Entry} {q q' : LaneQueue} {e : Entry} {id t : Nat}

theorem note (h : InStep l log q) (he : e.deed ≠ .seated ∨ e.lane ≠ l) : InStep l (e :: log) q := by
  rw [InStep, numbers_cons, if_neg fun hc => he.elim (absurd hc.1) (absurd hc.2)]
  exact h

theorem notes {es : List Entry} (h : InStep l log q) (he : ∀ e ∈ es, e.lane ≠ l) :
    InStep l (es ++ log) q := by
  induction es with
  | nil => exact h
  | cons e es ih =>
    rw [List.forall_mem_cons] at he
    exact (ih he.2).note (.inr he.1)

theorem shrink (h : InStep l log q) (hh : q'.handed.Sublist q.handed)
    (hw : q'.waiting.Sublist q.waiting) : InStep l log q' :=
  List.Pairwise.sublist ((List.Sublist.refl _).append ((hh.append hw).map _)) h

theorem take (h : InStep l log q) : InStep l log (q.take id) :=
  h.shrink List.filter_sublist (List.Sublist.refl _)

theorem leave (h : InStep l log q) : InStep l log (q.leave id) :=
  h.shrink (List.Sublist.refl _) List.filter_sublist

theorem release (h : InStep l log q) : InStep l log q.release.2 := by
  unfold LaneQueue.release
  cases hq : q.waiting with
  | nil => simpa [InStep, hq] using h
  | cons w rest => simpa [InStep, hq] using h

theorem grant {now : Nat} {q₀ : LaneQueue} (h : InStep l log q) :
    InStep l (grant l now q₀ ++ log) q := by
  unfold Admission.grant
  cases q₀.release.1 with
  | none => exact h
  | some w => exact h.note (.inl (by simp))

theorem enqueue (h : InStep l log q) (hlog : ∀ e ∈ log, e.id < id)
    (hq : ∀ w ∈ q.handed ++ q.waiting, w.id < id) : InStep l log (q.enqueue ⟨id, t⟩) := by
  rw [InStep, LaneQueue.enqueue, ← List.append_assoc, List.map_append]
  exact pairwise_line_snoc h hlog (List.forall_mem_map.mpr hq)

/-- The first that has a slot to take up takes its seat. -/
theorem seat {now : Nat} (h : InStep l log q) (hfirst : (q.handed.map (·.id)).head? = some id) :
    InStep l (⟨.seated, id, l, now⟩ :: log) (q.take id) := by
  cases hq : q.handed with
  | nil => simp [hq] at hfirst
  | cons w rest =>
    obtain rfl : w.id = id := by simpa [hq] using hfirst
    have hsub : ((q.take w.id).handed ++ q.waiting).Sublist (rest ++ q.waiting) := by
      refine List.Sublist.append ?_ (List.Sublist.refl _)
      simp [LaneQueue.take, hq]
    rw [InStep, hq] at h
    refine h.sublist ?_
    simp only [numbers_cons, and_self, if_true, List.reverse_cons, List.append_assoc]
    exact (List.Sublist.refl _).append ((hsub.map _).cons_cons _)

end InStep

namespace Service

variable {s s' : Service} {polled : Prop} {id i : Nat} {l : Lane} {timeout : Span}
  {slots : Lane → Nat} {m : Meters} {es : List Entry} {w : Waiter} {q : LaneQueue}

theorem Turn.inStep (h : s.Turn polled id l q es) (hl : InLine l s.now s.log (s.lane l))
    (hi : InStep l s.log (s.lane l))
    (hturn : polled → id ∈ (s.lane l).handed.map (·.id) →
      ((s.lane l).handed.map (·.id)).head? = some id) : InStep l (es ++ s.log) q := by
  cases h with
  | stay => exact hi
  | enter hq =>
    obtain ⟨-, rfl⟩ := LaneQueue.of_acquire? hq
    have hstep : InStep l s.log { s.lane l with free := (s.lane l).free - 1 } := hi
    exact hstep.note (.inl (by simp))
  | enqueue hnew hcame =>
    refine hi.enqueue hnew.1 fun w hw => ?_
    rcases List.mem_append.mp hw with hw | hw
    · exact hnew.1 _ (hl.handed w hw)
    · exact hnew.2 l w hw
  | refuse => exact hi.note (.inl (by simp))
  | seat hpolled hw =>
    obtain ⟨hm, rfl⟩ := LaneQueue.handedTo?_some hw
    exact hi.seat (hturn hpolled (List.mem_map_of_mem hm))
  | expire => exact hi.leave.note (.inl (by simp))
  | quit => exact hi.leave
  | free => exact hi.release.grant
  | passOn => exact hi.take.release.grant

theorem Turns.inStep (ht : s.Turns polled id l s') (hl : ∀ l, InLine l s.now s.log (s.lane l))
    (hi : ∀ l, InStep l s.log (s.lane l))
    (hturn : polled → ∀ l, id ∈ (s.lane l).handed.map (·.id) →
      ((s.lane l).handed.map (·.id)).head? = some id) (l' : Lane) :
    InStep l' s'.log (s'.lane l') := by
  obtain ⟨-, es, hf, ht⟩ := ht
  rw [hf.log]
  by_cases hne : l' = l
  · subst hne
    exact ht.inStep (hl l') (hi l') fun hp => hturn hp l'
  · rw [hf.others l' hne]
    exact (hi l').notes fun e he => (ht.entry he).2.1 ▸ Ne.symm hne

/-- Where requests are polled in the order in which they were handed their slots, they take their
seats in it. -/
theorem inStep_step {happening : Happening} (h : s.Orderly timeout) (hs : s.ledger.Sound slots m)
    (ha : s.Allowed happening) (hturn : s.InTurn happening)
    (hi : ∀ l, InStep l s.log (s.lane l)) (l : Lane) :
    InStep l (s.step happening).log ((s.step happening).lane l) := by
  have hstay : ∀ {polled id s'}, (s' = s ∨ ∃ l, s.Turns polled id l s') →
      (polled → ∀ l, id ∈ (s.lane l).handed.map (·.id) →
        ((s.lane l).handed.map (·.id)).head? = some id) → InStep l s'.log (s'.lane l) := by
    rintro polled id s' (rfl | ⟨k, ht⟩) hturn
    · exact hi l
    · exact ht.inStep h.lines hi hturn l
  cases happening with
  | arrive c route => exact (h.arrive_turns hs c route).inStep h.lines hi (by simp) l
  | wake id => exact hstay (look_stays_or_turns (by simp)) fun _ => hturn
  | timer id => exact hstay (look_stays_or_turns fun _ => mem_due?.mp ha) fun _ => hturn
  | leave id => exact hstay (leave_stays_or_turns hs) (by simp)
  | cancel id => exact hstay (cancel_stays_or_turns hs) (by simp)
  | sweep =>
    have hlane : (s.step .sweep).lane l = s.lane l := sweep_lane
    rw [hlane]
    exact hi l
  | pass t => exact hi l

-- ---------------------------------------------------------------------------
-- What becomes of a request
-- ---------------------------------------------------------------------------

/-- `t` is the end of a wait that begins at `since`, as far as the clock can hold it: the first
millisecond that is no earlier. -/
structure Punctual (since : Nat) (wait : Span) (t : Nat) : Prop where
  deadline : t = Instant.deadline since wait
  first : ((Instant.ofMillis since).after? wait).isSome →
    wait.nanos ≤ (t - since) * 1000000 ∧ (t - since) * 1000000 < wait.nanos + 1000000
  exact : ((Instant.ofMillis since).after? wait).isSome → ∀ n, wait = .ofMillis n → t = since + n

theorem punctual_deadline (since : Nat) (wait : Span) :
    Punctual since wait (Instant.deadline since wait) := by
  refine ⟨rfl, fun h => ?_, fun h n hn => ?_⟩
  · rw [Instant.deadline_of_isSome h, Span.ceilMillis]
    omega
  · subst hn
    rw [Instant.deadline_of_isSome h]
    show since + (n * 1000000 + 999999) / 1000000 = since + n
    omega

/-- With a slot free a request that passes the rate check has a ticket, and else no ticket is
issued. -/
theorem tickets_enter {g : Gate} {now : Nat} {c : Client}
    (hc : (g.limiter.check (.ofMillis now) c).1 = .accepted) :
    (g.step now (.enter id c l)).2.2.tickets =
      if (g.lane l).free = 0 then g.tickets else g.tickets ++ [⟨id, l, now⟩] := by
  obtain ⟨limiter, hcheck⟩ : ∃ limiter, g.limiter.check (.ofMillis now) c = (.accepted, limiter) :=
    ⟨_, Prod.ext hc rfl⟩
  have hlane : ({ g with limiter := limiter } : Gate).lane l = g.lane l := by
    cases l <;> rfl
  simp only [Gate.step, Gate.enter, hcheck, Gate.queue, hlane, LaneQueue.acquire?]
  by_cases hfree : (g.lane l).free = 0
  · simp only [hfree, if_true]
    split
    · rfl
    · exact Gate.setLane_tickets
  · simp only [hfree, if_false, Gate.issue_tickets, Gate.setLane_tickets]

/-- A request that passes the rate check has its ticket at once just when its lane has a free slot
and nobody waits there. -/
theorem ticket_arrive {c : Client} {route : String} (hs : s.ledger.Sound slots m)
    (hl : s.ledger.classifier.classify route = l)
    (hc : (s.gate.limiter.check (.ofMillis s.now) c).1 = .accepted) :
    ⟨s.ledger.attempts.length, l, s.now⟩ ∈ (s.step (.arrive c route)).gate.tickets ↔
      0 < (s.lane l).free ∧ (s.lane l).waiting = [] := by
  have hold : ⟨s.ledger.attempts.length, l, s.now⟩ ∉ s.gate.tickets := fun ht => by
    have hx := (hs.tracked.tickets _ _).mp ⟨_, ht, rfl, rfl⟩
    exact Nat.lt_irrefl _ (List.getElem?_eq_some_iff.mp hx).1
  have htickets : (s.step (.arrive c route)).gate.tickets = if (s.lane l).free = 0 then
      s.gate.tickets else s.gate.tickets ++ [⟨s.ledger.attempts.length, l, s.now⟩] := by
    subst hl
    exact tickets_enter hc
  have hbusy := (hs.tracked.lanes l).busy
  rw [htickets]
  by_cases hfree : (s.lane l).free = 0
  · simp [hfree, hold]
  · have hnone : (s.lane l).waiting = [] := Decidable.byContradiction fun h => hfree (hbusy h)
    simp [hfree, hnone, Nat.pos_of_ne_zero hfree]

/-- Who was handed a slot has its ticket when it is next polled, even as its time is up. -/
theorem look_handed {expired : Bool} (hs : s.ledger.Sound slots m) (hw : w ∈ (s.lane l).handed) :
    (s.look w.id expired).log = ⟨.seated, w.id, l, s.now⟩ :: s.log := by
  have hx := waiting_attempt hs (List.mem_append_right _ hw)
  obtain ⟨v, hv⟩ : ∃ v, (s.gate.lane l).handedTo? w.id = some v :=
    Option.isSome_iff_exists.mp (List.find?_isSome.mpr ⟨w, hw, by simp⟩)
  simp [look, hx, meet, Gate.step, Gate.look, hv, Gate.issue, deed?, entries]

/-- Who still waits when its timer goes off is turned away. -/
theorem timer_waiting (hs : s.ledger.Sound slots m) (hw : w ∈ (s.lane l).waiting) :
    (s.step (.timer w.id)).log = ⟨.overloaded, w.id, l, s.now⟩ :: s.log := by
  have hx := waiting_attempt hs (List.mem_append_left _ hw)
  have hnodup := (hs.tracked.lanes l).nodup
  rw [LaneQueue.ids, List.map_append, List.nodup_append] at hnodup
  have hnone : (s.gate.lane l).handedTo? w.id = none :=
    List.find?_eq_none.mpr fun v hv => by
      simpa using Ne.symm (hnodup.2.2 w.id (List.mem_map_of_mem hw) v.id (List.mem_map_of_mem hv))
  have hwaits : (s.gate.lane l).waits w.id = true := List.any_eq_true.mpr ⟨w, hw, by simp⟩
  simp [step, look, hx, meet, Gate.step, Gate.look, hnone, hwaits, Gate.overload, deed?, entries]

/-- Higher numbers come later or at the same time. -/
def Ascending (e f : Entry) : Prop :=
  (e.id < f.id → e.time ≤ f.time) ∧ (f.id < e.id → f.time ≤ e.time)

instance : Std.Symm Ascending := ⟨fun _ _ h => ⟨h.2, h.1⟩⟩

/-- Of two slots the one of the lower number was granted no later. -/
theorem Orderly.granted_time (h : s.Orderly timeout) {i j t u : Nat}
    (hi : ⟨.granted, i, l, t⟩ ∈ s.log) (hj : ⟨.granted, j, l, u⟩ ∈ s.log) (hij : i < j) :
    t ≤ u := by
  have hnumbers := List.pairwise_map.mp (h.lines l).granted_pairwise
  have hgrants : (s.log.filter fun e => e.deed = .granted ∧ e.lane = l).Pairwise Ascending :=
    (hnumbers.and (h.timed.sublist List.filter_sublist)).imp fun {e f} hef =>
      ⟨fun hlt => absurd hlt (Nat.lt_asymm hef.1), fun _ => hef.2⟩
  have hall := hgrants.forall_of_forall fun e _ => ⟨fun _ => Nat.le_refl _, fun _ => Nat.le_refl _⟩
  exact (hall (List.mem_filter.mpr ⟨hi, by simp⟩) (List.mem_filter.mpr ⟨hj, by simp⟩)).1 hij

/-- Nobody was granted a slot of another lane. -/
theorem Orderly.granted_lane (h : s.Orderly timeout) {d : Deed} {k : Lane} {t u : Nat}
    (he : ⟨d, i, l, t⟩ ∈ s.log) (hg : ⟨.granted, i, k, u⟩ ∈ s.log) : k = l :=
  Option.some.inj ((h.laned _ hg).symm.trans (h.laned _ he))

-- ---------------------------------------------------------------------------
-- The discipline
-- ---------------------------------------------------------------------------

/-- What holds of a service at any moment. Requests are numbered as they come, and the log has the
latest first. -/
structure Discipline (limits : Limits) (s : Service) : Prop where
  /-- A request that passes the rate check is ticketed at once just when its lane has a free slot
  and nobody waits there. -/
  at_once : ∀ c route l, s.ledger.classifier.classify route = l →
    (s.gate.limiter.check (.ofMillis s.now) c).1 = .accepted →
    (⟨s.ledger.attempts.length, l, s.now⟩ ∈ (s.step (.arrive c route)).gate.tickets ↔
      0 < (s.lane l).free ∧ (s.lane l).waiting = [])
  /-- No slot is free while somebody waits for one. -/
  never_idle : ∀ l, (s.lane l).waiting ≠ [] → (s.lane l).free = 0
  /-- When nobody has a slot to take up and somebody waits, tickets hold all of them. -/
  full : s.gate.Quiescent → ∀ l, (s.lane l).waiting ≠ [] →
    s.gate.inFlight l = limits.slots l ∧ holding s.ledger.attempts l = limits.slots l
  /-- Slots are granted in the order in which requests came and wait. -/
  granted_in_order : ∀ l, (numbers .granted l s.log).Pairwise (· > ·)
  waiting_in_order : ∀ l, ((s.lane l).waiting.map (·.id)).Pairwise (· < ·)
  no_overtaking : ∀ l, ∀ i ∈ numbers .granted l s.log, ∀ w ∈ (s.lane l).waiting, i < w.id
  /-- A slot that was granted is taken up at the same instant. -/
  seated_when_granted : ∀ i l t, ⟨.seated, i, l, t⟩ ∈ s.log → ⟨.granted, i, l, t⟩ ∈ s.log
  seated_in_order : ∀ i j l t u, ⟨.seated, i, l, t⟩ ∈ s.log → ⟨.seated, j, l, u⟩ ∈ s.log → i < j →
    t ≤ u
  /-- Who was granted a slot is ticketed when it is polled, even as its time is up. -/
  served : ∀ l, ∀ w ∈ (s.lane l).handed, ∀ expired,
    (s.look w.id expired).log = ⟨.seated, w.id, l, s.now⟩ :: s.log
  /-- Who is overloaded has waited just its time and was granted nothing. -/
  overloaded : ∀ i l t, ⟨.overloaded, i, l, t⟩ ∈ s.log →
    (∃ since, s.came[i]? = some since ∧ Punctual since limits.timeout t) ∧
      ∀ k u, ⟨.granted, i, k, u⟩ ∉ s.log
  /-- Nobody waits longer, and whoever still waits when its timer goes off is overloaded. -/
  patient : ∀ l, ∀ w ∈ (s.lane l).waiting, ∀ due, s.IsDue w.id due → s.now ≤ due
  expired : ∀ l, ∀ w ∈ (s.lane l).waiting,
    (s.step (.timer w.id)).log = ⟨.overloaded, w.id, l, s.now⟩ :: s.log

theorem Orderly.discipline {limits : Limits} (h : s.Orderly limits.timeout)
    (hs : s.ledger.Sound limits.slots m) : s.Discipline limits where
  at_once c route l := ticket_arrive hs
  never_idle l := (hs.tracked.lanes l).busy
  full hq l hw := by
    have hfree := (hs.tracked.lanes l).busy hw
    have hhanded : (s.ledger.gate.lane l).handed = [] := hq l
    have hslots := hs.toConserved.slots l
    rw [hhanded, hfree, List.length_nil, Nat.zero_add] at hslots
    exact ⟨(hs.toConserved.inFlight hq l).trans hslots, hslots⟩
  granted_in_order l := (h.lines l).granted_pairwise
  waiting_in_order l := (List.pairwise_append.mp (h.lines l).order).2.1
  no_overtaking l i hi w hw := (h.lines l).granted_lt hw hi
  seated_when_granted := h.seated
  seated_in_order i j l t u hi hj hij :=
    h.granted_time (h.seated i l t hi) (h.seated j l u hj) hij
  served l w hw expired := look_handed hs hw
  overloaded i l t he := by
    obtain ⟨⟨since, hcame, rfl⟩, hgranted, -⟩ := h.overloaded i l t he
    rw [h.timeout_eq]
    refine ⟨⟨since, hcame, punctual_deadline _ _⟩, fun k u hg => hgranted ?_⟩
    obtain rfl := h.granted_lane he hg
    exact mem_numbers.mpr ⟨u, hg⟩
  patient := h.patient
  expired l w hw := timer_waiting hs hw

theorem sound_run {happenings : List Happening} (h : s.ledger.Sound slots m) :
    (s.run happenings).ledger.Sound slots m := by
  induction happenings generalizing s with
  | nil => exact h
  | cons happening happenings ih => exact ih (sound_step h)

theorem Orderly.run {happenings : List Happening} (h : s.Orderly timeout)
    (hs : s.ledger.Sound slots m) (hp : Throughout Allowed s happenings) :
    (s.run happenings).Orderly timeout := by
  induction happenings generalizing s with
  | nil => exact h
  | cons happening happenings ih => exact ih (h.step hs hp.1) (sound_step hs) hp.2

theorem inStep_run {happenings : List Happening} (h : s.Orderly timeout)
    (hs : s.ledger.Sound slots m) (hp : Throughout Allowed s happenings)
    (hturn : Throughout InTurn s happenings) (hi : ∀ l, InStep l s.log (s.lane l)) (l : Lane) :
    InStep l (s.run happenings).log ((s.run happenings).lane l) := by
  induction happenings generalizing s with
  | nil => exact hi l
  | cons happening happenings ih =>
    exact ih (h.step hs hp.1) (sound_step hs) hp.2 hturn.2 (inStep_step h hs hp.1 hturn.1 hi)

/-- Every run by the clock keeps the discipline; where requests are polled in the order in which
they were handed their slots, they take their seats in the order in which they came. -/
theorem disciplined {limits : Limits} {g : Gate} (h : Gate.new limits = .ok g)
    (classifier : Classifier) (m : Meters) {happenings : List Happening}
    (hp : Throughout Allowed (new classifier g m) happenings) :
    let s := (new classifier g m).run happenings
    s.Discipline limits ∧ (Throughout InTurn (new classifier g m) happenings →
      ∀ l, (numbers .seated l s.log).Pairwise (· > ·)) := by
  have hs : (new classifier g m).ledger.Sound limits.slots m := Ledger.Sound.new h
  have ho : (new classifier g m).Orderly limits.timeout := .new h
  refine ⟨(ho.run hs hp).discipline (sound_run hs), fun hturn l => ?_⟩
  have hi : ∀ l, InStep l (new classifier g m).log ((new classifier g m).lane l) := fun l => by
    rw [lane_new h]
    exact List.Pairwise.nil
  have hl := inStep_run ho hs hp hturn hi l
  exact List.pairwise_reverse.mp (List.pairwise_append.mp hl).1

/-- With one slot and a tenth of a second to wait: the first request leaves and its slot goes to
the second, the third goes away, and the fourth waits in vain. -/
theorem disciplined_of_four : ∃ g, Gate.new ⟨1, .ofMillis 100, 0, .ofSeconds 30⟩ = .ok g ∧
    let happenings := [.arrive .unknown "/a", .arrive .unknown "/b", .arrive .unknown "/c",
      .arrive .unknown "/d", .pass 40, .leave 0, .wake 1, .cancel 2, .pass 100, .timer 3]
    let s := (new ⟨[]⟩ g .start).run happenings
    Throughout Allowed (new ⟨[]⟩ g .start) happenings ∧
      Throughout InTurn (new ⟨[]⟩ g .start) happenings ∧
      s.log = [⟨.overloaded, 3, .standard, 100⟩, ⟨.seated, 1, .standard, 40⟩,
        ⟨.granted, 1, .standard, 40⟩, ⟨.admitted, 0, .standard, 0⟩] ∧
      s.Discipline ⟨1, .ofMillis 100, 0, .ofSeconds 30⟩ :=
  ⟨_, rfl, by decide +kernel, by decide +kernel, by decide +kernel,
    (disciplined rfl ⟨[]⟩ .start (by decide +kernel)).1⟩

end Service
end ChainGateway.Admission
