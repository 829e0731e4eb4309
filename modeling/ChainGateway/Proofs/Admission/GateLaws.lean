import ChainGateway.Admission.Gate
import ChainGateway.Proofs.Labels

/-!
# Laws of the gate

Every slot of a lane is free, handed over or held with a ticket, and slots are free only while
nobody waits. Each operation on a queue keeps this when a ticket is issued or given back with
it. An event at the gate comes down to one of these operations on one lane.
-/

namespace ChainGateway.Admission

-- ---------------------------------------------------------------------------
-- One lane
-- ---------------------------------------------------------------------------

namespace LaneQueue

variable {q q' : LaneQueue} {n id t : Nat} {w w' : Nat → Prop} {x : Waiter}

/-- The numbers of the requests in the queue. -/
def ids (q : LaneQueue) : List Nat := (q.waiting ++ q.handed).map (·.id)

/-- A queue of a lane with `n` tickets out, in which just the requests `w` wait. -/
structure Sound (q : LaneQueue) (n : Nat) (w : Nat → Prop) : Prop where
  slots : q.free + q.handed.length + n = q.capacity
  busy : q.waiting ≠ [] → q.free = 0
  nodup : q.ids.Nodup
  queued : ∀ id, id ∈ q.ids ↔ w id

theorem Sound.new {capacity : Nat} (hw : ∀ id, ¬w id) : (new capacity).Sound 0 w where
  slots := rfl
  busy h := absurd rfl h
  nodup := List.nodup_nil
  queued id := iff_of_false List.not_mem_nil (hw id)

theorem Sound.congr (h : q.Sound n w) (hw : ∀ i, w' i ↔ w i) : q.Sound n w' :=
  ⟨h.slots, h.busy, h.nodup, fun i => (h.queued i).trans (hw i).symm⟩

theorem Sound.nodup_handed (h : q.Sound n w) : (q.handed.map (·.id)).Nodup :=
  List.Nodup.sublist ((List.sublist_append_right _ _).map _) h.nodup

theorem of_acquire? (ha : q.acquire? = some q') :
    q.free ≠ 0 ∧ q' = { q with free := q.free - 1 } := by
  unfold acquire? at ha
  split at ha
  · cases ha
  · rename_i hfree
    exact ⟨hfree, (Option.some.inj ha).symm⟩

theorem Sound.acquire (h : q.Sound n w) (ha : q.acquire? = some q') : q'.Sound (n + 1) w := by
  obtain ⟨hfree, rfl⟩ := of_acquire? ha
  refine ⟨?_, fun hne => absurd (h.busy hne) hfree, h.nodup, h.queued⟩
  have := h.slots
  dsimp only
  omega

theorem acquire?_capacity (ha : q.acquire? = some q') : q'.capacity = q.capacity := by
  obtain ⟨-, rfl⟩ := of_acquire? ha
  rfl

theorem free_of_acquire? (ha : q.acquire? = none) : q.free = 0 := by
  unfold acquire? at ha
  split at ha
  · assumption
  · cases ha

theorem Sound.enqueue (h : q.Sound n w) (ha : q.acquire? = none) (hid : ¬w id)
    (hw : ∀ i, w' i ↔ w i ∨ i = id) : (q.enqueue ⟨id, t⟩).Sound n w' := by
  have hperm : (q.enqueue ⟨id, t⟩).ids.Perm (id :: q.ids) := by
    unfold ids LaneQueue.enqueue
    simp only [List.map_append, List.map_cons, List.map_nil, List.append_assoc]
    exact List.perm_middle
  have hfree := free_of_acquire? ha
  refine ⟨h.slots, fun _ => hfree, hperm.nodup_iff.mpr ?_, fun i => ?_⟩
  · exact List.nodup_cons.mpr ⟨fun hm => hid ((h.queued id).mp hm), h.nodup⟩
  · rw [hperm.mem_iff, List.mem_cons, h.queued, hw, or_comm]

theorem handedTo?_some (hx : q.handedTo? id = some x) : x ∈ q.handed ∧ x.id = id :=
  ⟨List.mem_of_find?_eq_some hx, by simpa using List.find?_some hx⟩

/-- The slot goes from the queue to a ticket. -/
theorem Sound.take (h : q.Sound n w) (hx : q.handedTo? id = some x)
    (hw : ∀ i, w' i ↔ w i ∧ i ≠ id) : (q.take id).Sound (n + 1) w' := by
  obtain ⟨hmem, rfl⟩ := handedTo?_some hx
  have hwaiting : ∀ i ∈ q.waiting.map (·.id), i ≠ x.id := by
    intro i hi he
    have hnd := h.nodup
    rw [ids, List.map_append, List.nodup_append] at hnd
    exact hnd.2.2 i hi x.id (List.mem_map_of_mem hmem) he
  refine ⟨?_, h.busy, ?_, fun i => ?_⟩
  · have hlen := Labels.length_without h.nodup_handed hmem
    have := h.slots
    simp only [LaneQueue.take]
    omega
  · refine List.Nodup.sublist (List.Sublist.map _ ?_) h.nodup
    exact (List.Sublist.refl _).append List.filter_sublist
  · have hmap := Labels.mem_map_without (f := Waiter.id) (l := q.handed) (n := x.id) (i := i)
    rw [hw, ← h.queued, ids, ids, List.map_append, List.map_append, List.mem_append,
      List.mem_append, LaneQueue.take, hmap]
    constructor
    · rintro (hi | ⟨hi, hne⟩)
      · exact ⟨.inl hi, hwaiting i hi⟩
      · exact ⟨.inr hi, hne⟩
    · rintro ⟨hi | hi, hne⟩
      · exact .inl hi
      · exact .inr ⟨hi, hne⟩

/-- A request that was handed nothing leaves no slot behind. -/
theorem Sound.leave (h : q.Sound n w) (hx : q.handedTo? id = none)
    (hw : ∀ i, w' i ↔ w i ∧ i ≠ id) : (q.leave id).Sound n w' := by
  have hhanded : ∀ i ∈ q.handed.map (·.id), i ≠ id := by
    intro i hi
    obtain ⟨y, hy, rfl⟩ := List.mem_map.mp hi
    simpa using List.find?_eq_none.mp hx y hy
  refine ⟨h.slots, fun hne => h.busy fun he => hne ?_, ?_, fun i => ?_⟩
  · simp [LaneQueue.leave, he]
  · refine List.Nodup.sublist (List.Sublist.map _ ?_) h.nodup
    exact List.Sublist.append List.filter_sublist (List.Sublist.refl _)
  · have hmap := Labels.mem_map_without (f := Waiter.id) (l := q.waiting) (n := id) (i := i)
    rw [hw, ← h.queued, ids, ids, List.map_append, List.map_append, List.mem_append,
      List.mem_append, LaneQueue.leave, hmap]
    constructor
    · rintro (⟨hi, hne⟩ | hi)
      · exact ⟨.inl hi, hne⟩
      · exact ⟨.inr hi, hhanded i hi⟩
    · rintro ⟨hi | hi, hne⟩
      · exact .inl ⟨hi, hne⟩
      · exact .inr hi

/-- The slot of a ticket comes free or goes to the first that waits. -/
theorem Sound.release (h : q.Sound (n + 1) w) : q.release.2.Sound n w := by
  unfold LaneQueue.release
  have hslots := h.slots
  have hbusy := h.busy
  have hnodup := h.nodup
  have hqueued := h.queued
  unfold ids at hnodup hqueued
  cases hq : q.waiting with
  | nil =>
    rw [hq] at hnodup hqueued
    refine ⟨?_, fun hne => absurd rfl hne, ?_, fun i => ?_⟩
    · dsimp only
      omega
    · exact hnodup
    · exact hqueued i
  | cons y rest =>
    rw [hq] at hbusy hnodup hqueued
    have hperm : (rest ++ (q.handed ++ [y])).Perm (y :: rest ++ q.handed) := by
      rw [← List.append_assoc]
      exact List.perm_append_singleton y (rest ++ q.handed)
    refine ⟨?_, fun _ => hbusy (by simp), ?_, fun i => ?_⟩
    · simp only [List.length_append, List.length_cons, List.length_nil]
      omega
    · exact (hperm.map _).nodup_iff.mpr hnodup
    · rw [← hqueued]
      exact (hperm.map _).mem_iff

theorem release_capacity : q.release.2.capacity = q.capacity := by
  unfold LaneQueue.release
  split <;> rfl

end LaneQueue

-- ---------------------------------------------------------------------------
-- Both lanes and the tickets
-- ---------------------------------------------------------------------------

namespace Gate

variable {g g' : Gate} {l l' : Lane} {q : LaneQueue} {now id since : Nat} {c : Client}
  {slots : Lane → Nat} {w w' h h' : Lane → Nat → Prop}

theorem lane_setLane : (g.setLane l q).lane l' = if l' = l then q else g.lane l' := by
  cases l <;> cases l' <;> rfl

theorem setLane_tickets : (g.setLane l q).tickets = g.tickets := by
  cases l <;> rfl

theorem setLane_tally : (g.setLane l q).tally = g.tally := by
  cases l <;> rfl

theorem setLane_timeout : (g.setLane l q).timeout = g.timeout := by
  cases l <;> rfl

theorem setLane_limiter : (g.setLane l q).limiter = g.limiter := by
  cases l <;> rfl

theorem issue_lane : (g.issue now id since l).2.lane l' = g.lane l' := by
  cases l' <;> rfl

theorem issue_tickets : (g.issue now id since l).2.tickets = g.tickets ++ [⟨id, l, now⟩] := rfl

/-- How many tickets of a lane are out. -/
def held (g : Gate) (l : Lane) : Nat := g.tickets.countP (·.lane = l)

theorem held_new {limits : Limits} (h : new limits = .ok g) : g.held l = 0 := by
  unfold new at h
  split at h <;> cases h
  rfl

theorem tally_new {limits : Limits} (h : new limits = .ok g) : g.tally = ⟨0, 0, 0⟩ := by
  unfold new at h
  split at h <;> cases h
  rfl

theorem held_setLane : (g.setLane l q).held l' = g.held l' := by
  rw [held, setLane_tickets, held]

theorem held_issue :
    (g.issue now id since l).2.held l' = g.held l' + if l = l' then 1 else 0 := by
  rw [held, issue_tickets]
  simp [held, List.countP_append, List.countP_cons]

theorem held_without {t : Ticket} (hn : (g.tickets.map (·.id)).Nodup) (ht : t ∈ g.tickets) :
    ({ g with tickets := g.tickets.filter (·.id ≠ t.id) } : Gate).held l +
      (if t.lane = l then 1 else 0) = g.held l := by
  have := Labels.countP_without (p := fun t : Ticket => decide (t.lane = l)) hn ht
  simpa [held] using this

/-- The requests `w` wait at the gate and the requests `h` hold tickets of it, lane by lane,
and no slot is anywhere else. -/
structure Balanced (slots : Lane → Nat) (w h : Lane → Nat → Prop) (g : Gate) : Prop where
  capacity : ∀ l, (g.lane l).capacity = slots l
  lanes : ∀ l, (g.lane l).Sound (g.held l) (w l)
  nodup : (g.tickets.map (·.id)).Nodup
  tickets : ∀ l id, (∃ t ∈ g.tickets, t.id = id ∧ t.lane = l) ↔ h l id

namespace Balanced

/-- Only lanes and tickets matter. -/
theorem congr (hb : g.Balanced slots w h) (hl : ∀ l, g'.lane l = g.lane l)
    (ht : g'.tickets = g.tickets) (hw : ∀ l i, w' l i ↔ w l i) (hh : ∀ l i, h' l i ↔ h l i) :
    g'.Balanced slots w' h' where
  capacity l := by rw [hl, hb.capacity]
  lanes l := by
    rw [hl, held, ht]
    exact (hb.lanes l).congr (hw l)
  nodup := by rw [ht]; exact hb.nodup
  tickets l id := by rw [ht, hb.tickets, hh]

theorem mem_ids (hb : g.Balanced slots w h) : id ∈ g.tickets.map (·.id) ↔ ∃ l, h l id := by
  constructor
  · intro hm
    obtain ⟨t, ht, rfl⟩ := List.mem_map.mp hm
    exact ⟨t.lane, (hb.tickets _ _).mp ⟨t, ht, rfl, rfl⟩⟩
  · rintro ⟨l, hl⟩
    obtain ⟨t, ht, rfl, -⟩ := (hb.tickets l id).mpr hl
    exact List.mem_map_of_mem ht

/-- A change in the queue of one lane. -/
theorem setLane (hb : g.Balanced slots w h) (hc : q.capacity = slots l)
    (hq : q.Sound (g.held l) (w' l)) (hw : ∀ l', l' ≠ l → ∀ i, w' l' i ↔ w l' i)
    (hh : ∀ l i, h' l i ↔ h l i) : (g.setLane l q).Balanced slots w' h' where
  capacity l' := by
    rw [lane_setLane]
    split
    · rename_i he
      rw [hc, he]
    · exact hb.capacity l'
  lanes l' := by
    rw [lane_setLane, held, setLane_tickets]
    split
    · rename_i he
      rw [he]
      exact hq
    · rename_i hne
      exact (hb.lanes l').congr (hw l' hne)
  nodup := by rw [setLane_tickets]; exact hb.nodup
  tickets l' id := by rw [setLane_tickets, hb.tickets, hh]

/-- A ticket is issued for a slot that left the queue. -/
theorem issue (hb : g.Balanced slots w h) (hc : q.capacity = slots l)
    (hq : q.Sound (g.held l + 1) (w' l)) (hw : ∀ l', l' ≠ l → ∀ i, w' l' i ↔ w l' i)
    (hid : ∀ l, ¬h l id) (hh : ∀ l' i, h' l' i ↔ h l' i ∨ (i = id ∧ l' = l)) :
    ((g.setLane l q).issue now id since l).2.Balanced slots w' h' := by
  have htickets : ((g.setLane l q).issue now id since l).2.tickets =
      g.tickets ++ [⟨id, l, now⟩] := by rw [issue_tickets, setLane_tickets]
  refine ⟨fun l' => ?_, fun l' => ?_, ?_, fun l' i => ?_⟩
  · rw [issue_lane, lane_setLane]
    split
    · rename_i he
      rw [hc, he]
    · exact hb.capacity l'
  · rw [issue_lane, lane_setLane, held_issue, held_setLane]
    split
    · rename_i he
      rw [if_pos he.symm, he]
      exact hq
    · rename_i hne
      rw [if_neg (Ne.symm hne)]
      exact (hb.lanes l').congr (hw l' hne)
  · rw [htickets, List.map_append, List.nodup_append]
    refine ⟨hb.nodup, List.nodup_cons.mpr ⟨List.not_mem_nil, List.nodup_nil⟩, ?_⟩
    intro i hi j hj he
    obtain ⟨l', hl'⟩ := hb.mem_ids.mp hi
    have hj : j = id := by simpa using hj
    exact hid l' (hj ▸ he ▸ hl')
  · rw [htickets, hh, ← hb.tickets]
    constructor
    · rintro ⟨t, ht, hid', hl'⟩
      rcases List.mem_append.mp ht with ht | ht
      · exact .inl ⟨t, ht, hid', hl'⟩
      · rw [List.mem_singleton.mp ht] at hid' hl'
        exact .inr ⟨hid'.symm, hl'.symm⟩
    · rintro (⟨t, ht, hid', hl'⟩ | ⟨rfl, rfl⟩)
      · exact ⟨t, List.mem_append_left _ ht, hid', hl'⟩
      · exact ⟨_, List.mem_append_right _ List.mem_cons_self, rfl, rfl⟩

/-- A ticket is given back, and its slot with it. -/
theorem giveBack {t : Ticket} (hb : g.Balanced slots w h) (ht : t ∈ g.tickets)
    (hw : ∀ l i, w' l i ↔ w l i) (hh : ∀ l i, h' l i ↔ h l i ∧ i ≠ t.id) :
    ({ g with tickets := g.tickets.filter (·.id ≠ t.id) }.setLane t.lane
      (g.lane t.lane).release.2).Balanced slots w' h' := by
  have hlane : ∀ l, ({ g with tickets := g.tickets.filter (·.id ≠ t.id) } : Gate).lane l =
      g.lane l := by
    intro l
    cases l <;> rfl
  refine ⟨fun l => ?_, fun l => ?_, ?_, fun l i => ?_⟩
  · rw [lane_setLane]
    split
    · rename_i he
      rw [LaneQueue.release_capacity, hb.capacity, he]
    · rw [hlane, hb.capacity]
  · rw [lane_setLane, held, setLane_tickets]
    have hcount := held_without (l := l) hb.nodup ht
    split
    · rename_i he
      subst he
      rw [if_pos rfl] at hcount
      have hsound := (hb.lanes t.lane).congr (hw t.lane)
      rw [← hcount] at hsound
      exact hsound.release
    · rename_i hne
      rw [if_neg (Ne.symm hne), Nat.add_zero] at hcount
      rw [hlane]
      have hsound := (hb.lanes l).congr (hw l)
      rw [← hcount] at hsound
      exact hsound
  · rw [setLane_tickets]
    exact List.Nodup.sublist (List.filter_sublist.map _) hb.nodup
  · rw [setLane_tickets, hh, ← hb.tickets]
    constructor
    · rintro ⟨u, hu, rfl, rfl⟩
      rw [List.mem_filter, decide_eq_true_eq] at hu
      exact ⟨⟨u, hu.1, rfl, rfl⟩, hu.2⟩
    · rintro ⟨⟨u, hu, rfl, rfl⟩, hne⟩
      exact ⟨u, List.mem_filter.mpr ⟨hu, by simpa using hne⟩, rfl, rfl⟩

end Balanced

-- ---------------------------------------------------------------------------
-- What an event can do
-- ---------------------------------------------------------------------------

theorem enter_cases (g : Gate) (now id : Nat) (c : Client) (l : Lane) : ∃ limiter,
    (∃ d, g.step now (.enter id c l) = (.rejected (.rateLimited d), none,
      { g with
        limiter := limiter
        tally := { g.tally with rateLimited := g.tally.rateLimited + 1 } })) ∨
    (∃ f, g.step now (.enter id c l) = (.failed f, none, { g with limiter := limiter })) ∨
    (∃ q, (g.lane l).acquire? = some q ∧ ∃ n, g.step now (.enter id c l) =
      (.admitted l n, none, ({ g with limiter := limiter }.setLane l q).issue now id now l |>.2)) ∨
    ((g.lane l).acquire? = none ∧ g.step now (.enter id c l) = (.rejected (.overloaded l), none,
      { g with
        limiter := limiter
        tally := { g.tally with overloaded := g.tally.overloaded + 1 } })) ∨
    ((g.lane l).acquire? = none ∧ g.step now (.enter id c l) = (.waiting, none,
      { g with limiter := limiter }.setLane l ((g.lane l).enqueue ⟨id, now⟩))) := by
  have hlane : ∀ limiter, ({ g with limiter := limiter } : Gate).lane l = g.lane l := by
    intro limiter
    cases l <;> rfl
  rcases hcheck : g.limiter.check (.ofMillis now) c with ⟨verdict, limiter⟩
  refine ⟨limiter, ?_⟩
  cases verdict with
  | retryAfter d => exact .inl ⟨d, by simp only [step, enter, hcheck]⟩
  | failed f => exact .inr (.inl ⟨f, by simp only [step, enter, hcheck]⟩)
  | accepted =>
    simp only [step, enter, hcheck, queue, hlane]
    cases hq : (g.lane l).acquire? with
    | some q => exact .inr (.inr (.inl ⟨q, rfl, _, rfl⟩))
    | none =>
      dsimp only
      split
      · exact .inr (.inr (.inr (.inl ⟨rfl, rfl⟩)))
      · exact .inr (.inr (.inr (.inr ⟨rfl, rfl⟩)))

theorem look_cases (g : Gate) (now id : Nat) (l : Lane) (expired : Bool) :
    (∃ x, (g.lane l).handedTo? id = some x ∧ ∃ n, g.step now (.look id l expired) =
      (.admitted l n, none, ((g.setLane l ((g.lane l).take id)).issue now id x.since l).2)) ∨
    ((g.lane l).handedTo? id = none ∧ (g.lane l).waits id = true ∧
      g.step now (.look id l expired) = (.rejected (.overloaded l), none,
        ((g.setLane l ((g.lane l).leave id)).overload l).2)) ∨
    ((g.lane l).handedTo? id = none ∧ (g.lane l).waits id = true ∧
      g.step now (.look id l expired) = (.waiting, none, g)) ∨
    ((g.lane l).handedTo? id = none ∧ (g.lane l).waits id = false ∧
      g.step now (.look id l expired) = (.nothing, none, g)) := by
  cases hx : (g.lane l).handedTo? id with
  | some x => exact .inl ⟨x, rfl, now - x.since, by simp only [step, look, hx, issue]⟩
  | none =>
    cases hw : (g.lane l).waits id with
    | false => exact .inr (.inr (.inr ⟨rfl, rfl, by simp [step, look, hx, hw]⟩))
    | true =>
      cases expired with
      | true => exact .inr (.inl ⟨rfl, rfl, by simp [step, look, hx, hw, overload]⟩)
      | false => exact .inr (.inr (.inl ⟨rfl, rfl, by simp [step, look, hx, hw]⟩))

theorem leave_cases (g : Gate) (now id : Nat) :
    ((∀ t ∈ g.tickets, t.id ≠ id) ∧ g.step now (.leave id) = (.nothing, none, g)) ∨
    (∃ t ∈ g.tickets, t.id = id ∧ ∃ woken, g.step now (.leave id) = (.left t.lane, woken,
      { g with tickets := g.tickets.filter (·.id ≠ t.id) }.setLane t.lane
        (g.lane t.lane).release.2)) := by
  cases ht : g.tickets.find? (·.id = id) with
  | none =>
    refine .inl ⟨fun t hm => ?_, by simp only [step, ht]⟩
    simpa using List.find?_eq_none.mp ht t hm
  | some t =>
    obtain rfl : t.id = id := by simpa using List.find?_some ht
    refine .inr ⟨t, List.mem_of_find?_eq_some ht, rfl, (g.lane t.lane).release.1.map Waiter.id, ?_⟩
    simp only [step, ht, release]
    cases t.lane <;> rfl

theorem cancel_cases (g : Gate) (now id : Nat) (l : Lane) :
    (∃ x, (g.lane l).handedTo? id = some x ∧ ∃ woken, g.step now (.cancel id l) =
      (.nothing, woken, g.setLane l ((g.lane l).take id).release.2)) ∨
    ((g.lane l).handedTo? id = none ∧ g.step now (.cancel id l) =
      (.nothing, none, g.setLane l ((g.lane l).leave id))) := by
  cases hx : (g.lane l).handedTo? id with
  | some x =>
    refine .inl ⟨x, rfl, ((g.lane l).take id).release.1.map Waiter.id, ?_⟩
    simp only [step, hx, release]
    cases l <;> rfl
  | none => exact .inr ⟨rfl, by simp only [step, hx]⟩

theorem cancel_answer (now : Nat) : (g.step now (.cancel id l)).1 = .nothing := by
  obtain ⟨x, -, woken, hs⟩ | ⟨-, hs⟩ := g.cancel_cases now id l <;> rw [hs]

end Gate
end ChainGateway.Admission
