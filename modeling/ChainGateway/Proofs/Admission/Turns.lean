import ChainGateway.Proofs.Admission.Service
import ChainGateway.Proofs.Time.Waits

/-!
# The order of a lane

Requests wait in the order of their numbers, and slots that come free are handed over in that
order. An event of a request takes one of a few turns at the queue of its lane; each keeps the
order, and each leaves in the log what it did.
-/

namespace ChainGateway.Admission

open Metrics (Meters)

-- ---------------------------------------------------------------------------
-- One line
-- ---------------------------------------------------------------------------

/-- The slots of a lane were granted in the order of the numbers, which those who wait carry on,
and the slots that are not taken up yet were granted just now. -/
structure InLine (l : Lane) (now : Nat) (log : List Entry) (q : LaneQueue) : Prop where
  order : ((numbers .granted l log).reverse ++ q.waiting.map (·.id)).Pairwise (· < ·)
  handed : ∀ w ∈ q.handed, ⟨.granted, w.id, l, now⟩ ∈ log

/-- A higher number may join at the end. -/
theorem pairwise_line_snoc {d : Deed} {l : Lane} {log : List Entry} {ids : List Nat} {id : Nat}
    (h : ((numbers d l log).reverse ++ ids).Pairwise (· < ·)) (hlog : ∀ e ∈ log, e.id < id)
    (hids : ∀ i ∈ ids, i < id) :
    ((numbers d l log).reverse ++ (ids ++ [id])).Pairwise (· < ·) := by
  rw [← List.append_assoc, List.pairwise_append]
  refine ⟨h, List.pairwise_singleton _ _, fun i hi j hj => ?_⟩
  rw [List.mem_singleton.mp hj]
  rcases List.mem_append.mp hi with hi | hi
  · obtain ⟨t, he⟩ := mem_numbers.mp (List.mem_reverse.mp hi)
    exact hlog _ he
  · exact hids i hi

/-- A slot given back to the queue `q` is granted to the first that waits. -/
def grant (l : Lane) (now : Nat) (q : LaneQueue) : List Entry :=
  ((q.release.1.map Waiter.id).map (⟨.granted, ·, l, now⟩)).toList

namespace InLine

variable {l : Lane} {now id t : Nat} {log : List Entry} {q q' : LaneQueue} {e : Entry} {w : Waiter}

theorem new {capacity : Nat} : InLine l now [] (.new capacity) :=
  ⟨List.Pairwise.nil, by simp [LaneQueue.new]⟩

/-- An entry that grants nothing in this lane. -/
theorem note (h : InLine l now log q) (he : e.deed ≠ .granted ∨ e.lane ≠ l) :
    InLine l now (e :: log) q where
  order := by
    rw [numbers_cons, if_neg fun hc => he.elim (absurd hc.1) (absurd hc.2)]
    exact h.order
  handed w hw := List.mem_cons_of_mem _ (h.handed w hw)

theorem notes {es : List Entry} (h : InLine l now log q) (he : ∀ e ∈ es, e.lane ≠ l) :
    InLine l now (es ++ log) q := by
  induction es with
  | nil => exact h
  | cons e es ih =>
    rw [List.forall_mem_cons] at he
    exact (ih he.2).note (.inr he.1)

/-- Requests may leave. -/
theorem shrink (h : InLine l now log q) (hw : q'.waiting.Sublist q.waiting)
    (hh : q'.handed ⊆ q.handed) : InLine l now log q' where
  order := h.order.sublist ((List.Sublist.refl _).append (hw.map _))
  handed w hm := h.handed w (hh hm)

theorem take (h : InLine l now log q) : InLine l now log (q.take id) :=
  h.shrink (List.Sublist.refl _) List.filter_sublist.subset

theorem leave (h : InLine l now log q) : InLine l now log (q.leave id) :=
  h.shrink List.filter_sublist (List.Subset.refl _)

theorem enqueue (h : InLine l now log q) (hlog : ∀ e ∈ log, e.id < id)
    (hw : ∀ w ∈ q.waiting, w.id < id) : InLine l now log (q.enqueue ⟨id, t⟩) where
  order := by
    rw [LaneQueue.enqueue, List.map_append]
    exact pairwise_line_snoc h.order hlog (List.forall_mem_map.mpr hw)
  handed := h.handed

theorem release (h : InLine l now log q) : InLine l now (grant l now q ++ log) q.release.2 := by
  unfold grant LaneQueue.release
  have horder := h.order
  cases hq : q.waiting with
  | nil =>
    rw [hq] at horder
    exact ⟨by simpa [hq] using horder, h.handed⟩
  | cons w rest =>
    rw [hq] at horder
    refine ⟨by simpa using horder, fun x hx => ?_⟩
    rcases List.mem_append.mp hx with hx | hx
    · exact List.mem_cons_of_mem _ (h.handed x hx)
    · rw [List.mem_singleton.mp hx]
      exact List.mem_cons_self

/-- Who waits has been granted nothing, and has a higher number than all who have. -/
theorem granted_lt (h : InLine l now log q) (hw : w ∈ q.waiting)
    (hi : id ∈ numbers .granted l log) : id < w.id :=
  (List.pairwise_append.mp h.order).2.2 id (List.mem_reverse.mpr hi) w.id (List.mem_map_of_mem hw)

theorem granted_pairwise (h : InLine l now log q) :
    (numbers .granted l log).Pairwise (· > ·) :=
  List.pairwise_reverse.mp (List.pairwise_append.mp h.order).1

end InLine

-- ---------------------------------------------------------------------------
-- Turns
-- ---------------------------------------------------------------------------

namespace Service

variable {s s' : Service} {polled : Prop} {id : Nat} {l : Lane} {es : List Entry} {x : Attempt}

/-- The number is above all that were seen. -/
def Fresh (s : Service) (id : Nat) : Prop :=
  (∀ e ∈ s.log, e.id < id) ∧ ∀ l, ∀ w ∈ (s.lane l).waiting, w.id < id

/-- What an event of request `id` makes of the queue of its lane, and what is entered in the
log. Only a request that is `polled` takes a slot up. -/
inductive Turn (s : Service) (polled : Prop) (id : Nat) (l : Lane) :
    LaneQueue → List Entry → Prop
  | stay : Turn s polled id l (s.lane l) []
  | enter {q} (hq : (s.lane l).acquire? = some q) : Turn s polled id l q [⟨.admitted, id, l, s.now⟩]
  | enqueue (hnew : s.Fresh id) (hcame : s.came[id]? = some s.now) :
    Turn s polled id l ((s.lane l).enqueue ⟨id, s.now⟩) []
  | refuse (hnew : s.Fresh id) (hdue : s.IsDue id s.now) :
    Turn s polled id l (s.lane l) [⟨.overloaded, id, l, s.now⟩]
  | seat {w} (hpolled : polled) (hw : (s.lane l).handedTo? id = some w) :
    Turn s polled id l ((s.lane l).take id) [⟨.seated, id, l, s.now⟩]
  | expire (hw : (s.lane l).waits id = true) (hdue : s.IsDue id s.now) :
    Turn s polled id l ((s.lane l).leave id) [⟨.overloaded, id, l, s.now⟩]
  | quit : Turn s polled id l ((s.lane l).leave id) []
  | free : Turn s polled id l (s.lane l).release.2 (grant l s.now (s.lane l))
  | passOn : Turn s polled id l ((s.lane l).take id).release.2 (grant l s.now ((s.lane l).take id))

def lanes (s : Service) : List Lane := s.ledger.attempts.map (·.lane)

theorem lanes_of_attempt (hx : s.ledger.attempts[id]? = some x) : s.lanes[id]? = some x.lane := by
  simp [lanes, hx]

theorem lt_of_lanes (h : s.lanes[id]? = some l) : id < s.ledger.attempts.length := by
  simpa [lanes] using (List.getElem?_eq_some_iff.mp h).1

/-- Beside the log, a turn at the lane `l` changes that lane. -/
structure Follows (s : Service) (l : Lane) (es : List Entry) (s' : Service) : Prop where
  now : s'.now = s.now
  came : s'.came = s.came
  log : s'.log = es ++ s.log
  timeout : s'.gate.timeout = s.gate.timeout
  lanes : s'.lanes = s.lanes
  others : ∀ l', l' ≠ l → s'.lane l' = s.lane l'

theorem meet_lanes {e : Event} (hx : s.ledger.attempts[id]? = some x) {st : Standing} :
    (s.meet id ⟨x.lane, st⟩ e).lanes = s.lanes := by
  obtain ⟨hi, rfl⟩ := List.getElem?_eq_some_iff.mp hx
  have hlt : id < (s.ledger.attempts.map (·.lane)).length := by simpa using hi
  have hset := List.set_getElem_self hlt
  rw [List.getElem_map] at hset
  simpa only [Service.lanes, meet, Ledger.meet, List.map_set] using hset

/-- Request `id` of the lane `l` takes its turn. -/
def Turns (s : Service) (polled : Prop) (id : Nat) (l : Lane) (s' : Service) : Prop :=
  s.lanes[id]? = some l ∧ ∃ es, s.Follows l es s' ∧ s.Turn polled id l (s'.lane l) es

/-- What a request is told makes a turn when the gate has changed accordingly. -/
theorem Turns.meet {e : Event} {st : Standing} {a : Answer} {woken : Option Nat} {g : Gate}
    (hx : s.ledger.attempts[id]? = some x) (hs : s.gate.step s.now e = (a, woken, g))
    (ht : g.timeout = s.gate.timeout) (ho : ∀ l', l' ≠ x.lane → g.lane l' = s.lane l')
    (hturn : s.Turn polled id x.lane (g.lane x.lane) (entries s.now id x.lane (deed? e a) woken)) :
    s.Turns polled id x.lane (s.meet id ⟨x.lane, st⟩ e) := by
  have hgate : (s.meet id ⟨x.lane, st⟩ e).gate = g := congrArg (·.2.2) hs
  refine ⟨lanes_of_attempt hx, entries s.now id x.lane (deed? e a) woken,
    ⟨rfl, rfl, ?_, ?_, meet_lanes hx, fun l' hl => ?_⟩, ?_⟩
  · simp [Service.meet, hs]
  · rw [hgate, ht]
  · rw [lane, hgate, ho l' hl]
  · rw [lane, hgate]
    exact hturn

section
variable {g g' : Gate} {q : LaneQueue} {l' : Lane} {now : Nat} {a : Answer} {woken : Option Nat}

theorem lane_setLane_of_ne (h : l' ≠ l) : (g.setLane l q).lane l' = g.lane l' := by
  rw [Gate.lane_setLane, if_neg h]

theorem lane_setLane_self : (g.setLane l q).lane l = q := by
  rw [Gate.lane_setLane, if_pos rfl]

theorem overload_lane : (g.overload l).2.lane l' = g.lane l' := by
  cases l' <;> rfl

/-- Only who has run out of time is turned away for it. -/
theorem expired_of_rejected {expired : Bool} {r : Rejection}
    (h : (g.step now (.look id l expired)).1 = .rejected r) : expired = true := by
  cases expired with
  | true => rfl
  | false =>
    simp only [Gate.step, Gate.look, Gate.issue] at h
    split at h
    · cases h
    · split at h <;> cases h

/-- A request that comes is turned away at once only when it has no time to wait. -/
theorem patience_of_refused {c : Client} (h : (g.step now (.enter id c l)).1 =
    .rejected (.overloaded l')) : g.patience now = 0 := by
  simp only [Gate.step, Gate.enter] at h
  split at h
  · simp only [Gate.queue, Gate.issue] at h
    split at h
    · cases h
    · split at h
      · assumption
      · cases h
  · cases h
  · cases h

theorem woken_leave (h : g.step now (.leave id) = (.left l, woken, g')) :
    woken = (g.lane l).release.1.map Waiter.id := by
  simp only [Gate.step] at h
  split at h
  · cases h
  · simp only [Prod.mk.injEq, Answer.left.injEq] at h
    obtain ⟨rfl, rfl, -⟩ := h
    rename_i t _
    cases t.lane <;> rfl

theorem woken_cancel {w : Waiter} (hw : (g.lane l).handedTo? id = some w)
    (h : g.step now (.cancel id l) = (a, woken, g')) :
    woken = ((g.lane l).take id).release.1.map Waiter.id := by
  simp only [Gate.step, hw, Prod.mk.injEq] at h
  obtain ⟨-, rfl, -⟩ := h
  cases l <;> rfl

end

/-- A request that waits is polled. -/
theorem look_turns {expired : Bool} (hx : s.ledger.attempts[id]? = some x)
    (hdue : expired = true → s.IsDue id s.now) :
    s.Turns True id x.lane (s.meet id x (.look id x.lane expired)) := by
  obtain ⟨w, hw, n, hs⟩ | ⟨-, hw, hs⟩ | ⟨-, -, hs⟩ | ⟨-, -, hs⟩ :=
    s.gate.look_cases s.now id x.lane expired
  · refine .meet hx hs Gate.setLane_timeout (fun l' hl => ?_) ?_
    · rw [Gate.issue_lane, lane_setLane_of_ne hl, lane]
    · rw [Gate.issue_lane, lane_setLane_self]
      exact .seat trivial hw
  · refine .meet hx hs Gate.setLane_timeout (fun l' hl => ?_) ?_
    · rw [overload_lane, lane_setLane_of_ne hl, lane]
    · rw [overload_lane, lane_setLane_self]
      exact .expire hw (hdue (expired_of_rejected (congrArg (·.1) hs)))
  · exact .meet hx hs rfl (fun _ _ => rfl) .stay
  · exact .meet hx hs rfl (fun _ _ => rfl) .stay

/-- A ticket is given back by the request that holds it. -/
theorem leave_turns {slots : Lane → Nat} {m : Meters} (h : s.ledger.Sound slots m)
    (hx : s.ledger.attempts[id]? = some x) : s.Turns False id x.lane (s.meet id x (.leave id)) := by
  obtain ⟨-, hs⟩ | ⟨t, ht, rfl, woken, hs⟩ := s.gate.leave_cases s.now id
  · exact .meet hx hs rfl (fun _ _ => rfl) .stay
  · have hbook : s.ledger.book t.id = some ⟨x.lane, x.standing⟩ := hx
    obtain ⟨hl, -⟩ := (stands_self hbook).mp ((h.tracked.tickets _ _).mp ⟨t, ht, rfl, rfl⟩)
    have hwoken := woken_leave hs
    rw [hl] at hs hwoken
    refine .meet hx hs Gate.setLane_timeout (fun l' hne => ?_) ?_
    · rw [lane_setLane_of_ne hne]
      cases l' <;> rfl
    · rw [lane_setLane_self, hwoken]
      exact .free

/-- A request goes away while it waits. -/
theorem cancel_turns (hx : s.ledger.attempts[id]? = some ⟨l, .waiting⟩) :
    s.Turns False id l (s.meet id ⟨l, .cancelled⟩ (.cancel id l)) := by
  obtain ⟨w, hw, woken, hs⟩ | ⟨-, hs⟩ := s.gate.cancel_cases s.now id l
  · have hwoken := woken_cancel hw hs
    refine .meet hx hs Gate.setLane_timeout (fun l' hne => lane_setLane_of_ne hne) ?_
    rw [lane_setLane_self, hwoken]
    exact .passOn
  · refine .meet hx hs Gate.setLane_timeout (fun l' hne => lane_setLane_of_ne hne) ?_
    rw [lane_setLane_self]
    exact .quit

theorem look_stays_or_turns {expired : Bool} (hdue : expired = true → s.IsDue id s.now) :
    s.look id expired = s ∨ ∃ l, s.Turns True id l (s.look id expired) := by
  unfold look
  split
  · rename_i x hx
    exact .inr ⟨x.lane, look_turns hx hdue⟩
  · exact .inl rfl

theorem leave_stays_or_turns {slots : Lane → Nat} {m : Meters} (h : s.ledger.Sound slots m) :
    s.leave id = s ∨ ∃ l, s.Turns False id l (s.leave id) := by
  unfold leave
  split
  · rename_i x hx
    exact .inr ⟨x.lane, leave_turns h hx⟩
  · exact .inl rfl

theorem cancel_stays_or_turns {slots : Lane → Nat} {m : Meters} (h : s.ledger.Sound slots m) :
    s.cancel id = s ∨ ∃ l, s.Turns False id l (s.cancel id) := by
  unfold cancel
  split
  · rename_i l hx
    exact .inr ⟨l, cancel_turns hx⟩
  · exact leave_stays_or_turns h

/-- A request comes, and is the newest of all. -/
theorem enter_turns {c : Client} (hx : s.ledger.attempts[id]? = some x) (hnew : s.Fresh id)
    (hcame : s.came[id]? = some s.now) :
    s.Turns False id x.lane (s.meet id x (.enter id c x.lane)) := by
  have hlane : ∀ limiter tally l', ({ s.gate with limiter := limiter, tally := tally } : Gate).lane l' =
      s.lane l' := by
    intro limiter tally l'
    cases l' <;> rfl
  obtain ⟨limiter, ⟨d, hs⟩ | ⟨f, hs⟩ | ⟨q, hq, n, hs⟩ | ⟨hq, hs⟩ | ⟨hq, hs⟩⟩ :=
    s.gate.enter_cases s.now id c x.lane
  · refine .meet hx hs rfl (fun l' _ => hlane _ _ l') ?_
    rw [hlane]
    exact .stay
  · refine .meet hx hs rfl (fun l' _ => hlane _ _ l') ?_
    rw [hlane limiter s.gate.tally]
    exact .stay
  · refine .meet hx hs Gate.setLane_timeout (fun l' hne => ?_) ?_
    · rw [Gate.issue_lane, lane_setLane_of_ne hne]
      exact hlane limiter s.gate.tally l'
    · rw [Gate.issue_lane, lane_setLane_self]
      exact .enter hq
  · refine .meet hx hs rfl (fun l' _ => hlane _ _ l') ?_
    rw [hlane]
    refine .refuse hnew ⟨s.now, hcame, ?_⟩
    have hpatience : s.gate.patience s.now = 0 := patience_of_refused (congrArg (·.1) hs)
    have hle : s.now ≤ Instant.deadline s.now s.gate.timeout := Instant.le_deadline
    unfold Gate.patience at hpatience
    omega
  · refine .meet hx hs Gate.setLane_timeout (fun l' hne => ?_) ?_
    · rw [lane_setLane_of_ne hne]
      exact hlane limiter s.gate.tally l'
    · rw [lane_setLane_self]
      exact .enqueue hnew hcame

-- ---------------------------------------------------------------------------
-- What a turn keeps
-- ---------------------------------------------------------------------------

theorem grant_granted {l : Lane} {now : Nat} {q : LaneQueue} {e : Entry}
    (h : e ∈ grant l now q) : ∃ w ∈ q.waiting, e = ⟨.granted, w.id, l, now⟩ := by
  unfold grant LaneQueue.release at h
  cases hq : q.waiting with
  | nil => simp [hq] at h
  | cons w rest =>
    simp only [hq, Option.map_some, Option.toList_some, List.mem_singleton] at h
    exact ⟨w, List.mem_cons_self, h⟩

theorem release_waiting {q : LaneQueue} : q.release.2.waiting.Sublist q.waiting := by
  unfold LaneQueue.release
  cases hq : q.waiting with
  | nil => simp
  | cons w rest => exact List.sublist_cons_self w rest

namespace Turn

variable {q : LaneQueue}

/-- Entries are made now and for the lane, about the request itself or one that waits. -/
theorem entry (h : s.Turn polled id l q es) {e : Entry} (he : e ∈ es) : e.time = s.now ∧ e.lane = l ∧
    (e.id = id ∨ ∃ w ∈ (s.lane l).waiting, e.id = w.id) := by
  cases h with
  | stay | enqueue | quit => cases he
  | enter | refuse | seat | expire =>
    rw [List.mem_singleton.mp he]
    exact ⟨rfl, rfl, .inl rfl⟩
  | free | passOn =>
    obtain ⟨w, hw, rfl⟩ := grant_granted he
    exact ⟨rfl, rfl, .inr ⟨w, hw, rfl⟩⟩

theorem granted (h : s.Turn polled id l q es) {i t : Nat} (he : ⟨.granted, i, l, t⟩ ∈ es) :
    i ∈ (s.lane l).waiting.map (·.id) := by
  cases h with
  | stay | enqueue | quit => cases he
  | enter | refuse | seat | expire => cases List.mem_singleton.mp he
  | free | passOn =>
    obtain ⟨w, hw, he⟩ := grant_granted he
    cases he
    exact List.mem_map_of_mem hw

/-- Only a new request joins those who wait. -/
theorem waiting (h : s.Turn polled id l q es) {w : Waiter} (hw : w ∈ q.waiting) :
    w ∈ (s.lane l).waiting ∨ (w.id = id ∧ s.Fresh id ∧ s.came[id]? = some s.now) := by
  cases h with
  | stay | refuse | seat => exact .inl hw
  | enter hq =>
    obtain ⟨-, rfl⟩ := LaneQueue.of_acquire? hq
    exact .inl hw
  | enqueue hnew hcame =>
    rcases List.mem_append.mp hw with hw | hw
    · exact .inl hw
    · rw [List.mem_singleton.mp hw]
      exact .inr ⟨rfl, hnew, hcame⟩
  | expire | quit => exact .inl (List.filter_sublist.subset hw)
  | free => exact .inl (release_waiting.subset hw)
  | passOn => exact .inl (release_waiting.subset hw : w ∈ ((s.lane l).take id).waiting)

theorem inLine (h : s.Turn polled id l q es) (hl : InLine l s.now s.log (s.lane l)) :
    InLine l s.now (es ++ s.log) q := by
  cases h with
  | stay => exact hl
  | enter hq =>
    obtain ⟨-, rfl⟩ := LaneQueue.of_acquire? hq
    have hline : InLine l s.now s.log { s.lane l with free := (s.lane l).free - 1 } :=
      ⟨hl.order, hl.handed⟩
    exact hline.note (.inl (by simp))
  | enqueue hnew hcame => exact hl.enqueue hnew.1 (hnew.2 l)
  | refuse => exact hl.note (.inl (by simp))
  | seat => exact hl.take.note (.inl (by simp))
  | expire => exact hl.leave.note (.inl (by simp))
  | quit => exact hl.leave
  | free => exact hl.release
  | passOn => exact hl.take.release

/-- A request has its seat when its slot was granted. -/
theorem seated (h : s.Turn polled id l q es) (hl : InLine l s.now s.log (s.lane l)) {i t : Nat}
    (he : ⟨.seated, i, l, t⟩ ∈ es) : ⟨.granted, i, l, t⟩ ∈ s.log := by
  cases h with
  | stay | enqueue | quit => cases he
  | enter | refuse | expire => cases List.mem_singleton.mp he
  | seat _ hw =>
    cases List.mem_singleton.mp he
    obtain ⟨hm, rfl⟩ := LaneQueue.handedTo?_some hw
    exact hl.handed _ hm
  | free | passOn =>
    obtain ⟨w, hw, he⟩ := grant_granted he
    cases he

/-- Who is turned away has waited its time, was granted nothing and waits no longer. -/
theorem overloaded (h : s.Turn polled id l q es) (hl : InLine l s.now s.log (s.lane l)) {i t : Nat}
    (he : ⟨.overloaded, i, l, t⟩ ∈ es) : s.IsDue i t ∧ i ∉ numbers .granted l (es ++ s.log) ∧
      i ∉ q.waiting.map (·.id) := by
  cases h with
  | stay | enqueue | quit => cases he
  | enter | seat => cases List.mem_singleton.mp he
  | refuse hnew hdue =>
    cases List.mem_singleton.mp he
    refine ⟨hdue, fun hg => ?_, fun hw => ?_⟩
    · obtain ⟨t, ht⟩ := mem_numbers.mp (by simpa using hg)
      exact Nat.lt_irrefl _ (hnew.1 _ ht)
    · obtain ⟨w, hw, he⟩ := List.mem_map.mp hw
      exact Nat.lt_irrefl _ (he ▸ hnew.2 l w hw)
  | expire hw hdue =>
    cases List.mem_singleton.mp he
    obtain ⟨w, hm, hid⟩ := List.any_eq_true.mp hw
    obtain rfl : w.id = id := by simpa using hid
    refine ⟨hdue, fun hg => Nat.lt_irrefl _ (hl.granted_lt hm (by simpa using hg)), fun hw => ?_⟩
    obtain ⟨v, hv, he⟩ := List.mem_map.mp hw
    exact (by simpa using (List.mem_filter.mp hv).2 : v.id ≠ w.id) he
  | free | passOn =>
    obtain ⟨w, hw, he⟩ := grant_granted he
    cases he

end Turn

end Service
end ChainGateway.Admission
