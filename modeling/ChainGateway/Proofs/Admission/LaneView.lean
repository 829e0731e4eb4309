import ChainGateway.Proofs.Admission.GateLaws
import ChainGateway.Proofs.Admission.RateLaws
import Mathlib.Data.List.Basic
import Mathlib.Data.List.Find

/-!
# What a lane sees of its gate

The lanes of a gate share its rate limiter, its timeout and its tally. A lane sees of the gate its
own queue, its own tickets and the windows of its own clients. Two gates that it sees alike answer
its requests alike, and go on to be seen alike; what other requests do goes unseen while their
clients are others.
-/

namespace ChainGateway.Admission

-- ---------------------------------------------------------------------------
-- What clients see of the limiter
-- ---------------------------------------------------------------------------

namespace RateLimiter

variable {limit : Nat} {P : Client → Prop} {l l' : RateLimiter} {c : Client} {now : Instant}
  {w : RateWindow}

/-- Limiters of one limit that treat the clients `P` alike. -/
structure AgreesOn (limit : Nat) (P : Client → Prop) (l l' : RateLimiter) : Prop where
  limits : l.limit = limit ∧ l'.limit = limit
  window : l.window = l'.window
  left : l.Single
  right : l'.Single
  windows : ∀ c, P c → l.find? c = l'.find? c

/-- What is left of the windows after sweeping, which may fail. -/
def swept (l : RateLimiter) (now : Instant) : RateLimiter :=
  match l.sweep now with
  | .ok (_, l) => l
  | .error _ => l

theorem single_new {limit : Nat} {window : Span} : (new limit window).Single := List.nodup_nil

namespace AgreesOn

theorem refl (hl : l.limit = limit) (h : l.Single) : l.AgreesOn limit P l :=
  ⟨⟨hl, hl⟩, rfl, h, h, fun _ _ => rfl⟩

theorem put (h : l.AgreesOn limit P l') : (l.put c w).AgreesOn limit P (l'.put c w) where
  limits := h.limits
  window := h.window
  left := h.left.put
  right := h.right.put
  windows d hd := by rw [find?_put, find?_put, h.windows d hd]

/-- A client among `P` is told the same by both. -/
theorem check (h : l.AgreesOn limit P l') (now : Instant) (hc : limit = 0 ∨ P c) :
    (l.check now c).1 = (l'.check now c).1 ∧
      (l.check now c).2.AgreesOn limit P (l'.check now c).2 := by
  by_cases he : limit = 0
  · rw [check_of_disabled (h.limits.1.trans he), check_of_disabled (h.limits.2.trans he)]
    exact ⟨rfl, h⟩
  · obtain ⟨verdict, w, hput⟩ := l.check_put now c (h.limits.1 ▸ he)
    rw [hput l rfl rfl rfl,
      hput l' (h.limits.1.trans h.limits.2.symm) h.window (h.windows c (hc.resolve_left he))]
    exact ⟨rfl, h.put⟩

/-- Other clients go unseen. -/
theorem check_left (h : l.AgreesOn limit P l') (now : Instant) (hc : limit = 0 ∨ ¬P c) :
    (l.check now c).2.AgreesOn limit P l' := by
  by_cases he : limit = 0
  · rw [check_of_disabled (h.limits.1.trans he)]
    exact h
  · obtain ⟨verdict, w, hput⟩ := l.check_put now c (h.limits.1 ▸ he)
    rw [hput l rfl rfl rfl]
    refine ⟨h.limits, h.window, h.left.put, h.right, fun d hd => ?_⟩
    have hne : c ≠ d := fun hcd => hc.resolve_left he (hcd ▸ hd)
    rw [find?_put, if_neg hne, h.windows d hd]

end AgreesOn

/-- Whether the span of two windows is told or not, no window is swept that still counts. -/
theorem swept_filter (l : RateLimiter) (now : Instant) : ∃ p : RateWindow → Bool,
    ∀ l' : RateLimiter, l.window = l'.window →
      l'.swept now = { l' with windows := l'.windows.filter fun x => p x.2 } := by
  cases hb : l.window.doubled? with
  | some both =>
    refine ⟨fun w => !l.isOver now w, fun l' hwindow => ?_⟩
    have hboth : l'.window.doubled? = some both := by rw [← hwindow, hb]
    obtain ⟨n, hs⟩ := l'.sweep_eq now hboth
    rw [swept, hs]
    simp only [isOver, hwindow]
  | none =>
    refine ⟨fun _ => true, fun l' hwindow => ?_⟩
    obtain ⟨limit, window, windows⟩ := l'
    have hnone : window.doubled? = none := (congrArg Span.doubled? hwindow).symm.trans hb
    rw [List.filter_eq_self.mpr fun _ _ => rfl, swept, sweep]
    cases windows with
    | nil => rfl
    | cons x ws => simp [RateWindow.isStale, RateWindow.bothWindows, hnone, bind, Except.bind]

theorem AgreesOn.swept (h : l.AgreesOn limit P l') :
    (l.swept now).AgreesOn limit P (l'.swept now) := by
  obtain ⟨p, hp⟩ := l.swept_filter now
  rw [hp l rfl, hp l' h.window]
  exact ⟨h.limits, h.window, h.left.filter _, h.right.filter _, fun c hc => by
    rw [h.left.find?_filter, h.right.find?_filter, h.windows c hc]⟩

end RateLimiter

-- ---------------------------------------------------------------------------
-- What a lane sees of the gate
-- ---------------------------------------------------------------------------

namespace Event

/-- The request that an event is about. -/
def id : Event → Nat
  | .enter id .. | .look id .. | .leave id | .cancel id _ => id

/-- An event of a request whose lane is as in `lanes`. -/
def KeepsTo (lanes : Nat → Lane) : Event → Prop
  | .enter id _ l | .look id l _ | .cancel id l => lanes id = l
  | .leave _ => True

/-- Who sends, and to which lane. -/
def sender? : Event → Option (Client × Lane)
  | .enter _ c l => some (c, l)
  | _ => none

theorem KeepsTo.sender {lanes : Nat → Lane} {e : Event} {x : Client × Lane}
    (hk : e.KeepsTo lanes) (hx : x ∈ e.sender?) : x.2 = lanes e.id := by
  cases e with
  | enter id c l =>
    obtain rfl := Option.some.inj hx
    exact hk.symm
  | look | leave | cancel => cases hx

end Event

namespace Gate

variable {g g' : Gate} {l l' : Lane} {q : LaneQueue} {now id since limit : Nat} {c : Client}
  {P : Client → Prop} {lanes : Nat → Lane} {e : Event}

theorem step_enter : g.step now (.enter id c l) =
    ((g.enter now id c l).1, none, (g.enter now id c l).2) := rfl

theorem step_look {expired : Bool} : g.step now (.look id l expired) =
    ((g.look now id l expired).1, none, (g.look now id l expired).2) := rfl

/-- Tickets are for the lanes of the requests that hold them. -/
def Ticketed (lanes : Nat → Lane) (g : Gate) : Prop := ∀ t ∈ g.tickets, lanes t.id = t.lane

/-- Gates that the lane `l`, with the clients `P`, sees alike. -/
structure Alike (l : Lane) (limit : Nat) (P : Client → Prop) (g g' : Gate) : Prop where
  timeout : g.timeout = g'.timeout
  limiter : g.limiter.AgreesOn limit P g'.limiter
  lane : g.lane l = g'.lane l
  tickets : g.tickets.filter (·.lane = l) = g'.tickets.filter (·.lane = l)

namespace Alike

theorem refl (hlimit : g.limiter.limit = limit) (h : g.limiter.Single) : g.Alike l limit P g :=
  ⟨rfl, .refl hlimit h, rfl, rfl⟩

theorem tally (h : g.Alike l limit P g') (t t' : Tally) :
    Alike l limit P { g with tally := t } { g' with tally := t' } :=
  ⟨h.timeout, h.limiter, by cases l <;> exact h.lane, h.tickets⟩

theorem withLimiter {r r' : RateLimiter} (h : g.Alike l limit P g') (hr : r.AgreesOn limit P r') :
    Alike l limit P { g with limiter := r } { g' with limiter := r' } :=
  ⟨h.timeout, hr, by cases l <;> exact h.lane, h.tickets⟩

-- An operation for the lane does the same to both gates.

theorem setLane (h : g.Alike l limit P g') : (g.setLane l q).Alike l limit P (g'.setLane l q) where
  timeout := by rw [setLane_timeout, setLane_timeout, h.timeout]
  limiter := by rw [setLane_limiter, setLane_limiter]; exact h.limiter
  lane := by rw [lane_setLane, lane_setLane, if_pos rfl, if_pos rfl]
  tickets := by rw [setLane_tickets, setLane_tickets, h.tickets]

theorem issue (h : g.Alike l limit P g') :
    (g.issue now id since l).2.Alike l limit P (g'.issue now id since l).2 where
  timeout := h.timeout
  limiter := h.limiter
  lane := by rw [issue_lane, issue_lane, h.lane]
  tickets := by rw [issue_tickets, issue_tickets, List.filter_append, List.filter_append, h.tickets]

theorem queue (h : g.Alike l limit P g') : (g.queue now id l).1 = (g'.queue now id l).1 ∧
    (g.queue now id l).2.Alike l limit P (g'.queue now id l).2 := by
  have hpatience : g.patience now = g'.patience now := by rw [patience, patience, h.timeout]
  unfold Gate.queue
  rw [← h.lane, ← hpatience]
  cases (g.lane l).acquire? with
  | some q => exact ⟨rfl, h.setLane.issue⟩
  | none =>
    dsimp only
    split
    · exact ⟨rfl, h.tally _ _⟩
    · exact ⟨rfl, h.setLane⟩

theorem enter (h : g.Alike l limit P g') (now id : Nat) (hc : limit = 0 ∨ P c) :
    (g.enter now id c l).1 = (g'.enter now id c l).1 ∧
      (g.enter now id c l).2.Alike l limit P (g'.enter now id c l).2 := by
  obtain ⟨hverdict, hafter⟩ := h.limiter.check (.ofMillis now) hc
  unfold Gate.enter
  rcases hg : g.limiter.check (.ofMillis now) c with ⟨verdict, r⟩
  rcases hg' : g'.limiter.check (.ofMillis now) c with ⟨verdict', r'⟩
  rw [hg, hg'] at hverdict hafter
  obtain rfl : verdict = verdict' := hverdict
  cases verdict with
  | accepted => exact (h.withLimiter hafter).queue
  | retryAfter d => exact ⟨rfl, (h.withLimiter hafter).tally _ _⟩
  | failed f => exact ⟨rfl, h.withLimiter hafter⟩

theorem look (h : g.Alike l limit P g') (now id : Nat) (expired : Bool) :
    (g.look now id l expired).1 = (g'.look now id l expired).1 ∧
      (g.look now id l expired).2.Alike l limit P (g'.look now id l expired).2 := by
  unfold Gate.look
  rw [← h.lane]
  cases (g.lane l).handedTo? id with
  | some w => exact ⟨rfl, h.setLane.issue⟩
  | none =>
    dsimp only
    split
    · split
      · exact ⟨rfl, h.setLane.tally _ _⟩
      · exact ⟨rfl, h⟩
    · exact ⟨rfl, h⟩

theorem release (h : g.Alike l limit P g') :
    (g.release l).1 = (g'.release l).1 ∧ (g.release l).2.Alike l limit P (g'.release l).2 := by
  unfold Gate.release
  rw [← h.lane]
  exact ⟨rfl, h.setLane⟩

-- An operation for another lane on one of them goes unseen.

theorem setLane_left (h : g.Alike l limit P g') (hl : l ≠ l') :
    (g.setLane l' q).Alike l limit P g' where
  timeout := by rw [setLane_timeout, h.timeout]
  limiter := by rw [setLane_limiter]; exact h.limiter
  lane := by rw [lane_setLane, if_neg hl, h.lane]
  tickets := by rw [setLane_tickets, h.tickets]

theorem issue_left (h : g.Alike l limit P g') (hl : l ≠ l') :
    (g.issue now id since l').2.Alike l limit P g' where
  timeout := h.timeout
  limiter := h.limiter
  lane := by rw [issue_lane, h.lane]
  tickets := by simp [issue_tickets, List.filter_append, h.tickets, Ne.symm hl]

theorem queue_left (h : g.Alike l limit P g') (hl : l ≠ l') :
    (g.queue now id l').2.Alike l limit P g' := by
  unfold Gate.queue
  split
  · exact (h.setLane_left hl).issue_left hl
  · split
    · exact h.tally _ _
    · exact h.setLane_left hl

theorem enter_left (h : g.Alike l limit P g') (hl : l ≠ l') (hc : limit = 0 ∨ ¬P c) :
    (g.enter now id c l').2.Alike l limit P g' := by
  have hafter := h.limiter.check_left (.ofMillis now) hc
  unfold Gate.enter
  split <;> rename_i hcheck <;> rw [hcheck] at hafter
  · exact (h.withLimiter hafter).queue_left hl
  · exact (h.withLimiter hafter).tally _ _
  · exact h.withLimiter hafter

theorem look_left {expired : Bool} (h : g.Alike l limit P g') (hl : l ≠ l') :
    (g.look now id l' expired).2.Alike l limit P g' := by
  unfold Gate.look
  split
  · exact (h.setLane_left hl).issue_left hl
  · split
    · split
      · exact (h.setLane_left hl).tally _ _
      · exact h
    · exact h

-- Tickets go with the lanes of their requests.

theorem without (h : g.Alike l limit P g') (id : Nat) :
    Alike l limit P { g with tickets := g.tickets.filter (·.id ≠ id) }
      { g' with tickets := g'.tickets.filter (·.id ≠ id) } where
  timeout := h.timeout
  limiter := h.limiter
  lane := by cases l <;> exact h.lane
  tickets := by
    dsimp only
    rw [List.filter_comm, h.tickets, List.filter_comm]

theorem without_left (h : g.Alike l limit P g') (ht : g.Ticketed lanes) (hl : lanes id ≠ l) :
    Alike l limit P { g with tickets := g.tickets.filter (·.id ≠ id) } g' where
  timeout := h.timeout
  limiter := h.limiter
  lane := by cases l <;> exact h.lane
  tickets := by
    rw [← h.tickets, List.filter_filter]
    refine List.filter_congr fun t hm => ?_
    have hid : t.lane = l → t.id ≠ id := fun htl he => hl (by rw [← he, ht t hm, htl])
    by_cases htl : t.lane = l <;> simp [htl, hid]

theorem find?_ticket (ht : g.Ticketed lanes) (hl : lanes id = l) :
    g.tickets.find? (·.id = id) = (g.tickets.filter (·.lane = l)).find? (·.id = id) := by
  rw [List.find?_filter]
  refine List.find?_congr fun t hm => ?_
  have hlane : t.id = id → t.lane = l := fun he => by rw [← ht t hm, he, hl]
  by_cases he : t.id = id <;> simp [he, hlane]

/-- An event of the lane is answered by both alike, and wakes the same. -/
theorem step (h : g.Alike l limit P g') (now : Nat) (ht : g.Ticketed lanes)
    (ht' : g'.Ticketed lanes) (hk : e.KeepsTo lanes) (hl : lanes e.id = l)
    (hc : limit = 0 ∨ ∀ x ∈ e.sender?, P x.1) :
    (g.step now e).1 = (g'.step now e).1 ∧ (g.step now e).2.1 = (g'.step now e).2.1 ∧
      (g.step now e).2.2.Alike l limit P (g'.step now e).2.2 := by
  cases e with
  | enter id c k =>
    obtain rfl : k = l := hk.symm.trans hl
    obtain ⟨ha, hafter⟩ := h.enter now id (hc.imp_right fun hc => hc _ rfl)
    rw [step_enter, step_enter]
    exact ⟨ha, rfl, hafter⟩
  | look id k expired =>
    obtain rfl : k = l := hk.symm.trans hl
    obtain ⟨ha, hafter⟩ := h.look now id expired
    rw [step_look, step_look]
    exact ⟨ha, rfl, hafter⟩
  | leave id =>
    have hl : lanes id = l := hl
    have hfind : g.tickets.find? (·.id = id) = g'.tickets.find? (·.id = id) := by
      rw [find?_ticket ht hl, find?_ticket ht' hl, h.tickets]
    simp only [Gate.step, ← hfind]
    cases hx : g.tickets.find? (·.id = id) with
    | none => exact ⟨rfl, rfl, h⟩
    | some t =>
      have hid : t.id = id := by simpa using List.find?_some hx
      obtain rfl : t.lane = l := by rw [← ht t (List.mem_of_find?_eq_some hx), hid, hl]
      obtain ⟨ha, hafter⟩ := (h.without id).release
      exact ⟨rfl, ha, hafter⟩
  | cancel id k =>
    obtain rfl : k = l := hk.symm.trans hl
    simp only [Gate.step, ← h.lane]
    cases (g.lane k).handedTo? id with
    | none => exact ⟨rfl, rfl, h.setLane⟩
    | some w =>
      obtain ⟨ha, hafter⟩ := (h.setLane (q := (g.lane k).take id)).release
      exact ⟨rfl, ha, hafter⟩

/-- An event of another lane goes unseen. -/
theorem step_left (h : g.Alike l limit P g') (ht : g.Ticketed lanes) (hk : e.KeepsTo lanes)
    (hl : lanes e.id ≠ l) (hc : limit = 0 ∨ ∀ x ∈ e.sender?, ¬P x.1) :
    (g.step now e).2.2.Alike l limit P g' := by
  cases e with
  | enter id c k =>
    obtain rfl : lanes id = k := hk
    exact h.enter_left (Ne.symm hl) (hc.imp_right fun hc => hc _ rfl)
  | look id k expired =>
    obtain rfl : lanes id = k := hk
    exact h.look_left (Ne.symm hl)
  | leave id =>
    simp only [Gate.step]
    cases hx : g.tickets.find? (·.id = id) with
    | none => exact h
    | some t =>
      have hid : t.id = id := by simpa using List.find?_some hx
      have htl : l ≠ t.lane := by
        rw [← ht t (List.mem_of_find?_eq_some hx), hid]
        exact Ne.symm hl
      exact (h.without_left ht hl).setLane_left htl
  | cancel id k =>
    obtain rfl : lanes id = k := hk
    simp only [Gate.step]
    cases (g.lane (lanes id)).handedTo? id with
    | none => exact h.setLane_left (Ne.symm hl)
    | some w => exact (h.setLane_left (Ne.symm hl)).setLane_left (Ne.symm hl)

end Alike

namespace Ticketed

theorem setLane (h : g.Ticketed lanes) : (g.setLane l q).Ticketed lanes := by
  rw [Ticketed, setLane_tickets]
  exact h

theorem issue (h : g.Ticketed lanes) (since : Nat) (hl : lanes id = l) :
    (g.issue now id since l).2.Ticketed lanes := by
  intro t ht
  rcases List.mem_append.mp ht with ht | ht
  · exact h t ht
  · rw [List.mem_singleton.mp ht]
    exact hl

theorem without (h : g.Ticketed lanes) :
    Ticketed lanes { g with tickets := g.tickets.filter (·.id ≠ id) } := fun t ht =>
  h t (List.mem_of_mem_filter ht)

theorem step (h : g.Ticketed lanes) (hk : e.KeepsTo lanes) :
    (g.step now e).2.2.Ticketed lanes := by
  cases e with
  | enter id c l =>
    obtain ⟨r, ⟨d, hs⟩ | ⟨f, hs⟩ | ⟨q, hq, n, hs⟩ | ⟨hq, hs⟩ | ⟨hq, hs⟩⟩ :=
      g.enter_cases now id c l <;> rw [hs]
    · exact h
    · exact h
    · have hlimited : Ticketed lanes { g with limiter := r } := h
      exact hlimited.setLane.issue now hk
    · exact h
    · exact setLane h
  | look id l expired =>
    obtain ⟨x, -, n, hs⟩ | ⟨-, -, hs⟩ | ⟨-, -, hs⟩ | ⟨-, -, hs⟩ :=
      g.look_cases now id l expired <;> rw [hs]
    · exact issue h.setLane x.since hk
    · exact setLane h
    · exact h
    · exact h
  | leave id =>
    obtain ⟨-, hs⟩ | ⟨t, -, -, woken, hs⟩ := g.leave_cases now id <;> rw [hs]
    · exact h
    · exact h.without.setLane
  | cancel id l =>
    obtain ⟨x, -, woken, hs⟩ | ⟨-, hs⟩ := g.cancel_cases now id l <;> rw [hs]
    · exact h.setLane
    · exact h.setLane

end Ticketed

/-- The gate after its limiter was swept. -/
def swept (g : Gate) (now : Nat) : Gate :=
  { g with limiter := g.limiter.swept (.ofMillis now) }

end Gate

end ChainGateway.Admission
