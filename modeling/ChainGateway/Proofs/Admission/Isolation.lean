import ChainGateway.Proofs.Admission.LaneView
import ChainGateway.Proofs.Admission.Service

/-!
# Lanes are apart

A gate is watched with a clock, once with the requests of both lanes and once with those of one
lane only. That lane sees the two gates alike throughout, so its requests are told the same things
at the same moments.
-/

namespace ChainGateway.Admission

/-- What happens at a gate that is watched. Requests come with numbers, so leaving some out
renumbers none. -/
inductive Move
  | event (e : Event)
  | sweep
  /-- The clock goes on to the millisecond `t`. -/
  | pass (t : Nat)

namespace Move

def KeepsTo (lanes : Nat → Lane) : Move → Prop
  | .event e => e.KeepsTo lanes
  | .sweep | .pass _ => True

/-- Whether it is there for the lane `l`; clocks and sweeps are for both lanes. -/
def isFor (lanes : Nat → Lane) (l : Lane) : Move → Bool
  | .event e => lanes e.id = l
  | .sweep | .pass _ => true

def sender? : Move → Option (Client × Lane)
  | .event e => e.sender?
  | .sweep | .pass _ => none

end Move

/-- What is said at an event. -/
structure Notice where
  /-- The request that the event is about. -/
  id : Nat
  time : Nat
  answer : Answer
  /-- The request that is handed a slot by it. -/
  woken : Option Nat
  deriving DecidableEq

/-- A gate and a clock. -/
structure Watch where
  gate : Gate
  now : Nat

namespace Watch

def step (w : Watch) : Move → Watch
  | .event e => { w with gate := (w.gate.step w.now e).2.2 }
  | .sweep => { w with gate := w.gate.swept w.now }
  | .pass t => { w with now := t }

def notice (w : Watch) (e : Event) : Notice :=
  let r := w.gate.step w.now e
  ⟨e.id, w.now, r.1, r.2.1⟩

/-- What is said in a run, the first first. -/
def notices (w : Watch) : List Move → List Notice
  | [] => []
  | m :: moves => match m with
    | .event e => w.notice e :: (w.step m).notices moves
    | .sweep | .pass _ => (w.step m).notices moves

/-- Timers go off just when they are due, and the clock waits for them and for everyone who has a
slot to take up. -/
def Allowed (w : Watch) : Move → Prop
  | .event (.look id l true) => ∀ x ∈ (w.gate.lane l).waiting, x.id = id →
      w.now = Instant.deadline x.since w.gate.timeout
  | .pass t => w.now ≤ t ∧ w.gate.Quiescent ∧
      ∀ l, ∀ x ∈ (w.gate.lane l).waiting, t ≤ Instant.deadline x.since w.gate.timeout
  | _ => True

/-- Every move of the run is allowed where it is made. -/
def Legal (w : Watch) : List Move → Prop
  | [] => True
  | m :: moves => w.Allowed m ∧ (w.step m).Legal moves

instance (w : Watch) : DecidablePred w.Allowed
  | .event (.look id l true) => inferInstanceAs (Decidable (∀ x ∈ (w.gate.lane l).waiting,
      x.id = id → w.now = Instant.deadline x.since w.gate.timeout))
  | .pass t => inferInstanceAs (Decidable (w.now ≤ t ∧ w.gate.Quiescent ∧
      ∀ l, ∀ x ∈ (w.gate.lane l).waiting, t ≤ Instant.deadline x.since w.gate.timeout))
  | .event (.look _ _ false) | .event (.enter ..) | .event (.leave _) | .event (.cancel ..)
  | .sweep => isTrue trivial

instance decidableLegal (w : Watch) : ∀ moves, Decidable (w.Legal moves)
  | [] => isTrue trivial
  | m :: moves => @instDecidableAnd _ _ _ (decidableLegal (w.step m) moves)

/-- Two watches of which the second sees only the lane `l`, which they see alike. -/
structure Abreast (lanes : Nat → Lane) (l : Lane) (limit : Nat) (P : Client → Prop)
    (w w' : Watch) : Prop where
  now : w.now = w'.now
  alike : w.gate.Alike l limit P w'.gate
  left : w.gate.Ticketed lanes
  right : w'.gate.Ticketed lanes
  idle : ∀ l', l' ≠ l → (w'.gate.lane l').waiting = [] ∧ (w'.gate.lane l').handed = []

variable {lanes : Nat → Lane} {l : Lane} {limit t : Nat} {P : Client → Prop} {w w' : Watch}
  {e : Event} {m : Move} {moves : List Move}

namespace Abreast

theorem own (h : Abreast lanes l limit P w w') (hk : e.KeepsTo lanes) (hl : lanes e.id = l)
    (hc : limit = 0 ∨ ∀ x ∈ e.sender?, P x.1) : w.notice e = w'.notice e ∧
      Abreast lanes l limit P (w.step (.event e)) (w'.step (.event e)) := by
  obtain ⟨ha, hw, hafter⟩ := h.alike.step w.now h.left h.right hk hl hc
  have hothers : ∀ l', l' ≠ l → (w'.gate.step w.now e).2.2.lane l' = w'.gate.lane l' := by
    intro l' hne
    have hself : w'.gate.Alike l' limit (fun _ => False) w'.gate :=
      .refl h.alike.limiter.limits.2 h.alike.limiter.right
    exact (hself.step_left h.right hk (hl ▸ Ne.symm hne) (.inr fun _ _ => id)).lane
  rw [notice, notice, step, step, ← h.now]
  refine ⟨by rw [ha, hw], rfl, hafter, h.left.step hk, h.right.step hk, fun l' hne => ?_⟩
  rw [hothers l' hne]
  exact h.idle l' hne

theorem foreign (h : Abreast lanes l limit P w w') (hk : e.KeepsTo lanes) (hl : lanes e.id ≠ l)
    (hc : limit = 0 ∨ ∀ x ∈ e.sender?, ¬P x.1) :
    Abreast lanes l limit P (w.step (.event e)) w' where
  now := h.now
  alike := h.alike.step_left h.left hk hl hc
  left := h.left.step hk
  right := h.right
  idle := h.idle

theorem sweep (h : Abreast lanes l limit P w w') :
    Abreast lanes l limit P (w.step .sweep) (w'.step .sweep) where
  now := h.now
  alike := by
    rw [step, step, h.now]
    exact h.alike.withLimiter h.alike.limiter.swept
  left := h.left
  right := h.right
  idle l' hne := by
    have hlane : (w'.step .sweep).gate.lane l' = w'.gate.lane l' := by cases l' <;> rfl
    rw [hlane]
    exact h.idle l' hne

theorem pass (h : Abreast lanes l limit P w w') :
    Abreast lanes l limit P (w.step (.pass t)) (w'.step (.pass t)) :=
  ⟨rfl, h.alike, h.left, h.right, h.idle⟩

/-- What is allowed with both lanes is allowed with the one. -/
theorem allowed (h : Abreast lanes l limit P w w') (hk : m.KeepsTo lanes)
    (hm : m.isFor lanes l = true) (ha : w.Allowed m) : w'.Allowed m := by
  have hlane := h.alike.lane
  have htimeout := h.alike.timeout
  cases m with
  | sweep => trivial
  | pass t =>
    obtain ⟨hnow, hquiet, hdue⟩ := ha
    refine ⟨h.now ▸ hnow, fun l' => ?_, fun l' x hx => ?_⟩
    · by_cases hne : l' = l
      · rw [hne, ← hlane]
        exact hquiet l
      · exact (h.idle l' hne).2
    · by_cases hne : l' = l
      · rw [hne, ← hlane] at hx
        rw [← htimeout]
        exact hdue l x hx
      · rw [(h.idle l' hne).1] at hx
        cases hx
  | event e =>
    cases e with
    | enter | leave | cancel => trivial
    | look id k expired =>
      cases expired with
      | false => trivial
      | true =>
        obtain rfl : k = l := hk.symm.trans (of_decide_eq_true hm)
        intro x hx hid
        rw [← hlane] at hx
        rw [← h.now, ← htimeout]
        exact ha x hx hid

theorem run (h : Abreast lanes l limit P w w') (hk : ∀ m ∈ moves, m.KeepsTo lanes)
    (hc : limit = 0 ∨ ∀ m ∈ moves, ∀ x ∈ m.sender?, P x.1 ↔ x.2 = l) :
    (w.notices moves).filter (lanes ·.id = l) = w'.notices (moves.filter (·.isFor lanes l)) ∧
      (w.Legal moves → w'.Legal (moves.filter (·.isFor lanes l))) := by
  induction moves generalizing w w' with
  | nil => exact ⟨rfl, id⟩
  | cons m moves ih =>
    obtain ⟨hm, hks⟩ := List.forall_mem_cons.mp hk
    have hrest := hc.imp_right fun hc => (List.forall_mem_cons.mp hc).2
    have hc := hc.imp_right fun hc => (List.forall_mem_cons.mp hc).1
    -- every move for the lane is made in both runs
    have hboth : m.isFor lanes l = true →
        Abreast lanes l limit P (w.step m) (w'.step m) →
        (w.Legal (m :: moves) → w'.Legal (m :: moves.filter (·.isFor lanes l))) :=
      fun hfor hnext hlegal => ⟨h.allowed hm hfor hlegal.1, (ih hnext hks hrest).2 hlegal.2⟩
    cases m with
    | sweep => exact ⟨(ih h.sweep hks hrest).1, hboth rfl h.sweep⟩
    | pass t => exact ⟨(ih h.pass hks hrest).1, hboth rfl h.pass⟩
    | event e =>
      by_cases hl : lanes e.id = l
      · have hmine : limit = 0 ∨ ∀ x ∈ e.sender?, P x.1 :=
          hc.imp_right fun hc x hx => (hc x hx).mpr ((hm.sender hx).trans hl)
        obtain ⟨hnotice, hnext⟩ := h.own hm hl hmine
        have hfor : Move.isFor lanes l (.event e) = true := by simp [Move.isFor, hl]
        have hid : lanes (w.notice e).id = l := hl
        rw [List.filter_cons_of_pos hfor]
        refine ⟨?_, hboth hfor hnext⟩
        rw [notices, notices, List.filter_cons_of_pos (by simpa using hid),
          (ih hnext hks hrest).1, hnotice]
      · have hothers : limit = 0 ∨ ∀ x ∈ e.sender?, ¬P x.1 :=
          hc.imp_right fun hc x hx hp => hl ((hm.sender hx).symm.trans ((hc x hx).mp hp))
        obtain ⟨hsaid, hlegal⟩ := ih (h.foreign hm hl hothers) hks hrest
        have hfor : ¬Move.isFor lanes l (.event e) = true := by simp [Move.isFor, hl]
        have hid : ¬lanes (w.notice e).id = l := hl
        rw [List.filter_cons_of_neg hfor]
        refine ⟨?_, fun hall => hlegal hall.2⟩
        rw [notices, List.filter_cons_of_neg (by simpa using hid), hsaid]

end Abreast

/-- Who sends in a run, and to which lanes. -/
def senders (moves : List Move) : List (Client × Lane) := moves.filterMap Move.sender?

/-- A lane sees a new gate as it is. -/
theorem Abreast.new {limits : Limits} {g : Gate} (hg : Gate.new limits = .ok g) :
    Abreast lanes l limits.rateLimit P ⟨g, 0⟩ ⟨g, 0⟩ := by
  unfold Gate.new at hg
  split at hg <;> cases hg
  refine ⟨rfl, .refl rfl RateLimiter.single_new, fun t ht => ?_, fun t ht => ?_, fun l' _ => ?_⟩
  · cases ht
  · cases ht
  · cases l' <;> exact ⟨rfl, rfl⟩

/-- While no client sends to both lanes, or nobody is limited, the requests of a lane are told the
same at the same moments, whatever is sent to the other lane; and a run without the other lane's
requests is one that the clock allows. -/
theorem isolated {limits : Limits} {g : Gate} (hg : Gate.new limits = .ok g)
    (hk : ∀ m ∈ moves, m.KeepsTo lanes)
    (hc : limits.rateLimit = 0 ∨ ∀ x ∈ senders moves, ∀ y ∈ senders moves, x.1 = y.1 → x.2 = y.2)
    (l : Lane) :
    ((Watch.mk g 0).notices moves).filter (lanes ·.id = l) =
        (Watch.mk g 0).notices (moves.filter (·.isFor lanes l)) ∧
      ((Watch.mk g 0).Legal moves → (Watch.mk g 0).Legal (moves.filter (·.isFor lanes l))) := by
  -- the clients of the lane are those that send to it
  refine (Abreast.new (P := fun c => (c, l) ∈ senders moves) hg).run hk (hc.imp_right ?_)
  intro hc m hm x hx
  have hsent : x ∈ senders moves := List.mem_filterMap.mpr ⟨m, hm, hx⟩
  refine ⟨fun hl => hc x hsent _ hl rfl, ?_⟩
  rintro rfl
  exact hsent

/-- A request that waits in the saturated lane for expensive lookups runs out of time there, and
one that waits in the other lane has its slot as soon as without it. -/
theorem isolated_of_saturated :
    let limits : Limits := ⟨1, .ofMillis 100, 5, .ofSeconds 30⟩
    let lanes : Nat → Lane := fun id => if id < 10 then .standard else .heavyLookup
    let a : Client := ⟨"a"⟩
    let b : Client := ⟨"b"⟩
    let moves : List Move := [.event (.enter 10 b .heavyLookup), .event (.enter 11 b .heavyLookup),
      .event (.enter 0 a .standard), .pass 40, .event (.enter 1 a .standard), .sweep, .pass 100,
      .event (.look 11 .heavyLookup true), .event (.leave 0), .event (.look 1 .standard false),
      .event (.leave 10)]
    ∃ g, Gate.new limits = .ok g ∧ (∀ m ∈ moves, m.KeepsTo lanes) ∧
      (∀ x ∈ senders moves, ∀ y ∈ senders moves, x.1 = y.1 → x.2 = y.2) ∧
      (Watch.mk g 0).Legal moves ∧
      ⟨11, 100, .rejected (.overloaded .heavyLookup), none⟩ ∈ (Watch.mk g 0).notices moves ∧
      ((Watch.mk g 0).notices moves).filter (lanes ·.id = .standard) =
        [⟨0, 0, .admitted .standard 0, none⟩, ⟨1, 40, .waiting, none⟩,
          ⟨0, 100, .left .standard, some 1⟩, ⟨1, 100, .admitted .standard 60, none⟩] ∧
      ((Watch.mk g 0).notices moves).filter (lanes ·.id = .standard) =
        (Watch.mk g 0).notices (moves.filter (·.isFor lanes .standard)) := by
  intro limits lanes a b moves
  have hk : ∀ m ∈ moves, m.KeepsTo lanes := by simp [moves, lanes, Move.KeepsTo, Event.KeepsTo]
  have hc : ∀ x ∈ senders moves, ∀ y ∈ senders moves, x.1 = y.1 → x.2 = y.2 := by decide
  have hg : Gate.new limits =
    .ok ⟨.ofMillis 100, .new 5 (.ofSeconds 30), .new 1, .new 1, [], ⟨0, 0, 0⟩⟩ := rfl
  exact ⟨_, hg, hk, hc, by decide, by decide, by decide, (isolated hg hk (.inr hc) .standard).1⟩

end Watch
end ChainGateway.Admission
