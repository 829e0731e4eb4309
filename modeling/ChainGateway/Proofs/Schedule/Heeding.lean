import ChainGateway.Epoch.Watch
import ChainGateway.Schedule.Periodic

/-!
# Stops that are missed

The background jobs are loops of one kind. While a job waits it takes notice of its signal if there
is news, and then looks at the latest value, which may have changed in between; news comes at any
moment. A stop is missed just where it was no news from the start: the watch looks at the value
before it polls, the periodic jobs do not.
-/

namespace ChainGateway.Schedule

-- ---------------------------------------------------------------------------
-- Signals
-- ---------------------------------------------------------------------------

namespace Signal

variable {s : Signal}

/-- A stop that is no news, from a sender that is still there. -/
def deaf : Signal := ⟨true, false, true⟩

/-- There is something to stop for. -/
def IsStop (s : Signal) : Prop := s.stop = true ∨ s.connected = false

theorem IsStop.pending_eq_false_iff (h : s.IsStop) : s.pending = false ↔ s = deaf := by
  obtain ⟨stop, unseen, connected⟩ := s
  unfold IsStop at h
  cases stop <;> cases unseen <;> cases connected <;> simp_all [pending, deaf]

theorem send_ne_deaf (stop : Bool) : s.send stop ≠ deaf := fun h =>
  absurd (congrArg unseen h) (by simp [send, deaf])

theorem disconnect_ne_deaf : s.disconnect ≠ deaf := fun h =>
  absurd (congrArg connected h) (by simp [disconnect, deaf])

end Signal

-- ---------------------------------------------------------------------------
-- Loops
-- ---------------------------------------------------------------------------

/-- A job that works, waits, and takes notice of its signal while it waits. -/
structure Loop (σ : Type) where
  signal : σ → Signal
  withSignal : σ → Signal → σ
  waits : σ → Bool
  isOver : σ → Prop
  /-- A step of its work, or the end of a wait. -/
  goesOn : σ → σ → Prop
  /-- What becomes of a job that has noticed its signal: it stops, or waits from this moment on. -/
  judged : Nat → Bool → σ → σ
  signal_withSignal : ∀ j s, signal (withSignal j s) = s
  withSignal_withSignal : ∀ j s s', withSignal (withSignal j s) s' = withSignal j s'
  waits_withSignal : ∀ j s, waits (withSignal j s) = waits j
  isOver_withSignal : ∀ j s, isOver (withSignal j s) ↔ isOver j
  signal_goesOn : ∀ {j j'}, goesOn j j' → signal j' = signal j
  not_isOver_of_goesOn : ∀ {j j'}, goesOn j j' → ¬isOver j
  not_isOver_of_waits : ∀ {j}, waits j = true → ¬isOver j
  signal_judged : ∀ now stop j, signal (judged now stop j) = signal j
  waits_judged : ∀ now j, waits (judged now false j) = waits j
  isOver_judged : ∀ now j, isOver (judged now true j)
  /-- A stop leaves nothing of an earlier wait. -/
  judged_judged : ∀ now j s,
    judged now true (withSignal (judged now false j) s) = judged now true (withSignal j s)

/-- The job takes notice and looks at the value at one moment, if it waits and there is something to
notice. -/
def Loop.heed {σ : Type} (L : Loop σ) (now : Nat) (j : σ) : σ :=
  if L.waits j = true ∧ (L.signal j).pending = true then
    L.judged now (L.signal j).notice.1 (L.withSignal j (L.signal j).notice.2)
  else j

variable {σ : Type} {L : Loop σ} {j j₀ : σ} {told : Bool} {glance : Option Bool}

/-- What may become of the job `j₀`, and whether there was any news. Between taking notice and
looking at the value, `glance` says whether the sender was found gone. -/
inductive Loop.Reach (L : Loop σ) (j₀ : σ) : Bool → σ → Option Bool → Prop
  | start : Reach L j₀ false j₀ none
  | sent {told : Bool} {j : σ} {glance : Option Bool} (stop : Bool) : Reach L j₀ told j glance →
    Reach L j₀ true (L.withSignal j ((L.signal j).send stop)) glance
  | left {told : Bool} {j : σ} {glance : Option Bool} : Reach L j₀ told j glance →
    Reach L j₀ true (L.withSignal j (L.signal j).disconnect) glance
  | goesOn {told : Bool} {j j' : σ} : Reach L j₀ told j none → L.goesOn j j' →
    Reach L j₀ told j' none
  | notices {told : Bool} {j : σ} : Reach L j₀ told j none → L.waits j = true →
    (L.signal j).pending = true →
    Reach L j₀ told (L.withSignal j (L.signal j).notice.2) (some (!(L.signal j).unseen))
  | judges {told : Bool} {j : σ} {gone : Bool} (now : Nat) : Reach L j₀ told j (some gone) →
    Reach L j₀ told (L.judged now (gone || (L.signal j).stop) j) none

namespace Loop.Reach

/-- A job that is deaf from the start stays so until there is news. -/
theorem stays_deaf (h : L.Reach j₀ told j glance) (hdeaf : L.signal j₀ = .deaf)
    (htold : told = false) : L.signal j = .deaf ∧ glance = none := by
  induction h with
  | start => exact ⟨hdeaf, rfl⟩
  | sent | left => cases htold
  | goesOn _ hgoes ih => exact ⟨(L.signal_goesOn hgoes).trans (ih htold).1, rfl⟩
  | notices _ _ hpending ih =>
    rw [(ih htold).1] at hpending
    cases hpending
  | judges _ _ ih => cases (ih htold).2

/-- A job that has not ended is deaf only if it was so from the start, and there was no news. -/
theorem deaf_of_deaf (h : L.Reach j₀ told j glance) (hg : glance = none) (ho : ¬L.isOver j)
    (hdeaf : L.signal j = .deaf) : L.signal j₀ = .deaf ∧ told = false := by
  induction h with
  | start => exact ⟨hdeaf, rfl⟩
  | sent stop =>
    rw [L.signal_withSignal] at hdeaf
    exact absurd hdeaf (Signal.send_ne_deaf stop)
  | left =>
    rw [L.signal_withSignal] at hdeaf
    exact absurd hdeaf Signal.disconnect_ne_deaf
  | goesOn _ hgoes ih =>
    exact ih rfl (L.not_isOver_of_goesOn hgoes) ((L.signal_goesOn hgoes).symm.trans hdeaf)
  | notices => cases hg
  | judges now _ _ =>
    -- the value is a stop, so the job has looked at it and ended
    rw [L.signal_judged] at hdeaf
    rw [hdeaf, Signal.deaf, Bool.or_true] at ho
    exact absurd (L.isOver_judged now _) ho

/-- A job that is over from the start does nothing. -/
theorem stays_over (h : L.Reach j₀ told j glance) (ho : L.isOver j₀) :
    L.isOver j ∧ glance = none := by
  induction h with
  | start => exact ⟨ho, rfl⟩
  | sent | left =>
    rename_i ih
    exact ⟨(L.isOver_withSignal _ _).mpr ih.1, ih.2⟩
  | goesOn _ hgoes ih => exact absurd ih.1 (L.not_isOver_of_goesOn hgoes)
  | notices _ hwaits _ ih => exact absurd ih.1 (L.not_isOver_of_waits hwaits)
  | judges _ _ ih => cases ih.2

theorem deaf_iff (h : L.Reach j₀ told j none) (ho : ¬L.isOver j) :
    L.signal j = .deaf ↔ L.signal j₀ = .deaf ∧ told = false :=
  ⟨h.deaf_of_deaf rfl ho, fun hj => (h.stays_deaf hj.1 hj.2).1⟩

/-- Heeding its signal at once is something that may become of the job. -/
theorem heed (h : L.Reach j₀ told j none) (now : Nat) : L.Reach j₀ told (L.heed now j) none := by
  unfold Loop.heed
  split
  · rename_i hready
    obtain ⟨hwaits, hpending⟩ := hready
    have hjudged := (h.notices hwaits hpending).judges now
    rw [L.signal_withSignal] at hjudged
    generalize L.signal j = s at hpending hjudged ⊢
    obtain ⟨stop, unseen, connected⟩ := s
    cases unseen with
    | false =>
      obtain rfl : connected = false := by simpa [Signal.pending] using hpending
      simpa [Signal.notice] using hjudged
    | true =>
      cases connected with
      | true => simpa [Signal.notice] using hjudged
      | false =>
        cases stop with
        | true => simpa [Signal.notice] using hjudged
        | false =>
          -- the news is noticed first, and only then that the sender is gone
          let j' := L.judged now false (L.withSignal j ⟨false, false, false⟩)
          have hwaits' : L.waits j' = true := by
            rw [L.waits_judged, L.waits_withSignal, hwaits]
          have hpending' : (L.signal j').pending = true := by
            rw [L.signal_judged, L.signal_withSignal]
            rfl
          have hagain := (Reach.notices hjudged hwaits' hpending').judges now
          simpa [j', Signal.notice, L.signal_judged, L.signal_withSignal, L.judged_judged,
            L.withSignal_withSignal] using hagain
  · exact h

end Loop.Reach

namespace Loop

theorem heed_of_not_pending (h : (L.signal j).pending = false) (now : Nat) : L.heed now j = j :=
  if_neg fun hready => Bool.noConfusion (h.symm.trans hready.2)

/-- A job that waits stops as it heeds what there is to stop for. -/
theorem heed_of_isStop (hw : L.waits j = true) (hp : (L.signal j).pending = true)
    (hs : (L.signal j).IsStop) (now : Nat) :
    L.heed now j = L.judged now true (L.withSignal j (L.signal j).notice.2) := by
  have hstop : (L.signal j).notice.1 = true := by
    simpa [Signal.IsStop, Signal.notice] using hs
  rw [heed, if_pos ⟨hw, hp⟩, hstop]

end Loop

-- ---------------------------------------------------------------------------
-- Periodic jobs
-- ---------------------------------------------------------------------------

namespace Periodic

variable {p p₀ : Periodic}

/-- A periodic job does its rounds, or breaks down in one. -/
def loop : Loop Periodic where
  signal := signal
  withSignal p s := { p with signal := s }
  waits := isWaiting
  isOver p := p.isWaiting = false
  goesOn p p' := p.isWaiting = true ∧
    ((∃ removed, p' = p.worked removed) ∨ ∃ f, p' = { p with phase := .failed f })
  judged _ stop p := if stop then { p with phase := .stopped } else p
  signal_withSignal _ _ := rfl
  withSignal_withSignal _ _ _ := rfl
  waits_withSignal _ _ := rfl
  isOver_withSignal _ _ := Iff.rfl
  signal_goesOn := by
    rintro p p' ⟨-, ⟨removed, rfl⟩ | ⟨f, rfl⟩⟩
    · unfold worked
      split <;> rfl
    · rfl
  not_isOver_of_goesOn h ho := Bool.noConfusion (h.1.symm.trans ho)
  not_isOver_of_waits h ho := Bool.noConfusion (h.symm.trans ho)
  signal_judged _ stop p := by split <;> rfl
  waits_judged _ _ := rfl
  isOver_judged _ _ := rfl
  judged_judged _ _ _ := rfl

theorem heed_eq (p : Periodic) (now : Nat) : p.heed = loop.heed now p := by
  obtain ⟨period, signal, phase, rounds, removed⟩ := p
  cases phase with
  | waiting due =>
    cases hp : signal.pending with
    | false => simp [heed, Loop.heed, loop, hp]
    | true => cases hn : signal.notice.1 <;> simp [heed, Loop.heed, loop, isWaiting, hp, hn]
  | stopped => rfl
  | failed f => rfl

end Periodic
end ChainGateway.Schedule

namespace ChainGateway.Epoch

open Schedule

-- ---------------------------------------------------------------------------
-- The watch
-- ---------------------------------------------------------------------------

namespace Watch

variable {w w₀ : Watch} {now : Nat}

def isWaiting (w : Watch) : Bool :=
  match w.phase with
  | .waiting .. => true
  | _ => false

theorem isFinished_of_isWaiting (hw : w.isWaiting = true) : w.isFinished = false := by
  unfold isWaiting at hw
  split at hw
  · rename_i wait due hphase
    simp [isFinished, hphase]
  · cases hw

/-- The watch waits after a poll, unless the poll breaks it, and polls after a wait. -/
def loop : Loop Watch where
  signal := signal
  withSignal w s := { w with signal := s }
  waits := isWaiting
  isOver w := w.isFinished = true
  goesOn w w' := (w.phase = .fetching ∧ ∃ now next, w' = w.polled now next) ∨
    (w.isWaiting = true ∧ w' = w.fetch)
  judged now stop w :=
    if stop then { w with phase := .stopped }
    else match w.phase with
      | .waiting wait _ => { w with phase := .waiting wait (Instant.deadline now wait) }
      | _ => w
  signal_withSignal _ _ := rfl
  withSignal_withSignal _ _ _ := rfl
  waits_withSignal _ _ := rfl
  isOver_withSignal _ _ := Iff.rfl
  signal_goesOn := by
    rintro w w' (⟨-, now, next, rfl⟩ | ⟨-, rfl⟩)
    · cases next <;> rfl
    · rfl
  not_isOver_of_goesOn := by
    rintro w w' (⟨hf, -⟩ | ⟨hw, -⟩) ho
    · simp [isFinished, hf] at ho
    · exact Bool.noConfusion ((isFinished_of_isWaiting hw).symm.trans ho)
  not_isOver_of_waits hw ho := Bool.noConfusion ((isFinished_of_isWaiting hw).symm.trans ho)
  signal_judged now stop w := by
    split
    · rfl
    · split <;> rfl
  waits_judged now w := by
    obtain ⟨signal, phase⟩ := w
    cases phase <;> rfl
  isOver_judged _ _ := rfl
  judged_judged now w s := by
    obtain ⟨signal, phase⟩ := w
    cases phase <;> rfl

theorem heed_eq (w : Watch) (now : Nat) : w.heed now = loop.heed now w := by
  obtain ⟨signal, phase⟩ := w
  cases phase with
  | waiting wait due =>
    cases hp : signal.pending with
    | false => simp [heed, Loop.heed, loop, hp]
    | true => cases hn : signal.notice.1 <;> simp [heed, Loop.heed, loop, isWaiting, hp, hn]
  | fetching => rfl
  | stopped => rfl
  | failed f => rfl

end Watch

/-- Whatever was sent and whenever, a watch that waits while there is something to stop for has it
before it, and stops as it heeds it. So does a periodic job, unless the stop was no news when the job
was started and nothing was sent since: to that it is deaf. -/
theorem stops_heeded (signal : Signal) (period : Span) (start : Nat) (told : Bool) :
    (∀ w : Watch, Watch.loop.Reach (.start signal) told w none →
      (∀ now, Watch.loop.Reach (.start signal) told (w.heed now) none) ∧
      (w.isWaiting = true → w.signal.IsStop →
        w.signal.pending = true ∧ ∀ now, (w.heed now).phase = .stopped)) ∧
    (∀ p : Periodic, Periodic.loop.Reach (.start period signal start) told p none →
      Periodic.loop.Reach (.start period signal start) told p.heed none ∧
      (p.isWaiting = true → p.signal.IsStop →
        (p.signal.pending = true → p.heed.phase = .stopped) ∧
        (p.signal.pending = false → p.heed = p) ∧
        (p.signal.pending = false ↔ signal = .deaf ∧ told = false))) ∧
    ∀ p : Periodic, Periodic.loop.Reach (.start period (.new false) start) told p none →
      p.isWaiting = true → p.signal.IsStop →
      p.signal.pending = true ∧ p.heed.phase = .stopped := by
  have hperiodic : ∀ signal (p : Periodic),
      Periodic.loop.Reach (.start period signal start) told p none → p.isWaiting = true →
      p.signal.IsStop → (p.signal.pending = false ↔ signal = .deaf ∧ told = false) := by
    intro signal p h hw hs
    exact hs.pending_eq_false_iff.trans (h.deaf_iff (Periodic.loop.not_isOver_of_waits hw))
  have hstopped : ∀ p : Periodic, p.isWaiting = true → p.signal.IsStop →
      p.signal.pending = true → p.heed.phase = .stopped := by
    intro p hw hs hp
    rw [p.heed_eq 0, Periodic.loop.heed_of_isStop hw hp hs]
    rfl
  refine ⟨fun w h => ⟨fun now => w.heed_eq now ▸ h.heed now, fun hw hs => ?_⟩,
    fun p h => ⟨p.heed_eq 0 ▸ h.heed 0, fun hw hs => ⟨hstopped p hw hs, fun hp => ?_,
      hperiodic signal p h hw hs⟩⟩, fun p h hw hs => ?_⟩
  · have hover := Watch.loop.not_isOver_of_waits hw
    cases hp : w.signal.pending with
    | true =>
      refine ⟨rfl, fun now => ?_⟩
      rw [w.heed_eq now, Watch.loop.heed_of_isStop hw hp hs]
      rfl
    | false =>
      -- a watch that was to stop from the start is over before it begins
      obtain ⟨hstart, -⟩ := (h.deaf_iff hover).mp (hs.pending_eq_false_iff.mp hp)
      obtain rfl : signal = .deaf := hstart
      exact absurd (h.stays_over rfl).1 hover
  · exact (p.heed_eq 0).trans (Periodic.loop.heed_of_not_pending hp 0)
  · cases hp : p.signal.pending with
    | true => exact ⟨rfl, hstopped p hw hs hp⟩
    | false =>
      obtain ⟨hnew, -⟩ := (hperiodic (.new false) p h hw hs).mp hp
      cases hnew

/-- A report job that is started when the stop is no news any more does its rounds, and waits for the
next one while the stop stands. A watch that is started so does not poll. -/
theorem stops_heeded_of_deaf :
    let p : Periodic := .start (.ofMillis 1000) .deaf 0
    let p' : Periodic := ((p.heed.worked 0).heed.worked 0).heed.worked 0
    (Watch.start .deaf).phase = .stopped ∧ p'.rounds = 3 ∧ p'.phase = .waiting 3000 ∧
      p'.signal.IsStop ∧ p'.signal.pending = false ∧ p'.heed = p' := by
  intro p p'
  have hreach : Periodic.loop.Reach p false p' none := by
    have hround : ∀ {q : Periodic}, Periodic.loop.Reach p false q none → q.heed.isWaiting = true →
        Periodic.loop.Reach p false (q.heed.worked 0) none := fun {q} hq hw =>
      .goesOn (q.heed_eq 0 ▸ hq.heed 0) ⟨hw, .inl ⟨0, rfl⟩⟩
    exact hround (hround (hround .start rfl) rfl) rfl
  have hstop : p'.signal.IsStop := .inl rfl
  obtain ⟨-, hheeded⟩ := (stops_heeded .deaf (.ofMillis 1000) 0 false).2.1 p' hreach
  obtain ⟨-, hkept, hdeaf⟩ := hheeded rfl hstop
  have hpending : p'.signal.pending = false := hdeaf.mpr ⟨rfl, rfl⟩
  exact ⟨rfl, rfl, by decide, hstop, hpending, hkept hpending⟩

end ChainGateway.Epoch
