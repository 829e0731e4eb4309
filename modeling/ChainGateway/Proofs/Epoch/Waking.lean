import Mathlib.Data.List.Induction
import ChainGateway.Epoch.Watch
import ChainGateway.Proofs.Time.Delays
import ChainGateway.Proofs.Time.Waits

/-!
# Waking up

The next poll is put off until the deadline of the marker, the delay after its validation time, when
that is ahead of the clock; otherwise it comes after the usual interval. A delay too long to be added
at all is as good as none. A delay that can be added to timestamps but leads out of the calendar from
this one is a fault, and it ends the watch: `watched` says that nothing else does, and that
the watch never waits for no time at all.
-/

namespace ChainGateway.Epoch

open Schedule (Signal)

variable {p : Pacing} {m : Marker} {clock : Timestamp} {d : Timestamp} {w : Watch} {now : Nat}

-- ---------------------------------------------------------------------------
-- The next wake-up
-- ---------------------------------------------------------------------------

namespace Pacing

/-- Polls are worthwhile again at `d`. -/
def ResumesAt (p : Pacing) (m : Marker) (d : Timestamp) : Prop :=
  p.resumeDelay.nanos ≤ maxDelay ∧ m.validationTime.move? p.resumeDelay.nanos = some d

/-- The delay can be added to timestamps, but from this one it leads out of the calendar. -/
def Overshoots (p : Pacing) (m : Marker) : Prop :=
  p.resumeDelay.nanos ≤ maxDelay ∧
    Timestamp.lastTick ≤ m.validationTime.ticks + p.resumeDelay.nanos

theorem ResumesAt.not_overshoots (hm : m.validationTime.Proper) (h : p.ResumesAt m d) :
    ¬ p.Overshoots m := by
  intro ho
  rw [Overshoots, ← Timestamp.move?_eq_none_iff hm, h.2] at ho
  cases ho.2

/-- The deadline is where the delay leads from the validation time. -/
theorem ResumesAt.minus (hm : m.validationTime.Proper) (h : p.ResumesAt m d)
    (hv : m.validationTime.nanos < Timestamp.billion) (hc : clock.nanos < Timestamp.billion) :
    d.minus clock = m.validationTime.ticks + p.resumeDelay.nanos - clock.ticks := by
  obtain ⟨-, hticks, hnanos⟩ := Timestamp.ticks_of_move? hm h.2
  rw [Timestamp.minus_eq (hnanos hv) hc, hticks]

theorem nextWake_cases (hm : m.validationTime.Proper) (p : Pacing) (clock : Timestamp) :
    (p.Overshoots m ∧ p.nextWake clock (some m) = .error .timeOverflow) ∨
    (∃ d, p.ResumesAt m d ∧ 0 < d.minus clock ∧
      p.nextWake clock (some m) = .ok ⟨(d.minus clock).toNat⟩) ∨
    (¬ p.Overshoots m ∧ (∀ d, p.ResumesAt m d → d.minus clock ≤ 0) ∧
      p.nextWake clock (some m) = .ok p.pollInterval) := by
  unfold nextWake
  by_cases hmax : maxDelay < p.resumeDelay.nanos
  · refine .inr (.inr ⟨fun h => ?_, fun d h => ?_, if_pos hmax⟩)
    · exact absurd h.1 (Nat.not_le.mpr hmax)
    · exact absurd h.1 (Nat.not_le.mpr hmax)
  · have hle := Nat.not_lt.mp hmax
    dsimp only
    rw [if_neg hmax]
    cases hd : m.validationTime.move? p.resumeDelay.nanos with
    | none => exact .inl ⟨⟨hle, (Timestamp.move?_eq_none_iff hm _).mp hd⟩, rfl⟩
    | some d =>
      have hres : p.ResumesAt m d := ⟨hle, hd⟩
      dsimp only
      split
      · rename_i hpos
        exact .inr (.inl ⟨d, hres, hpos, rfl⟩)
      · rename_i hpos
        refine .inr (.inr ⟨hres.not_overshoots hm, fun d' h => ?_, rfl⟩)
        obtain rfl : d' = d := Option.some.inj (h.2.symm.trans hd)
        exact Int.not_lt.mp hpos

theorem nextWake_error_iff {f : Fault} (hm : m.validationTime.Proper) :
    p.nextWake clock (some m) = .error f ↔ f = .timeOverflow ∧ p.Overshoots m := by
  rcases nextWake_cases hm p clock with ⟨ho, hn⟩ | ⟨d, hres, -, hn⟩ | ⟨ho, -, hn⟩ <;> rw [hn]
  · simp [ho, eq_comm]
  · simp [hres.not_overshoots hm]
  · simp [ho]

/-- What comes after a poll that found `m`. -/
structure Wakes (p : Pacing) (clock : Timestamp) (m : Marker) : Prop where
  /-- A deadline ahead of the clock is waited for, exactly. -/
  ahead : ∀ d, p.ResumesAt m d → 0 < d.minus clock →
    p.nextWake clock (some m) = .ok ⟨(d.minus clock).toNat⟩
  /-- Otherwise the usual interval passes, also where the delay is too long to be added at all. -/
  usual : ¬ p.Overshoots m → (∀ d, p.ResumesAt m d → d.minus clock ≤ 0) →
    p.nextWake clock (some m) = .ok p.pollInterval
  fault : p.nextWake clock (some m) = .error .timeOverflow ↔ p.Overshoots m
  /-- Away from leap seconds the wait is what the delay leaves from the clock on. -/
  distance : ∀ d, p.ResumesAt m d → m.validationTime.nanos < Timestamp.billion →
    clock.nanos < Timestamp.billion →
    d.minus clock = m.validationTime.ticks + p.resumeDelay.nanos - clock.ticks

theorem wakes (hm : m.validationTime.Proper) (p : Pacing) (clock : Timestamp) :
    p.Wakes clock m where
  fault := by rw [nextWake_error_iff hm, eq_self, true_and]
  distance _ hd hv hc := hd.minus hm hv hc
  ahead d hd hpos := by
    rcases nextWake_cases hm p clock with ⟨ho, -⟩ | ⟨d', hd', -, hn⟩ | ⟨-, hle, -⟩
    · exact absurd ho (hd.not_overshoots hm)
    · obtain rfl : d' = d := Option.some.inj (hd'.2.symm.trans hd.2)
      exact hn
    · exact absurd hpos (Int.not_lt.mpr (hle d hd))
  usual ho hle := by
    rcases nextWake_cases hm p clock with ⟨ho', -⟩ | ⟨d, hd, hpos, -⟩ | ⟨-, -, hn⟩
    · exact absurd ho' ho
    · exact absurd hpos (Int.not_lt.mpr (hle d hd))
    · exact hn

theorem nextWake_pos {wait : Span} {found : Option Marker} (hp : 0 < p.pollInterval.nanos)
    (h : p.nextWake clock found = .ok wait) : 0 < wait.nanos := by
  unfold nextWake at h
  split at h
  · exact Except.ok.inj h ▸ hp
  · split at h
    · exact Except.ok.inj h ▸ hp
    · split at h
      · cases h
      · dsimp only at h
        split at h
        · rename_i hpos
          obtain rfl := Except.ok.inj h
          exact Int.pos_iff_toNat_pos.mp hpos
        · exact Except.ok.inj h ▸ hp

end Pacing

-- ---------------------------------------------------------------------------
-- The watch with its tracker
-- ---------------------------------------------------------------------------

/-- Takes notice of the signal and asks again if the wait is over. -/
def Watch.wake (w : Watch) (now : Nat) : Watch :=
  let w := w.heed now
  if w.isDue now then w.fetch else w

/-- The tracker and the watch that polls for it. -/
structure Vigil where
  /-- The moment of the latest event. -/
  now : Nat
  tracker : Tracker
  watch : Watch

namespace Vigil

/-- What may happen next, and when; an answer comes with a reading of the wall clock. -/
inductive Event
  | answered (now : Nat) (clock : Timestamp) (outcome : Except ReadError Marker)
  | told (now : Nat) (stop : Bool)
  | abandoned (now : Nat)
  | woken (now : Nat)

def start (p : Pacing) (signal : Signal) : Vigil := ⟨0, .new p, .start signal⟩

/-- An answer counts only while the source is being asked. -/
def step (v : Vigil) : Event → Vigil
  | .answered now clock outcome =>
    if v.watch.phase = .fetching then
      let (poll, _, tracker) := v.tracker.poll outcome
      ⟨now, tracker,
        (v.watch.polled now (tracker.pacing.nextWake clock poll.marker)).heed now⟩
    else v
  | .told now stop =>
    ⟨now, v.tracker, { v.watch with signal := v.watch.signal.send stop }.wake now⟩
  | .abandoned now =>
    ⟨now, v.tracker, { v.watch with signal := v.watch.signal.disconnect }.wake now⟩
  | .woken now => ⟨now, v.tracker, v.watch.wake now⟩

def run (v : Vigil) (events : List Event) : Vigil := events.foldl step v

end Vigil

theorem Tracker.poll_pacing (t : Tracker) (outcome : Except ReadError Marker) :
    (t.poll outcome).2.2.pacing = t.pacing := by
  cases outcome with
  | error e => rfl
  | ok latest =>
    simp only [Tracker.poll, Tracker.observe]
    split
    · rfl
    · split
      · rfl
      · split <;> rfl

theorem Tracker.poll_marker (t : Tracker) (outcome : Except ReadError Marker) :
    (t.poll outcome).1.marker = outcome.toOption := by
  cases outcome <;> rfl

namespace Watch

variable {f : Fault} {wait : Span} {due : Nat} {next : Except Fault Span}

theorem heed_failed_iff : (w.heed now).phase = .failed f ↔ w.phase = .failed f := by
  unfold heed
  cases hw : w.phase with
  | waiting wait due =>
    dsimp only
    split
    · dsimp only
      split <;> simp
    · simp [hw]
  | fetching | stopped | failed => simp [hw]

theorem wake_failed_iff : (w.wake now).phase = .failed f ↔ w.phase = .failed f := by
  have hheed : (w.heed now).phase = .failed f ↔ w.phase = .failed f := heed_failed_iff
  rw [← hheed, wake]
  cases hw : (w.heed now).phase <;> simp [isDue, hw, fetch]
  split <;> simp [hw]

theorem polled_failed_iff : ((w.polled now next).heed now).phase = .failed f ↔ next = .error f := by
  rw [heed_failed_iff]
  cases next <;> simp [polled]

/-- A wait that is over is not waited for. -/
structure Patient (w : Watch) (now : Nat) : Prop where
  pos : ∀ wait due, w.phase = .waiting wait due → 0 < wait.nanos
  ahead : ∀ wait due, w.phase = .waiting wait due → now < due

theorem heed_of_not_pending (h : w.signal.pending = false) : w.heed now = w := by
  unfold heed
  split
  · exact if_neg (by simp [h])
  · rfl

theorem heed_of_pending (hw : w.phase = .waiting wait due) (h : w.signal.pending = true) :
    w.heed now = ⟨w.signal.notice.2,
      if w.signal.notice.1 then .stopped else .waiting wait (Instant.deadline now wait)⟩ := by
  rw [heed, hw]
  exact if_pos h

/-- A watch that waits on has nothing left to notice. Unless it had nothing to notice before either,
it has begun its wait anew. -/
theorem heed_waiting (h : (w.heed now).phase = .waiting wait due) :
    (w.heed now).signal.pending = false ∧
    (∃ due', w.phase = .waiting wait due') ∧
    ((w.signal.pending = false ∧ w.phase = .waiting wait due) ∨
      w.signal.connected = true ∧ due = Instant.deadline now wait) := by
  cases hp : w.signal.pending with
  | false =>
    rw [heed_of_not_pending hp] at h ⊢
    exact ⟨hp, ⟨due, h⟩, .inl ⟨rfl, h⟩⟩
  | true =>
    cases hw : w.phase with
    | waiting wait' due' =>
      rw [heed_of_pending hw hp] at h ⊢
      dsimp only at h ⊢
      split at h
      · cases h
      · rename_i hstop
        obtain ⟨rfl, rfl⟩ := Phase.waiting.inj h
        obtain ⟨-, hconnected⟩ : w.signal.stop = false ∧ w.signal.connected = true := by
          simpa [Signal.notice] using hstop
        exact ⟨by simp [Signal.notice, Signal.pending, hconnected], ⟨due', rfl⟩,
          .inr ⟨hconnected, rfl⟩⟩
    | fetching | stopped | failed =>
      simp only [heed, hw] at h
      cases h

theorem patient_wake (w : Watch) (now : Nat)
    (hpos : ∀ wait due, w.phase = .waiting wait due → 0 < wait.nanos) : (w.wake now).Patient now := by
  have hkeep : ∀ wait due, (w.wake now).phase = .waiting wait due →
      (w.heed now).phase = .waiting wait due ∧ now < due := by
    intro wait due h
    unfold wake at h
    dsimp only at h
    split at h
    · cases h
    · rename_i hdue
      exact ⟨h, by simpa [isDue, h] using hdue⟩
  refine ⟨fun wait due h => ?_, fun wait due h => (hkeep wait due h).2⟩
  obtain ⟨-, ⟨due', hw⟩, -⟩ := heed_waiting (hkeep wait due h).1
  exact hpos wait due' hw

theorem patient_polled (hpos : ∀ wait, next = .ok wait → 0 < wait.nanos) (w : Watch) (now : Nat) :
    ((w.polled now next).heed now).Patient now := by
  have hpolled : ∀ wait due, (w.polled now next).phase = .waiting wait due →
      next = .ok wait ∧ due = Instant.deadline now wait := by
    intro wait due h
    cases next with
    | ok wait' =>
      obtain ⟨rfl, rfl⟩ := Phase.waiting.inj h
      exact ⟨rfl, rfl⟩
    | error f => cases h
  refine ⟨fun wait due h => ?_, fun wait due h => ?_⟩ <;>
    obtain ⟨-, ⟨due', hw⟩, hdue⟩ := heed_waiting h <;>
    have hwait := hpos wait (hpolled wait due' hw).1
  · exact hwait
  · rcases hdue with ⟨-, hw'⟩ | ⟨-, rfl⟩
    · rw [(hpolled wait due hw').2]
      exact Instant.lt_deadline hwait now
    · exact Instant.lt_deadline hwait now

end Watch

namespace Vigil

variable {v : Vigil} {e : Event} {events : List Event} {f : Fault}

/-- The source gives a marker from which the delay leads out of the calendar. -/
def Fatal (p : Pacing) (v : Vigil) (e : Event) : Prop :=
  v.watch.phase = .fetching ∧
    ∃ now clock m, e = .answered now clock (.ok m) ∧ p.Overshoots m

def Event.Proper : Event → Prop
  | .answered _ _ (.ok m) => m.validationTime.Proper
  | _ => True

-- ---------------------------------------------------------------------------
-- One event
-- ---------------------------------------------------------------------------

theorem step_pacing (v : Vigil) (e : Event) :
    (v.step e).tracker.pacing = v.tracker.pacing := by
  cases e with
  | answered now clock outcome =>
    unfold step
    dsimp only
    split
    · exact v.tracker.poll_pacing outcome
    · rfl
  | told | abandoned | woken => rfl

theorem step_answered {now : Nat} {outcome : Except ReadError Marker}
    (hv : v.watch.phase = .fetching) :
    (v.step (.answered now clock outcome)).watch =
      (v.watch.polled now (v.tracker.pacing.nextWake clock outcome.toOption)).heed now := by
  rw [step, if_pos hv]
  simp only [Tracker.poll_pacing, Tracker.poll_marker]

theorem step_patient (hpos : 0 < v.tracker.pacing.pollInterval.nanos)
    (h : v.watch.Patient v.now) (e : Event) : (v.step e).watch.Patient (v.step e).now := by
  cases e with
  | answered now clock outcome =>
    by_cases hv : v.watch.phase = .fetching
    · have hnow : (v.step (.answered now clock outcome)).now = now := by
        rw [step, if_pos hv]
      rw [step_answered hv, hnow]
      exact Watch.patient_polled (fun wait => Pacing.nextWake_pos hpos) v.watch now
    · rw [step, if_neg hv]
      exact h
  | told now _ | abandoned now | woken now =>
    exact Watch.patient_wake _ now fun wait due hw => h.pos wait due hw

theorem step_failed_iff (he : e.Proper) (hp : v.tracker.pacing = p) :
    (v.step e).watch.phase = .failed f ↔
      v.watch.phase = .failed f ∨ f = .timeOverflow ∧ Fatal p v e := by
  cases e with
  | answered now clock outcome =>
    by_cases hv : v.watch.phase = .fetching
    · rw [step_answered hv, Watch.polled_failed_iff, hp]
      have hnot : v.watch.phase ≠ .failed f := by
        rw [hv]
        exact Phase.noConfusion
      cases outcome with
      | error cause => simp [Except.toOption, Pacing.nextWake, hnot, Fatal]
      | ok m =>
        rw [Except.toOption, Pacing.nextWake_error_iff he]
        constructor
        · rintro ⟨hf, ho⟩
          exact .inr ⟨hf, hv, now, clock, m, rfl, ho⟩
        · rintro (h | ⟨hf, -, _, _, _, he, ho⟩)
          · exact absurd h hnot
          · cases he
            exact ⟨hf, ho⟩
    · rw [step, if_neg hv]
      exact ⟨.inl, fun h => h.resolve_right fun h => hv h.2.1⟩
  | told now stop | abandoned now | woken now =>
    refine Watch.wake_failed_iff.trans ⟨.inl, fun h => h.resolve_right ?_⟩
    rintro ⟨-, -, _, _, _, h, -⟩
    cases h

-- ---------------------------------------------------------------------------
-- Whole runs
-- ---------------------------------------------------------------------------

theorem run_snoc (v : Vigil) (events : List Event) (e : Event) :
    v.run (events ++ [e]) = (v.run events).step e := by
  rw [run, List.foldl_append]
  rfl

theorem run_pacing (v : Vigil) (events : List Event) :
    (v.run events).tracker.pacing = v.tracker.pacing := by
  induction events using List.reverseRecOn with
  | nil => rfl
  | append_singleton events e ih => rw [run_snoc, step_pacing, ih]

theorem run_patient (hpos : 0 < v.tracker.pacing.pollInterval.nanos)
    (h : v.watch.Patient v.now) (events : List Event) :
    (v.run events).watch.Patient (v.run events).now := by
  induction events using List.reverseRecOn with
  | nil => exact h
  | append_singleton events e ih =>
    rw [run_snoc]
    exact step_patient (by rwa [run_pacing]) ih e

theorem run_failed_iff (he : ∀ e ∈ events, e.Proper) (hp : v.tracker.pacing = p)
    (hv : v.watch.phase ≠ .failed f) :
    (v.run events).watch.phase = .failed f ↔ f = .timeOverflow ∧
      ∃ before e after, events = before ++ e :: after ∧ Fatal p (v.run before) e := by
  induction events using List.reverseRecOn with
  | nil => simp [run, hv]
  | append_singleton events e ih =>
    simp only [List.forall_mem_append, List.forall_mem_singleton] at he
    rw [run_snoc, step_failed_iff he.2 ((run_pacing v events).trans hp), ih he.1]
    constructor
    · rintro (⟨hf, before, e', after, rfl, hfatal⟩ | ⟨hf, hfatal⟩)
      · exact ⟨hf, before, e', after ++ [e], by simp, hfatal⟩
      · exact ⟨hf, events, e, [], rfl, hfatal⟩
    · rintro ⟨hf, before, e', after, heq, hfatal⟩
      rcases List.eq_nil_or_concat after with rfl | ⟨after, last, rfl⟩
      · obtain ⟨rfl, hlast⟩ := List.append_inj' heq rfl
        obtain rfl := List.singleton_inj.mp hlast
        exact .inr ⟨hf, hfatal⟩
      · have heq' : events ++ [e] = (before ++ e' :: after) ++ [last] := by simpa using heq
        exact .inl ⟨hf, before, e', after, (List.append_inj' heq' rfl).1, hfatal⟩

theorem start_patient (p : Pacing) (signal : Signal) : (start p signal).watch.Patient 0 := by
  have hphase : ∀ wait due, (start p signal).watch.phase ≠ .waiting wait due := by
    intro wait due
    unfold start Watch.start
    dsimp only
    split <;> exact Phase.noConfusion
  exact ⟨fun wait due h => absurd h (hphase wait due), fun wait due h => absurd h (hphase wait due)⟩

theorem start_not_failed (p : Pacing) (signal : Signal) (f : Fault) :
    (start p signal).watch.phase ≠ .failed f := by
  unfold start Watch.start
  dsimp only
  split <;> exact Phase.noConfusion

end Vigil

/-- The next wake-up for every marker and reading of the clock, and what it makes of a watch: with an
interval it never waits for no time or for a moment that is over, and it fails just when the source
gives a marker from which the delay leads out of the calendar. -/
theorem watched (p : Pacing) (signal : Signal) (events : List Vigil.Event)
    (he : ∀ e ∈ events, e.Proper) :
    (∀ clock, p.nextWake clock none = .ok p.pollInterval) ∧
    (∀ clock m, m.validationTime.Proper → p.Wakes clock m) ∧
    let v := (Vigil.start p signal).run events
    (0 < p.pollInterval.nanos → ∀ wait due, v.watch.phase = .waiting wait due →
      0 < wait.nanos ∧ v.now < due) ∧
    ∀ f, v.watch.phase = .failed f ↔ f = .timeOverflow ∧
      ∃ before e after, events = before ++ e :: after ∧
        Vigil.Fatal p ((Vigil.start p signal).run before) e := by
  refine ⟨fun _ => rfl, fun clock m hm => Pacing.wakes hm p clock, fun hpos wait due hw => ?_,
    fun f => Vigil.run_failed_iff he rfl (Vigil.start_not_failed p signal f)⟩
  have hpatient := Vigil.run_patient (v := .start p signal) hpos (Vigil.start_patient p signal) events
  exact ⟨hpatient.pos wait due hw, hpatient.ahead wait due hw⟩

/-- Validation at noon, and a delay that timestamps can take, but not this one. With the usual delay
the wait is for the 85 minutes that are left at eleven. -/
theorem watched_of_longDelay :
    let noon : Marker := ⟨10, ⟨1709294400, 0⟩⟩
    let clock : Timestamp := ⟨1709290800, 0⟩
    let p : Pacing := ⟨.ofMillis 7, .ofSeconds 9223372036854775⟩
    noon.validationTime.Proper ∧ p.Overshoots noon ∧
      p.nextWake clock (some noon) = .error .timeOverflow ∧
      ((Vigil.start p (.new false)).run [.answered 0 clock (.ok noon)]).watch.phase =
        .failed .timeOverflow ∧
      Pacing.standard.nextWake clock (some noon) = .ok (.ofMinutes 85) := by
  intro noon clock p
  have hnoon : noon.validationTime.Proper := ⟨by decide, by decide, by decide⟩
  have hover : p.Overshoots noon := ⟨by decide, by decide⟩
  have hevents : ∀ e ∈ [Vigil.Event.answered 0 clock (.ok noon)], e.Proper :=
    List.forall_mem_singleton.mpr hnoon
  obtain ⟨-, hwakes, -, hfailed⟩ := watched p (.new false) _ hevents
  obtain ⟨-, hstandard, -⟩ := watched Pacing.standard (.new false) _ hevents
  refine ⟨hnoon, hover, (hwakes clock noon hnoon).fault.mpr hover,
    (hfailed .timeOverflow).mpr ⟨rfl, [], _, [], rfl, rfl, 0, clock, noon, rfl, hover⟩, ?_⟩
  have hminutes : (Timestamp.minus ⟨1709295900, 0⟩ clock).toNat = (Span.ofMinutes 85).nanos := by
    decide
  rw [(hstandard clock noon hnoon).ahead ⟨1709295900, 0⟩ ⟨by decide, by decide⟩ (by decide),
    hminutes]

end ChainGateway.Epoch
