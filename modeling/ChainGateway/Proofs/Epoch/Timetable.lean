import ChainGateway.Proofs.Epoch.Waking

/-!
# When the watch polls

Every wait begins when a poll is over, and anew with each piece of news that is no stop. A diary of
a run holds the laps from one poll to the next with the news in their waits. Each poll begins where
the wait ends that is counted from the last of these, so the polls come when they would have come
without news just where no lap is longer for it. As long as there is news before every wait is over
no poll comes at all.
-/

namespace ChainGateway.Epoch

open Schedule (Signal)

-- ---------------------------------------------------------------------------
-- Notice and the end of a wait
-- ---------------------------------------------------------------------------

namespace Watch

variable {w : Watch} {wait : Span} {due now : Nat}

theorem heed_fetching (h : (w.heed now).phase = .fetching) : w.phase = .fetching := by
  unfold heed at h
  split at h
  · split at h
    · dsimp only at h
      split at h <;> cases h
    · exact h
  · exact h

theorem polled_waiting {next : Except Fault Span}
    (h : ((w.polled now next).heed now).phase = .waiting wait due) :
    next = .ok wait ∧ due = Instant.deadline now wait ∧
      ((w.polled now next).heed now).signal.pending = false := by
  obtain ⟨hpending, ⟨due', hw⟩, hdue⟩ := heed_waiting h
  cases next with
  | error f => cases hw
  | ok wait' =>
    obtain ⟨rfl, rfl⟩ := Phase.waiting.inj hw
    refine ⟨rfl, ?_, hpending⟩
    rcases hdue with ⟨-, hsame⟩ | ⟨-, hdue⟩
    · exact (Phase.waiting.inj hsame).2.symm
    · exact hdue

theorem polled_ne_fetching (w : Watch) (now : Nat) (next : Except Fault Span) :
    ((w.polled now next).heed now).phase ≠ .fetching := by
  intro h
  cases next <;> cases heed_fetching h

/-- After taking notice the watch polls if its wait is over. -/
theorem wake_cases (w : Watch) (now : Nat) :
    w.wake now = w.heed now ∨
    ∃ wait due, (w.heed now).phase = .waiting wait due ∧ due ≤ now ∧
      (w.wake now).phase = .fetching := by
  unfold wake
  dsimp only
  by_cases hdue : (w.heed now).isDue now = true
  · rw [if_pos hdue]
    unfold isDue at hdue
    split at hdue
    · rename_i wait due hw
      exact .inr ⟨wait, due, hw, by simpa using hdue, rfl⟩
    · cases hdue
  · exact .inl (if_neg hdue)

theorem wake_due (hw : w.phase = .waiting wait due) (hp : w.signal.pending = false)
    (hle : due ≤ now) : w.wake now = w.fetch := by
  rw [wake, heed_of_not_pending hp]
  exact if_pos (by simpa [isDue, hw] using hle)

end Watch

-- ---------------------------------------------------------------------------
-- Laps
-- ---------------------------------------------------------------------------

/-- From a poll to the next one. -/
structure Lap where
  asked : Nat
  answered : Nat
  clock : Timestamp
  outcome : Except ReadError Marker
  wait : Span
  /-- When there was news while the watch was waiting. -/
  news : List Nat

namespace Lap

variable {l : Lap}

/-- The moment from which the wait is counted in the end. -/
def since (l : Lap) : Nat := l.news.getLastD l.answered

/-- The end of the wait. -/
def ends (l : Lap) : Nat := Instant.deadline l.since l.wait

/-- The wait is what the pacing says after the answer. -/
structure Sound (p : Pacing) (l : Lap) : Prop where
  asked : l.asked ≤ l.answered
  answered : l.answered ≤ l.since
  wait : p.nextWake l.clock l.outcome.toOption = .ok l.wait

/-- The lap with another piece of news. -/
def tell (l : Lap) (now : Nat) : Lap := { l with news := l.news ++ [now] }

theorem since_tell (l : Lap) (now : Nat) : (l.tell now).since = now := by
  simp [since, tell]

theorem ends_tell (l : Lap) (now : Nat) : (l.tell now).ends = Instant.deadline now l.wait := by
  rw [ends, since_tell]
  rfl

theorem Sound.tell {p : Pacing} {now : Nat} (h : l.Sound p) (hle : l.since ≤ now) :
    (l.tell now).Sound p where
  asked := h.asked
  answered := by
    rw [since_tell]
    exact Nat.le_trans h.answered hle
  wait := h.wait

/-- The lap as it would have been from the moment `t` on, with the same answer after as long a poll,
and no news. -/
def undisturbed (l : Lap) (t : Nat) : Lap :=
  { l with asked := t, answered := t + (l.answered - l.asked), news := [] }

theorem Sound.undisturbed {p : Pacing} (h : l.Sound p) (t : Nat) : (l.undisturbed t).Sound p where
  asked := Nat.le_add_right _ _
  answered := Nat.le_refl _
  wait := h.wait

/-- Nobody says anything, and the watch wakes up when the wait is over. -/
def events (l : Lap) : List Vigil.Event := [.answered l.answered l.clock l.outcome, .woken l.ends]

end Lap

/-- The laps follow one another from the moment `t`, and the last ends at `t'`. -/
def Follows (t : Nat) : List Lap → Nat → Prop
  | [], t' => t' = t
  | l :: laps, t' => l.asked = t ∧ Follows l.ends laps t'

/-- The laps as they would have been from the moment `t` on without news. -/
def undisturbed (t : Nat) : List Lap → List Lap
  | [] => []
  | l :: laps => l.undisturbed t :: undisturbed (l.undisturbed t).ends laps

section Laps

variable {t t' : Nat} {l : Lap} {laps : List Lap} {p : Pacing}

theorem Follows.snoc (h : Follows t laps l.asked) (ht : t' = l.ends) :
    Follows t (laps ++ [l]) t' := by
  induction laps generalizing t with
  | nil => exact ⟨h, ht⟩
  | cons first laps ih => exact ⟨h.1, ih h.2⟩

theorem Follows.head? (h : Follows t laps t') : (laps.map Lap.asked ++ [t']).head? = some t := by
  cases laps with
  | nil => exact congrArg some h
  | cons l laps => exact congrArg some h.1

end Laps

-- ---------------------------------------------------------------------------
-- Diaries
-- ---------------------------------------------------------------------------

def Vigil.Event.now : Vigil.Event → Nat
  | .answered now _ _ | .told now _ | .abandoned now | .woken now => now

/-- An event comes no earlier than the one before it, and no later than the end of the wait. -/
structure Vigil.Timely (v : Vigil) (e : Event) : Prop where
  order : v.now ≤ e.now
  due : ∀ wait due, v.watch.phase = .waiting wait due → e.now ≤ due

instance (v : Vigil) (e : Vigil.Event) : Decidable (v.Timely e) :=
  match hv : v.watch.phase with
  | .waiting _ due =>
    decidable_of_iff (v.now ≤ e.now ∧ e.now ≤ due)
      ⟨fun h => ⟨h.1, fun _ _ hw => (Phase.waiting.inj (hv.symm.trans hw)).2 ▸ h.2⟩,
        fun h => ⟨h.order, h.due _ due hv⟩⟩
  | .fetching | .stopped | .failed _ =>
    decidable_of_iff (v.now ≤ e.now)
      ⟨fun h => ⟨h, fun _ _ hw => Phase.noConfusion (hv.symm.trans hw)⟩, fun h => h.order⟩

/-- A run of the watch with the laps that are over, and the one underway once its poll is
answered. -/
structure Diary where
  vigil : Vigil
  asked : Nat
  lap : Option Lap
  laps : List Lap

namespace Diary

variable {p : Pacing} {signal : Signal} {d : Diary} {e : Vigil.Event} {events : List Vigil.Event}
  {l : Lap} {now t : Nat}

/-- The tracker once polls have come to these outcomes. -/
def heard (p : Pacing) (outcomes : List (Except ReadError Marker)) : Tracker :=
  outcomes.foldl (fun t outcome => (t.poll outcome).2.2) (.new p)

def start (p : Pacing) (signal : Signal) : Diary := ⟨.start p signal, 0, none, []⟩

/-- The lap underway after an event. -/
def note (d : Diary) : Vigil.Event → Option Lap
  | .answered now clock outcome =>
    if d.vigil.watch.phase = .fetching then
      match d.vigil.tracker.pacing.nextWake clock outcome.toOption with
      | .ok wait => some ⟨d.asked, now, clock, outcome, wait, []⟩
      | .error _ => none
    else d.lap
  | .told now _ => d.lap.map (·.tell now)
  | .abandoned _ | .woken _ => d.lap

/-- The diary when the watch has become that of `v`; a poll that begins ends the lap. -/
def turn (d : Diary) (v : Vigil) (lap : Option Lap) : Diary :=
  if d.vigil.watch.phase ≠ .fetching ∧ v.watch.phase = .fetching then
    ⟨v, v.now, none, d.laps ++ lap.toList⟩
  else ⟨v, d.asked, lap, d.laps⟩

def step (d : Diary) (e : Vigil.Event) : Diary := d.turn (d.vigil.step e) (d.note e)

def run (d : Diary) (events : List Vigil.Event) : Diary := events.foldl step d

/-- When polls began. -/
def polls (d : Diary) : List Nat := d.laps.map Lap.asked ++ [d.asked]

/-- Every event comes in time. -/
def Timely (d : Diary) : List Vigil.Event → Prop
  | [] => True
  | e :: events => d.vigil.Timely e ∧ (d.step e).Timely events

instance decidableTimely (d : Diary) : (events : List Vigil.Event) → Decidable (d.Timely events)
  | [] => isTrue trivial
  | e :: events =>
    have := decidableTimely (d.step e) events
    inferInstanceAs (Decidable (d.vigil.Timely e ∧ (d.step e).Timely events))

/-- What holds at every moment of a run. -/
structure Kept (p : Pacing) (d : Diary) : Prop where
  pacing : d.vigil.tracker.pacing = p
  tracker : (∀ f, d.vigil.watch.phase ≠ .failed f) →
    d.vigil.tracker = heard p (d.laps.map Lap.outcome ++ (d.lap.map Lap.outcome).toList)
  follows : Follows 0 d.laps d.asked
  sound : ∀ l ∈ d.laps, l.Sound p
  asked : d.asked ≤ d.vigil.now
  lap : ∀ l, d.lap = some l → l.asked = d.asked ∧ l.Sound p ∧ l.since ≤ d.vigil.now
  fetching : d.vigil.watch.phase = .fetching → d.lap = none
  /-- News is noticed at once by a watch that waits. -/
  waiting : ∀ wait due, d.vigil.watch.phase = .waiting wait due →
    d.vigil.watch.signal.pending = false ∧ ∃ l, d.lap = some l ∧ l.wait = wait ∧ due = l.ends

/-- A diary goes on when the watch wakes up, provided that the lap says until when it is waiting. -/
theorem Kept.wake {w : Watch} {lap : Option Lap} (h : d.Kept p) (hw : w.phase = d.vigil.watch.phase)
    (hnow : d.vigil.now ≤ now) (hout : lap.map Lap.outcome = d.lap.map Lap.outcome)
    (hlap : ∀ l, lap = some l → l.asked = d.asked ∧ l.Sound p ∧ l.since ≤ now)
    (hfetching : w.phase = .fetching → lap = none)
    (hwaiting : ∀ wait due, (w.heed now).phase = .waiting wait due →
      (w.heed now).signal.pending = false ∧ now ≤ due ∧
        ∃ l, lap = some l ∧ l.wait = wait ∧ due = l.ends) :
    (d.turn ⟨now, d.vigil.tracker, w.wake now⟩ lap).Kept p := by
  have htracker : (∀ f, (w.wake now).phase ≠ .failed f) →
      d.vigil.tracker = heard p (d.laps.map Lap.outcome ++ (lap.map Lap.outcome).toList) := by
    intro hf
    rw [hout]
    exact h.tracker fun f hfailed => hf f (Watch.wake_failed_iff.mpr (hw.trans hfailed))
  rcases w.wake_cases now with hsame | ⟨wait, due, hdue, hle, hpolls⟩
  · have hturn : d.turn ⟨now, d.vigil.tracker, w.wake now⟩ lap =
        ⟨⟨now, d.vigil.tracker, w.heed now⟩, d.asked, lap, d.laps⟩ := by
      rw [turn, hsame]
      exact if_neg fun hpoll => hpoll.1 (hw ▸ Watch.heed_fetching hpoll.2)
    rw [hturn]
    exact
      { pacing := h.pacing
        tracker := hsame ▸ htracker
        follows := h.follows
        sound := h.sound
        asked := Nat.le_trans h.asked hnow
        lap := hlap
        fetching := fun hf => hfetching (Watch.heed_fetching hf)
        waiting := fun wait due hdue =>
          ⟨(hwaiting wait due hdue).1, (hwaiting wait due hdue).2.2⟩ }
  · obtain ⟨-, hahead, l, rfl, -, hends⟩ := hwaiting wait due hdue
    obtain ⟨hasked, hsound, -⟩ := hlap l rfl
    have hend : now = l.ends := by omega
    have hfollows : Follows 0 d.laps l.asked := hasked ▸ h.follows
    have hbefore : d.vigil.watch.phase ≠ .fetching := by
      intro hf
      rw [← hw] at hf
      cases hfetching hf
    have hturn : d.turn ⟨now, d.vigil.tracker, w.wake now⟩ (some l) =
        ⟨⟨now, d.vigil.tracker, w.wake now⟩, now, none, d.laps ++ [l]⟩ :=
      if_pos ⟨hbefore, hpolls⟩
    rw [hturn]
    exact
      { pacing := h.pacing
        tracker := fun hf => by simpa using htracker hf
        follows := hfollows.snoc hend
        sound := List.forall_mem_append.mpr ⟨h.sound, List.forall_mem_singleton.mpr hsound⟩
        asked := Nat.le_refl now
        lap := fun l hl => nomatch hl
        fetching := fun _ => rfl
        waiting := fun wait due hdue => by
          rw [hpolls] at hdue
          cases hdue }

theorem step_answered {clock : Timestamp} {outcome : Except ReadError Marker}
    (hf : d.vigil.watch.phase = .fetching) : d.step (.answered now clock outcome) =
      ⟨d.vigil.step (.answered now clock outcome), d.asked, d.note (.answered now clock outcome),
        d.laps⟩ :=
  if_neg fun hpoll => hpoll.1 hf

theorem note_answered {clock : Timestamp} {outcome : Except ReadError Marker}
    (hf : d.vigil.watch.phase = .fetching) : d.note (.answered now clock outcome) = some l ↔
      ∃ wait, d.vigil.tracker.pacing.nextWake clock outcome.toOption = .ok wait ∧
        ⟨d.asked, now, clock, outcome, wait, []⟩ = l := by
  rw [note, if_pos hf]
  cases d.vigil.tracker.pacing.nextWake clock outcome.toOption <;> simp

/-- An answer is heard, and its lap begins unless the pacing has no end for its wait. -/
theorem Kept.answered {clock : Timestamp} {outcome : Except ReadError Marker} (h : d.Kept p)
    (hf : d.vigil.watch.phase = .fetching) (hnow : d.vigil.now ≤ now) :
    (d.step (.answered now clock outcome)).Kept p := by
  obtain rfl := h.pacing
  have hmoment : (d.vigil.step (.answered now clock outcome)).now = now := by
    rw [Vigil.step, if_pos hf]
  have hwatch := @Vigil.step_answered clock d.vigil now outcome hf
  have htracker : (d.vigil.step (.answered now clock outcome)).tracker =
      heard d.vigil.tracker.pacing (d.laps.map Lap.outcome ++ [outcome]) := by
    have hbefore : d.vigil.tracker = heard d.vigil.tracker.pacing (d.laps.map Lap.outcome) := by
      simpa [h.fetching hf] using h.tracker (by simp [hf])
    rw [Vigil.step, if_pos hf, heard, List.foldl_append, ← heard, ← hbefore]
    rfl
  rw [step_answered hf]
  exact
    { pacing := Vigil.step_pacing _ _
      tracker := fun hok => by
        dsimp only at hok ⊢
        rw [hwatch] at hok
        cases hnext : d.vigil.tracker.pacing.nextWake clock outcome.toOption with
        | error f => exact absurd (Watch.polled_failed_iff.mpr hnext) (hok f)
        | ok wait =>
          rw [htracker, (note_answered hf).mpr ⟨wait, hnext, rfl⟩]
          rfl
      follows := h.follows
      sound := h.sound
      asked := hmoment.symm ▸ Nat.le_trans h.asked hnow
      lap := fun l hl => by
        obtain ⟨wait, hwait, rfl⟩ := (note_answered hf).mp hl
        exact ⟨rfl, ⟨Nat.le_trans h.asked hnow, Nat.le_refl _, hwait⟩, Nat.le_of_eq hmoment.symm⟩
      fetching := fun hf' => by
        dsimp only at hf'
        rw [hwatch] at hf'
        exact absurd hf' (Watch.polled_ne_fetching _ _ _)
      waiting := fun wait due hw => by
        dsimp only at hw ⊢
        rw [hwatch] at hw ⊢
        obtain ⟨hwait, rfl, hpending⟩ := Watch.polled_waiting hw
        exact ⟨hpending, _, (note_answered hf).mpr ⟨wait, hwait, rfl⟩, rfl, rfl⟩ }

theorem Kept.step (h : d.Kept p) (he : d.vigil.Timely e) : (d.step e).Kept p := by
  have hunder : ∀ l, d.lap = some l → l.asked = d.asked ∧ l.Sound p ∧ l.since ≤ e.now :=
    fun l hl => ⟨(h.lap l hl).1, (h.lap l hl).2.1, Nat.le_trans (h.lap l hl).2.2 he.order⟩
  cases e with
  | answered now clock outcome =>
    by_cases hf : d.vigil.watch.phase = .fetching
    · exact h.answered hf he.order
    · have hstep : d.step (.answered now clock outcome) = d := by
        rw [step, note, if_neg hf, Vigil.step, if_neg hf]
        exact if_neg fun hpoll => hf hpoll.2
      exact hstep.symm ▸ h
  | told now stop =>
    have hout : (d.lap.map (·.tell now)).map Lap.outcome = d.lap.map Lap.outcome :=
      Option.map_map _ _ _
    refine h.wake rfl he.order hout (fun l hl => ?_) (fun hf => ?_) fun wait due hw => ?_
    · obtain ⟨l, hl', rfl⟩ := Option.map_eq_some_iff.mp hl
      obtain ⟨hasked, hsound, hsince⟩ := hunder l hl'
      exact ⟨hasked, hsound.tell hsince, Nat.le_of_eq (l.since_tell now)⟩
    · exact congrArg (Option.map _) (h.fetching hf)
    · obtain ⟨hpending, ⟨due', hw'⟩, ⟨hidle, -⟩ | ⟨-, rfl⟩⟩ := Watch.heed_waiting hw
      · cases hidle
      · obtain ⟨-, l, hl, rfl, -⟩ := h.waiting wait due' hw'
        exact ⟨hpending, Instant.le_deadline, l.tell now, congrArg (Option.map _) hl, rfl,
          (l.ends_tell now).symm⟩
  | abandoned now =>
    refine h.wake rfl he.order rfl hunder h.fetching fun wait due hw => ?_
    obtain ⟨-, -, ⟨hidle, -⟩ | ⟨hconnected, -⟩⟩ := Watch.heed_waiting hw
    · simp [Signal.pending, Signal.disconnect] at hidle
    · cases hconnected
  | woken now =>
    refine h.wake rfl he.order rfl hunder h.fetching fun wait due hw => ?_
    obtain ⟨hpending, ⟨due', hw'⟩, hdue⟩ := Watch.heed_waiting hw
    obtain ⟨hidle, -⟩ := h.waiting wait due' hw'
    rw [Watch.heed_of_not_pending hidle] at hw
    exact ⟨hpending, he.due wait due hw, (h.waiting wait due hw).2⟩

theorem Kept.run (h : d.Kept p) (he : d.Timely events) : (d.run events).Kept p := by
  induction events generalizing d with
  | nil => exact h
  | cons e events ih => exact ih (h.step he.1) he.2

-- ---------------------------------------------------------------------------
-- Runs without news, and runs with nothing else
-- ---------------------------------------------------------------------------

/-- A poll has just begun, and there is nothing to notice. -/
structure Asking (p : Pacing) (d : Diary) : Prop where
  phase : d.vigil.watch.phase = .fetching
  pending : d.vigil.watch.signal.pending = false
  pacing : d.vigil.tracker.pacing = p
  now : d.vigil.now = d.asked

/-- What the answer leads to at the beginning of a lap without news. -/
theorem Asking.step_answered (h : d.Asking p) (hl : l.asked = d.asked) (hs : l.Sound p)
    (hn : l.news = []) : d.step (.answered l.answered l.clock l.outcome) =
      ⟨⟨l.answered, (d.vigil.tracker.poll l.outcome).2.2,
        { d.vigil.watch with phase := .waiting l.wait l.ends }⟩, d.asked, some l, d.laps⟩ := by
  have hends : l.ends = Instant.deadline l.answered l.wait := by
    rw [Lap.ends, Lap.since, hn]
    rfl
  have hvigil : d.vigil.step (.answered l.answered l.clock l.outcome) =
      ⟨l.answered, (d.vigil.tracker.poll l.outcome).2.2,
        { d.vigil.watch with phase := .waiting l.wait l.ends }⟩ := by
    rw [Vigil.step, if_pos h.phase]
    simp only [Tracker.poll_pacing, Tracker.poll_marker, h.pacing, hs.wait, Watch.polled, hends]
    exact congrArg (Vigil.mk _ _) (Watch.heed_of_not_pending h.pending)
  have hnote : d.note (.answered l.answered l.clock l.outcome) = some l := by
    refine (note_answered h.phase).mpr ⟨l.wait, h.pacing ▸ hs.wait, ?_⟩
    rw [← hl, ← hn]
  rw [Diary.step_answered h.phase, hvigil, hnote]

/-- Without news a lap goes by as it says. -/
theorem Asking.lap (h : d.Asking p) (hl : l.asked = d.asked) (hs : l.Sound p) (hn : l.news = []) :
    d.Timely l.events ∧ (d.run l.events).Asking p ∧ (d.run l.events).laps = d.laps ++ [l] ∧
      (d.run l.events).asked = l.ends := by
  have hanswered := h.step_answered hl hs hn
  have hwake : ({ d.vigil.watch with phase := .waiting l.wait l.ends } : Watch).wake l.ends =
      ({ d.vigil.watch with phase := .waiting l.wait l.ends } : Watch).fetch :=
    Watch.wake_due rfl h.pending (Nat.le_refl l.ends)
  have hrun : d.run l.events =
      ⟨⟨l.ends, (d.vigil.tracker.poll l.outcome).2.2, d.vigil.watch.fetch⟩, l.ends, none,
        d.laps ++ [l]⟩ := by
    show (d.step (.answered l.answered l.clock l.outcome)).step (.woken l.ends) = _
    rw [hanswered, step, Vigil.step]
    dsimp only
    rw [hwake]
    exact if_pos ⟨fun hpoll => Phase.noConfusion hpoll, rfl⟩
  have htimely : d.Timely l.events := by
    refine ⟨⟨?_, fun wait due hw => ?_⟩, ?_, trivial⟩
    · exact h.now.trans hl.symm ▸ hs.asked
    · rw [h.phase] at hw
      cases hw
    · rw [hanswered]
      refine ⟨Nat.le_trans hs.answered Instant.le_deadline, fun wait due hw => ?_⟩
      exact Nat.le_of_eq (Phase.waiting.inj hw).2
  rw [hrun]
  exact ⟨htimely, ⟨rfl, h.pending, (Tracker.poll_pacing _ _).trans h.pacing, rfl⟩, rfl, rfl⟩

theorem run_append (d : Diary) (events events' : List Vigil.Event) :
    d.run (events ++ events') = (d.run events).run events' := List.foldl_append

theorem Timely.append {events' : List Vigil.Event} (h : d.Timely events)
    (h' : (d.run events).Timely events') : d.Timely (events ++ events') := by
  induction events generalizing d with
  | nil => exact h'
  | cons e events ih => exact ⟨h.1, ih h.2 h'⟩

theorem Asking.laps {laps : List Lap} (h : d.Asking p) (hf : Follows d.asked laps t)
    (hs : ∀ l ∈ laps, l.Sound p ∧ l.news = []) :
    d.Timely (laps.flatMap Lap.events) ∧ (d.run (laps.flatMap Lap.events)).Asking p ∧
      (d.run (laps.flatMap Lap.events)).laps = d.laps ++ laps ∧
      (d.run (laps.flatMap Lap.events)).asked = t := by
  induction laps generalizing d with
  | nil => exact ⟨trivial, h, (List.append_nil _).symm, Eq.symm hf⟩
  | cons l laps ih =>
    obtain ⟨hl, hf⟩ := hf
    obtain ⟨⟨hsound, hnews⟩, hs⟩ := List.forall_mem_cons.mp hs
    obtain ⟨htimely, hasking, hlaps, hasked⟩ := h.lap hl hsound hnews
    obtain ⟨htimely', hasking', hlaps', hasked'⟩ := ih hasking (hasked ▸ hf) hs
    rw [List.flatMap_cons, run_append]
    refine ⟨htimely.append htimely', hasking', ?_, hasked'⟩
    rw [hlaps', hlaps, List.append_assoc, List.singleton_append]

end Diary

end ChainGateway.Epoch
