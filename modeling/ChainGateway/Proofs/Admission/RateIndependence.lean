import ChainGateway.Proofs.Admission.Turnstile

/-!
# Clients are judged apart

What an attempt is told is decided by the window that it makes, and that window by the times of
the client's own attempts. So neither other clients nor sweeping can be seen in what a client is
told. A window that is tracked is the one that its client's attempts have made, which bounds when
the client of a window that is kept, or dropped, last came.
-/

namespace ChainGateway.Admission

/-- What an attempt of a client is told. -/
structure Ruling where
  client : Client
  time : Instant
  verdict : RateLimiter.Verdict
  deriving DecidableEq, Repr

/-- Whether it is an attempt of the client `c`. -/
def Passage.isOf (c : Client) : Passage → Bool
  | .check _ d => d = c
  | .sweep _ => false

@[simp] theorem Passage.isOf_check {t : Instant} {c d : Client} :
    (Passage.check t d).isOf c = decide (d = c) := rfl

namespace RateLimiter

variable {l : RateLimiter} {now : Instant} {c : Client} {both : Span} {w : RateWindow}

/-- Whether the limiter has a window of a client. -/
def Tracks (l : RateLimiter) (c : Client) : Prop := c ∈ l.windows.map (·.1)

theorem tracks_iff : l.Tracks c ↔ ∃ w, l.find? c = some w := by
  rw [← Option.isSome_iff_exists, find?, Option.isSome_map, List.find?_isSome, Tracks,
    List.mem_map]
  simp only [decide_eq_true_eq]

end RateLimiter

namespace Turnstile

variable {limit : Nat} {w both : Span} {now now' t : Instant} {s s' : Turnstile} {c d : Client}
  {passages : List Passage}

/-- What the attempts among some passages are told, the first one first. -/
def rulings (s : Turnstile) : List Passage → List Ruling
  | [] => []
  | .check t c :: passages => ⟨c, t, (s.limiter.check t c).1⟩ :: (s.check t c).rulings passages
  | .sweep t :: passages => (s.sweep t).rulings passages

theorem sweep_knocks : (s.sweep t).knocks = s.knocks := by
  unfold sweep
  split <;> rfl

theorem timesOf_check :
    timesOf d (s.check t c).knocks = if c = d then t :: timesOf d s.knocks else
      timesOf d s.knocks := by
  by_cases h : c = d <;> simp [check, timesOf, h]

/-- The attempts of a client in a run are those among its passages. -/
theorem mem_timesOf_run :
    t ∈ timesOf c (s.run passages).knocks ↔ .check t c ∈ passages ∨ t ∈ timesOf c s.knocks := by
  induction passages generalizing s with
  | nil => simp [run]
  | cons p passages ih =>
    have hrun : (s.run (p :: passages)).knocks = ((s.step p).run passages).knocks := rfl
    rw [hrun, ih]
    cases p with
    | check u d =>
      rw [step, timesOf_check]
      by_cases h : d = c
      · subst h
        simp [or_assoc, or_left_comm]
      · simp [h, Ne.symm h]
    | sweep u => simp [step, sweep_knocks]

-- ---------------------------------------------------------------------------
-- Independence
-- ---------------------------------------------------------------------------

/-- An attempt is judged by when its own client came. -/
theorem Keeps.verdict (hb : w.doubled? = some both) (h : s.Keeps limit w now)
    (ht : now.nanos ≤ t.nanos) : (s.limiter.check t c).1 =
      RateLimiter.judge limit w t (.ofTimes w t (timesOf c s.knocks)) := by
  rw [RateLimiter.check_verdict (by rw [h.window_eq, hb]), h.windows c t ht, h.limit_eq,
    h.window_eq]

/-- Where a client came at the same times it is told the same, whatever else passes in the one
run and not in the other. -/
theorem Keeps.rulings_eq (hlimit : limit ≠ 0) (hl : 0 < w.nanos) (hb : w.doubled? = some both)
    (h : s.Keeps limit w now) (h' : s'.Keeps limit w now')
    (hnow : ∀ p ∈ passages, now.nanos ≤ p.time.nanos ∧ now'.nanos ≤ p.time.nanos)
    (ho : InTime passages) (htimes : timesOf c s.knocks = timesOf c s'.knocks) :
    (s.rulings passages).filter (·.client = c) = s'.rulings (passages.filter (·.isOf c)) := by
  induction passages generalizing s s' now now' with
  | nil => rfl
  | cons p passages ih =>
    obtain ⟨hlater, hrests⟩ := List.pairwise_cons.mp ho
    obtain ⟨hp, hp'⟩ := hnow p List.mem_cons_self
    have hrest : ∀ q ∈ passages, p.time.nanos ≤ q.time.nanos ∧ now'.nanos ≤ q.time.nanos :=
      fun q hq => ⟨hlater q hq, (hnow q (List.mem_cons_of_mem _ hq)).2⟩
    cases p with
    | sweep t => exact ih (h.sweep hb hl hp) h' hrest hrests (by rw [sweep_knocks, htimes])
    | check t d =>
      have hcheck : (s.check t d).Keeps limit w t := h.check hlimit hb hp
      by_cases hd : d = c
      · subst hd
        have hverdict : (s.limiter.check t d).1 = (s'.limiter.check t d).1 := by
          rw [h.verdict (t := t) hb hp, h'.verdict (t := t) hb hp', htimes]
        have hcheck' : (s'.check t d).Keeps limit w t := h'.check hlimit hb hp'
        have htail := ih hcheck hcheck' (fun q hq => ⟨hlater q hq, hlater q hq⟩) hrests
          (by rw [timesOf_check, timesOf_check, htimes])
        simp [rulings, hverdict, htail]
      · have htail := ih hcheck h' hrest hrests (by rw [timesOf_check, if_neg hd, htimes])
        simpa [rulings, hd] using htail

/-- Without a limit everybody is accepted and nobody is tracked. -/
structure Open (w : Span) (s : Turnstile) : Prop where
  limit_eq : s.limiter.limit = 0
  window_eq : s.limiter.window = w
  windows : s.limiter.windows = []

theorem Open.check (h : s.Open w) : (s.check t c).Open w := by
  unfold Turnstile.check
  rw [RateLimiter.check_of_disabled h.limit_eq]
  exact ⟨h.limit_eq, h.window_eq, h.windows⟩

theorem Open.sweep (h : s.Open w) : (s.sweep t).Open w := by
  unfold Turnstile.sweep RateLimiter.sweep
  rw [h.windows]
  exact ⟨h.limit_eq, h.window_eq, rfl⟩

theorem Open.run (h : s.Open w) : (s.run passages).Open w := by
  induction passages generalizing s with
  | nil => exact h
  | cons p passages ih =>
    cases p with
    | check t c => exact ih h.check
    | sweep t => exact ih h.sweep

theorem Open.rulings_eq (h : s.Open w) (h' : s'.Open w) :
    (s.rulings passages).filter (·.client = c) = s'.rulings (passages.filter (·.isOf c)) := by
  induction passages generalizing s s' with
  | nil => rfl
  | cons p passages ih =>
    cases p with
    | sweep t => exact ih h.sweep h'
    | check t d =>
      by_cases hd : d = c
      · subst hd
        have htail := ih (h.check (t := t) (c := d)) (h'.check (t := t) (c := d))
        simp [rulings, htail, RateLimiter.check_of_disabled h.limit_eq,
          RateLimiter.check_of_disabled h'.limit_eq]
      · simpa [rulings, hd] using ih h.check h'

-- ---------------------------------------------------------------------------
-- Sweeping
-- ---------------------------------------------------------------------------

/-- Every window is the one that its client's attempts have made. -/
def Traced (w : Span) (s : Turnstile) : Prop :=
  ∀ c v, s.limiter.find? c = some v →
    ∃ t ts, timesOf c s.knocks = t :: ts ∧ v = .ofTimes w t ts

theorem Traced.check (hlimit : limit ≠ 0) (hb : w.doubled? = some both) (hk : s.Keeps limit w now)
    (ht : now.nanos ≤ t.nanos) (h : s.Traced w) : (s.check t c).Traced w := by
  have hstate := s.limiter.check_state t c (by rw [hk.limit_eq]; exact hlimit)
    (by rw [hk.window_eq, hb])
  intro d v hv
  have hlimiter : (s.check t c).limiter = (s.limiter.check t c).2 := rfl
  rw [hlimiter, hstate, RateLimiter.find?_put] at hv
  rw [timesOf_check]
  by_cases hd : c = d
  · subst hd
    rw [if_pos rfl, hk.windows c t ht] at hv
    exact ⟨t, timesOf c s.knocks, if_pos rfl, (Option.some.inj hv).symm⟩
  · rw [if_neg hd] at hv
    rw [if_neg hd]
    exact h d v hv

theorem find?_sweep (hb : w.doubled? = some both) (hk : s.Keeps limit w now) :
    (s.sweep t).limiter.find? c = (s.limiter.find? c).filter fun v => !s.limiter.isOver t v := by
  have hboth : s.limiter.window.doubled? = some both := by rw [hk.window_eq, hb]
  obtain ⟨n, hs⟩ := s.limiter.sweep_eq t hboth
  unfold sweep
  rw [hs]
  exact hk.single.find?_filter fun v => !s.limiter.isOver t v

theorem Traced.sweep (hb : w.doubled? = some both) (hk : s.Keeps limit w now) (h : s.Traced w) :
    (s.sweep t).Traced w := by
  intro c v hv
  rw [find?_sweep hb hk, Option.filter_eq_some_iff] at hv
  rw [sweep_knocks]
  exact h c v hv.1

theorem Traced.run (hlimit : limit ≠ 0) (hl : 0 < w.nanos) (hb : w.doubled? = some both)
    (hk : s.Keeps limit w now) (hnow : ∀ p ∈ passages, now.nanos ≤ p.time.nanos)
    (ho : InTime passages) (h : s.Traced w) : (s.run passages).Traced w := by
  induction passages generalizing s now with
  | nil => exact h
  | cons p passages ih =>
    obtain ⟨hlater, hrests⟩ := List.pairwise_cons.mp ho
    have hp := hnow p List.mem_cons_self
    cases p with
    | check t c => exact ih (hk.check hlimit hb hp) hlater hrests (h.check hlimit hb hk hp)
    | sweep t => exact ih (hk.sweep hb hl hp) hlater hrests (h.sweep hb hk)

/-- What sweeping at `t` does to a turnstile after the passages `before`: it does not fail, it keeps
only the windows of clients that came less than two lengths ago, and drops only those of clients
that last came more than one length ago. -/
structure SweptAt (w : Span) (before : List Passage) (t : Instant) (s : Turnstile) : Prop where
  swept : ∃ n, s.limiter.sweep t = .ok (n, (s.sweep t).limiter)
  kept : ∀ c, (s.sweep t).limiter.Tracks c →
    ∃ u, .check u c ∈ before ∧ (t.since u).nanos < w.nanos * 2
  dropped : ∀ c, s.limiter.Tracks c → ¬(s.sweep t).limiter.Tracks c →
    ∀ u, .check u c ∈ before → w.nanos < (t.since u).nanos

theorem swept_ok (hb : s.limiter.window.doubled? = some both) :
    ∃ n, s.limiter.sweep t = .ok (n, (s.sweep t).limiter) := by
  obtain ⟨n, hs⟩ := s.limiter.sweep_eq t hb
  refine ⟨n, ?_⟩
  rw [Turnstile.sweep, hs]

theorem Traced.sweptAt (hl : 0 < w.nanos) (hb : w.doubled? = some both)
    (hk : s.Keeps limit w now) (h : s.Traced w)
    (hcame : ∀ c u, u ∈ timesOf c s.knocks ↔ .check u c ∈ passages) : s.SweptAt w passages t := by
  have hcounts : ∀ c v, s.limiter.find? c = some v → v.Counts w (timesOf c s.knocks) := by
    intro c v hv
    obtain ⟨u, ts, hts, rfl⟩ := h c v hv
    have hd : RateWindow.Descending (timesOf c s.knocks) :=
      List.pairwise_map.mpr (hk.ordered.sublist List.filter_sublist)
    rw [hts] at hd ⊢
    exact RateWindow.counts_ofTimes hl hd
  have hover : ∀ v, s.limiter.isOver t v = true ↔ w.nanos * 2 ≤ (t.since v.start).nanos := by
    intro v
    rw [RateLimiter.isOver, hk.window_eq, decide_eq_true_eq]
  refine ⟨swept_ok (by rw [hk.window_eq, hb]), fun c hc => ?_, fun c hc hgone u hu => ?_⟩
  -- the window of a client starts no later than the client last came
  · obtain ⟨v, hv⟩ := RateLimiter.tracks_iff.mp hc
    rw [find?_sweep hb hk, Option.filter_eq_some_iff, Bool.not_eq_true', ← Bool.not_eq_true,
      hover] at hv
    obtain ⟨u, hu, hstart⟩ := (hcounts c v hv.1).started
    refine ⟨u, (hcame c u).mp hu, ?_⟩
    have hnear := hv.2
    unfold Instant.since at hnear ⊢
    dsimp only at hnear ⊢
    omega
  -- and nothing that it counts came after its end
  · obtain ⟨v, hv⟩ := RateLimiter.tracks_iff.mp hc
    have hstale : s.limiter.isOver t v = true := by
      refine Decidable.byContradiction fun hfresh => hgone (RateLimiter.tracks_iff.mpr ⟨v, ?_⟩)
      rw [find?_sweep hb hk, hv]
      simp [Option.filter, hfresh]
    have hend := (hcounts c v hv).running u ((hcame c u).mpr hu)
    have hfar := (hover v).mp hstale
    unfold Instant.since at hfar ⊢
    dsimp only at hfar ⊢
    omega

theorem Open.sweptAt (hb : w.doubled? = some both) (h : s.Open w) :
    s.SweptAt w passages t := by
  have hnone : ∀ s : Turnstile, s.Open w → ∀ c, ¬s.limiter.Tracks c := by
    intro s h c hc
    rw [RateLimiter.Tracks, h.windows] at hc
    exact List.not_mem_nil hc
  exact ⟨swept_ok (by rw [h.window_eq, hb]), fun c hc => absurd hc (hnone _ h.sweep c),
    fun c hc => absurd hc (hnone s h c)⟩

theorem sweptAt_run {after before : List Passage} (hl : 0 < w.nanos)
    (hb : w.doubled? = some both) (ho : InTime (before ++ .sweep t :: after)) :
    ((new limit w).run before).SweptAt w before t := by
  by_cases hlimit : limit = 0
  · have hopen : (new limit w).Open w := ⟨hlimit, rfl, rfl⟩
    exact hopen.run.sweptAt hb
  · have hnew : (new limit w).Keeps limit w ⟨0⟩ := .new hl
    have hzero : ∀ p ∈ before, (⟨0⟩ : Instant).nanos ≤ p.time.nanos := fun p _ => Nat.zero_le _
    have hbefore : InTime before := (List.pairwise_append.mp ho).1
    obtain ⟨now, hk⟩ := hnew.run hlimit hl hb hzero hbefore
    have htraced : (new limit w).Traced w := fun c v hv => by cases hv
    refine (htraced.run hlimit hl hb hnew hzero hbefore).sweptAt hl hb hk fun c u => ?_
    rw [mem_timesOf_run]
    simp [new, timesOf]

/-- What a client is told is what it would be told alone and unswept, and sweeping goes by when
the clients came. -/
theorem independent (limit : Nat) (hl : 0 < w.nanos) (hb : w.doubled? = some both)
    (ho : InTime passages) :
    (∀ c, ((new limit w).rulings passages).filter (·.client = c) =
      (new limit w).rulings (passages.filter (·.isOf c))) ∧
    ∀ before t after, passages = before ++ .sweep t :: after →
      ((new limit w).run before).SweptAt w before t := by
  refine ⟨fun c => ?_, fun before t after he => sweptAt_run hl hb (he ▸ ho)⟩
  by_cases hlimit : limit = 0
  · have hopen : (new limit w).Open w := ⟨hlimit, rfl, rfl⟩
    exact hopen.rulings_eq hopen
  · have hnew : (new limit w).Keeps limit w ⟨0⟩ := .new hl
    exact hnew.rulings_eq hlimit hl hb hnew (fun p _ => ⟨Nat.zero_le _, Nat.zero_le _⟩) ho rfl

/-- Sweeping drops the window of `a` and keeps that of `b`, which is turned away before and after
it; alone and unswept `b` is told the same. -/
theorem independent_of_two :
    let a : Client := ⟨"a"⟩
    let b : Client := ⟨"b"⟩
    let before : List Passage := [.check ⟨0⟩ a, .check ⟨1⟩ b, .check ⟨1⟩ b]
    let after : List Passage := [.check ⟨4⟩ a, .check ⟨4⟩ b]
    let s := (new 1 ⟨2⟩).run before
    0 < (⟨2⟩ : Span).nanos ∧ (⟨2⟩ : Span).doubled? = some ⟨4⟩ ∧
      InTime (before ++ .sweep ⟨4⟩ :: after) ∧
      s.limiter.windows.map (·.1) = [a, b] ∧ (s.sweep ⟨4⟩).limiter.windows.map (·.1) = [b] ∧
      (new 1 ⟨2⟩).rulings [.check ⟨1⟩ b, .check ⟨1⟩ b, .check ⟨4⟩ b] =
        [⟨b, ⟨1⟩, .accepted⟩, ⟨b, ⟨1⟩, .retryAfter ⟨4⟩⟩, ⟨b, ⟨4⟩, .retryAfter ⟨3⟩⟩] ∧
      ((new 1 ⟨2⟩).rulings (before ++ .sweep ⟨4⟩ :: after)).filter (·.client = b) =
        (new 1 ⟨2⟩).rulings [.check ⟨1⟩ b, .check ⟨1⟩ b, .check ⟨4⟩ b] ∧
      s.SweptAt ⟨2⟩ before ⟨4⟩ := by
  intro a b before after s
  have ho : InTime (before ++ .sweep ⟨4⟩ :: after) := by
    simp [InTime, before, after, Passage.time]
  have hboth : (⟨2⟩ : Span).doubled? = some ⟨4⟩ := rfl
  obtain ⟨htold, hswept⟩ := independent 1 (by decide) hboth ho
  exact ⟨by decide, rfl, ho, by decide, by decide, by decide, htold b, hswept before ⟨4⟩ after rfl⟩

end Turnstile
end ChainGateway.Admission
