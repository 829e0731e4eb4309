import ChainGateway.Proofs.Admission.RateHistory

/-!
# The turnstile

A turnstile is a limiter with a log of the attempts that it has judged. Sweeping does not matter
to it: each client is judged by the window that its own attempts have made. An attempt is
accepted just when few enough are reached by that window, from one length before its start on.
-/

namespace ChainGateway.Admission

/-- An attempt of a client that has been judged. -/
structure Knock where
  client : Client
  time : Instant
  accepted : Bool
  deriving DecidableEq, Repr

inductive Passage
  | check (t : Instant) (c : Client)
  | sweep (t : Instant)

def Passage.time : Passage → Instant
  | .check t _ | .sweep t => t

/-- Readings of the clock in order. -/
def InTime (passages : List Passage) : Prop :=
  passages.Pairwise fun p q => p.time.nanos ≤ q.time.nanos

structure Turnstile where
  limiter : RateLimiter
  /-- The latest first. -/
  knocks : List Knock

/-- When a client came, the latest first. -/
def timesOf (c : Client) (ks : List Knock) : List Instant :=
  (ks.filter (·.client = c)).map (·.time)

/-- How many attempts of a client were accepted from `start` until `length` later. -/
def acceptedWithin (c : Client) (start : Instant) (length : Span) (ks : List Knock) : Nat :=
  ks.countP fun k => k.client = c ∧ k.accepted = true ∧ start.nanos ≤ k.time.nanos ∧
    k.time.nanos < start.nanos + length.nanos

/-- How many attempts were made, accepted or not, by the client of `k` less than `length` before
`k`, which is one of them. -/
def triedWithin (k : Knock) (length : Span) (earlier : List Knock) : Nat :=
  (k :: earlier).countP fun j => j.client = k.client ∧ (k.time.since j.time).nanos < length.nanos

theorem timesOf_cons_self {k : Knock} {ks : List Knock} :
    timesOf k.client (k :: ks) = k.time :: timesOf k.client ks := by
  simp [timesOf]

theorem timesOf_append {c : Client} {ks js : List Knock} :
    timesOf c (ks ++ js) = timesOf c ks ++ timesOf c js := by
  simp [timesOf]

theorem countP_timesOf {c : Client} {ks : List Knock} {q : Instant → Bool} :
    (timesOf c ks).countP q = ks.countP fun k => q k.time && decide (k.client = c) := by
  rw [timesOf, List.countP_map, List.countP_filter]
  rfl

namespace Turnstile

def new (limit : Nat) (window : Span) : Turnstile := ⟨.new limit window, []⟩

def check (s : Turnstile) (t : Instant) (c : Client) : Turnstile :=
  let (verdict, limiter) := s.limiter.check t c
  ⟨limiter, ⟨c, t, verdict = .accepted⟩ :: s.knocks⟩

def sweep (s : Turnstile) (t : Instant) : Turnstile :=
  match s.limiter.sweep t with
  | .ok (_, limiter) => { s with limiter := limiter }
  | .error _ => s

def step (s : Turnstile) : Passage → Turnstile
  | .check t c => s.check t c
  | .sweep t => s.sweep t

def run (s : Turnstile) (passages : List Passage) : Turnstile := passages.foldl step s

variable {limit : Nat} {w both : Span} {now t a : Instant} {s : Turnstile} {c : Client}
  {k k' : Knock} {later mid earlier ks : List Knock}

/-- The window by which an attempt is judged, when its client is never swept. -/
def windowAt (w : Span) (k : Knock) (earlier : List Knock) : RateWindow :=
  .ofTimes w k.time (timesOf k.client earlier)

/-- A turnstile at `now`: whatever was swept, attempts are judged as if nothing had been. -/
structure Keeps (limit : Nat) (w : Span) (now : Instant) (s : Turnstile) : Prop where
  limit_eq : s.limiter.limit = limit
  window_eq : s.limiter.window = w
  single : s.limiter.Single
  past : ∀ k ∈ s.knocks, k.time.nanos ≤ now.nanos
  ordered : s.knocks.Pairwise fun j k => k.time.nanos ≤ j.time.nanos
  windows : ∀ c t, now.nanos ≤ t.nanos →
    s.limiter.windowAfter t c = .ofTimes w t (timesOf c s.knocks)
  judged : ∀ later k earlier, s.knocks = later ++ k :: earlier →
    (k.accepted = true ↔ (windowAt w k earlier).total ≤ limit)

namespace Keeps

theorem new (hl : 0 < w.nanos) : (new limit w).Keeps limit w ⟨0⟩ where
  limit_eq := rfl
  window_eq := rfl
  single := List.nodup_nil
  past := by simp [Turnstile.new]
  ordered := List.Pairwise.nil
  windows _ _ _ := RateWindow.next_new hl
  judged := by simp [Turnstile.new]

theorem check (hlimit : limit ≠ 0) (hb : w.doubled? = some both) (h : s.Keeps limit w now)
    (ht : now.nanos ≤ t.nanos) : (s.check t c).Keeps limit w t := by
  have hw : s.limiter.window.doubled? = some both := by rw [h.window_eq, hb]
  have hpos : s.limiter.limit ≠ 0 := by rw [h.limit_eq]; exact hlimit
  have hstate := s.limiter.check_state t c hpos hw
  have hafter := h.windows c t ht
  unfold Turnstile.check
  dsimp only
  rw [hstate]
  refine ⟨h.limit_eq, h.window_eq, h.single.put, ?_, ?_, fun d u hu => ?_, ?_⟩
  · rintro k (_ | ⟨_, hk⟩)
    · exact Nat.le_refl _
    · exact Nat.le_trans (h.past k hk) ht
  · exact List.pairwise_cons.mpr ⟨fun k hk => Nat.le_trans (h.past k hk) ht, h.ordered⟩
  · have hold := h.windows d u (Nat.le_trans ht hu)
    rw [RateLimiter.windowAfter_put]
    by_cases hd : c = d
    · subst hd
      rw [if_pos rfl, hafter, h.window_eq]
      simp only [timesOf, List.filter_cons, decide_true, if_true, List.map_cons,
        RateWindow.ofTimes]
    · rw [if_neg hd, hold]
      simp [timesOf, hd]
  · intro later k earlier hk
    cases later with
    | nil =>
      obtain ⟨rfl, rfl⟩ := List.cons.inj hk
      have hacc := s.limiter.check_accepted_iff t c hpos hw
      rw [hafter, h.limit_eq] at hacc
      exact decide_eq_true_iff.trans hacc
    | cons j later => exact h.judged later k earlier (List.cons.inj hk).2

theorem sweep (hb : w.doubled? = some both) (hl : 0 < w.nanos) (h : s.Keeps limit w now)
    (ht : now.nanos ≤ t.nanos) : (s.sweep t).Keeps limit w t := by
  have hw : s.limiter.window.doubled? = some both := by rw [h.window_eq, hb]
  obtain ⟨n, hs⟩ := s.limiter.sweep_eq t hw
  unfold Turnstile.sweep
  rw [hs]
  refine ⟨h.limit_eq, h.window_eq, h.single.filter _, fun k hk => Nat.le_trans (h.past k hk) ht,
    h.ordered, fun c u hu => ?_, h.judged⟩
  rw [← h.windows c u (Nat.le_trans ht hu)]
  unfold RateLimiter.windowAfter
  rw [h.single.find?_filter fun v => !s.limiter.isOver t v]
  cases hc : s.limiter.find? c with
  | none => rfl
  | some v =>
    cases hover : s.limiter.isOver t v with
    | false => simp [Option.filter, hover]
    | true =>
      -- the client starts anew, as it would with the window that was swept
      have hstale := RateWindow.stale_mono hu (by simpa [RateLimiter.isOver] using hover)
      simp only [Option.filter, hover, Bool.not_true, Bool.false_eq_true, if_false,
        Option.getD_none, Option.getD_some]
      rw [RateWindow.next_of_stale hstale]
      exact RateWindow.next_new (by rw [h.window_eq]; exact hl)

theorem run (hlimit : limit ≠ 0) (hl : 0 < w.nanos) (hb : w.doubled? = some both)
    {passages : List Passage} (h : s.Keeps limit w now)
    (hnow : ∀ p ∈ passages, now.nanos ≤ p.time.nanos) (ho : InTime passages) :
    ∃ now, (s.run passages).Keeps limit w now := by
  induction passages generalizing s now with
  | nil => exact ⟨now, h⟩
  | cons p passages ih =>
    have ho := List.pairwise_cons.mp ho
    have hp := hnow p List.mem_cons_self
    have hstep : (s.step p).Keeps limit w p.time := by
      cases p with
      | check t c => exact h.check hlimit hb hp
      | sweep t => exact h.sweep hb hl hp
    exact ih hstep ho.1 ho.2

-- ---------------------------------------------------------------------------
-- What the window of an attempt reaches
-- ---------------------------------------------------------------------------

theorem counts (hl : 0 < w.nanos) (h : s.Keeps limit w now)
    (hk : s.knocks = later ++ k :: earlier) :
    (windowAt w k earlier).Counts w (timesOf k.client (k :: earlier)) := by
  have ho : (k :: earlier).Pairwise fun j k => k.time.nanos ≤ j.time.nanos := by
    have := h.ordered
    rw [hk] at this
    exact (List.pairwise_append.mp this).2.1
  have hd : RateWindow.Descending (timesOf k.client (k :: earlier)) :=
    List.pairwise_map.mpr (ho.sublist List.filter_sublist)
  rw [timesOf_cons_self] at hd ⊢
  exact RateWindow.counts_ofTimes hl hd

theorem start_le (hl : 0 < w.nanos) (h : s.Keeps limit w now)
    (hk : s.knocks = later ++ k :: earlier) :
    (windowAt w k earlier).start.nanos ≤ k.time.nanos := by
  obtain ⟨t, ht, hs⟩ := (h.counts hl hk).started
  have ho := h.ordered
  rw [hk] at ho
  obtain ⟨j, hj, rfl⟩ := List.mem_map.mp ht
  rcases List.mem_cons.mp (List.filter_sublist.subset hj) with rfl | hj
  · exact hs
  · exact Nat.le_trans hs ((List.pairwise_cons.mp (List.pairwise_append.mp ho).2.1).1 j hj)

theorem lt_end (hl : 0 < w.nanos) (h : s.Keeps limit w now)
    (hk : s.knocks = later ++ k :: earlier) :
    k.time.nanos < (windowAt w k earlier).start.nanos + w.nanos :=
  (h.counts hl hk).running k.time (by rw [timesOf_cons_self]; exact List.mem_cons_self)

/-- An attempt is accepted just when at most `limit` are reached by its window. -/
theorem accepted_iff (hl : 0 < w.nanos) (hmax : limit < RateWindow.maxCount)
    (h : s.Keeps limit w now) (hk : s.knocks = later ++ k :: earlier) :
    k.accepted = true ↔ ((timesOf k.client (k :: earlier)).countP fun t =>
      (windowAt w k earlier).start.nanos ≤ t.nanos + w.nanos) ≤ limit := by
  rw [h.judged later k earlier hk, (h.counts hl hk).total]
  omega

/-- Attempts that are reached by the window of an accepted one are few. -/
theorem countP_le (hl : 0 < w.nanos) (hmax : limit < RateWindow.maxCount)
    (h : s.Keeps limit w now) (hk : s.knocks = later ++ k :: earlier) (ha : k.accepted = true)
    {p : Knock → Bool} (hp : ∀ j ∈ k :: earlier, p j = true → j.client = k.client ∧
      (windowAt w k earlier).start.nanos ≤ j.time.nanos + w.nanos) :
    (k :: earlier).countP p ≤ limit := by
  refine Nat.le_trans ?_ ((h.accepted_iff hl hmax hk).mp ha)
  rw [countP_timesOf]
  refine List.countP_mono_left fun j hj hpj => ?_
  simpa [and_comm] using hp j hj hpj

end Keeps

end Turnstile
end ChainGateway.Admission
