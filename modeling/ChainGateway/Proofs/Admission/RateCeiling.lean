import ChainGateway.Proofs.Admission.Turnstile

/-!
# The rate ceiling

The window of an attempt reaches whatever came less than one length before, and nothing from two
lengths before. When it does not reach an accepted attempt of its client, there is a gap between
their windows; so an interval of twice the length, which holds both attempts, begins after the
start of the earlier window, and that window reaches an attempt from before the interval.
-/

namespace ChainGateway.Admission.Turnstile

variable {limit : Nat} {w both : Span} {now t a : Instant} {s : Turnstile} {c : Client}
  {k k' : Knock} {later mid earlier ks : List Knock}

-- ---------------------------------------------------------------------------
-- The bounds
-- ---------------------------------------------------------------------------

theorem exists_latest {α : Type} {p : α → Bool} {l : List α} (h : 0 < l.countP p) :
    ∃ later x earlier, l = later ++ x :: earlier ∧ p x = true ∧
      l.countP p = (x :: earlier).countP p := by
  induction l with
  | nil => cases h
  | cons y l ih =>
    cases hy : p y with
    | true => exact ⟨[], y, l, rfl, hy, rfl⟩
    | false =>
      rw [List.countP_cons_of_neg (by simp [hy])] at h ⊢
      obtain ⟨later, x, earlier, rfl, hx, hc⟩ := ih h
      exact ⟨y :: later, x, earlier, rfl, hx, hc⟩

theorem countP_lt_of_mem {α : Type} {p q : α → Bool} {l : List α} {x : α}
    (h : ∀ y ∈ l, p y = true → q y = true) (hx : x ∈ l) (hp : p x = false) (hq : q x = true) :
    l.countP p < l.countP q := by
  induction l with
  | nil => cases hx
  | cons y l ih =>
    have hle : l.countP p ≤ l.countP q :=
      List.countP_mono_left fun z hz => h z (List.mem_cons_of_mem _ hz)
    rcases List.mem_cons.mp hx with rfl | hx
    · rw [List.countP_cons_of_neg (by simp [hp]), List.countP_cons_of_pos hq]
      omega
    · have hlt := ih (fun z hz => h z (List.mem_cons_of_mem _ hz)) hx
      cases hpy : p y with
      | true =>
        rw [List.countP_cons_of_pos hpy, List.countP_cons_of_pos (h y List.mem_cons_self hpy)]
        omega
      | false =>
        rw [List.countP_cons_of_neg (by simp [hpy]), List.countP_cons]
        omega

namespace Keeps

/-- Whoever tried little in the last two lengths is accepted. -/
theorem accepted_of_triedWithin (hl : 0 < w.nanos) (hmax : limit < RateWindow.maxCount)
    (hb : w.doubled? = some both) (h : s.Keeps limit w now)
    (hk : s.knocks = later ++ k :: earlier) (hfew : triedWithin k both earlier ≤ limit) :
    k.accepted = true := by
  have hend := h.lt_end hl hk
  rw [h.accepted_iff hl hmax hk, countP_timesOf]
  refine Nat.le_trans (List.countP_mono_left fun j hj hp => ?_) hfew
  simp only [Bool.and_eq_true, decide_eq_true_eq] at hp ⊢
  refine ⟨hp.2, ?_⟩
  rw [Span.doubled?_eq_some hb, Instant.since]
  dsimp only
  omega

theorem acceptedWithin_le (hl : 0 < w.nanos) (hmax : limit < RateWindow.maxCount)
    (h : s.Keeps limit w now) : acceptedWithin c a w s.knocks ≤ limit := by
  unfold acceptedWithin
  by_cases hpos : 0 < s.knocks.countP fun k => decide (k.client = c ∧ k.accepted = true ∧
      a.nanos ≤ k.time.nanos ∧ k.time.nanos < a.nanos + w.nanos)
  · obtain ⟨later, k, earlier, hk, hpk, hcount⟩ := exists_latest hpos
    simp only [decide_eq_true_eq] at hpk
    obtain ⟨rfl, hacc, -, hlt⟩ := hpk
    have hstart := h.start_le hl hk
    rw [hcount]
    refine h.countP_le hl hmax hk hacc fun j _ hpj => ?_
    simp only [decide_eq_true_eq] at hpj
    exact ⟨hpj.1, by omega⟩
  · omega

/-- When the window of `k` does not reach an accepted one of its client, there is a gap between
their windows. -/
theorem gap_of_unreached (hl : 0 < w.nanos) (h : s.Keeps limit w now)
    (hk : s.knocks = later ++ k :: (mid ++ k' :: earlier)) (hc : k'.client = k.client)
    (hfar : k'.time.nanos + w.nanos < (windowAt w k (mid ++ k' :: earlier)).start.nanos) :
    (windowAt w k' earlier).start.nanos + w.nanos * 2 ≤
      (windowAt w k (mid ++ k' :: earlier)).start.nanos := by
  have hk' : s.knocks = (later ++ k :: mid) ++ k' :: earlier := by simp [hk]
  have hstart := h.start_le hl hk'
  have hfollow := RateWindow.start_ofTimes_append hl k.time k'.time (timesOf k'.client mid)
    (timesOf k'.client earlier)
  rw [← timesOf_cons_self, ← timesOf_append, hc] at hfollow
  unfold windowAt at hfar hstart ⊢
  rw [hc] at hstart ⊢
  obtain he | he | he := hfollow
  · rw [he] at hfar
    omega
  · omega
  · exact he

/-- The window of an accepted attempt reaches one before `a`, if it starts before `a`. -/
theorem countP_from_lt (hl : 0 < w.nanos) (hmax : limit < RateWindow.maxCount)
    (h : s.Keeps limit w now) (hk : s.knocks = later ++ k :: earlier) (ha : k.accepted = true)
    (hstart : (windowAt w k earlier).start.nanos < a.nanos) :
    (k :: earlier).countP (fun j => j.client = k.client ∧ a.nanos ≤ j.time.nanos) < limit := by
  obtain ⟨t, ht, hbefore, hnear⟩ := (h.counts hl hk).anchored
  have hless : ((timesOf k.client (k :: earlier)).countP fun u => decide (a.nanos ≤ u.nanos)) <
      (timesOf k.client (k :: earlier)).countP fun u =>
        decide ((windowAt w k earlier).start.nanos ≤ u.nanos + w.nanos) := by
    refine countP_lt_of_mem (fun u _ hu => ?_) ht ?_ ?_
    · simp only [decide_eq_true_eq] at hu ⊢
      omega
    · simp only [decide_eq_false_iff_not]
      omega
    · simpa using hnear
  refine Nat.lt_of_lt_of_le (Nat.lt_of_le_of_lt ?_ hless) ((h.accepted_iff hl hmax hk).mp ha)
  rw [countP_timesOf]
  refine List.countP_mono_left fun j _ hj => ?_
  simpa [and_comm] using hj

/-- Of the accepted ones from `a` on that the window of `k` does not reach, there is one less than
the limit when that window starts before two lengths have passed since `a`. -/
theorem countP_unreached_lt (hlimit : 1 ≤ limit) (hl : 0 < w.nanos)
    (hmax : limit < RateWindow.maxCount) (h : s.Keeps limit w now)
    (hk : s.knocks = later ++ k :: earlier)
    (hend : (windowAt w k earlier).start.nanos < a.nanos + w.nanos * 2) {p : Knock → Bool}
    (hp : ∀ j, p j = true → j.client = k.client ∧ j.accepted = true ∧ a.nanos ≤ j.time.nanos) :
    (k :: earlier).countP (fun j => p j &&
      !decide ((windowAt w k earlier).start.nanos ≤ j.time.nanos + w.nanos)) < limit := by
  have hstart := h.start_le hl hk
  by_cases hsome : 0 < (k :: earlier).countP fun j => p j &&
      !decide ((windowAt w k earlier).start.nanos ≤ j.time.nanos + w.nanos)
  · obtain ⟨mid, k', rest, hk', hpk', hcount⟩ := exists_latest hsome
    rw [Bool.and_eq_true, Bool.not_eq_true', decide_eq_false_iff_not] at hpk'
    obtain ⟨hpk', hfar⟩ := hpk'
    obtain ⟨hc, hacc, -⟩ := hp k' hpk'
    cases mid with
    | nil =>
      rw [← (List.cons.inj hk').1] at hfar
      omega
    | cons j mid =>
      have he : earlier = mid ++ k' :: rest := (List.cons.inj hk').2
      subst he
      have hgap := h.gap_of_unreached hl hk hc (by omega)
      have hk' : s.knocks = (later ++ k :: mid) ++ k' :: rest := by simp [hk]
      rw [hcount]
      refine Nat.lt_of_le_of_lt ?_ (h.countP_from_lt (a := a) hl hmax hk' hacc (by omega))
      refine List.countP_mono_left fun j _ hj => ?_
      rw [Bool.and_eq_true] at hj
      obtain ⟨hcj, -, hfrom⟩ := hp j hj.1
      simp [hcj, hc, hfrom]
  · omega

theorem acceptedWithin_both_le (hlimit : 1 ≤ limit) (hl : 0 < w.nanos)
    (hmax : limit < RateWindow.maxCount) (hb : w.doubled? = some both) (h : s.Keeps limit w now) :
    acceptedWithin c a both s.knocks ≤ 2 * limit - 1 := by
  unfold acceptedWithin
  rw [Span.doubled?_eq_some hb]
  generalize hp : (fun k : Knock => decide (k.client = c ∧ k.accepted = true ∧
    a.nanos ≤ k.time.nanos ∧ k.time.nanos < a.nanos + w.nanos * 2)) = p
  have hmem : ∀ k, p k = true → k.client = c ∧ k.accepted = true ∧
      a.nanos ≤ k.time.nanos ∧ k.time.nanos < a.nanos + w.nanos * 2 := by
    intro k hk
    rw [← hp] at hk
    simpa using hk
  by_cases hpos : 0 < s.knocks.countP p
  · obtain ⟨later, k, earlier, hk, hpk, hcount⟩ := exists_latest hpos
    obtain ⟨rfl, hacc, -, hlt⟩ := hmem k hpk
    have hstart := h.start_le hl hk
    -- those that the window of the latest reaches, and those before
    have hsplit := List.countP_eq_countP_filter_add (k :: earlier) p fun j =>
      decide ((windowAt w k earlier).start.nanos ≤ j.time.nanos + w.nanos)
    rw [List.countP_filter, List.countP_filter] at hsplit
    have hreached : (k :: earlier).countP (fun j => p j &&
        decide ((windowAt w k earlier).start.nanos ≤ j.time.nanos + w.nanos)) ≤ limit := by
      refine h.countP_le hl hmax hk hacc fun j _ hj => ?_
      rw [Bool.and_eq_true, decide_eq_true_eq] at hj
      exact ⟨(hmem j hj.1).1, hj.2⟩
    have hbefore := h.countP_unreached_lt (a := a) hlimit hl hmax hk (by omega) fun j hj =>
      ⟨(hmem j hj).1, (hmem j hj).2.1, (hmem j hj).2.2.1⟩
    omega
  · omega

end Keeps

-- ---------------------------------------------------------------------------
-- A run that attains the bound
-- ---------------------------------------------------------------------------

/-- A turnstile with windows of two nanoseconds that knows one client. -/
def only (limit : Nat) (c : Client) (v : RateWindow) (ks : List Knock) : Turnstile :=
  ⟨⟨limit, ⟨2⟩, [(c, v)]⟩, ks⟩

theorem doubled?_two : (⟨2⟩ : Span).doubled? = some ⟨4⟩ := rfl

theorem check_eq (hlimit : s.limiter.limit ≠ 0) (hb : s.limiter.window.doubled? = some both)
    (hfit : (s.limiter.windowAfter t c).total ≤ s.limiter.limit) :
    s.check t c = ⟨s.limiter.put c (s.limiter.windowAfter t c), ⟨c, t, true⟩ :: s.knocks⟩ := by
  have hacc := (s.limiter.check_accepted_iff t c hlimit hb).mpr hfit
  unfold check
  dsimp only
  rw [s.limiter.check_state t c hlimit hb]
  simp only [hacc, decide_true]

theorem check_only {v v' : RateWindow} (hlimit : limit ≠ 0) (hv : v.next t ⟨2⟩ = v')
    (hfit : v'.total ≤ limit) :
    (only limit c v ks).check t c = only limit c v' (⟨c, t, true⟩ :: ks) := by
  have hafter : (only limit c v ks).limiter.windowAfter t c = v' := by
    simpa [only, RateLimiter.windowAfter, RateLimiter.find?] using hv
  have hb : (only limit c v ks).limiter.window.doubled? = some ⟨4⟩ := doubled?_two
  have hcheck := check_eq (t := t) (c := c) hlimit hb (by rw [hafter]; exact hfit)
  rw [hcheck, hafter]
  simp [only, RateLimiter.put, RateLimiter.putWindow]

theorem check_new (hlimit : 1 ≤ limit) :
    (new limit ⟨2⟩).check t c = only limit c ⟨t, 0, 1⟩ [⟨c, t, true⟩] := by
  have hafter : (new limit ⟨2⟩).limiter.windowAfter t c = ⟨t, 0, 1⟩ :=
    RateWindow.next_new (show 0 < (⟨2⟩ : Span).nanos by decide)
  have hb : (new limit ⟨2⟩).limiter.window.doubled? = some ⟨4⟩ := doubled?_two
  have hcheck := check_eq (t := t) (c := c) (Nat.one_le_iff_ne_zero.mp hlimit) hb
    (by rw [hafter]; exact hlimit)
  rw [hcheck, hafter]
  rfl

/-- As many attempts in one window as there is room for are all accepted. -/
theorem run_replicate {n m : Nat} {start : Instant} (hmax : limit < RateWindow.maxCount)
    (hin : start.nanos ≤ t.nanos ∧ t.nanos < start.nanos + 2) (hfit : n + m ≤ limit) :
    (only limit c ⟨start, 0, n⟩ ks).run (.replicate m (.check t c)) =
      only limit c ⟨start, 0, n + m⟩ (.replicate m ⟨c, t, true⟩ ++ ks) := by
  induction m generalizing n ks with
  | zero => rfl
  | succ m ih =>
    have hnext : (⟨start, 0, n⟩ : RateWindow).next t ⟨2⟩ = ⟨start, 0, n + 1⟩ := by
      obtain ⟨h, -⟩ | ⟨h, -⟩ | ⟨-, hn⟩ :=
        (⟨start, 0, n⟩ : RateWindow).next_cases t (show 0 < (⟨2⟩ : Span).nanos by decide)
      · dsimp only at h
        omega
      · dsimp only at h
        omega
      · rw [hn]
        dsimp only [RateWindow.countAdd]
        rw [Nat.min_eq_right (by omega)]
    have hcheck : (only limit c ⟨start, 0, n⟩ ks).check t c =
        only limit c ⟨start, 0, n + 1⟩ (⟨c, t, true⟩ :: ks) :=
      check_only (by omega) hnext (by simp only [RateWindow.total, RateWindow.countAdd]; omega)
    have hrun : (only limit c ⟨start, 0, n + 1⟩ (⟨c, t, true⟩ :: ks)).run
        (.replicate m (.check t c)) = _ := ih (by omega)
    rw [List.replicate_succ, run, List.foldl_cons, step, hcheck]
    rw [run] at hrun
    rw [hrun, List.replicate_succ', List.append_assoc, List.singleton_append]
    congr 2
    omega

/-- One attempt, as many as still fit just before its window ends, and as many as fit just after
the next one has. -/
def brim (limit : Nat) (c : Client) : List Passage :=
  .check ⟨0⟩ c :: (.replicate (limit - 1) (.check ⟨1⟩ c) ++
    .check ⟨4⟩ c :: .replicate (limit - 1) (.check ⟨4⟩ c))

theorem inTime_brim : InTime (brim limit c) := by
  have hsame : ∀ t, InTime (.replicate (limit - 1) (.check t c)) := fun t =>
    List.pairwise_replicate.mpr (.inr (Nat.le_refl _))
  refine List.pairwise_cons.mpr ⟨fun p _ => Nat.zero_le _, List.pairwise_append.mpr
    ⟨hsame ⟨1⟩, List.pairwise_cons.mpr ⟨fun p hp => ?_, hsame ⟨4⟩⟩, fun p hp q hq => ?_⟩⟩
  · exact List.eq_of_mem_replicate hp ▸ Nat.le_refl _
  · rw [List.eq_of_mem_replicate hp]
    rcases List.mem_cons.mp hq with rfl | hq
    · exact Nat.le_of_ble_eq_true rfl
    · rw [List.eq_of_mem_replicate hq]
      exact Nat.le_of_ble_eq_true rfl

theorem acceptedWithin_brim (hlimit : 1 ≤ limit) (hmax : limit < RateWindow.maxCount) :
    acceptedWithin c ⟨1⟩ ⟨4⟩ ((new limit ⟨2⟩).run (brim limit c)).knocks = 2 * limit - 1 := by
  have hfirst : (only limit c ⟨⟨0⟩, 0, 1⟩ [⟨c, ⟨0⟩, true⟩]).run
      (.replicate (limit - 1) (.check ⟨1⟩ c)) = _ := run_replicate hmax (by decide) (by omega)
  have hturn : ∀ ks, (only limit c ⟨⟨0⟩, 0, 1 + (limit - 1)⟩ ks).check ⟨4⟩ c =
      only limit c ⟨⟨4⟩, 0, 1⟩ (⟨c, ⟨4⟩, true⟩ :: ks) :=
    fun _ => check_only (by omega) rfl hlimit
  have hsecond : ∀ ks, (only limit c ⟨⟨4⟩, 0, 1⟩ ks).run (.replicate (limit - 1) (.check ⟨4⟩ c)) =
      only limit c ⟨⟨4⟩, 0, 1 + (limit - 1)⟩ (.replicate (limit - 1) ⟨c, ⟨4⟩, true⟩ ++ ks) :=
    fun _ => run_replicate hmax (by decide) (by omega)
  unfold run at hfirst hsecond ⊢
  rw [brim, List.foldl_cons, step, check_new hlimit, List.foldl_append, hfirst, List.foldl_cons,
    step, hturn, hsecond]
  simp [only, acceptedWithin, List.countP_append, List.countP_replicate]
  omega

-- ---------------------------------------------------------------------------
-- The ceiling
-- ---------------------------------------------------------------------------

/-- Of any clients that come in any order while a limiter is swept at any time, each is accepted
when it tried at most `limit` times in the last two lengths of a window, no more than `limit`
times in any one length, and no more than `2 * limit - 1` times in any two, which happens. -/
theorem rate_ceiling (limit : Nat) (hlimit : 1 ≤ limit) (hmax : limit < RateWindow.maxCount) :
    (∀ w both, 0 < w.nanos → w.doubled? = some both → ∀ passages, InTime passages →
      let ks := ((new limit w).run passages).knocks
      (∀ later k earlier, ks = later ++ k :: earlier → triedWithin k both earlier ≤ limit →
        k.accepted = true) ∧
      (∀ c a, acceptedWithin c a w ks ≤ limit) ∧
      ∀ c a, acceptedWithin c a both ks ≤ 2 * limit - 1) ∧
    ∃ w both, 0 < w.nanos ∧ w.doubled? = some both ∧ ∃ passages, InTime passages ∧
      ∃ c a, acceptedWithin c a both ((new limit w).run passages).knocks = 2 * limit - 1 := by
  refine ⟨fun w both hl hb passages ho => ?_,
    ⟨2⟩, ⟨4⟩, by decide, doubled?_two, brim limit .unknown, inTime_brim, .unknown, ⟨1⟩,
    acceptedWithin_brim hlimit hmax⟩
  have hnew : (new limit w).Keeps limit w ⟨0⟩ := .new hl
  obtain ⟨now, h⟩ := hnew.run (Nat.one_le_iff_ne_zero.mp hlimit) hl hb (fun p _ => Nat.zero_le _) ho
  exact ⟨fun _ _ _ hk => h.accepted_of_triedWithin hl hmax hb hk,
    fun _ _ => h.acceptedWithin_le hl hmax, fun _ _ => h.acceptedWithin_both_le hlimit hl hmax hb⟩

/-- With a limit of two: three are accepted in two lengths, and the fourth is turned away. -/
theorem rate_ceiling_of_two : 1 ≤ 2 ∧ 2 < RateWindow.maxCount ∧
    let passages : List Passage := brim 2 .unknown ++ [.sweep ⟨4⟩, .check ⟨4⟩ .unknown]
    let ks := ((new 2 ⟨2⟩).run passages).knocks
    ks.map (·.accepted) = [false, true, true, true, true] ∧ InTime passages ∧
      acceptedWithin .unknown ⟨1⟩ ⟨2⟩ ks ≤ 2 ∧ acceptedWithin .unknown ⟨1⟩ ⟨4⟩ ks ≤ 2 * 2 - 1 := by
  refine ⟨by decide, by decide, ?_⟩
  intro passages ks
  have ho : InTime passages := by simp [InTime, passages, brim, Passage.time]
  obtain ⟨-, hone, htwo⟩ := (rate_ceiling 2 (by decide) (by decide)).1 ⟨2⟩ ⟨4⟩ (by decide) rfl
    passages ho
  exact ⟨by decide, ho, hone .unknown ⟨1⟩, htwo .unknown ⟨1⟩⟩

end ChainGateway.Admission.Turnstile
