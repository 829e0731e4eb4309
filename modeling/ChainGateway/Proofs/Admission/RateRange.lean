import ChainGateway.Proofs.Admission.Turnstile
import ChainGateway.Proofs.Cache.StoreLaws

/-!
# Rate limits within the clock

A limiter has to double its window on every attempt, and to add that to the start of a window when
it turns an attempt away. It never fails until `last` just when both can be told there: windows
start no later, and whoever turns attempts away can be made to do so in a window that starts then.
-/

namespace ChainGateway.Admission

-- ---------------------------------------------------------------------------
-- One window
-- ---------------------------------------------------------------------------

namespace RateWindow

variable {w : RateWindow} {now last e : Instant} {length both : Span} {limit : Nat}

theorem total_le : w.total ≤ maxCount := Nat.min_le_left _ _

/-- An attempt at the start of a window is one more in it. -/
theorem next_at_start {n : Nat} (hl : 0 < length.nanos) (hn : n < maxCount) :
    (⟨now, 0, n⟩ : RateWindow).next now length = ⟨now, 0, n + 1⟩ := by
  obtain ⟨h, -⟩ | ⟨h, -⟩ | ⟨-, hnext⟩ := (⟨now, 0, n⟩ : RateWindow).next_cases now hl
  · dsimp only at h
    omega
  · dsimp only at h
    omega
  · rw [hnext]
    simp only [countAdd]
    rw [Nat.min_eq_right (by omega)]

theorem bothWindows_ok (h : length.doubled? = some both) : bothWindows length = .ok both := by
  simp only [bothWindows, h]

theorem retryAfter_eq (now : Instant) (limit : Nat) (hb : length.doubled? = some both) :
    w.retryAfter now length limit =
      (w.start.after? (if limit < countAdd w.current 1 then both else length)).elim
        (.error .timeOverflow) fun shed => .ok (shed.since now) := by
  unfold retryAfter
  rw [bothWindows_ok hb]
  dsimp only [bind, Except.bind]
  split
  · cases w.start.after? both <;> rfl
  · cases w.start.after? length <;> rfl

theorem retryAfter_ok (now : Instant) (limit : Nat) (hb : length.doubled? = some both)
    (hlast : last.after? both = some e) (hw : w.start.nanos ≤ last.nanos) :
    ∃ delay, w.retryAfter now length limit = .ok delay := by
  have hdouble := Span.doubled?_eq_some hb
  obtain ⟨shed, hshed⟩ : ∃ shed,
      w.start.after? (if limit < countAdd w.current 1 then both else length) = some shed := by
    refine Instant.after?_mono hw ?_ hlast
    split <;> omega
  rw [retryAfter_eq now limit hb, hshed]
  exact ⟨shed.since now, rfl⟩

end RateWindow

-- ---------------------------------------------------------------------------
-- Limiters that do not fail
-- ---------------------------------------------------------------------------

namespace RateLimiter

variable {l : RateLimiter} {limit : Nat} {window both : Span} {last t : Instant} {c : Client}

/-- What a limiter has to tell until `last` is in range: twice its window and, if it turns attempts
away, the end of both windows when they start then. -/
def InRange (limit : Nat) (window : Span) (last : Instant) : Prop :=
  limit ≠ 0 → ∃ both, window.doubled? = some both ∧
    (limit < RateWindow.maxCount → ∃ e, last.after? both = some e)

/-- A limiter that was used until `last`. -/
structure Until (limit : Nat) (window : Span) (last : Instant) (l : RateLimiter) : Prop where
  limit_eq : l.limit = limit
  window_eq : l.window = window
  unused : limit = 0 → l.windows = []
  started : ∀ x ∈ l.windows, x.2.start.nanos ≤ last.nanos

namespace Until

theorem new : (RateLimiter.new limit window).Until limit window last :=
  ⟨rfl, rfl, fun _ => rfl, nofun⟩

theorem start_windowAfter (h : l.Until limit window last) (ht : t.nanos ≤ last.nanos) :
    (l.windowAfter t c).start.nanos ≤ last.nanos := by
  refine RateWindow.start_next_le ?_ ht
  cases hf : l.find? c with
  | none => exact ht
  | some w =>
    obtain ⟨x, hx, rfl⟩ := Option.map_eq_some_iff.mp hf
    exact h.started x (List.mem_of_find?_eq_some hx)

theorem mem_putWindow {w : RateWindow} {ws : List (Client × RateWindow)} {x : Client × RateWindow}
    (h : x ∈ putWindow c w ws) : x.2 = w ∨ x ∈ ws := by
  induction ws with
  | nil => exact .inl (by rw [List.mem_singleton.mp h])
  | cons y ws ih =>
    unfold putWindow at h
    split at h
    · rcases List.mem_cons.mp h with rfl | h
      · exact .inl rfl
      · exact .inr (List.mem_cons_of_mem _ h)
    · rcases List.mem_cons.mp h with rfl | h
      · exact .inr List.mem_cons_self
      · exact (ih h).imp_right (List.mem_cons_of_mem _)

theorem put {w : RateWindow} (h : l.Until limit window last) (hl : limit ≠ 0)
    (hw : w.start.nanos ≤ last.nanos) : (l.put c w).Until limit window last where
  limit_eq := h.limit_eq
  window_eq := h.window_eq
  unused hzero := absurd hzero hl
  started x hx := by
    rcases mem_putWindow hx with hx | hx
    · exact hx ▸ hw
    · exact h.started x hx

/-- No attempt fails, and the limiter goes on like this. -/
theorem check (hr : InRange limit window last) (h : l.Until limit window last)
    (ht : t.nanos ≤ last.nanos) (c : Client) :
    (∀ f, (l.check t c).1 ≠ .failed f) ∧ (l.check t c).2.Until limit window last := by
  by_cases hl : limit = 0
  · rw [check_of_disabled (h.limit_eq.trans hl)]
    exact ⟨by simp, h⟩
  obtain ⟨both, hb, hends⟩ := hr hl
  have he : l.limit ≠ 0 := fun hz => hl (h.limit_eq.symm.trans hz)
  have hb' : l.window.doubled? = some both := h.window_eq ▸ hb
  have hstart := h.start_windowAfter ht (c := c)
  rw [check_verdict hb', l.check_state t c he hb', judge]
  refine ⟨fun f => ?_, h.put hl hstart⟩
  split
  · simp
  · rename_i hfull
    have htotal := RateWindow.total_le (w := l.windowAfter t c)
    rw [h.limit_eq] at hfull ⊢
    obtain ⟨e, hlast⟩ := hends (by omega)
    obtain ⟨delay, hdelay⟩ := RateWindow.retryAfter_ok t limit hb' hlast hstart
    rw [hdelay]
    simp

theorem sweep (hr : InRange limit window last) (h : l.Until limit window last) (t : Instant) :
    ∃ n l', l.sweep t = .ok (n, l') ∧ l'.Until limit window last := by
  by_cases hl : limit = 0
  · obtain ⟨limit', window', windows⟩ := l
    obtain rfl : windows = [] := h.unused hl
    exact ⟨0, _, rfl, h⟩
  obtain ⟨both, hb, -⟩ := hr hl
  obtain ⟨n, hs⟩ := l.sweep_eq t (h.window_eq ▸ hb)
  refine ⟨n, _, hs, h.limit_eq, h.window_eq, fun hz => absurd hz hl, fun x hx => ?_⟩
  exact h.started x (List.mem_filter.mp hx).1

theorem run {passages : List Passage} {s : Turnstile} (hr : InRange limit window last)
    (h : s.limiter.Until limit window last) (ht : ∀ p ∈ passages, p.time.nanos ≤ last.nanos) :
    (s.run passages).limiter.Until limit window last := by
  induction passages generalizing s with
  | nil => exact h
  | cons p passages ih =>
    refine ih ?_ fun p hp => ht p (List.mem_cons_of_mem _ hp)
    cases p with
    | check t c => exact (h.check hr (ht _ List.mem_cons_self) c).2
    | sweep t =>
      obtain ⟨n, l', hs, hl'⟩ := h.sweep hr t
      rw [Turnstile.step, Turnstile.sweep, hs]
      exact hl'

end Until

-- ---------------------------------------------------------------------------
-- A limiter that fails
-- ---------------------------------------------------------------------------

theorem check_limiter {s : Turnstile} (he : s.limiter.limit ≠ 0)
    (hb : s.limiter.window.doubled? = some both) :
    (s.check t c).limiter = s.limiter.put c (s.limiter.windowAfter t c) :=
  s.limiter.check_state t c he hb

/-- Attempts at one moment are all in one window. -/
theorem run_replicate (hl : 0 < window.nanos) (he : limit ≠ 0) (hb : window.doubled? = some both)
    (t : Instant) (c : Client) {n : Nat} (hn : n < RateWindow.maxCount) :
    let l := ((Turnstile.new limit window).run (.replicate (n + 1) (.check t c))).limiter
    l.limit = limit ∧ l.window = window ∧ l.find? c = some ⟨t, 0, n + 1⟩ := by
  induction n with
  | zero =>
    have hstate := check_limiter (s := .new limit window) (t := t) (c := c) he hb
    have hnext : (RateLimiter.new limit window).windowAfter t c = ⟨t, 0, 1⟩ :=
      RateWindow.next_new hl
    intro l
    have hlimiter : l = (RateLimiter.new limit window).put c ⟨t, 0, 1⟩ :=
      hstate.trans (congrArg _ hnext)
    rw [hlimiter]
    exact ⟨rfl, rfl, find?_put.trans (if_pos rfl)⟩
  | succ n ih =>
    obtain ⟨hlimit, hwindow, hfind⟩ := ih (by omega)
    intro l
    have hrun : l = (((Turnstile.new limit window).run (.replicate (n + 1) (.check t c))).check
        t c).limiter := by
      simp only [l, List.replicate_succ' (n := n + 1), Turnstile.run, List.foldl_append]
      rfl
    generalize (Turnstile.new limit window).run (.replicate (n + 1) (.check t c)) = s at *
    have hnext : s.limiter.windowAfter t c = ⟨t, 0, n + 2⟩ := by
      rw [windowAfter, hfind, hwindow]
      exact RateWindow.next_at_start hl hn
    rw [hrun, check_limiter (hlimit ▸ he) (hwindow ▸ hb), hnext]
    exact ⟨hlimit, hwindow, find?_put.trans (if_pos rfl)⟩

/-- Where something is out of range, one more attempt at `last` than the limit allows fails. -/
theorem exists_failed (hl : 0 < window.nanos) (h : ¬InRange limit window last) :
    ∃ n c f, (((Turnstile.new limit window).run (.replicate n (.check last c))).limiter.check
      last c).1 = .failed f := by
  simp only [InRange, Classical.not_imp, not_exists, not_and] at h
  obtain ⟨he, h⟩ := h
  cases hb : window.doubled? with
  | none =>
    have henabled : (RateLimiter.new limit window).isEnabled = true := by
      simpa [isEnabled, RateLimiter.new] using he
    have hrecord : ∀ w : RateWindow, w.record last window = .error .timeOverflow := by
      intro w
      simp only [RateWindow.record, RateWindow.roll, RateWindow.bothWindows, hb, bind, Except.bind]
    refine ⟨0, .unknown, .timeOverflow, ?_⟩
    change ((RateLimiter.new limit window).check last .unknown).1 = _
    unfold check
    rw [henabled]
    dsimp only [RateLimiter.new]
    rw [hrecord]
    rfl
  | some both =>
    obtain ⟨hmax, hlast⟩ := h both hb
    have hend : last.after? both = none := Option.eq_none_iff_forall_ne_some.mpr hlast
    obtain ⟨n, rfl⟩ := Nat.exists_eq_succ_of_ne_zero he
    obtain ⟨hlimit, hwindow, hfind⟩ := run_replicate (n := n) hl he hb last .unknown (by omega)
    refine ⟨n + 1, .unknown, .timeOverflow, ?_⟩
    generalize ((Turnstile.new (n + 1) window).run
      (.replicate (n + 1) (.check last .unknown))).limiter = l at *
    have hnext : l.windowAfter last .unknown = ⟨last, 0, n + 2⟩ := by
      rw [windowAfter, hfind, hwindow]
      exact RateWindow.next_at_start hl hmax
    have hfull : ¬(n + 1 = 0 ∨ (⟨last, 0, n + 2⟩ : RateWindow).total ≤ n + 1) := by
      simp only [RateWindow.total, RateWindow.countAdd]
      omega
    have hcount : n + 1 < RateWindow.countAdd (n + 2) 1 := by
      simp only [RateWindow.countAdd]
      omega
    rw [check_verdict (hwindow ▸ hb), hnext, hlimit, hwindow, judge, if_neg hfull,
      RateWindow.retryAfter_eq last _ hb, if_pos hcount, hend]
    rfl

end RateLimiter
end ChainGateway.Admission
