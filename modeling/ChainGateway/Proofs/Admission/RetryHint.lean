import ChainGateway.Proofs.Admission.RateIndependence
import ChainGateway.Proofs.Admission.RateRange
import ChainGateway.Proofs.Results

/-!
# When to come again

An attempt that takes its client over the limit is told how long the next one has to wait. Until the
window turns, it would be over the limit as well. When it turns, what was current still counts, and
if that alone leaves no room both windows have to pass. So the wait that is told is enough and no
longer than needed, as long as the client does not come in between; others and sweeps do not matter.
-/

namespace ChainGateway

theorem Span.ceilSeconds_le_iff {s : Span} {n : Nat} :
    s.ceilSeconds ≤ n ↔ s.nanos ≤ n * 1000000000 := by
  unfold ceilSeconds subsecond seconds
  split <;> omega

theorem Instant.representable_of_after? {t e : Instant} {s : Span} (h : t.after? s = some e) :
    e.Representable := by
  unfold after? at h
  dsimp only at h
  split at h
  · rename_i hr
    obtain rfl := Option.some.inj h
    exact hr.2
  · cases h

namespace Admission

-- ---------------------------------------------------------------------------
-- One window
-- ---------------------------------------------------------------------------

namespace RateWindow

variable {v w : RateWindow} {now later : Instant} {length both delay : Span} {limit : Nat}

/-- The current window is the one of `now`. -/
structure Holds (v : RateWindow) (now : Instant) (length : Span) : Prop where
  started : v.start.nanos ≤ now.nanos
  running : now.nanos < v.start.nanos + length.nanos

theorem holds_next (hl : 0 < length.nanos) (h : w.start.nanos ≤ now.nanos) :
    (w.next now length).Holds now length := by
  obtain ⟨-, hn⟩ | ⟨hlate, hnear, hn⟩ | ⟨hin, hn⟩ := w.next_cases now hl <;> rw [hn]
  · exact ⟨Nat.le_refl _, Nat.lt_add_of_pos_right hl⟩
  · exact ⟨hlate, by dsimp only; omega⟩
  · exact ⟨h, hin⟩

/-- The wait lasts until the window turns, or has turned twice if it is full by itself. -/
theorem retryAfter_shed (hb : length.doubled? = some both)
    (h : v.retryAfter now length limit = .ok delay) :
    ∃ shed : Instant, shed.Representable ∧ delay = shed.since now ∧
      shed.nanos = v.start.nanos +
        if limit < countAdd v.current 1 then length.nanos * 2 else length.nanos := by
  rw [retryAfter_eq now limit hb] at h
  generalize hwait : (if limit < countAdd v.current 1 then both else length) = wait at h
  cases hshed : v.start.after? wait with
  | none =>
    rw [hshed] at h
    cases h
  | some shed =>
    rw [hshed] at h
    refine ⟨shed, Instant.representable_of_after? hshed, (Except.ok.inj h).symm, ?_⟩
    rw [Instant.eq_of_after? hshed, ← hwait, ← Span.doubled?_eq_some hb]
    split <;> rfl

/-- The next attempt is within the limit just when the wait is over. -/
theorem retryAfter_exact (hl : 0 < length.nanos) (hb : length.doubled? = some both)
    (hlimit : 0 < limit) (hv : v.Holds now length) (hover : limit < v.total)
    (h : v.retryAfter now length limit = .ok delay) :
    (0 < delay.nanos ∧ delay.nanos ≤ length.nanos * 2) ∧
      ∀ later : Instant, now.nanos ≤ later.nanos →
        ((v.next later length).total ≤ limit ↔ now.nanos + delay.nanos ≤ later.nanos) := by
  obtain ⟨shed, -, rfl, hshed⟩ := retryAfter_shed hb h
  obtain ⟨hstarted, hrunning⟩ := hv
  unfold Instant.since
  dsimp only
  refine ⟨?_, fun later hlater => ?_⟩
  · split at hshed <;> omega
  · obtain ⟨hgap, hn⟩ | ⟨hlate, hnear, hn⟩ | ⟨hin, hn⟩ := v.next_cases later hl <;> rw [hn]
    · -- both windows have passed
      have htotal : total ⟨later, 0, 1⟩ = 1 := rfl
      rw [htotal]
      split at hshed <;> omega
    · -- the window has turned, and what was current counts
      have htotal : total ⟨⟨v.start.nanos + length.nanos⟩, v.current, 1⟩ =
          countAdd v.current 1 := rfl
      rw [htotal]
      split at hshed <;> omega
    · -- one more in the window that was over the limit
      have htotal : v.total ≤ total { v with current := countAdd v.current 1 } := by
        unfold total countAdd
        dsimp only
        omega
      split at hshed <;> omega

-- ---------------------------------------------------------------------------
-- Windows that attempts have made
-- ---------------------------------------------------------------------------

/-- Counts attempts one after the other. -/
def recordAll (w : RateWindow) (length : Span) (times : List Instant) : Except Fault RateWindow :=
  times.foldlM (fun w t => w.record t length) w

theorem recordAll_snoc (w : RateWindow) (length : Span) (times : List Instant) (now : Instant) :
    w.recordAll length (times ++ [now]) =
      w.recordAll length times >>= fun w => w.record now length := by
  simp [recordAll, List.foldlM_append]

/-- While spans go that far, counting does not fail, and windows start by the last attempt. -/
theorem recordAll_ok (hb : length.doubled? = some both) {times : List Instant}
    (hw : w.start.nanos ≤ now.nanos) (ht : ∀ t ∈ times, t.nanos ≤ now.nanos) :
    ∃ v, w.recordAll length times = .ok v ∧ v.start.nanos ≤ now.nanos := by
  induction times generalizing w with
  | nil => exact ⟨w, rfl, hw⟩
  | cons t times ih =>
    rw [List.forall_mem_cons] at ht
    have hnext : (w.next t length).start.nanos ≤ now.nanos := start_next_le hw ht.1
    obtain ⟨v, hv, hstart⟩ := ih hnext ht.2
    refine ⟨v, ?_, hstart⟩
    rw [recordAll, List.foldlM_cons, record_eq_next hb]
    exact hv

/-- What is told at `now` about a window that is over the limit. -/
structure Hint (limit : Nat) (length : Span) (now : Instant) (v : RateWindow) : Prop where
  /-- Something is told, unless both windows end beyond the clock. -/
  told : ∀ both e, length.doubled? = some both → now.after? both = some e →
    ∃ delay, v.retryAfter now length limit = .ok delay
  bounds : ∀ delay, v.retryAfter now length limit = .ok delay →
    0 < delay.nanos ∧ delay.nanos ≤ length.nanos * 2
  /-- The next attempt, `d` later, is within the limit just when the wait is over. -/
  within_iff : ∀ delay, v.retryAfter now length limit = .ok delay → ∀ d, ∃ next,
    v.record ⟨now.nanos + d⟩ length = .ok next ∧ (next.total ≤ limit ↔ delay.nanos ≤ d)

theorem hint (hl : 0 < length.nanos) (hb : length.doubled? = some both) (hlimit : 0 < limit)
    (hv : v.Holds now length) (hover : limit < v.total) : v.Hint limit length now where
  told _ _ hb' he := retryAfter_ok now limit hb' he hv.started
  bounds _ h := (retryAfter_exact hl hb hlimit hv hover h).1
  within_iff delay h d := by
    refine ⟨_, record_eq_next hb, ?_⟩
    obtain ⟨-, hexact⟩ := retryAfter_exact hl hb hlimit hv hover h
    rw [hexact ⟨now.nanos + d⟩ (Nat.le_add_right ..)]
    exact Nat.add_le_add_iff_left

/-- Whatever attempts there were, in the order of time: the one that goes over the limit is told
exactly when the next one will not. -/
theorem recordAll_hint (hl : 0 < length.nanos) (hb : length.doubled? = some both)
    (hlimit : 0 < limit) {start : Instant} {times : List Instant}
    (ho : (start :: times ++ [now]).Pairwise fun t u => t.nanos ≤ u.nanos) :
    ∃ v, (new start).recordAll length (times ++ [now]) = .ok v ∧
      (limit < v.total → v.Hint limit length now) := by
  have hlast : ∀ t ∈ start :: times, t.nanos ≤ now.nanos :=
    fun t ht => (List.pairwise_append.mp ho).2.2 t ht now List.mem_cons_self
  rw [List.forall_mem_cons] at hlast
  obtain ⟨w, hw, hstart⟩ := recordAll_ok (w := new start) hb hlast.1 hlast.2
  refine ⟨w.next now length, ?_, hint hl hb hlimit (holds_next hl hstart)⟩
  rw [recordAll_snoc, hw]
  exact record_eq_next hb

end RateWindow

-- ---------------------------------------------------------------------------
-- A limiter
-- ---------------------------------------------------------------------------

namespace RateLimiter

variable {l : RateLimiter} {t : Instant} {c : Client} {delay : Span} {limit : Nat} {w : Span}
  {v : RateWindow}

theorem check_limits (l : RateLimiter) (t : Instant) (c : Client) :
    (l.check t c).2.limit = l.limit ∧ (l.check t c).2.window = l.window := by
  unfold check
  split
  · exact ⟨rfl, rfl⟩
  · dsimp only
    split
    · exact ⟨rfl, rfl⟩
    · split
      · exact ⟨rfl, rfl⟩
      · split <;> exact ⟨rfl, rfl⟩

theorem sweep_limits {n : Nat} {l' : RateLimiter} (h : l.sweep t = .ok (n, l')) :
    l'.limit = l.limit ∧ l'.window = l.window := by
  unfold sweep at h
  obtain ⟨stale, -, h⟩ := bind_ok.mp h
  cases h
  exact ⟨rfl, rfl⟩

/-- Only a limiter that is on, and that can tell both windows, tells someone to wait. -/
theorem enabled_of_retryAfter (h : (l.check t c).1 = .retryAfter delay) :
    l.limit ≠ 0 ∧ ∃ both, l.window.doubled? = some both := by
  refine ⟨fun hzero => ?_, ?_⟩
  · rw [check_of_disabled hzero] at h
    cases h
  · cases hb : l.window.doubled? with
    | some both => exact ⟨both, rfl⟩
    | none =>
      have hrecord : ∀ v : RateWindow, v.record t l.window = .error .timeOverflow := by
        intro v
        unfold RateWindow.record RateWindow.roll RateWindow.bothWindows
        rw [hb]
        rfl
      unfold check at h
      simp only [hrecord] at h
      split at h <;> cases h

theorem judge_retryAfter (h : judge limit w t v = .retryAfter delay) :
    limit < v.total ∧ v.retryAfter t w limit = .ok delay := by
  unfold judge at h
  split at h
  · cases h
  · rename_i hnot
    split at h
    · rename_i hr
      cases h
      exact ⟨by omega, hr⟩
    · cases h

theorem judge_accepted_iff (hlimit : limit ≠ 0) :
    judge limit w t v = .accepted ↔ v.total ≤ limit := by
  unfold judge
  split
  · simp_all
  · split <;> simp_all

/-- A wait ends within the clock, so its seconds can be told. -/
theorem ceilSeconds_le_of_retryAfter (h : (l.check t c).1 = .retryAfter delay) :
    delay.ceilSeconds ≤ Text.maxU64 := by
  obtain ⟨-, both, hb⟩ := enabled_of_retryAfter h
  rw [check_verdict hb] at h
  obtain ⟨shed, hshed, rfl, -⟩ := RateWindow.retryAfter_shed hb (judge_retryAfter h).2
  rw [Span.ceilSeconds_le_iff]
  unfold Instant.Representable Instant.lastSecond at hshed
  unfold Instant.since Text.maxU64
  dsimp only
  omega

end RateLimiter

-- ---------------------------------------------------------------------------
-- A turnstile
-- ---------------------------------------------------------------------------

namespace Turnstile

variable {limit : Nat} {w both delay : Span} {start now t : Instant} {s s' : Turnstile}
  {c : Client} {comes : Client → Prop}

/-- What may become of the turnstile `s` from `start` until `now`, when only clients come that
`comes` allows. -/
inductive Meanwhile (comes : Client → Prop) (s : Turnstile) (start : Instant) :
    Turnstile → Instant → Prop
  | start : Meanwhile comes s start s start
  | check {s' : Turnstile} {now t : Instant} {c : Client} : Meanwhile comes s start s' now →
    now.nanos ≤ t.nanos → comes c → Meanwhile comes s start (s'.check t c) t
  | sweep {s' : Turnstile} {now t : Instant} : Meanwhile comes s start s' now →
    now.nanos ≤ t.nanos → Meanwhile comes s start (s'.sweep t) t
  | later {s' : Turnstile} {now t : Instant} : Meanwhile comes s start s' now →
    now.nanos ≤ t.nanos → Meanwhile comes s start s' t

namespace Meanwhile

theorem limits (h : Meanwhile comes s start s' now) :
    s'.limiter.limit = s.limiter.limit ∧ s'.limiter.window = s.limiter.window := by
  induction h with
  | start => exact ⟨rfl, rfl⟩
  | @check s' _ t c _ _ _ ih =>
    obtain ⟨hlimit, hwindow⟩ := s'.limiter.check_limits t c
    exact ⟨hlimit.trans ih.1, hwindow.trans ih.2⟩
  | sweep _ _ ih =>
    unfold Turnstile.sweep
    split
    · rename_i hs
      obtain ⟨hlimit, hwindow⟩ := RateLimiter.sweep_limits hs
      exact ⟨hlimit.trans ih.1, hwindow.trans ih.2⟩
    · exact ih
  | later _ _ ih => exact ih

/-- Whoever does not come has come when they had come before. -/
theorem timesOf_eq (h : Meanwhile comes s start s' now) (hc : ¬comes c) :
    timesOf c s'.knocks = timesOf c s.knocks := by
  induction h with
  | start => rfl
  | @check _ _ _ d _ _ hd ih =>
    have hdc : d ≠ c := fun hdc => hc (hdc ▸ hd)
    rw [timesOf_check, if_neg hdc, ih]
  | sweep _ _ ih => rw [sweep_knocks, ih]
  | later _ _ ih => exact ih

theorem forward (h : Meanwhile comes s start s' now) : start.nanos ≤ now.nanos := by
  induction h with
  | start => exact Nat.le_refl _
  | check _ hle _ ih => exact Nat.le_trans ih hle
  | sweep _ hle ih => exact Nat.le_trans ih hle
  | later _ hle ih => exact Nat.le_trans ih hle

end Meanwhile

namespace Keeps

theorem later (h : s.Keeps limit w now) (hle : now.nanos ≤ t.nanos) : s.Keeps limit w t :=
  { h with
    past := fun k hk => Nat.le_trans (h.past k hk) hle
    windows := fun c u hu => h.windows c u (Nat.le_trans hle hu) }

theorem meanwhile (hlimit : limit ≠ 0) (hl : 0 < w.nanos) (hb : w.doubled? = some both)
    (h : s.Keeps limit w start) (hm : Meanwhile comes s start s' now) : s'.Keeps limit w now := by
  induction hm with
  | start => exact h
  | check _ hle _ ih => exact ih.check hlimit hb hle
  | sweep _ hle ih => exact ih.sweep hb hl hle
  | later _ hle ih => exact ih.later hle

/-- The window that an attempt is judged by is the one of its time. -/
theorem holds (hlimit : limit ≠ 0) (hl : 0 < w.nanos) (hb : w.doubled? = some both)
    (h : s.Keeps limit w now) (ht : now.nanos ≤ t.nanos) (c : Client) :
    (RateWindow.ofTimes w t (timesOf c s.knocks)).Holds t w := by
  have hcheck : (s.check t c).Keeps limit w t := h.check hlimit hb ht
  have hknocks : (s.check t c).knocks =
      [] ++ ⟨c, t, (s.limiter.check t c).1 = .accepted⟩ :: s.knocks := rfl
  exact ⟨hcheck.start_le hl hknocks, hcheck.lt_end hl hknocks⟩

/-- A client that is told to wait, and does not come meanwhile, is accepted just when the wait is
over, whatever others do and whatever is swept. -/
theorem retry_exact (hl : 0 < w.nanos) (h : s.Keeps limit w now) (ht : now.nanos ≤ t.nanos)
    (hretry : (s.limiter.check t c).1 = .retryAfter delay) :
    (0 < delay.nanos ∧ delay.nanos ≤ w.nanos * 2) ∧
      ∀ s' now' t', Meanwhile (· ≠ c) (s.check t c) t s' now' → now'.nanos ≤ t'.nanos →
        ((s'.limiter.check t' c).1 = .accepted ↔ t.nanos + delay.nanos ≤ t'.nanos) := by
  obtain ⟨hlimit, both, hb⟩ := RateLimiter.enabled_of_retryAfter hretry
  rw [h.limit_eq] at hlimit
  rw [h.window_eq] at hb
  obtain ⟨hover, hdelay⟩ := RateLimiter.judge_retryAfter ((h.verdict hb ht).symm.trans hretry)
  obtain ⟨hbounds, hexact⟩ := RateWindow.retryAfter_exact hl hb (Nat.pos_of_ne_zero hlimit)
    (h.holds hlimit hl hb ht c) hover hdelay
  refine ⟨hbounds, fun s' now' t' hm hle => ?_⟩
  have hkeeps : s'.Keeps limit w now' := (h.check hlimit hb ht).meanwhile hlimit hl hb hm
  have htimes : timesOf c s'.knocks = t :: timesOf c s.knocks := by
    rw [hm.timesOf_eq (by simp), timesOf_check, if_pos rfl]
  rw [hkeeps.verdict hb hle, htimes, RateLimiter.judge_accepted_iff hlimit]
  exact hexact t' (Nat.le_trans hm.forward hle)

end Keeps
end Turnstile
end Admission
end ChainGateway
