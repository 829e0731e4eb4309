import ChainGateway.Admission.RateLimiter
import ChainGateway.Proofs.Labels

/-!
# Laws of rate windows

While twice the length of a window is a span, counting an attempt never fails, and a window
that is stale counts as a new one would. A limiter is seen through the window it has for each
client; sweeping takes away just the stale ones.
-/

namespace ChainGateway

theorem Span.doubled?_eq_some {s d : Span} (h : s.doubled? = some d) :
    d.nanos = s.nanos * 2 := by
  unfold doubled? at h
  dsimp only at h
  split at h
  · rw [← Option.some.inj h]
  · cases h

namespace Admission

-- ---------------------------------------------------------------------------
-- One window
-- ---------------------------------------------------------------------------

namespace RateWindow

variable {w : RateWindow} {now last : Instant} {length both : Span}

/-- The window after one more attempt, whatever the spans that can be told. -/
def next (w : RateWindow) (now : Instant) (length : Span) : RateWindow :=
  let elapsed := (now.since w.start).nanos
  if length.nanos * 2 ≤ elapsed then ⟨now, 0, 1⟩
  else if length.nanos ≤ elapsed then ⟨⟨w.start.nanos + length.nanos⟩, w.current, 1⟩
  else { w with current := countAdd w.current 1 }

theorem record_eq_next (h : length.doubled? = some both) :
    w.record now length = .ok (w.next now length) := by
  have hboth : bothWindows length = .ok both := by simp only [bothWindows, h]
  unfold record roll next
  rw [hboth]
  simp only [bind, Except.bind, Span.doubled?_eq_some h]
  by_cases hstale : length.nanos * 2 ≤ (now.since w.start).nanos
  · simp only [if_pos hstale]
    rfl
  · simp only [if_neg hstale]
    by_cases hover : length.nanos ≤ (now.since w.start).nanos
    · simp only [if_pos hover]
      rfl
    · simp only [if_neg hover]

theorem isStale_eq (h : length.doubled? = some both) :
    w.isStale now length = .ok (decide (length.nanos * 2 ≤ (now.since w.start).nanos)) := by
  have hboth : bothWindows length = .ok both := by simp only [bothWindows, h]
  unfold isStale
  rw [hboth]
  simp only [bind, Except.bind, Span.doubled?_eq_some h]

/-- A window is left behind, becomes the previous one, or goes on. -/
theorem next_cases (w : RateWindow) (now : Instant) (hl : 0 < length.nanos) :
    (w.start.nanos + length.nanos * 2 ≤ now.nanos ∧ w.next now length = ⟨now, 0, 1⟩) ∨
    (w.start.nanos + length.nanos ≤ now.nanos ∧
      now.nanos < w.start.nanos + length.nanos * 2 ∧
      w.next now length = ⟨⟨w.start.nanos + length.nanos⟩, w.current, 1⟩) ∨
    (now.nanos < w.start.nanos + length.nanos ∧
      w.next now length = { w with current := countAdd w.current 1 }) := by
  unfold next Instant.since
  dsimp only
  split
  · exact .inl ⟨by omega, rfl⟩
  · split
    · exact .inr (.inl ⟨by omega, by omega, rfl⟩)
    · exact .inr (.inr ⟨by omega, rfl⟩)

theorem next_of_stale (h : length.nanos * 2 ≤ (now.since w.start).nanos) :
    w.next now length = ⟨now, 0, 1⟩ := by
  rw [next, if_pos h]

theorem start_next_le (hw : w.start.nanos ≤ last.nanos) (hn : now.nanos ≤ last.nanos) :
    (w.next now length).start.nanos ≤ last.nanos := by
  unfold next Instant.since
  dsimp only
  split
  · exact hn
  · split
    · dsimp only
      omega
    · exact hw

/-- A new window counts its first attempt as a stale one would. -/
theorem next_new (hl : 0 < length.nanos) : (new now).next now length = ⟨now, 0, 1⟩ := by
  obtain ⟨h, -⟩ | ⟨h, -⟩ | ⟨-, hn⟩ := (new now).next_cases now hl
  · simp only [new] at h
    omega
  · simp only [new] at h
    omega
  · exact hn

/-- A stale window stays stale. -/
theorem stale_mono {later : Instant} (hle : now.nanos ≤ later.nanos)
    (h : length.nanos * 2 ≤ (now.since w.start).nanos) :
    length.nanos * 2 ≤ (later.since w.start).nanos := by
  unfold Instant.since at *
  dsimp only at *
  omega

end RateWindow

-- ---------------------------------------------------------------------------
-- The windows of a limiter
-- ---------------------------------------------------------------------------

namespace RateLimiter

variable {l : RateLimiter} {w : RateWindow} {c d : Client} {now : Instant} {both : Span}

theorem find?_putWindow {ws : List (Client × RateWindow)} :
    ((putWindow c w ws).find? (·.1 = d)).map (·.2) =
      if c = d then some w else (ws.find? (·.1 = d)).map (·.2) := by
  induction ws with
  | nil => by_cases h : c = d <;> simp [putWindow, h]
  | cons x ws ih =>
    obtain ⟨e, v⟩ := x
    by_cases he : e = c
    · by_cases h : c = d <;> simp [putWindow, he, h]
    · rw [putWindow, if_neg he, List.find?_cons, List.find?_cons]
      by_cases h : c = d
      · subst h
        simpa [he] using ih
      · by_cases hd : e = d
        · simp [hd, h]
        · simpa [hd, h] using ih

theorem find?_put : (l.put c w).find? d = if c = d then some w else l.find? d :=
  find?_putWindow

/-- No two windows are of one client. -/
def Single (l : RateLimiter) : Prop := (l.windows.map (·.1)).Nodup

theorem mem_clients_putWindow {ws : List (Client × RateWindow)} :
    d ∈ (putWindow c w ws).map (·.1) ↔ d = c ∨ d ∈ ws.map (·.1) := by
  induction ws with
  | nil => simp [putWindow]
  | cons x ws ih =>
    obtain ⟨e, v⟩ := x
    by_cases he : e = c
    · simp [putWindow, he]
    · rw [putWindow, if_neg he, List.map_cons, List.mem_cons, ih, List.map_cons, List.mem_cons]
      exact or_left_comm

theorem nodup_putWindow {ws : List (Client × RateWindow)} (h : (ws.map (·.1)).Nodup) :
    ((putWindow c w ws).map (·.1)).Nodup := by
  induction ws with
  | nil => simp [putWindow]
  | cons x ws ih =>
    obtain ⟨e, v⟩ := x
    rw [List.map_cons, List.nodup_cons] at h
    by_cases he : e = c
    · rw [putWindow, if_pos he, List.map_cons, List.nodup_cons]
      exact ⟨he ▸ h.1, h.2⟩
    · rw [putWindow, if_neg he, List.map_cons, List.nodup_cons, mem_clients_putWindow]
      exact ⟨fun hm => hm.elim he h.1, ih h.2⟩

theorem Single.put (h : l.Single) : (l.put c w).Single := nodup_putWindow h

-- ---------------------------------------------------------------------------
-- Checking and sweeping
-- ---------------------------------------------------------------------------

theorem check_of_disabled (h : l.limit = 0) : l.check now c = (.accepted, l) := by
  simp [check, isEnabled, h]

/-- An attempt goes by the client's own window, and changes no other. -/
theorem check_put (l : RateLimiter) (now : Instant) (c : Client) (he : l.limit ≠ 0) :
    ∃ verdict w, ∀ l' : RateLimiter, l.limit = l'.limit → l.window = l'.window →
      l.find? c = l'.find? c → l'.check now c = (verdict, l'.put c w) := by
  have henabled : ∀ l' : RateLimiter, l.limit = l'.limit → l'.isEnabled = true := by
    intro l' hlimit
    simpa [isEnabled, ← hlimit] using he
  cases hr : ((l.find? c).getD (.new now)).record now l.window with
  | error f =>
    refine ⟨.failed f, (l.find? c).getD (.new now), fun l' hlimit hwindow hfind => ?_⟩
    rw [hwindow, hfind] at hr
    simp only [check, henabled l' hlimit, hr, hfind, Bool.not_true, Bool.false_eq_true, if_false]
  | ok w =>
    have hput : ∀ l' : RateLimiter, l.limit = l'.limit → l.window = l'.window →
        (l'.put c w).limit = l.limit ∧ (l'.put c w).window = l.window := fun l' hlimit hwindow =>
      ⟨hlimit.symm, hwindow.symm⟩
    by_cases hw : w.total ≤ l.limit
    · refine ⟨.accepted, w, fun l' hlimit hwindow hfind => ?_⟩
      rw [hwindow, hfind] at hr
      simp only [check, henabled l' hlimit, hr, hput l' hlimit hwindow, hw, Bool.not_true,
        Bool.false_eq_true, if_false, if_true]
    · cases hretry : w.retryAfter now l.window l.limit with
      | ok delay =>
        refine ⟨.retryAfter delay, w, fun l' hlimit hwindow hfind => ?_⟩
        rw [hwindow, hfind] at hr
        simp only [check, henabled l' hlimit, hr, hput l' hlimit hwindow, hw, hretry,
          Bool.not_true, Bool.false_eq_true, if_false]
      | error f =>
        refine ⟨.failed f, w, fun l' hlimit hwindow hfind => ?_⟩
        rw [hwindow, hfind] at hr
        simp only [check, henabled l' hlimit, hr, hput l' hlimit hwindow, hw, hretry,
          Bool.not_true, Bool.false_eq_true, if_false]

/-- The window that a client has after an attempt at `now`. -/
def windowAfter (l : RateLimiter) (now : Instant) (c : Client) : RateWindow :=
  ((l.find? c).getD (.new now)).next now l.window

theorem windowAfter_put : (l.put c w).windowAfter now d =
    if c = d then w.next now l.window else l.windowAfter now d := by
  unfold windowAfter
  rw [find?_put]
  split <;> rfl

theorem check_state (l : RateLimiter) (now : Instant) (c : Client) (he : l.limit ≠ 0)
    (h : l.window.doubled? = some both) :
    (l.check now c).2 = l.put c (l.windowAfter now c) := by
  have henabled : l.isEnabled = true := by simpa [isEnabled] using he
  unfold check
  simp only [henabled, RateWindow.record_eq_next h, Bool.not_true, Bool.false_eq_true, if_false]
  split
  · rfl
  · split <;> rfl

/-- What an attempt is told that makes the window `w`. -/
def judge (limit : Nat) (window : Span) (now : Instant) (w : RateWindow) : Verdict :=
  if limit = 0 ∨ w.total ≤ limit then .accepted
  else match w.retryAfter now window limit with
    | .ok delay => .retryAfter delay
    | .error f => .failed f

theorem check_verdict (h : l.window.doubled? = some both) :
    (l.check now c).1 = judge l.limit l.window now (l.windowAfter now c) := by
  by_cases hlimit : l.limit = 0
  · rw [check_of_disabled hlimit, judge, if_pos (.inl hlimit)]
  · have henabled : l.isEnabled = true := by simpa [isEnabled] using hlimit
    have hput : ∀ w, (l.put c w).limit = l.limit ∧ (l.put c w).window = l.window := fun _ =>
      ⟨rfl, rfl⟩
    unfold check judge windowAfter
    simp only [henabled, RateWindow.record_eq_next h, Bool.not_true, Bool.false_eq_true, if_false,
      hput, hlimit, false_or]
    split
    · rfl
    · split <;> simp_all

theorem check_accepted_iff (l : RateLimiter) (now : Instant) (c : Client) (he : l.limit ≠ 0)
    (h : l.window.doubled? = some both) :
    (l.check now c).1 = .accepted ↔ (l.windowAfter now c).total ≤ l.limit := by
  have henabled : l.isEnabled = true := by simpa [isEnabled] using he
  have hlimit : ∀ w, (l.put c w).limit = l.limit := fun _ => rfl
  unfold check
  simp only [henabled, RateWindow.record_eq_next h, Bool.not_true, Bool.false_eq_true, if_false,
    hlimit]
  split
  · rename_i ht
    exact iff_of_true rfl ht
  · rename_i ht
    refine iff_of_false ?_ ht
    split <;> exact nofun

/-- Whether a window has nothing that counts at `now`. -/
def isOver (l : RateLimiter) (now : Instant) (w : RateWindow) : Bool :=
  l.window.nanos * 2 ≤ (now.since w.start).nanos

theorem sweep_eq (l : RateLimiter) (now : Instant) (h : l.window.doubled? = some both) :
    ∃ n, l.sweep now = .ok (n, { l with windows := l.windows.filter fun x => !l.isOver now x.2 }) := by
  have hmap : (l.windows.mapM fun x => x.2.isStale now l.window : Except Fault (List Bool)) =
      .ok (l.windows.map fun x => l.isOver now x.2) := by
    generalize l.windows = ws
    induction ws with
    | nil => rfl
    | cons x ws ih =>
      rw [List.mapM_cons, RateWindow.isStale_eq h, ih]
      rfl
  have hkept : ∀ ws : List (Client × RateWindow),
      ((ws.zip (ws.map fun x => l.isOver now x.2)).filter fun x => !x.2).map (·.1) =
        ws.filter fun x => !l.isOver now x.2 := by
    intro ws
    induction ws with
    | nil => rfl
    | cons x ws ih =>
      rw [List.map_cons, List.zip_cons_cons, List.filter_cons, List.filter_cons]
      cases hx : l.isOver now x.2 <;> simpa [hx] using ih
  have hkept := hkept l.windows
  unfold sweep
  rw [hmap]
  simp only [bind, Except.bind, hkept]
  exact ⟨_, rfl⟩

theorem Single.filter (h : l.Single) (p : Client × RateWindow → Bool) :
    ({ l with windows := l.windows.filter p } : RateLimiter).Single :=
  List.Nodup.sublist (List.filter_sublist.map _) h

/-- Leaving windows out leaves each client its own or none. -/
theorem Single.find?_filter (h : l.Single) (p : RateWindow → Bool) :
    ({ l with windows := l.windows.filter fun x => p x.2 } : RateLimiter).find? c =
      (l.find? c).filter p := by
  unfold Single at h
  unfold find?
  dsimp only
  generalize l.windows = ws at h
  induction ws with
  | nil => rfl
  | cons x ws ih =>
    obtain ⟨d, v⟩ := x
    rw [List.map_cons, List.nodup_cons] at h
    rw [List.filter_cons, List.find?_cons]
    by_cases hd : d = c
    · subst hd
      cases hp : p v with
      | true => simp [Option.filter, hp]
      | false =>
        have hnone : (ws.filter fun x => p x.2).find? (·.1 = d) = none := by
          refine List.find?_eq_none.mpr fun y hy => ?_
          have hmem : y.1 ∈ ws.map (·.1) := List.mem_map_of_mem (List.filter_sublist.subset hy)
          have hne : y.1 ≠ d := fun he => h.1 (he ▸ hmem)
          simpa using hne
        simp [Option.filter, hp, hnone]
    · cases hp : p v <;> simpa [hd, hp] using ih h.2

end RateLimiter
end Admission
end ChainGateway
