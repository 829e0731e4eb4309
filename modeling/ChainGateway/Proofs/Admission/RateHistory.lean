import ChainGateway.Proofs.Admission.RateLaws

/-!
# The window that attempts have made

A client that is never swept has the window that its attempts have made, one after the other.
That window has the attempts that came since it started, and as previous ones those that came
in the length before. It starts with an attempt, or there is one in that length. A later window
of the client is the same, or follows it, or starts after a gap.
-/

namespace ChainGateway.Admission.RateWindow

variable {w : RateWindow} {length : Span} {t u : Instant} {ts later : List Instant} {a b : Nat}

/-- The window after an attempt at `t` and earlier ones, the latest first. -/
def ofTimes (length : Span) (t : Instant) : List Instant → RateWindow
  | [] => ⟨t, 0, 1⟩
  | u :: earlier => (ofTimes length u earlier).next t length

/-- Times of attempts, the latest first. -/
def Descending (ts : List Instant) : Prop := ts.Pairwise fun t u => u.nanos ≤ t.nanos

/-- The window has as current the attempts of its length, and as previous those of the length
before. -/
structure Tallies (length : Span) (ts : List Instant) (w : RateWindow) : Prop where
  running : ∀ t ∈ ts, t.nanos < w.start.nanos + length.nanos
  current : w.current = min maxCount (ts.countP fun t => w.start.nanos ≤ t.nanos)
  previous : w.previous = min maxCount (ts.countP fun t =>
    t.nanos < w.start.nanos ∧ w.start.nanos ≤ t.nanos + length.nanos)

/-- What a window has of the attempts at the times `ts`. -/
structure Counts (length : Span) (ts : List Instant) (w : RateWindow) : Prop where
  started : ∃ t ∈ ts, w.start.nanos ≤ t.nanos
  running : ∀ t ∈ ts, t.nanos < w.start.nanos + length.nanos
  current : w.current = min maxCount (ts.countP fun t => w.start.nanos ≤ t.nanos)
  previous : w.previous = min maxCount (ts.countP fun t =>
    t.nanos < w.start.nanos ∧ w.start.nanos ≤ t.nanos + length.nanos)
  /-- The window starts with an attempt, or there is one in the length before it. -/
  anchored : ∃ t ∈ ts, t.nanos ≤ w.start.nanos ∧ w.start.nanos ≤ t.nanos + length.nanos

theorem Counts.first (hl : 0 < length.nanos) : Counts length [t] ⟨t, 0, 1⟩ where
  started := ⟨t, List.mem_singleton_self t, Nat.le_refl _⟩
  running u hu := by
    rw [List.mem_singleton.mp hu]
    exact Nat.lt_add_of_pos_right hl
  current := by simp [maxCount]
  previous := by simp
  anchored := ⟨t, List.mem_singleton_self t, Nat.le_refl _, Nat.le_add_right _ _⟩

theorem Counts.tallies (h : w.Counts length ts) : w.Tallies length ts :=
  ⟨h.running, h.current, h.previous⟩

theorem countAdd_min : countAdd (min maxCount a) b = min maxCount (a + b) := by
  unfold countAdd
  omega

theorem countAdd_min_min :
    countAdd (min maxCount a) (min maxCount b) = min maxCount (a + b) := by
  unfold countAdd
  omega

-- ---------------------------------------------------------------------------
-- What one more attempt does to the tallies
-- ---------------------------------------------------------------------------

namespace Tallies

theorem new (length : Span) (t : Instant) : (RateWindow.new t).Tallies length [] := by
  refine ⟨nofun, ?_, ?_⟩ <;> simp [RateWindow.new]

/-- One more attempt when both windows have passed: nothing from before counts. -/
theorem anew (hl : 0 < length.nanos) (h : w.Tallies length ts)
    (hgap : w.start.nanos + length.nanos * 2 ≤ t.nanos) : Tallies length (t :: ts) ⟨t, 0, 1⟩ := by
  have hbefore : ∀ u ∈ ts, u.nanos + length.nanos < t.nanos := fun u hu => by
    have := h.running u hu
    omega
  have hcurrent : (ts.countP fun u => decide (t.nanos ≤ u.nanos)) = 0 :=
    List.countP_eq_zero.mpr fun u hu => by
      have := hbefore u hu
      simp only [decide_eq_true_eq]
      omega
  have hprevious : (ts.countP fun u =>
      decide (u.nanos < t.nanos ∧ t.nanos ≤ u.nanos + length.nanos)) = 0 :=
    List.countP_eq_zero.mpr fun u hu => by
      have := hbefore u hu
      simp only [decide_eq_true_eq]
      omega
  refine ⟨?_, ?_, ?_⟩
  · rintro u (_ | ⟨_, hu⟩)
    · exact Nat.lt_add_of_pos_right hl
    · have := hbefore u hu
      dsimp only
      omega
  · simp [hcurrent, maxCount]
  · rw [List.countP_cons_of_neg (by simp), hprevious]
    rfl

/-- One more attempt when the window has passed: what was current is what counts from before. -/
theorem turn (h : w.Tallies length ts) (hlate : w.start.nanos + length.nanos ≤ t.nanos)
    (hnear : t.nanos < w.start.nanos + length.nanos * 2) :
    Tallies length (t :: ts) ⟨⟨w.start.nanos + length.nanos⟩, w.current, 1⟩ := by
  have hcurrent : (ts.countP fun u => decide (w.start.nanos + length.nanos ≤ u.nanos)) = 0 :=
    List.countP_eq_zero.mpr fun u hu => by
      have := h.running u hu
      simp only [decide_eq_true_eq]
      omega
  have hprevious : (ts.countP fun u => decide (u.nanos < w.start.nanos + length.nanos ∧
      w.start.nanos + length.nanos ≤ u.nanos + length.nanos)) =
      ts.countP fun u => decide (w.start.nanos ≤ u.nanos) :=
    List.countP_congr fun u hu => by
      have := h.running u hu
      simp only [decide_eq_true_eq]
      omega
  refine ⟨?_, ?_, ?_⟩
  · rintro v (_ | ⟨_, hv⟩)
    · dsimp only
      omega
    · have := h.running v hv
      dsimp only
      omega
  · simp [hcurrent, hlate, maxCount]
  · have hnot : ¬t.nanos < w.start.nanos + length.nanos := by omega
    rw [List.countP_cons_of_neg (by simp [hnot]), hprevious]
    exact h.current

/-- One more attempt in the same window. -/
theorem more (h : w.Tallies length ts) (hle : w.start.nanos ≤ t.nanos)
    (hin : t.nanos < w.start.nanos + length.nanos) :
    Tallies length (t :: ts) { w with current := countAdd w.current 1 } := by
  refine ⟨?_, ?_, ?_⟩
  · rintro v (_ | ⟨_, hv⟩)
    · exact hin
    · exact h.running v hv
  · rw [h.current, countAdd_min, List.countP_cons_of_pos (by simpa using hle)]
  · have hnot : ¬t.nanos < w.start.nanos := by omega
    rw [List.countP_cons_of_neg (by simp [hnot])]
    exact h.previous

/-- One more attempt, no earlier than the window. -/
theorem next (hl : 0 < length.nanos) (h : w.Tallies length ts) (hle : w.start.nanos ≤ t.nanos) :
    (w.next t length).Tallies length (t :: ts) := by
  obtain ⟨hgap, hn⟩ | ⟨hlate, hnear, hn⟩ | ⟨hin, hn⟩ := w.next_cases t hl <;> rw [hn]
  · exact h.anew hl hgap
  · exact h.turn hlate hnear
  · exact h.more hle hin

/-- The total counts the attempts from one length before the window on. -/
theorem total (h : w.Tallies length ts) : w.total =
    min maxCount (ts.countP fun t => w.start.nanos ≤ t.nanos + length.nanos) := by
  have hsplit : ∀ ts : List Instant,
      (ts.countP fun t => decide (t.nanos < w.start.nanos ∧
        w.start.nanos ≤ t.nanos + length.nanos)) +
        (ts.countP fun t => decide (w.start.nanos ≤ t.nanos)) =
        ts.countP fun t => decide (w.start.nanos ≤ t.nanos + length.nanos) := by
    intro ts
    induction ts with
    | nil => rfl
    | cons t ts ih =>
      simp only [List.countP_cons, decide_eq_true_eq, ← ih]
      split <;> split <;> split <;> omega
  rw [RateWindow.total, h.previous, h.current, countAdd_min_min, hsplit]

end Tallies

-- ---------------------------------------------------------------------------
-- Windows that start by an attempt
-- ---------------------------------------------------------------------------

theorem Counts.next (hl : 0 < length.nanos) (h : w.Counts length ts)
    (ht : ∀ u ∈ ts, u.nanos ≤ t.nanos) : (w.next t length).Counts length (t :: ts) := by
  obtain ⟨u, hu, hstart⟩ := h.started
  have hle : w.start.nanos ≤ t.nanos := Nat.le_trans hstart (ht u hu)
  obtain ⟨hrunning, hcurrent, hprevious⟩ := h.tallies.next hl hle
  have hstarted : (w.next t length).start.nanos ≤ t.nanos := start_next_le hle (Nat.le_refl _)
  refine ⟨⟨t, List.mem_cons_self, hstarted⟩, hrunning, hcurrent, hprevious, ?_⟩
  obtain ⟨-, hn⟩ | ⟨-, -, hn⟩ | ⟨-, hn⟩ := w.next_cases t hl <;> rw [hn]
  · exact ⟨t, List.mem_cons_self, Nat.le_refl _, Nat.le_add_right _ _⟩
  · -- what was current anchors the window that follows
    have hend := h.running u hu
    exact ⟨u, List.mem_cons_of_mem _ hu, by dsimp only; omega, by dsimp only; omega⟩
  · obtain ⟨v, hv, hanchor⟩ := h.anchored
    exact ⟨v, List.mem_cons_of_mem _ hv, hanchor⟩

theorem counts_ofTimes (hl : 0 < length.nanos) (h : Descending (t :: ts)) :
    (ofTimes length t ts).Counts length (t :: ts) := by
  induction ts generalizing t with
  | nil => exact .first hl
  | cons u ts ih =>
    have hd := List.pairwise_cons.mp h
    exact (ih hd.2).next hl hd.1

theorem Counts.total (h : w.Counts length ts) : w.total =
    min maxCount (ts.countP fun t => w.start.nanos ≤ t.nanos + length.nanos) :=
  h.tallies.total

/-- A later window of a client is the same, follows, or starts after a gap. -/
theorem start_ofTimes_append (hl : 0 < length.nanos) (t u : Instant) (later ts : List Instant) :
    (ofTimes length t (later ++ u :: ts)).start = (ofTimes length u ts).start ∨
    (ofTimes length t (later ++ u :: ts)).start.nanos =
      (ofTimes length u ts).start.nanos + length.nanos ∨
    (ofTimes length u ts).start.nanos + length.nanos * 2 ≤
      (ofTimes length t (later ++ u :: ts)).start.nanos := by
  induction later generalizing t with
  | nil =>
    rw [List.nil_append, ofTimes]
    obtain ⟨hgap, hn⟩ | ⟨-, -, hn⟩ | ⟨-, hn⟩ := (ofTimes length u ts).next_cases t hl <;> rw [hn]
    · exact .inr (.inr hgap)
    · exact .inr (.inl rfl)
    · exact .inl rfl
  | cons x later ih =>
    rw [List.cons_append, ofTimes]
    obtain ⟨hgap, hn⟩ | ⟨-, -, hn⟩ | ⟨-, hn⟩ :=
      (ofTimes length x (later ++ u :: ts)).next_cases t hl <;> rw [hn]
    · obtain he | he | he := ih x
      · rw [he] at hgap
        exact .inr (.inr hgap)
      · exact .inr (.inr (by dsimp only; omega))
      · exact .inr (.inr (by dsimp only; omega))
    · obtain he | he | he := ih x
      · rw [he]
        exact .inr (.inl rfl)
      · exact .inr (.inr (by dsimp only; omega))
      · exact .inr (.inr (by dsimp only; omega))
    · exact ih x

end ChainGateway.Admission.RateWindow
