import ChainGateway.Proofs.Admission.RetryHint

/-!
# What a rate window stands for

Attempts come in the order of time, and none is older than the window they are counted in. After
each of them the current length of the window is the one it falls in, and the counters are the
numbers of attempts in that length and in the one before, as far as counters go. So the total has
all attempts of the last length, or is at its maximum, and none that are two lengths old.
-/

namespace ChainGateway.Admission.RateWindow

variable {v w : RateWindow} {length both : Span} {now start : Instant} {ts times : List Instant}

/-- At `now` the window has the attempts at the times `ts`, those of each of its lengths in the
counter for it. -/
structure StandsFor (v : RateWindow) (length : Span) (now : Instant) (ts : List Instant) : Prop
    extends v.Holds now length where
  current : v.current = min maxCount (ts.countP fun t =>
    v.start.nanos ≤ t.nanos ∧ t.nanos < v.start.nanos + length.nanos)
  previous : v.previous = min maxCount (ts.countP fun t =>
    v.start.nanos ≤ t.nanos + length.nanos ∧ t.nanos < v.start.nanos)

-- ---------------------------------------------------------------------------
-- Tallies
-- ---------------------------------------------------------------------------

/-- The order of the times does not matter. -/
theorem Tallies.reverse (h : v.Tallies length ts) : v.Tallies length ts.reverse := by
  refine ⟨fun t ht => h.running t (List.mem_reverse.mp ht), ?_, ?_⟩
  · rw [List.countP_reverse]
    exact h.current
  · rw [List.countP_reverse]
    exact h.previous

/-- No attempt is behind the end of the window, so those from its start on are those within. -/
theorem Tallies.standsFor (h : v.Tallies length ts) (hnow : v.Holds now length) :
    v.StandsFor length now ts := by
  refine ⟨hnow, ?_, ?_⟩
  · rw [h.current]
    congr 1
    refine List.countP_congr fun t ht => ?_
    have hend := h.running t ht
    simp [hend]
  · rw [h.previous]
    simp only [and_comm]

/-- The total has what is less than one length old, and nothing that is two lengths old. -/
theorem Tallies.total_bounds (h : v.Tallies length ts) (hnow : v.Holds now length) :
    min maxCount (ts.countP fun t => now.nanos < t.nanos + length.nanos) ≤ v.total ∧
      v.total ≤ ts.countP fun t => now.nanos < t.nanos + length.nanos * 2 := by
  obtain ⟨hstarted, hrunning⟩ := hnow
  rw [h.total]
  constructor
  · have hle : (ts.countP fun t => decide (now.nanos < t.nanos + length.nanos)) ≤
        ts.countP fun t => decide (v.start.nanos ≤ t.nanos + length.nanos) :=
      List.countP_mono_left fun t _ => by
        simp only [decide_eq_true_eq]
        omega
    omega
  · refine Nat.le_trans (Nat.min_le_right ..) (List.countP_mono_left fun t _ => ?_)
    simp only [decide_eq_true_eq]
    omega

/-- Attempts in the order of time add to what a window has. -/
theorem Tallies.recordAll (hl : 0 < length.nanos) (hb : length.doubled? = some both)
    (h : w.Tallies length ts) (ho : (w.start :: times).Pairwise fun t u => t.nanos ≤ u.nanos)
    (hv : w.recordAll length times = .ok v) : v.Tallies length (times.reverse ++ ts) := by
  induction times generalizing w ts with
  | nil =>
    obtain rfl := Except.ok.inj hv
    exact h
  | cons t times ih =>
    obtain ⟨hw, ho⟩ := List.pairwise_cons.mp ho
    obtain ⟨ht, ho⟩ := List.pairwise_cons.mp ho
    have hle : w.start.nanos ≤ t.nanos := hw t List.mem_cons_self
    have hnext : (w.next t length).start.nanos ≤ t.nanos := start_next_le hle (Nat.le_refl _)
    rw [RateWindow.recordAll, List.foldlM_cons, record_eq_next hb] at hv
    have hrest := ih (h.next hl hle)
      (List.pairwise_cons.mpr ⟨fun u hu => Nat.le_trans hnext (ht u hu), ho⟩) hv
    rwa [List.reverse_cons, List.append_assoc]

-- ---------------------------------------------------------------------------
-- Windows
-- ---------------------------------------------------------------------------

/-- Whatever attempts come in the order of time, after each of them the counters of the window are
the attempts of its two lengths, of which the current one is that of the attempt. -/
theorem stands_for_attempts (hl : 0 < length.nanos) (hb : length.doubled? = some both)
    (ho : (start :: times).Pairwise fun t u => t.nanos ≤ u.nanos) :
    ∀ seen now, seen ++ [now] <+: times →
      ∃ v, (new start).recordAll length (seen ++ [now]) = .ok v ∧
        v.StandsFor length now (seen ++ [now]) ∧
        min maxCount ((seen ++ [now]).countP fun t => now.nanos < t.nanos + length.nanos) ≤
          v.total ∧
        v.total ≤ (seen ++ [now]).countP fun t => now.nanos < t.nanos + length.nanos * 2 := by
  intro seen now hseen
  have hprefix : (start :: (seen ++ [now])).Sublist (start :: times) :=
    (List.cons_sublist_cons).mpr hseen.sublist
  have ho : (start :: (seen ++ [now])).Pairwise fun t u => t.nanos ≤ u.nanos :=
    ho.sublist hprefix
  have hlast : ∀ t ∈ start :: seen, t.nanos ≤ now.nanos := fun t ht =>
    (List.pairwise_append.mp (List.cons_append ▸ ho)).2.2 t ht now List.mem_cons_self
  obtain ⟨hstart, hlast⟩ := List.forall_mem_cons.mp hlast
  obtain ⟨w, hw, hle⟩ := recordAll_ok (w := new start) hb hstart hlast
  have hrecord : (new start).recordAll length (seen ++ [now]) = .ok (w.next now length) := by
    rw [recordAll_snoc, hw]
    exact record_eq_next hb
  have hholds : (w.next now length).Holds now length := holds_next hl hle
  have htallies := ((Tallies.new length start).recordAll hl hb ho hrecord).reverse
  rw [List.append_nil, List.reverse_reverse] at htallies
  exact ⟨_, hrecord, htallies.standsFor hholds, htallies.total_bounds hholds⟩

/-- With windows of ten seconds, made at zero: at 25 seconds the two attempts then and the one at 19
count, and so does the one at 12, which is not two lengths old. -/
theorem stands_for_attempts_of_four :
    let times : List Instant := [.ofMillis 12000, .ofMillis 19000, .ofMillis 25000, .ofMillis 25000]
    0 < (Span.ofSeconds 10).nanos ∧ (Span.ofSeconds 10).doubled? = some (.ofSeconds 20) ∧
      (.ofMillis 0 :: (times ++ [.ofMillis 47000])).Pairwise (fun t u : Instant => t.nanos ≤ u.nanos) ∧
      ∃ v, (new (.ofMillis 0)).recordAll (.ofSeconds 10) times = .ok v ∧
        v = ⟨.ofMillis 20000, 2, 2⟩ ∧ v.StandsFor (.ofSeconds 10) (.ofMillis 25000) times ∧
        3 ≤ v.total ∧ v.total ≤ 4 := by
  have hl : 0 < (Span.ofSeconds 10).nanos := by decide
  have hb : (Span.ofSeconds 10).doubled? = some (.ofSeconds 20) := by decide
  have ho : [.ofMillis 0, .ofMillis 12000, .ofMillis 19000, .ofMillis 25000, .ofMillis 25000,
      .ofMillis 47000].Pairwise (fun t u : Instant => t.nanos ≤ u.nanos) := by decide
  obtain ⟨v, hv, hstands, hlow, hhigh⟩ := stands_for_attempts hl hb ho
    [.ofMillis 12000, .ofMillis 19000, .ofMillis 25000] (.ofMillis 25000) ⟨[.ofMillis 47000], rfl⟩
  have hrun : v = ⟨.ofMillis 20000, 2, 2⟩ := (Except.ok.inj hv).symm
  exact ⟨hl, hb, ho, v, hv, hrun, hstands, Nat.le_trans (by decide) hlow,
    Nat.le_trans hhigh (by decide)⟩

end ChainGateway.Admission.RateWindow
