import ChainGateway.Proofs.Time.TimestampTexts

/-!
# Timestamps and delays

A delay is added on the line of nanoseconds on which a leap second lies over the second it is
attached to. It leads out of the calendar when it leads past its last second, and only then. Between
timestamps that are no leap seconds the difference is the distance on that line.
-/

namespace ChainGateway.Timestamp

variable {t u later earlier : Timestamp} {d : Nat}

/-- Nanoseconds since 1970, those of a leap second being those of the second it is attached to. -/
def ticks (t : Timestamp) : Int := t.second * billion + (t.nanos % billion : Nat)

/-- The end of the last second of the calendar. -/
def lastTick : Int := (lastSecond + 1) * billion

theorem ticks_of_nanos_lt (h : t.nanos < billion) : t.ticks = t.second * billion + t.nanos := by
  rw [ticks, Nat.mod_eq_of_lt h]

/-- A delay that stays within a leap second is counted within it, any other on the line. -/
theorem move?_later (ht : t.nanos < 2 * billion) (d : Nat) :
    t.move? d = if billion ≤ t.nanos ∧ t.nanos + d < 2 * billion then some ⟨t.second, t.nanos + d⟩
      else
        let total := t.nanos % billion + d
        let u : Timestamp := ⟨t.second + (total / billion : Nat), total % billion⟩
        if u.InRange then some u else none := by
  have hdiv : (d : Int).tdiv billion = (d / billion : Nat) := by
    rw [Int.tdiv_eq_ediv_of_nonneg (Int.natCast_nonneg d), Int.natCast_ediv]
  have hmod : (d : Int).tmod billion = (d % billion : Nat) := by
    rw [Int.tmod_eq_emod_of_nonneg (Int.natCast_nonneg d), Int.natCast_emod]
  have hstays : billion ≤ t.nanos ∧ ((d / billion : Nat) : Int) = 0 ∧
      ¬ (0 < ((d % billion : Nat) : Int) ∧
        2 * (billion : Int) ≤ (t.nanos : Int) + (d % billion : Nat)) ↔
      billion ≤ t.nanos ∧ t.nanos + d < 2 * billion := by
    unfold billion at ht ⊢
    omega
  unfold move?
  simp only [hdiv, hmod, hstays]
  split
  · rename_i h
    have hd : d % billion = d := Nat.mod_eq_of_lt (by omega)
    rw [hd, ← Int.natCast_add, Int.toNat_natCast]
  · have hstart : (if t.nanos < billion then t
        else if ((d / billion : Nat) : Int) < 0 then ⟨t.second + 1, t.nanos - billion⟩
        else ⟨t.second, t.nanos - billion⟩ : Timestamp) = ⟨t.second, t.nanos % billion⟩ := by
      by_cases h : t.nanos < billion
      · rw [if_pos h, Nat.mod_eq_of_lt h]
      · rw [if_neg h, if_neg (Int.not_lt.mpr (Int.natCast_nonneg _)),
          Nat.mod_eq_sub_mod (Nat.not_lt.mp h), Nat.mod_eq_of_lt (by omega)]
    have hsecond : t.second + ((d / billion : Nat) : Int) +
        (((t.nanos % billion : Nat) : Int) + (d % billion : Nat)) / billion =
        t.second + ((t.nanos % billion + d) / billion : Nat) := by
      unfold billion
      omega
    have hnanos : ((((t.nanos % billion : Nat) : Int) + (d % billion : Nat)) % billion).toNat =
        (t.nanos % billion + d) % billion := by
      unfold billion
      omega
    rw [hstart]
    simp only [hsecond, hnanos]

/-- A delay leads out of the calendar just when it leads past its last second. -/
theorem move?_eq_none_iff (ht : t.Proper) (d : Nat) :
    t.move? d = none ↔ lastTick ≤ t.ticks + d := by
  obtain ⟨⟨hfirst, hlast⟩, hnanos, -⟩ := ht
  have hrange : firstSecond ≤ t.second + ((t.nanos % billion + d) / billion : Nat) :=
    Int.le_trans hfirst (Int.le_add_of_nonneg_right (Int.natCast_nonneg _))
  rw [move?_later hnanos]
  simp only [InRange, hrange, true_and, lastTick, ticks]
  split
  · simp only [reduceCtorEq, false_iff]
    unfold billion at *
    omega
  · split
    · simp only [reduceCtorEq, false_iff]
      unfold billion at *
      omega
    · simp only [true_iff]
      unfold billion at *
      omega

/-- Where a delay leads. -/
theorem ticks_of_move? (ht : t.Proper) (h : t.move? d = some u) :
    u.Proper ∧ u.ticks = t.ticks + d ∧ (t.nanos < billion → u.nanos < billion) := by
  rw [move?_later ht.nanos] at h
  split at h
  · rename_i hstays
    obtain rfl := Option.some.inj h
    refine ⟨⟨ht.inRange, hstays.2, fun _ => ht.leap hstays.1⟩, ?_, fun hlt => by omega⟩
    simp only [ticks]
    unfold billion at *
    omega
  · dsimp only at h
    split at h
    · rename_i hrange
      obtain rfl := Option.some.inj h
      have hlt : (t.nanos % billion + d) % billion < billion := Nat.mod_lt _ (by decide)
      refine ⟨⟨hrange, by dsimp only; omega, fun hge => by dsimp only at hge; omega⟩, ?_, fun _ => hlt⟩
      simp only [ticks]
      unfold billion at *
      omega
    · cases h

/-- Away from leap seconds the difference is the distance. -/
theorem minus_eq (hl : later.nanos < billion) (he : earlier.nanos < billion) :
    later.minus earlier = later.ticks - earlier.ticks := by
  rw [ticks_of_nanos_lt hl, ticks_of_nanos_lt he, minus]
  simp only [Nat.not_le.mpr hl, Nat.not_le.mpr he, if_false, ite_self]
  rw [Int.add_zero, Int.sub_mul]
  omega

end ChainGateway.Timestamp
