import ChainGateway.Time.Span

/-!
# Waits

A wait ends no earlier than it begins. Within what the clock can hold it takes its span, so of two
waits of one span the one that begins later ends later.
-/

namespace ChainGateway.Instant

-- ---------------------------------------------------------------------------
-- Later instants
-- ---------------------------------------------------------------------------

theorem eq_of_after? {t e : Instant} {s : Span} (h : t.after? s = some e) :
    e = ⟨t.nanos + s.nanos⟩ := by
  unfold after? at h
  dsimp only at h
  split at h
  · exact (Option.some.inj h).symm
  · cases h

/-- What ends within the clock would have done so if it had begun earlier and been shorter. -/
theorem after?_mono {t t' e : Instant} {s s' : Span} (ht : t.nanos ≤ t'.nanos)
    (hs : s.nanos ≤ s'.nanos) (h : t'.after? s' = some e) : ∃ e', t.after? s = some e' := by
  unfold after? at h ⊢
  dsimp only at h ⊢
  split at h
  · rename_i hr
    refine ⟨_, if_pos ⟨Nat.le_trans ?_ hr.1, Nat.le_trans ?_ hr.2⟩⟩
    · exact Nat.div_le_div_right hs
    · exact Nat.div_le_div_right (Nat.add_le_add ht hs)
  · cases h

-- ---------------------------------------------------------------------------
-- Ends of waits
-- ---------------------------------------------------------------------------

variable {now since : Nat} {wait : Span}

theorem le_deadline : now ≤ deadline now wait := by
  unfold deadline
  split <;> omega

theorem lt_deadline (h : 0 < wait.nanos) (now : Nat) : now < deadline now wait := by
  unfold deadline
  split
  · have : 0 < wait.ceilMillis := Nat.div_pos (by omega) (by decide)
    omega
  · exact Nat.lt_add_of_pos_right (by decide)

theorem deadline_of_isSome (h : ((ofMillis now).after? wait).isSome) :
    deadline now wait = now + wait.ceilMillis := by
  obtain ⟨u, hu⟩ := Option.isSome_iff_exists.mp h
  rw [deadline, hu]

end ChainGateway.Instant
