import ChainGateway.Time.Calendar

/-!
# Days and dates

A day of a cycle of 400 years that begin in March is taken apart into its century, the four years
in it, the year of those and the day of that; only the last of them can have a leap day. So every
day has a date, that date is one of the calendar, and it is the date of that day only.
-/

namespace ChainGateway.Calendar

variable {d c q r j era n : Int}

/-- The day `d` of a cycle is the day `j` of the year `r` of the four years `q` of a century `c`. -/
structure Parts (d c q r j : Int) : Prop where
  sum : d = 36524 * c + 1461 * q + 365 * r + j
  century : 0 ≤ c ∧ c ≤ 3
  fours : 0 ≤ q ∧ q ≤ 24
  year : 0 ≤ r ∧ r ≤ 3
  day : 0 ≤ j ∧ j ≤ 365
  /-- The leap day ends four years, but those of a century only if it is the last. -/
  leapDay : j = 365 → r = 3 ∧ (q = 24 → c = 3)

theorem exists_parts (h₀ : 0 ≤ d) (h₁ : d < 146097) : ∃ c q r j, Parts d c q r j := by
  let c := min (d / 36524) 3
  let q := (d - 36524 * c) / 1461
  let r := min ((d - 36524 * c - 1461 * q) / 365) 3
  refine ⟨c, q, r, d - 36524 * c - 1461 * q - 365 * r, ?_, ?_, ?_, ?_, ?_, ?_⟩ <;> omega

/-- The year of the cycle. -/
theorem Parts.yearOfEra (h : Parts d c q r j) :
    (d - d / 1460 + d / 36524 - d / 146096) / 365 = 100 * c + 4 * q + r := by
  obtain ⟨hd, hc, hq, hr, hj, hleap⟩ := h
  -- the centuries before the day are `c`, but on the last day of a cycle
  have hcentury : d / 36524 - d / 146096 = c := by
    by_cases hlast : d = 146096
    · omega
    · have hfirst : d / 146096 = 0 := by omega
      omega
  have hfours : d / 1460 = 25 * c + q + (24 * c + q + 365 * r + j) / 1460 := by omega
  have hrest : (24 * c + q + 365 * r + j) / 1460 = 0 ∧ j ≤ 364 ∨
      (24 * c + q + 365 * r + j) / 1460 = 1 ∧ 1 ≤ j := by omega
  have hsum : d - d / 1460 + d / 36524 - d / 146096 =
      365 * (100 * c + 4 * q + r) + (j - (24 * c + q + 365 * r + j) / 1460) := by omega
  rw [hsum]
  omega

theorem Parts.dayOfYear (h : Parts d c q r j) :
    d - (365 * (100 * c + 4 * q + r) + (100 * c + 4 * q + r) / 4 - (100 * c + 4 * q + r) / 100) =
      j := by
  obtain ⟨rfl, hc, hq, hr, hj, hleap⟩ := h
  omega

theorem Parts.daysBeforeMarch (h : Parts d c q r j) :
    daysBeforeMarch (era * 400 + (100 * c + 4 * q + r)) = 146097 * era + d - j := by
  obtain ⟨rfl, hc, hq, hr, hj, hleap⟩ := h
  unfold Calendar.daysBeforeMarch
  omega

-- ---------------------------------------------------------------------------
-- Years from March
-- ---------------------------------------------------------------------------

/-- The date of the day `j` of a year that begins in March of the year `y`. -/
def dateFromMarch (y j : Int) : Date :=
  let m := (5 * j + 2) / 153
  let day := j - (153 * m + 2) / 5 + 1
  let month := if m < 10 then m + 3 else m - 9
  ⟨y + (if month ≤ 2 then 1 else 0), month.toNat, day.toNat⟩

/-- The year that follows in January is a leap year if its leap day ends the four years. -/
theorem isLeap_of_leapDay (e : Int) (hq : 0 ≤ q ∧ q ≤ 24) (h : q = 24 → c = 3) :
    isLeap (e * 400 + (100 * c + 4 * q + 3) + 1) = true := by
  have hfour : (e * 400 + (100 * c + 4 * q + 3) + 1) % 4 = 0 := by omega
  simp only [isLeap, Bool.and_eq_true, Bool.or_eq_true, beq_iff_eq, bne_iff_ne]
  refine ⟨hfour, ?_⟩
  by_cases hlast : q = 24
  · obtain rfl := h hlast
    exact .inr (by omega)
  · have hcentury : (e * 400 + (100 * c + 4 * q + 3) + 1) % 100 = 4 * q + 4 := by omega
    exact .inl (by omega)

/-- Every day is one of such a year, and only leap years have a day more. -/
theorem exists_dateFromMarch (n : Int) : ∃ y j, dateOf n = dateFromMarch y j ∧
    n = daysBeforeMarch y + j - 719468 ∧ 0 ≤ j ∧ j ≤ 365 ∧ (j = 365 → isLeap (y + 1) = true) := by
  have hera : n + 719468 = 146097 * ((n + 719468) / 146097) + (n + 719468) % 146097 := by omega
  obtain ⟨c, q, r, j, h⟩ := exists_parts (Int.emod_nonneg (n + 719468) (by decide))
    (Int.emod_lt_of_pos (n + 719468) (by decide))
  have hyear := h.yearOfEra
  have hday : (n + 719468) % 146097 - (365 * (100 * c + 4 * q + r) + (100 * c + 4 * q + r) / 4 -
      (100 * c + 4 * q + r) / 100) = j := h.dayOfYear
  have hdays : daysBeforeMarch ((n + 719468) / 146097 * 400 + (100 * c + 4 * q + r)) =
      146097 * ((n + 719468) / 146097) + (n + 719468) % 146097 - j := h.daysBeforeMarch
  refine ⟨(n + 719468) / 146097 * 400 + (100 * c + 4 * q + r), j, ?_, ?_, h.day.1, h.day.2, ?_⟩
  · unfold dateOf dateFromMarch
    dsimp only
    rw [hyear, hday]
  · rw [hdays]
    omega
  · intro hlast
    obtain ⟨rfl, hcentury⟩ := h.leapDay hlast
    exact isLeap_of_leapDay _ h.fours hcentury

theorem dayNumber_dateFromMarch {y : Int} (h₀ : 0 ≤ j) (h₁ : j ≤ 365) :
    dayNumber (dateFromMarch y j) = daysBeforeMarch y + j - 719468 := by
  have hmonth : 0 ≤ (5 * j + 2) / 153 ∧ (5 * j + 2) / 153 ≤ 11 := by omega
  unfold dayNumber dateFromMarch
  dsimp only
  generalize hm : (5 * j + 2) / 153 = m at hmonth ⊢
  by_cases hten : m < 10
  · simp only [if_pos hten]
    have hlate : ¬(m + 3).toNat ≤ 2 := by omega
    have hlate' : ¬m + 3 ≤ 2 := by omega
    have hback : (((m + 3).toNat + 9) % 12 : Nat) = m.toNat := by omega
    rw [if_neg hlate, if_neg hlate', hback, Int.add_zero]
    omega
  · simp only [if_neg hten]
    have hearly : (m - 9).toNat ≤ 2 := by omega
    have hearly' : m - 9 ≤ 2 := by omega
    have hback : (((m - 9).toNat + 9) % 12 : Nat) = m.toNat := by omega
    rw [if_pos hearly, if_pos hearly', hback, Int.add_sub_cancel]
    omega

/-- The number of a date is the day it was made of. -/
theorem dayNumber_dateOf (n : Int) : dayNumber (dateOf n) = n := by
  obtain ⟨y, j, hdate, hn, h₀, h₁, -⟩ := exists_dateFromMarch n
  rw [hdate, dayNumber_dateFromMarch h₀ h₁, ← hn]

-- ---------------------------------------------------------------------------
-- Dates of the calendar
-- ---------------------------------------------------------------------------

theorem daysBeforeMarch_le {x y : Int} (h : x ≤ y) :
    daysBeforeMarch x + 365 * (y - x) ≤ daysBeforeMarch y := by
  have hfours : x / 4 ≤ y / 4 := by omega
  have hx : x / 100 = x / 4 / 25 ∧ x / 400 = x / 4 / 100 := by omega
  have hy : y / 100 = y / 4 / 25 ∧ y / 400 = y / 4 / 100 := by omega
  unfold daysBeforeMarch
  rw [hx.1, hx.2, hy.1, hy.2]
  generalize x / 4 = a at *
  generalize y / 4 = b at *
  omega

theorem year_dateOf (h₀ : firstDay ≤ n) (h₁ : n ≤ lastDay) :
    firstYear ≤ (dateOf n).year ∧ (dateOf n).year ≤ lastYear := by
  obtain ⟨y, j, hdate, hn, hj, hj', -⟩ := exists_dateFromMarch n
  have hfirst : firstDay = daysBeforeMarch (-262144) + 306 - 719468 := by decide
  have hlast : lastDay = daysBeforeMarch 262142 + 305 - 719468 := by decide
  rw [hfirst, hn] at h₀
  rw [hlast, hn] at h₁
  have hbelow : y ≤ -262144 → daysBeforeMarch y + 365 * (-262144 - y) ≤ daysBeforeMarch (-262144) :=
    daysBeforeMarch_le
  have habove : 262142 ≤ y → daysBeforeMarch 262142 + 365 * (y - 262142) ≤ daysBeforeMarch y :=
    daysBeforeMarch_le
  rw [hdate]
  simp only [dateFromMarch, firstYear, lastYear]
  have hmonth : (5 * j + 2) / 153 < 10 ↔ j ≤ 305 := by omega
  by_cases hten : (5 * j + 2) / 153 < 10
  · have hlate : ¬(5 * j + 2) / 153 + 3 ≤ 2 := by omega
    rw [if_pos hten, if_neg hlate]
    omega
  · have hearly : (5 * j + 2) / 153 - 9 ≤ 2 := by omega
    rw [if_neg hten, if_pos hearly]
    omega

theorem valid_dateFromMarch {y : Int} (h₀ : 0 ≤ j) (h₁ : j ≤ 365)
    (hleap : j = 365 → isLeap (y + 1) = true)
    (hyear : firstYear ≤ (dateFromMarch y j).year ∧ (dateFromMarch y j).year ≤ lastYear) :
    (dateFromMarch y j).Valid := by
  refine ⟨hyear.1, hyear.2, ?_⟩
  clear hyear
  have hmonth : 0 ≤ (5 * j + 2) / 153 ∧ (5 * j + 2) / 153 ≤ 11 := by omega
  unfold dateFromMarch daysInMonth
  dsimp only
  by_cases hten : (5 * j + 2) / 153 < 10
  · have hlate : ¬(5 * j + 2) / 153 + 3 ≤ 2 := by omega
    simp only [if_pos hten, if_neg hlate]
    split <;> split <;> omega
  · have hearly : (5 * j + 2) / 153 - 9 ≤ 2 := by omega
    simp only [if_neg hten, if_pos hearly]
    split
    · split
      · omega
      · rename_i hnot
        have hj : j ≠ 365 := fun hj => hnot (hleap hj)
        omega
    · split <;> omega

/-- Every day of the calendar has a date of the calendar. -/
theorem valid_dateOf (h₀ : firstDay ≤ n) (h₁ : n ≤ lastDay) : (dateOf n).Valid := by
  obtain ⟨y, j, hdate, -, hj, hj', hleap⟩ := exists_dateFromMarch n
  have hyear := year_dateOf h₀ h₁
  rw [hdate] at hyear ⊢
  exact valid_dateFromMarch hj hj' hleap hyear

end ChainGateway.Calendar
