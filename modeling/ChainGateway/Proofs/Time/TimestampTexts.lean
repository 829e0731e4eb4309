import ChainGateway.Proofs.Json.CodecLaws
import ChainGateway.Proofs.Text.BlankLaws
import ChainGateway.Proofs.Time.CalendarLaws
import ChainGateway.Time.Timestamp

/-!
# Timestamps read back

Every part of the text of a timestamp is read from the front of what is left of it: the numbers of
two digits by their width, the year and the fraction by the character behind them. A leap second is
written as the sixtieth second of its minute, and only as that.
-/

namespace ChainGateway.Timestamp

variable {t : Timestamp} {c : Char} {ds rest : List Char} {n width : Nat} {y : Int}

/-- The timestamps there are: in the years of the calendar, with leap seconds at the end of a
minute only. -/
structure Proper (t : Timestamp) : Prop where
  inRange : t.InRange
  nanos : t.nanos < 2 * billion
  leap : billion ≤ t.nanos → t.second % 60 = 59

-- ---------------------------------------------------------------------------
-- Numbers
-- ---------------------------------------------------------------------------

theorem digitsValue_eq (cs : List Char) : digitsValue cs = Nat.ofDigitChars 10 cs 0 :=
  Text.foldl_eq_ofDigitChars cs

theorem skipBlanks_cons {cs : List Char} (h : Text.isBlank c = false) :
    skipBlanks (c :: cs) = c :: cs := by
  simp [skipBlanks, h]

theorem skipBlanks_digits (hd : ∀ c ∈ ds, c.isDigit = true) (hne : ds ≠ []) :
    skipBlanks (ds ++ rest) = ds ++ rest := by
  obtain ⟨c, ds, rfl⟩ := List.exists_cons_of_ne_nil hne
  exact skipBlanks_cons (Text.isBlank_of_isDigit (hd c List.mem_cons_self))

theorem takeWhile_take (h : EndsNumeral rest) : (rest.take n).takeWhile Char.isDigit = [] := by
  cases rest with
  | nil => simp
  | cons c rest =>
    cases n with
    | zero => rfl
    | succ n => exact EndsNumeral.cons (EndsNumeral.cons_iff.mp h)

/-- Digits are read as a number if as many are asked for, or up to what is no digit. -/
theorem number?_digits (hd : ∀ c ∈ ds, c.isDigit = true) (hne : ds ≠ [])
    (hw : ds.length = width ∨ ds.length ≤ width ∧ EndsNumeral rest) :
    number? width (ds ++ rest) = some (Nat.ofDigitChars 10 ds 0, rest) := by
  have hdigits : ((ds ++ rest).take width).takeWhile Char.isDigit = ds := by
    rcases hw with rfl | ⟨hle, hends⟩
    · have hall : (ds ++ []).takeWhile Char.isDigit = ds ++ [].takeWhile Char.isDigit :=
        List.takeWhile_append_of_pos hd
      rw [List.take_left]
      simpa using hall
    · rw [List.take_append, List.take_of_length_le hle,
        List.takeWhile_append_of_pos hd, takeWhile_take hends, List.append_nil]
  simp only [number?, hdigits, if_neg hne, digitsValue_eq, List.drop_left]

theorem item?_padded (h : n < 100) : item? (Text.padded 2 n ++ rest) = some (n, rest) := by
  rw [item?, skipBlanks_digits Text.isDigit_of_mem_padded Text.padded_ne_nil,
    number?_digits Text.isDigit_of_mem_padded Text.padded_ne_nil
      (.inl (Text.length_padded (by decide) h)), Text.ofDigitChars_padded]

theorem separator?_cons (h : Text.isBlank c = false) : separator? c (c :: rest) = some rest := by
  simp only [separator?, skipBlanks_cons h, if_true]

theorem year?_unsigned (hd : ∀ c ∈ ds, c.isDigit = true) (hne : ds ≠ []) :
    year? (ds ++ rest) = (number? 4 (ds ++ rest)).map fun p => ((p.1 : Int), p.2) := by
  have hfirst : ∀ c r, c.isDigit = false → ds ++ rest ≠ c :: r := by
    intro c r hc heq
    obtain ⟨d, ds, rfl⟩ := List.exists_cons_of_ne_nil hne
    have hdigit := hd d List.mem_cons_self
    rw [(List.cons.inj heq).1, hc] at hdigit
    cases hdigit
  unfold year?
  rw [skipBlanks_digits hd hne]
  split
  · rename_i heq
    exact absurd heq (hfirst '-' _ rfl)
  · rename_i heq
    exact absurd heq (hfirst '+' _ rfl)
  · cases number? 4 (ds ++ rest) <;> rfl

/-- A year is read back in front of the dash of its month. -/
theorem year?_yearText : year? (yearText y ++ '-' :: rest) = some (y, '-' :: rest) := by
  have hdash : EndsNumeral ('-' :: rest) := .cons rfl
  have hdigits : ∀ c ∈ Text.padded 4 y.natAbs, c.isDigit = true := Text.isDigit_of_mem_padded
  have hsigned : number? (Text.padded 4 y.natAbs ++ '-' :: rest).length
      (Text.padded 4 y.natAbs ++ '-' :: rest) = some (y.natAbs, '-' :: rest) := by
    rw [number?_digits hdigits Text.padded_ne_nil (.inr ⟨?_, hdash⟩), Text.ofDigitChars_padded]
    rw [List.length_append]
    exact Nat.le_add_right _ _
  unfold yearText
  split
  · rename_i hfour
    have hwidth : (Text.padded 4 y.natAbs).length = 4 :=
      Text.length_padded (by decide) (show y.natAbs < 10000 by omega)
    have hvalue : (y.natAbs : Int) = y := by omega
    rw [year?_unsigned hdigits Text.padded_ne_nil,
      number?_digits hdigits Text.padded_ne_nil (.inl hwidth), Text.ofDigitChars_padded]
    simp only [Option.map, hvalue]
  · split
    · have hvalue : -(y.natAbs : Int) = y := by omega
      unfold year?
      rw [List.cons_append, skipBlanks_cons (by decide)]
      simp only [hsigned, bind, Option.bind, hvalue]
    · have hvalue : (y.natAbs : Int) = y := by omega
      unfold year?
      rw [List.cons_append, skipBlanks_cons (by decide)]
      simp only [hsigned, bind, Option.bind, hvalue]

theorem fraction?_digits (hd : ∀ c ∈ ds, c.isDigit = true) (hne : ds ≠ []) (hlen : ds.length ≤ 9) :
    fraction? ('.' :: (ds ++ 'Z' :: rest)) =
      some (Nat.ofDigitChars 10 ds 0 * Nat.pow 10 (9 - ds.length), 'Z' :: rest) := by
  have hz : EndsNumeral ('Z' :: rest) := .cons rfl
  have hdigits : ((ds ++ 'Z' :: rest).take 9).takeWhile Char.isDigit = ds := by
    rw [List.take_append, List.take_of_length_le hlen, List.takeWhile_append_of_pos hd,
      takeWhile_take hz, List.append_nil]
  have hleft : (ds ++ 'Z' :: rest).dropWhile Char.isDigit = 'Z' :: rest := by
    rw [List.dropWhile_append_of_pos hd]
    rfl
  simp only [fraction?, hdigits, if_neg hne, digitsValue_eq, hleft]

/-- A fraction of `width` digits is one of that many places. -/
theorem fraction?_padded (hw : 0 < width ∧ width ≤ 9) (h : n < Nat.pow 10 width) :
    fraction? ('.' :: (Text.padded width n ++ 'Z' :: rest)) =
      some (n * Nat.pow 10 (9 - width), 'Z' :: rest) := by
  have hlength := Text.length_padded hw.1 h
  rw [fraction?_digits Text.isDigit_of_mem_padded Text.padded_ne_nil (by omega),
    Text.ofDigitChars_padded, hlength]

/-- A fraction is read back in front of the letter of universal time. -/
theorem fraction?_fractionText (h : n < billion) :
    fraction? (fractionText n ++ 'Z' :: rest) = some (n, 'Z' :: rest) := by
  unfold billion at h
  unfold fractionText
  split
  · rename_i hzero
    rw [hzero]
    rfl
  · split
    · have hvalue : n / 1000000 * Nat.pow 10 6 = n := show n / 1000000 * 1000000 = n by omega
      rw [List.cons_append, fraction?_padded (by decide) (show n / 1000000 < 1000 by omega), hvalue]
    · split
      · have hvalue : n / 1000 * Nat.pow 10 3 = n := show n / 1000 * 1000 = n by omega
        rw [List.cons_append, fraction?_padded (by decide) (show n / 1000 < 1000000 by omega),
          hvalue]
      · rw [List.cons_append, fraction?_padded (by decide) h]
        exact congrArg (fun n => some (n, 'Z' :: rest)) (Nat.mul_one n)

/-- The second as it is shown: the sixtieth for a leap second. -/
def shownSecond (t : Timestamp) : Nat :=
  (t.second % daySeconds).toNat % 60 + (if billion ≤ t.nanos then 1 else 0)

theorem toList_print (t : Timestamp) : t.print.toList =
    let date := Calendar.dateOf (t.second / daySeconds)
    let s := (t.second % daySeconds).toNat
    yearText date.year ++ '-' :: (Text.padded 2 date.month ++ '-' :: (Text.padded 2 date.day ++
      'T' :: (Text.padded 2 (s / 3600) ++ ':' :: (Text.padded 2 (s / 60 % 60) ++
      ':' :: (Text.padded 2 t.shownSecond ++ (fractionText (t.nanos % billion) ++ ['Z'])))))) := by
  simp [print, shownSecond]

/-- Just the leap seconds are shown as the sixtieth second. -/
theorem Proper.shownSecond (h : t.Proper) :
    t.shownSecond = 60 ∧ billion ≤ t.nanos ∧ t.second % 60 = 59 ∨
      t.shownSecond < 60 ∧ t.nanos < billion ∧ (t.shownSecond : Int) = t.second % 60 := by
  have hleap := h.leap
  unfold Timestamp.shownSecond daySeconds
  by_cases hnanos : billion ≤ t.nanos
  · rw [if_pos hnanos]
    have := hleap hnanos
    omega
  · rw [if_neg hnanos]
    omega

theorem valid_dateOf (h : t.InRange) : (Calendar.dateOf (t.second / daySeconds)).Valid := by
  obtain ⟨hfirst, hlast⟩ := h
  unfold firstSecond daySeconds at hfirst
  unfold lastSecond daySeconds at hlast
  unfold daySeconds
  exact Calendar.valid_dateOf (by omega) (by omega)

/-- The parts of the text add up to the timestamp. -/
theorem Proper.sum (h : t.Proper) :
    (⟨t.second / daySeconds * daySeconds + ((t.second % daySeconds).toNat / 3600 : Nat) * 3600 +
        ((t.second % daySeconds).toNat / 60 % 60 : Nat) * 60 +
        ((if t.shownSecond = 60 then 59 else t.shownSecond : Nat) : Int) - 0,
      if t.shownSecond = 60 then t.nanos % billion + billion else t.nanos % billion⟩ : Timestamp) =
      t := by
  have hnanos := h.nanos
  obtain ⟨second, nanos⟩ := t
  dsimp only at hnanos ⊢
  rcases h.shownSecond with ⟨hshown, hleap, hminute⟩ | ⟨hshown, hplain, hminute⟩
  · rw [if_pos hshown, if_pos hshown]
    dsimp only at hleap hminute
    unfold billion at *
    unfold daySeconds
    congr 1 <;> omega
  · rw [if_neg (Nat.ne_of_lt hshown), if_neg (Nat.ne_of_lt hshown), hminute]
    dsimp only at hplain ⊢
    unfold billion at *
    unfold daySeconds
    congr 1 <;> omega

/-- A timestamp is read back from its text. -/
theorem parse?_print (h : t.Proper) : parse? t.print = some t := by
  have hvalid := valid_dateOf h.inRange
  have hnumber := Calendar.dayNumber_dateOf (t.second / daySeconds)
  have hsum := h.sum
  have hinRange := h.inRange
  have hsecond : t.shownSecond ≤ 60 := by
    rcases h.shownSecond with ⟨hshown, -⟩ | ⟨hshown, -⟩ <;> omega
  have hday : (t.second % daySeconds).toNat < 86400 := by
    unfold daySeconds
    omega
  unfold parse?
  rw [toList_print]
  generalize Calendar.dateOf (t.second / daySeconds) = date at *
  generalize (t.second % daySeconds).toNat = s at *
  have hmonth : date.month < 100 ∧ date.day < 100 := by
    obtain ⟨-, -, -, hmonth, -, hday⟩ := hvalid
    unfold Calendar.daysInMonth at hday
    refine ⟨by omega, ?_⟩
    split at hday <;> split at hday <;> omega
  have hfraction : t.nanos % billion < billion := Nat.mod_lt _ (by decide)
  have hend : skipBlanks ['Z'] = ['Z'] := by decide
  have hoffset : offset? ['Z'] = some (0, []) := rfl
  have hblanks : skipBlanks [] = [] := rfl
  simp only [year?_yearText, separator?_cons (show Text.isBlank '-' = false by decide),
    separator?_cons (show Text.isBlank ':' = false by decide), item?_padded hmonth.1,
    item?_padded hmonth.2, item?_padded (show s / 3600 < 100 by omega),
    item?_padded (show s / 60 % 60 < 100 by omega),
    item?_padded (show t.shownSecond < 100 by omega), fraction?_fractionText hfraction, hend,
    hoffset, bind, Option.bind]
  rw [if_pos ⟨hvalid, by omega, by omega, hsecond, by decide, hblanks⟩, hnumber, hsum,
    if_pos hinRange]

theorem Proper.solid (h : t.Proper) : codec.Solid t := .parsed (parse?_print h)

end ChainGateway.Timestamp
