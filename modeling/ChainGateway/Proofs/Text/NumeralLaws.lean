import ChainGateway.Text.Digit
import ChainGateway.Text.Numeral

/-!
# Numerals as texts

A numeral consists of digits only, so it ends by itself in front of anything else, and its digits
give back its value, however many zeros they are padded with. Without zeros in front there is one
numeral for each value.
-/

namespace ChainGateway

/-- Whether a numeral in front of the text ends there. -/
def EndsNumeral (r : List Char) : Prop := r.takeWhile Char.isDigit = []

theorem EndsNumeral.nil : EndsNumeral [] := rfl

theorem EndsNumeral.cons_iff {c : Char} {r : List Char} :
    EndsNumeral (c :: r) ↔ c.isDigit = false := by
  simp [EndsNumeral, List.takeWhile_cons]

theorem EndsNumeral.cons {c : Char} {r : List Char} (h : c.isDigit = false) :
    EndsNumeral (c :: r) := cons_iff.mpr h

namespace Text

variable {n m width : Nat} {c : Char} {cs r r' : List Char}

theorem isDigit_of_mem_natural : ∀ c ∈ natural n, c.isDigit = true :=
  fun _ => Nat.isDigit_of_mem_toDigits (by decide) (by decide)

theorem natural_ne_nil : natural n ≠ [] := Nat.toDigits_ne_nil

theorem ofDigitChars_natural : Nat.ofDigitChars 10 (natural n) 0 = n :=
  Nat.ofDigitChars_ten_toDigits

theorem foldl_eq_ofDigitChars (cs : List Char) :
    cs.foldl (fun n c => n * 10 + (c.toNat - 48)) 0 = Nat.ofDigitChars 10 cs 0 := by
  simp [Nat.ofDigitChars, Nat.mul_comm]

theorem natural_inj (h : natural n = natural m) : n = m := by
  have := congrArg (Nat.ofDigitChars 10 · 0) h
  simpa [ofDigitChars_natural] using this

theorem natural_append_inj (hr : EndsNumeral r) (hr' : EndsNumeral r')
    (h : natural n ++ r = natural m ++ r') : n = m ∧ r = r' := by
  have hd := congrArg (List.takeWhile Char.isDigit) h
  rw [List.takeWhile_append_of_pos isDigit_of_mem_natural,
    List.takeWhile_append_of_pos isDigit_of_mem_natural, hr, hr', List.append_nil,
    List.append_nil] at hd
  rw [hd] at h
  exact ⟨natural_inj hd, List.append_cancel_left h⟩

theorem natural_ne_cons (hc : c.isDigit = false) : natural n ++ r ≠ c :: r' := by
  intro h
  cases hn : natural n with
  | nil => exact natural_ne_nil hn
  | cons d ds =>
    have hd := isDigit_of_mem_natural d (hn ▸ List.mem_cons_self)
    rw [hn, List.cons_append] at h
    rw [(List.cons.inj h).1, hc] at hd
    cases hd

theorem integer_append_inj {n m : Int} (hr : EndsNumeral r) (hr' : EndsNumeral r')
    (h : integer n ++ r = integer m ++ r') : n = m ∧ r = r' := by
  have hdash : Char.isDigit '-' = false := by decide
  unfold integer at h
  split at h <;> split at h
  · obtain ⟨ha, hrest⟩ := natural_append_inj hr hr' (List.cons.inj h).2
    exact ⟨by omega, hrest⟩
  · exact absurd h.symm (natural_ne_cons hdash)
  · exact absurd h (natural_ne_cons hdash)
  · obtain ⟨ha, hrest⟩ := natural_append_inj hr hr' h
    exact ⟨by omega, hrest⟩

/-- Only zero is written with a zero in front. -/
theorem natural_zero_cons (h : natural n = '0' :: cs) : n = 0 := by
  induction n using Nat.strongRecOn generalizing cs with
  | ind n ih =>
    unfold natural at h ih
    rw [Nat.toDigits_eq_if (by decide)] at h
    split at h
    · exact Nat.digitChar_eq_zero.mp (List.cons.inj h).1
    · rename_i hten
      cases hhead : Nat.toDigits 10 (n / 10) with
      | nil => exact absurd hhead natural_ne_nil
      | cons d ds =>
        rw [hhead] at h
        obtain rfl := (List.cons.inj h).1
        have hzero := ih (n / 10) (by omega) hhead
        omega

theorem exists_digitChar (h : c.isDigit = true) : ∃ d < 10, c = d.digitChar := by
  obtain ⟨hlow, hhigh⟩ : 48 ≤ c.toNat ∧ c.toNat ≤ 57 := Char.isDigit_iff_toNat.mp h
  have hd : c.toNat - 48 < 10 := by omega
  refine ⟨c.toNat - 48, hd, Char.toNat_inj.mp ?_⟩
  rw [Nat.toNat_digitChar_of_lt_ten hd]
  omega

/-- Digits behind a numeral go on with it. -/
theorem natural_append (hn : 0 < n) (hd : ∀ c ∈ cs, c.isDigit = true) :
    natural (Nat.ofDigitChars 10 cs n) = natural n ++ cs := by
  induction cs generalizing n with
  | nil => simp
  | cons c cs ih =>
    obtain ⟨hc, hds⟩ := List.forall_mem_cons.mp hd
    obtain ⟨d, hten, rfl⟩ := exists_digitChar hc
    have hsnoc : natural (10 * n + d) = natural n ++ [d.digitChar] := by
      rw [natural, ← Nat.toDigits_append_toDigits (by decide) hn hten,
        Nat.toDigits_of_lt_base hten]
      rfl
    rw [Nat.ofDigitChars_cons_digitChar_of_lt_ten hten, ih (by omega) hds, hsnoc]
    simp

/-- Digits without a zero in front are what their value is written as. -/
theorem natural_ofDigitChars (hne : cs ≠ []) (hd : ∀ c ∈ cs, c.isDigit = true)
    (hz : cs.head? = some '0' → cs.length = 1) : natural (Nat.ofDigitChars 10 cs 0) = cs := by
  obtain ⟨c, cs, rfl⟩ := List.exists_cons_of_ne_nil hne
  obtain ⟨hc, hds⟩ := List.forall_mem_cons.mp hd
  obtain ⟨d, hten, rfl⟩ := exists_digitChar hc
  rw [Nat.ofDigitChars_cons_digitChar_of_lt_ten hten, Nat.mul_zero, Nat.zero_add]
  have hsingle : natural d = [d.digitChar] := Nat.toDigits_of_lt_base hten
  obtain rfl | hpos := Nat.eq_zero_or_pos d
  · obtain rfl : cs = [] := by simpa using hz rfl
    exact hsingle
  · rw [natural_append hpos hds, hsingle]
    rfl

-- ---------------------------------------------------------------------------
-- Padded numerals
-- ---------------------------------------------------------------------------

theorem isDigit_of_mem_padded : ∀ c ∈ padded width n, c.isDigit = true := by
  intro c hc
  rcases List.mem_append.mp hc with hc | hc
  · rw [List.eq_of_mem_replicate hc]
    decide
  · exact isDigit_of_mem_natural c hc

theorem padded_ne_nil : padded width n ≠ [] := by
  simp [padded, natural_ne_nil]

theorem length_padded (hw : 0 < width) (h : n < Nat.pow 10 width) :
    (padded width n).length = width := by
  have hlength := (Nat.length_toDigits_le_iff (by decide) hw).mpr h
  simp only [padded, natural, List.length_append, List.length_replicate]
  omega

theorem ofDigitChars_padded : Nat.ofDigitChars 10 (padded width n) 0 = n := by
  simp [padded, Nat.ofDigitChars_append, ofDigitChars_natural]

-- ---------------------------------------------------------------------------
-- Hexadecimal digits
-- ---------------------------------------------------------------------------

theorem hexDigit?_hexDigit : ∀ n < 16, hexDigit? (hexDigit n) = some n := by decide

theorem isHexDigit_hexDigit : ∀ n < 16, isHexDigit (hexDigit n) = true := by decide

theorem isHexDigit_of_isDigit (h : c.isDigit = true) : isHexDigit c = true := by
  simp [isHexDigit, h]

theorem toNat_between {low high : Char} (h : (decide (low ≤ c) && decide (c ≤ high)) = true) :
    low.toNat ≤ c.toNat ∧ c.toNat ≤ high.toNat := by
  obtain ⟨hlow, hhigh⟩ := Bool.and_eq_true_iff.mp h
  exact ⟨of_decide_eq_true hlow, of_decide_eq_true hhigh⟩

theorem toNat_of_isHexDigit (h : isHexDigit c = true) : 48 ≤ c.toNat ∧ c.toNat ≤ 102 := by
  simp only [isHexDigit, Bool.or_eq_true, or_assoc] at h
  rcases h with h | h | h
  · obtain ⟨hlow, hhigh⟩ : 48 ≤ c.toNat ∧ c.toNat ≤ 57 := Char.isDigit_iff_toNat.mp h
    omega
  · obtain ⟨hlow, hhigh⟩ : 97 ≤ c.toNat ∧ c.toNat ≤ 102 := toNat_between h
    omega
  · obtain ⟨hlow, hhigh⟩ : 65 ≤ c.toNat ∧ c.toNat ≤ 70 := toNat_between h
    omega

theorem hexDigit?_lt {d : Nat} (h : hexDigit? c = some d) : d < 16 := by
  unfold hexDigit? at h
  split at h
  · rename_i hc
    obtain rfl := Option.some.inj h
    have hhigh : c.toNat ≤ 57 := (Char.isDigit_iff_toNat.mp hc).2
    omega
  · split at h
    · rename_i hc
      obtain rfl := Option.some.inj h
      have hhigh : c.toNat ≤ 102 := (toNat_between hc).2
      omega
    · split at h
      · rename_i hc
        obtain rfl := Option.some.inj h
        have hhigh : c.toNat ≤ 70 := (toNat_between hc).2
        omega
      · cases h

/-- The value of hexadecimal digits. -/
def hexValue (cs : List Char) : Nat := cs.foldl (fun n c => n * 16 + (hexDigit? c).getD 0) 0

theorem hexValue_snoc (cs : List Char) (c : Char) :
    hexValue (cs ++ [c]) = hexValue cs * 16 + (hexDigit? c).getD 0 := by
  simp [hexValue]

theorem hexDigit?_getD_lt (c : Char) : (hexDigit? c).getD 0 < 16 := by
  cases h : hexDigit? c with
  | none => decide
  | some d => exact hexDigit?_lt h

theorem hexValue_lt (cs : List Char) : hexValue cs < Nat.pow 16 cs.length := by
  have hfold : ∀ n, cs.foldl (fun n c => n * 16 + (hexDigit? c).getD 0) n <
      (n + 1) * Nat.pow 16 cs.length := by
    induction cs with
    | nil => simp
    | cons c cs ih =>
      intro n
      have hc := hexDigit?_getD_lt c
      refine Nat.lt_of_lt_of_le (ih _) ?_
      calc (n * 16 + (hexDigit? c).getD 0 + 1) * Nat.pow 16 cs.length
        _ ≤ ((n + 1) * 16) * Nat.pow 16 cs.length := Nat.mul_le_mul_right _ (by omega)
        _ = (n + 1) * Nat.pow 16 (cs.length + 1) := by
          rw [Nat.mul_assoc, Nat.mul_comm 16]
          rfl
  simpa [hexValue] using hfold 0

-- ---------------------------------------------------------------------------
-- Reading numerals
-- ---------------------------------------------------------------------------

/-- The text `cs` is a decimal numeral for `n`, which is not above `limit`: digits, zeros in front
included, with an optional plus sign. -/
def Spells (limit : Nat) (cs : List Char) (n : Nat) : Prop :=
  ∃ ds, ds ≠ [] ∧ (∀ c ∈ ds, c.isDigit = true) ∧ (cs = ds ∨ cs = '+' :: ds) ∧
    Nat.ofDigitChars 10 ds 0 = n ∧ n ≤ limit

theorem spells_natural {limit : Nat} (h : n ≤ limit) : Spells limit (natural n) n :=
  ⟨natural n, natural_ne_nil, isDigit_of_mem_natural, .inl rfl, ofDigitChars_natural, h⟩

/-- A numeral consists of digits and perhaps a sign. -/
theorem Spells.mem {limit : Nat} (h : Spells limit cs n) :
    cs ≠ [] ∧ ∀ c ∈ cs, c = '+' ∨ c.isDigit = true := by
  obtain ⟨ds, hne, hd, rfl | rfl, -⟩ := h
  · exact ⟨hne, fun c hc => .inr (hd c hc)⟩
  · exact ⟨List.cons_ne_nil _ _, fun c hc => (List.mem_cons.mp hc).imp_right (hd c)⟩

theorem le_ofDigitChars (cs : List Char) (n : Nat) : n ≤ Nat.ofDigitChars 10 cs n := by
  induction cs generalizing n with
  | nil => exact Nat.le_refl n
  | cons c cs ih =>
    rw [Nat.ofDigitChars_cons]
    exact Nat.le_trans (by omega) (ih _)

theorem readDigits_eq_ok {limit : Nat} (hn : n ≤ limit) : readDigits limit n cs = .ok m ↔
    (∀ c ∈ cs, c.isDigit = true) ∧ Nat.ofDigitChars 10 cs n = m ∧ m ≤ limit := by
  induction cs generalizing n with
  | nil =>
    rw [readDigits]
    constructor
    · rintro ⟨⟩
      exact ⟨nofun, rfl, hn⟩
    · rintro ⟨-, rfl, -⟩
      rfl
  | cons c cs ih =>
    rw [readDigits, Nat.ofDigitChars_cons, List.forall_mem_cons, digitValue?]
    by_cases hc : c.isDigit = true
    · have hvalue : 10 * n + (c.toNat - '0'.toNat) = n * 10 + (c.toNat - 48) := by
        rw [Nat.mul_comm]
        rfl
      rw [if_pos hc, hvalue]
      dsimp only
      split
      · -- what is too large already does not get smaller
        rename_i hlarge
        have hle := le_ofDigitChars cs (n * 10 + (c.toNat - 48))
        constructor
        · nofun
        · rintro ⟨-, rfl, hm⟩
          omega
      · rename_i hfits
        rw [ih (by omega)]
        simp [hc]
    · rw [if_neg hc]
      simp [hc]

theorem readNatural_eq_ok {limit : Nat} : readNatural limit cs = .ok n ↔ Spells limit cs n := by
  have hplus : Char.isDigit '+' = false := by decide
  -- a plus sign counts only in front, and not alone
  unfold readNatural
  split
  · constructor
    · nofun
    · intro h
      exact absurd rfl h.mem.1
  · constructor
    · nofun
    · rintro ⟨ds, hne, hd, h | h, -⟩
      · rw [← h] at hd
        simp [hplus] at hd
      · exact absurd (List.cons.inj h).2.symm hne
  · rename_i rest hrest
    rw [readDigits_eq_ok (Nat.zero_le limit)]
    constructor
    · rintro ⟨hd, hn, hle⟩
      exact ⟨rest, fun h => hrest h, hd, .inr rfl, hn, hle⟩
    · rintro ⟨ds, -, hd, h | h, hn, hle⟩
      · rw [← h] at hd
        simp [hplus] at hd
      · rw [(List.cons.inj h).2]
        exact ⟨hd, hn, hle⟩
  · rename_i hempty _ hsign
    rw [readDigits_eq_ok (Nat.zero_le limit)]
    constructor
    · rintro ⟨hd, hn, hle⟩
      exact ⟨cs, hempty, hd, .inl rfl, hn, hle⟩
    · rintro ⟨ds, -, hd, rfl | rfl, hn, hle⟩
      · exact ⟨hd, hn, hle⟩
      · exact (hsign ds rfl).elim

end Text
end ChainGateway
