import ChainGateway.Json.Lexeme
import ChainGateway.Proofs.Text.NumeralLaws

/-!
# Lexemes read back

A lexeme that starts with anything but a blank is read from where it starts. A quoted text ends at
its own closing quote, since the quotes within are escaped, and every escape is read as the
character it was written for.
-/

namespace ChainGateway.Json

variable {c : Char} {cs rest word : List Char}

-- ---------------------------------------------------------------------------
-- Blanks and words
-- ---------------------------------------------------------------------------

theorem skipGaps_cons (h : isGap c = false) : skipGaps (c :: cs) = c :: cs := by
  simp [skipGaps, h]

theorem after?_append (word rest : List Char) : Text.after? word (word ++ rest) = some rest := by
  induction word with
  | nil => rfl
  | cons c word ih =>
    rw [List.cons_append, Text.after?, if_pos rfl, ih]

theorem readWord_append (word rest : List Char) : readWord word (word ++ rest) = .ok rest := by
  rw [readWord, after?_append]

-- ---------------------------------------------------------------------------
-- Escapes
-- ---------------------------------------------------------------------------

theorem readHex4_control {n : Nat} (h : n < 32) :
    readHex4 ('0' :: '0' :: Text.hexDigit (n / 16) :: Text.hexDigit (n % 16) :: rest) =
      .ok (n, rest) := by
  have hzero : Text.hexDigit? '0' = some 0 := by decide
  simp only [readHex4, hzero, Text.hexDigit?_hexDigit (n / 16) (by omega),
    Text.hexDigit?_hexDigit (n % 16) (by omega)]
  congr 2
  omega

/-- A control character is read back from its four digits. -/
theorem readUnicode_control (rest : List Char) (h : c.toNat < 32) :
    readUnicode ('0' :: '0' :: Text.hexDigit (c.toNat / 16) :: Text.hexDigit (c.toNat % 16) ::
      rest) = .ok (c, rest) := by
  have hlow : ¬0xDC00 ≤ c.toNat := by omega
  have hhigh : ¬0xD800 ≤ c.toNat := by omega
  simp [readUnicode, readHex4_control h, hlow, hhigh, bind, Except.bind, Char.ofNat_toNat]

/-- What a character is written as is read as that character. -/
theorem readCharsFrom_escapedChar (c : Char) (fuel : Nat) (rest : List Char) :
    readCharsFrom (fuel + 1) (escapedChar c ++ rest) =
      (readCharsFrom fuel rest).map fun p => (c :: p.1, p.2) := by
  unfold escapedChar
  split
  · subst_vars
    rfl
  split
  · subst_vars
    rfl
  split
  · rename_i hquote hslash hcontrol
    split
    · rename_i h
      obtain rfl : c = Char.ofNat 8 := Char.toNat_inj.mp h
      rfl
    split
    · rename_i h
      obtain rfl : c = Char.ofNat 12 := Char.toNat_inj.mp h
      rfl
    split
    · subst_vars
      rfl
    split
    · subst_vars
      rfl
    split
    · subst_vars
      rfl
    · have hread := readUnicode_control rest hcontrol
      simp [readCharsFrom, hread, bind, Except.bind]
      cases readCharsFrom fuel rest <;> rfl
  · rename_i hquote hslash hcontrol
    simp [readCharsFrom, hquote, hslash, hcontrol, bind, Except.bind]
    cases readCharsFrom fuel rest <;> rfl

-- ---------------------------------------------------------------------------
-- Quoted texts
-- ---------------------------------------------------------------------------

theorem readCharsFrom_escaped {fuel : Nat} (h : cs.length < fuel) :
    readCharsFrom fuel (cs.flatMap escapedChar ++ '"' :: rest) = .ok (cs, rest) := by
  induction cs generalizing fuel with
  | nil =>
    obtain ⟨fuel, rfl⟩ := Nat.exists_eq_succ_of_ne_zero (Nat.ne_of_gt h)
    rfl
  | cons c cs ih =>
    obtain ⟨fuel, rfl⟩ := Nat.exists_eq_succ_of_ne_zero (Nat.ne_of_gt (Nat.zero_lt_of_lt h))
    rw [List.flatMap_cons, List.append_assoc, readCharsFrom_escapedChar,
      ih (Nat.lt_of_succ_lt_succ h)]
    rfl

theorem escapedChar_ne_nil (c : Char) : escapedChar c ≠ [] := by
  unfold escapedChar
  repeat' split
  all_goals exact List.cons_ne_nil _ _

theorem length_le_escaped (cs : List Char) : cs.length ≤ (cs.flatMap escapedChar).length := by
  induction cs with
  | nil => exact Nat.le_refl 0
  | cons c cs ih =>
    have hpos := List.length_pos_iff.mpr (escapedChar_ne_nil c)
    rw [List.flatMap_cons, List.length_append, List.length_cons]
    omega

theorem writeString_eq (s : String) (rest : List Char) :
    writeString s ++ rest = '"' :: (s.toList.flatMap escapedChar ++ '"' :: rest) := by
  simp [writeString]

/-- A quoted text is read back, whatever comes behind it. -/
theorem readString_writeString (s : String) (rest : List Char) :
    readString (writeString s ++ rest) = .ok (s, rest) := by
  have hlength : s.toList.length < (s.toList.flatMap escapedChar ++ '"' :: rest).length := by
    have := length_le_escaped s.toList
    rw [List.length_append, List.length_cons]
    omega
  rw [writeString_eq, readString, skipGaps_cons (by decide)]
  simp only [readCharsFrom_escaped hlength, bind, Except.bind, String.ofList_toList]

end ChainGateway.Json
