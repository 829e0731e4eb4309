import ChainGateway.Net.Percent
import ChainGateway.Proofs.Cache.KeyLaws

/-!
# Laws of percent encoding

Bytes tell texts apart. An encoded text is made of characters that need no encoding and of percent
signs with digits, and where percent signs are encoded too, decoding gives the bytes back.
-/

namespace ChainGateway

-- ---------------------------------------------------------------------------
-- Bytes of a text
-- ---------------------------------------------------------------------------

namespace Text

variable {c d : Char} {cs ds : List Char} {r s : List Nat} {b : Nat}

theorem toNat_lt (c : Char) : c.toNat < 0x110000 := by
  have h := c.valid
  unfold UInt32.isValidChar Nat.isValidChar at h
  unfold Char.toNat
  omega

theorem charBytes_of_ascii (h : c.toNat < 128) : charBytes c = [c.toNat] := by
  simp [charBytes, h]

/-- The lengths that the bytes of a character may have, by its number. -/
theorem charBytes_cases (c : Char) :
    (c.toNat < 0x80 ∧ charBytes c = [c.toNat]) ∨
    (0x80 ≤ c.toNat ∧ c.toNat < 0x800 ∧
      charBytes c = [0xC0 + c.toNat / 0x40, 0x80 + c.toNat % 0x40]) ∨
    (0x800 ≤ c.toNat ∧ c.toNat < 0x10000 ∧ charBytes c =
      [0xE0 + c.toNat / 0x1000, 0x80 + c.toNat / 0x40 % 0x40, 0x80 + c.toNat % 0x40]) ∨
    (0x10000 ≤ c.toNat ∧ charBytes c =
      [0xF0 + c.toNat / 0x40000, 0x80 + c.toNat / 0x1000 % 0x40, 0x80 + c.toNat / 0x40 % 0x40,
        0x80 + c.toNat % 0x40]) := by
  unfold charBytes
  dsimp only
  split
  · rename_i h
    exact .inl ⟨h, rfl⟩
  · split
    · rename_i h h'
      exact .inr (.inl ⟨Nat.le_of_not_lt h, h', rfl⟩)
    · split
      · rename_i h h'
        exact .inr (.inr (.inl ⟨Nat.le_of_not_lt h, h', rfl⟩))
      · rename_i h
        exact .inr (.inr (.inr ⟨Nat.le_of_not_lt h, rfl⟩))

theorem charBytes_inj (h : charBytes c = charBytes d) : c = d := by
  apply Char.toNat_inj.mp
  rcases charBytes_cases c with ⟨-, hc⟩ | ⟨-, -, hc⟩ | ⟨-, -, hc⟩ | ⟨-, hc⟩ <;>
    rcases charBytes_cases d with ⟨-, hd⟩ | ⟨-, -, hd⟩ | ⟨-, -, hd⟩ | ⟨-, hd⟩ <;>
    rw [hc, hd] at h <;> simp at h <;> omega

/-- The first byte of a character says how many there are. -/
theorem length_charBytes (h : charBytes c ++ r = b :: s) : (charBytes c).length =
    if b < 0x80 then 1 else if b < 0xE0 then 2 else if b < 0xF0 then 3 else 4 := by
  have hlt := toNat_lt c
  rcases charBytes_cases c with ⟨hc, hb⟩ | ⟨hlo, hc, hb⟩ | ⟨hlo, hc, hb⟩ | ⟨hlo, hb⟩ <;>
    rw [hb] at h ⊢ <;> obtain ⟨rfl, -⟩ := List.cons.inj h
  · rw [if_pos hc]
    rfl
  · rw [if_neg (by omega), if_pos (by omega)]
    rfl
  · rw [if_neg (by omega), if_neg (by omega), if_pos (by omega)]
    rfl
  · rw [if_neg (by omega), if_neg (by omega), if_neg (by omega)]
    rfl

theorem charBytes_append_inj (h : charBytes c ++ r = charBytes d ++ s) : c = d ∧ r = s := by
  obtain ⟨b, rest, hb⟩ := List.exists_cons_of_ne_nil (charBytes_ne_nil (c := d))
  have hd : charBytes d ++ s = b :: (rest ++ s) := by rw [hb, List.cons_append]
  have hlength : (charBytes c).length = (charBytes d).length :=
    (length_charBytes (h.trans hd)).trans (length_charBytes hd).symm
  obtain ⟨hbytes, hrest⟩ := List.append_inj h hlength
  exact ⟨charBytes_inj hbytes, hrest⟩

theorem utf8Bytes_inj (h : utf8Bytes cs = utf8Bytes ds) : cs = ds := by
  induction cs generalizing ds with
  | nil =>
    cases ds with
    | nil => rfl
    | cons d ds =>
      rw [utf8Bytes_cons] at h
      exact absurd (List.append_eq_nil_iff.mp h.symm).1 charBytes_ne_nil
  | cons c cs ih =>
    cases ds with
    | nil =>
      rw [utf8Bytes_cons] at h
      exact absurd (List.append_eq_nil_iff.mp h).1 charBytes_ne_nil
    | cons d ds =>
      rw [utf8Bytes_cons, utf8Bytes_cons] at h
      obtain ⟨rfl, hrest⟩ := charBytes_append_inj h
      rw [ih hrest]

theorem utf8Bytes_append : utf8Bytes (cs ++ ds) = utf8Bytes cs ++ utf8Bytes ds :=
  List.flatMap_append

theorem lt_of_mem_charBytes (h : b ∈ charBytes c) : b < 256 := by
  have hlt := toNat_lt c
  rcases charBytes_cases c with ⟨hc, hb⟩ | ⟨-, hc, hb⟩ | ⟨-, hc, hb⟩ | ⟨-, hb⟩ <;>
    rw [hb] at h <;> simp at h <;> omega

/-- No character outside ASCII has a byte of ASCII. -/
theorem le_of_mem_charBytes (hc : 128 ≤ c.toNat) (h : b ∈ charBytes c) : 128 ≤ b := by
  rcases charBytes_cases c with ⟨hlt, -⟩ | ⟨-, -, hb⟩ | ⟨-, -, hb⟩ | ⟨-, hb⟩
  · omega
  · rw [hb] at h
    simp at h
    omega
  · rw [hb] at h
    simp at h
    omega
  · rw [hb] at h
    simp at h
    omega

end Text

-- ---------------------------------------------------------------------------
-- Percent signs
-- ---------------------------------------------------------------------------

namespace Net

open Text

variable {encoded : Char → Bool} {c : Char} {cs : List Char} {b : Nat} {rest : List Nat}

/-- What encoded bytes are written with. -/
def percentMarks : List Char := "%0123456789ABCDEF".toList

theorem upperHexDigit_mem : ∀ n < 16, upperHexDigit n ∈ percentMarks := by decide

theorem toNat_upperHexDigit : ∀ n < 16, (upperHexDigit n).toNat < 128 := by decide

theorem hexPair?_upperHexDigit : ∀ b < 256,
    hexPair? (upperHexDigit (b / 16)).toNat (upperHexDigit (b % 16)).toNat = some b := by
  decide +kernel

theorem percentDecode_cons (h : b ≠ 37) : percentDecode (b :: rest) = b :: percentDecode rest := by
  rw [percentDecode]
  rintro _ _ _ rfl
  exact absurd rfl h

theorem utf8Bytes_percentByte (hb : b < 256) : utf8Bytes (percentByte b) =
    [37, (upperHexDigit (b / 16)).toNat, (upperHexDigit (b % 16)).toNat] := by
  have hhigh := toNat_upperHexDigit (b / 16) (by omega)
  have hlow := toNat_upperHexDigit (b % 16) (by omega)
  rw [percentByte, utf8Bytes_cons, utf8Bytes_cons, utf8Bytes_cons, charBytes_of_ascii hhigh,
    charBytes_of_ascii hlow]
  rfl

theorem percentDecode_percentByte (hb : b < 256) :
    percentDecode (utf8Bytes (percentByte b) ++ rest) = b :: percentDecode rest := by
  rw [utf8Bytes_percentByte hb, List.cons_append, List.cons_append, List.cons_append,
    List.nil_append, percentDecode, hexPair?_upperHexDigit b hb]

theorem percentDecode_percentBytes {bs : List Nat} (hb : ∀ b ∈ bs, b < 256) :
    percentDecode (utf8Bytes (bs.flatMap percentByte) ++ rest) = bs ++ percentDecode rest := by
  induction bs with
  | nil => rfl
  | cons b bs ih =>
    rw [List.flatMap_cons, utf8Bytes_append, List.append_assoc,
      percentDecode_percentByte (hb b List.mem_cons_self),
      ih fun b hb' => hb b (List.mem_cons_of_mem _ hb'), List.cons_append]

/-- What a character is written as. -/
def percentChar (encoded : Char → Bool) (c : Char) : List Char :=
  if c.toNat < 128 && !encoded c then [c] else (charBytes c).flatMap percentByte

theorem percentEncode_cons : percentEncode encoded (c :: cs) =
    percentChar encoded c ++ percentEncode encoded cs := List.flatMap_cons

theorem percentDecode_percentChar (h : encoded '%' = true) :
    percentDecode (utf8Bytes (percentChar encoded c) ++ rest) =
      charBytes c ++ percentDecode rest := by
  unfold percentChar
  split
  · rename_i hc
    rw [Bool.and_eq_true, decide_eq_true_eq, Bool.not_eq_true'] at hc
    have hne : c.toNat ≠ 37 := fun h37 => by
      rw [Char.toNat_inj.mp (show c.toNat = '%'.toNat from h37), h] at hc
      exact absurd hc.2 (by decide)
    rw [utf8Bytes_cons, charBytes_of_ascii hc.1]
    exact percentDecode_cons hne
  · exact percentDecode_percentBytes fun b => lt_of_mem_charBytes

/-- Decoding an encoded text gives its bytes back, if percent signs are encoded too. -/
theorem percentDecode_percentEncode (h : encoded '%' = true) (cs : List Char) :
    percentDecode (utf8Bytes (percentEncode encoded cs)) = utf8Bytes cs := by
  induction cs with
  | nil => rfl
  | cons c cs ih =>
    rw [percentEncode_cons, utf8Bytes_append, percentDecode_percentChar h, ih, utf8Bytes_cons]

/-- An encoded text has just characters that need no encoding and the marks of encoded bytes. -/
theorem mem_percentEncode (h : c ∈ percentEncode encoded cs) :
    (c.toNat < 128 ∧ encoded c = false) ∨ c ∈ percentMarks := by
  obtain ⟨d, -, hd⟩ := List.mem_flatMap.mp h
  split at hd
  · rename_i hc
    rw [List.mem_singleton.mp hd]
    exact .inl (by simpa using hc)
  · obtain ⟨b, hb, hmem⟩ := List.mem_flatMap.mp hd
    have hlt := lt_of_mem_charBytes hb
    right
    simp only [percentByte, List.mem_cons, List.not_mem_nil, or_false] at hmem
    rcases hmem with rfl | rfl | rfl
    · exact List.mem_cons_self
    · exact upperHexDigit_mem _ (by omega)
    · exact upperHexDigit_mem _ (by omega)

/-- A text that needs no encoding stays as it is. -/
theorem percentEncode_of_plain (h : ∀ c ∈ cs, c.toNat < 128 ∧ encoded c = false) :
    percentEncode encoded cs = cs := by
  induction cs with
  | nil => rfl
  | cons c cs ih =>
    obtain ⟨hc, hencoded⟩ := h c List.mem_cons_self
    rw [percentEncode_cons, ih fun d hd => h d (List.mem_cons_of_mem _ hd)]
    simp [percentChar, hc, hencoded]

end Net
end ChainGateway
