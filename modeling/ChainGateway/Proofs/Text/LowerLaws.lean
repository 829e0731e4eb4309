import ChainGateway.Proofs.Text.BlankLaws
import ChainGateway.Text.Lowercase

/-!
# Laws of lower case

Text in lower-case ASCII stays as it is wherever it stands, and a slash hides what is on its one
side from what is on its other. Lowering ASCII letters first changes nothing.
-/

namespace ChainGateway.Text

variable {c : Char} {cs ds before before' : List Char} {lines : List String}
  {ranges : List (Nat × Nat)}

-- ---------------------------------------------------------------------------
-- ASCII characters in tables
-- ---------------------------------------------------------------------------

namespace CharSet

/-- The part of a set that ASCII characters can be in. -/
def ascii (s : CharSet) : CharSet := ⟨s.ranges.filter (·.1 < 128)⟩

theorem ascii_contains (s : CharSet) (h : c.toNat < 128) : s.ascii.contains c = s.contains c := by
  obtain ⟨ranges⟩ := s
  unfold contains ascii
  induction ranges with
  | nil => rfl
  | cons r ranges ih =>
    rw [List.filter_cons]
    split
    · rw [List.any_cons, List.any_cons, ih]
    · rename_i hr
      have hlow : ¬r.1 ≤ c.toNat := by
        simp only [decide_eq_true_eq] at hr
        omega
      rw [List.any_cons, ih]
      simp [hlow]

theorem ascii_ofLines_nil : (ofLines []).ascii = ⟨[]⟩ := rfl

/-- A table is read line by line. -/
theorem ascii_ofLines_cons (ranges more : List (Nat × Nat))
    (h : (readRanges none 0 cs).filter (·.1 < 128) = ranges) (hs : (ofLines lines).ascii = ⟨more⟩) :
    (ofLines (String.ofList cs :: lines)).ascii = ⟨ranges ++ more⟩ := by
  have hmore := congrArg CharSet.ranges hs
  unfold ascii ofLines at hmore ⊢
  dsimp only at hmore ⊢
  rw [List.flatMap_cons, List.filter_append, String.toList_ofList, h, hmore]

/-- A line of the table that is above ASCII. -/
theorem ascii_ofLines_above (h : (readRanges none 0 cs).filter (·.1 < 128) = [])
    (hs : (ofLines lines).ascii = ⟨ranges⟩) :
    (ofLines (String.ofList cs :: lines)).ascii = ⟨ranges⟩ :=
  ascii_ofLines_cons [] ranges h hs

end CharSet

theorem cased_ascii : cased.ascii = ⟨[(0x41, 0x5a), (0x61, 0x7a)]⟩ := by
  refine CharSet.ascii_ofLines_cons [(0x41, 0x5a), (0x61, 0x7a)] [] (by decide +kernel) ?_
  repeat refine CharSet.ascii_ofLines_above (by decide +kernel) ?_
  exact CharSet.ascii_ofLines_nil

theorem caseIgnorable_ascii : caseIgnorable.ascii =
    ⟨[(0x27, 0x27), (0x2e, 0x2e), (0x3a, 0x3a), (0x5e, 0x5e), (0x60, 0x60)]⟩ := by
  refine CharSet.ascii_ofLines_cons
    [(0x27, 0x27), (0x2e, 0x2e), (0x3a, 0x3a), (0x5e, 0x5e), (0x60, 0x60)] []
    (by decide +kernel) ?_
  repeat refine CharSet.ascii_ofLines_above (by decide +kernel) ?_
  exact CharSet.ascii_ofLines_nil

theorem slash_not_ignorable : caseIgnorable.contains '/' = false := by
  rw [← caseIgnorable.ascii_contains (by decide), caseIgnorable_ascii]
  rfl

-- ---------------------------------------------------------------------------
-- Low text
-- ---------------------------------------------------------------------------

/-- ASCII, and no capital letter. -/
def IsLow (c : Char) : Prop := c.toNat < 128 ∧ c.toLower = c

instance : DecidablePred IsLow := fun _ => inferInstanceAs (Decidable (_ ∧ _))

theorem low_of_all (h : cs.all (IsLow ·) = true) : ∀ c ∈ cs, IsLow c := fun c hc =>
  of_decide_eq_true (List.all_eq_true.mp h c hc)

theorem lowerFrom_low (h : ∀ c ∈ cs, IsLow c) (before ds : List Char) :
    lowerFrom before (cs ++ ds) = cs ++ lowerFrom (cs.reverse ++ before) ds := by
  induction cs generalizing before with
  | nil => rfl
  | cons c cs ih =>
    obtain ⟨hc, hcs⟩ := List.forall_mem_cons.mp h
    have hsigma : c.toNat ≠ 0x3A3 := by
      have := hc.1
      omega
    have hlow : lowerChar c = [c] := by rw [lowerChar, if_pos hc.1, hc.2]
    rw [List.cons_append, lowerFrom, if_neg hsigma, hlow, ih hcs]
    simp

/-- The end of a text is lowered with what stands before it in view. -/
theorem lowerFrom_append (before cs ds : List Char) : ∃ front, lowerFrom before (cs ++ ds) =
    front ++ lowerFrom (cs.reverse ++ before) ds := by
  induction cs generalizing before with
  | nil => exact ⟨[], rfl⟩
  | cons c cs ih =>
    obtain ⟨front, h⟩ := ih (c :: before)
    have hrev : (c :: cs).reverse ++ before = cs.reverse ++ c :: before := by simp
    rw [List.cons_append, lowerFrom, h, ← List.append_assoc, hrev]
    exact ⟨_, rfl⟩

/-- Text that ends low ends so in lower case. -/
theorem lowerFrom_suffix (h : ∀ c ∈ ds, IsLow c) (hs : ds <:+ cs) : ds <:+ lowerFrom before cs := by
  obtain ⟨front, rfl⟩ := hs
  obtain ⟨front', h'⟩ := lowerFrom_append before front ds
  have hlow := lowerFrom_low h (front.reverse ++ before) []
  rw [List.append_nil, lowerFrom, List.append_nil] at hlow
  rw [h', hlow]
  exact ⟨front', rfl⟩

-- ---------------------------------------------------------------------------
-- Slashes
-- ---------------------------------------------------------------------------

/-- A slash is neither a letter nor passed over. -/
theorem meetsCased_slash (cs before before' : List Char) :
    meetsCased (cs ++ '/' :: before) = meetsCased (cs ++ '/' :: before') := by
  unfold meetsCased
  rw [dropWhile_stop slash_not_ignorable, dropWhile_stop slash_not_ignorable]
  cases cs.dropWhile caseIgnorable.contains with
  | nil => rfl
  | cons => rfl

theorem lowerFrom_behind_slash (cs before before' ds : List Char) :
    lowerFrom (cs ++ '/' :: before) ds = lowerFrom (cs ++ '/' :: before') ds := by
  induction ds generalizing cs with
  | nil => rfl
  | cons d ds ih =>
    rw [lowerFrom, lowerFrom, meetsCased_slash cs before before', ← List.cons_append,
      ih (d :: cs), List.cons_append]

/-- What begins with a slash is lowered by itself. -/
theorem lowerFrom_slash : lowerFrom before ('/' :: ds) = lowerFrom [] ('/' :: ds) := by
  have hslash : ∀ before, lowerFrom before ('/' :: ds) = '/' :: lowerFrom ('/' :: before) ds :=
    fun before => lowerFrom_low (low_of_all (by decide : ['/'].all (IsLow ·) = true)) before ds
  rw [hslash, hslash]
  exact congrArg _ (lowerFrom_behind_slash [] before [] ds)

-- ---------------------------------------------------------------------------
-- ASCII letters
-- ---------------------------------------------------------------------------

theorem toLower_cases (c : Char) : c.toLower = c ∨
    (65 ≤ c.toNat ∧ c.toNat ≤ 90 ∧ c.toLower.toNat = c.toNat + 32) := by
  by_cases h : 65 ≤ c.toNat ∧ c.toNat ≤ 90
  · have hupper : c.val ≥ 'A'.val ∧ c.val ≤ 'Z'.val := by
      simpa [UInt32.le_iff_toNat_le] using h
    refine .inr ⟨h.1, h.2, ?_⟩
    delta Char.toLower
    rw [dif_pos hupper]
    show (c.val + ('a'.val - 'A'.val)).toNat = c.val.toNat + 32
    have hsmall : c.val.toNat ≤ 90 := h.2
    rw [UInt32.toNat_add, Nat.mod_eq_of_lt]
    · rfl
    · show c.val.toNat + 32 < 4294967296
      omega
  · refine .inl ?_
    delta Char.toLower
    rw [dif_neg]
    simpa [UInt32.le_iff_toNat_le] using h

theorem cased_toLower : cased.contains c.toLower = cased.contains c := by
  obtain h | ⟨hlow, hhigh, h⟩ := toLower_cases c
  · rw [h]
  · rw [← cased.ascii_contains (by omega), ← cased.ascii_contains (by omega), cased_ascii,
      Bool.eq_iff_iff]
    simp only [CharSet.contains, h, List.any_cons, List.any_nil, Bool.or_eq_true, Bool.and_eq_true,
      decide_eq_true_eq, Bool.false_eq_true]
    omega

/-- Letters of ASCII are not passed over. -/
theorem letter_not_ignorable
    (h : (65 ≤ c.toNat ∧ c.toNat ≤ 90) ∨ (97 ≤ c.toNat ∧ c.toNat ≤ 122)) :
    caseIgnorable.contains c = false := by
  rw [← caseIgnorable.ascii_contains (by omega), caseIgnorable_ascii]
  simp only [CharSet.contains, List.any_cons, List.any_nil, Bool.or_eq_false_iff,
    Bool.and_eq_false_iff, decide_eq_false_iff_not, and_true]
  omega

theorem caseIgnorable_toLower : caseIgnorable.contains c.toLower = caseIgnorable.contains c := by
  obtain h | ⟨hlow, hhigh, h⟩ := toLower_cases c
  · rw [h]
  · rw [letter_not_ignorable (.inr (by omega)), letter_not_ignorable (.inl ⟨hlow, hhigh⟩)]

theorem toLower_toLower (c : Char) : c.toLower.toLower = c.toLower := by
  obtain h | ⟨hlow, -, h⟩ := toLower_cases c
  · rw [h, h]
  · obtain h' | ⟨-, hhigh, -⟩ := toLower_cases c.toLower
    · exact h'
    · omega

theorem lowerChar_toLower : lowerChar c.toLower = lowerChar c := by
  obtain h | ⟨hlow, hhigh, h⟩ := toLower_cases c
  · rw [h]
  · rw [lowerChar, if_pos (by omega), toLower_toLower, lowerChar, if_pos (by omega)]

theorem meetsCased_toLower : meetsCased (cs.map Char.toLower) = meetsCased cs := by
  unfold meetsCased
  induction cs with
  | nil => rfl
  | cons c cs ih =>
    rw [List.map_cons, List.dropWhile_cons, List.dropWhile_cons, caseIgnorable_toLower]
    cases caseIgnorable.contains c with
    | true => exact ih
    | false => exact cased_toLower

theorem lowerFrom_toLower (before cs : List Char) :
    lowerFrom (before.map Char.toLower) (cs.map Char.toLower) = lowerFrom before cs := by
  induction cs generalizing before with
  | nil => rfl
  | cons c cs ih =>
    have hsigma : c.toLower.toNat = 0x3A3 ↔ c.toNat = 0x3A3 := by
      obtain h | ⟨hlow, hhigh, h⟩ := toLower_cases c
      · rw [h]
      · omega
    have hrest := ih (c :: before)
    rw [List.map_cons] at hrest ⊢
    rw [lowerFrom, lowerFrom, hrest, meetsCased_toLower, meetsCased_toLower, lowerChar_toLower]
    simp only [hsigma]

theorem lowercase_asciiLowercase (s : String) : lowercase (asciiLowercase s) = lowercase s := by
  rw [lowercase, asciiLowercase, String.toList_ofList, lowercase]
  exact congrArg _ (lowerFrom_toLower [] _)

end ChainGateway.Text
