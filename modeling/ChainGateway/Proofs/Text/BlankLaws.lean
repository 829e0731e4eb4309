import Mathlib.Data.List.TakeWhile
import ChainGateway.Text.Blank

/-!
# Blanks around a text

Trimming finds the one text without blanks at its ends that a text is made of by putting blanks
around it.
-/

namespace ChainGateway.Text

variable {cs core s : List Char} {c : Char}

/-- Nothing but blanks. -/
def AllBlank (cs : List Char) : Prop := ∀ c ∈ cs, isBlank c = true

instance : DecidablePred AllBlank := fun _ => decidable_of_iff _ List.all_eq_true

/-- The text `cs` is `core` with optional blanks around it. -/
def Padded (core cs : List Char) : Prop :=
  ∃ before after, AllBlank before ∧ AllBlank after ∧ cs = before ++ core ++ after

/-- There is no blank at either end. -/
structure Bare (cs : List Char) : Prop where
  head : ∀ c, cs.head? = some c → isBlank c = false
  last : ∀ c, cs.getLast? = some c → isBlank c = false

/-- Of the ASCII characters only controls and the space are blank. -/
theorem isBlank_of_graphic (hlow : 32 < c.toNat) (hhigh : c.toNat < 128) : isBlank c = false := by
  have hspace : c ≠ ' ' := by
    rintro rfl
    exact absurd hlow (by decide)
  rw [isBlank, if_pos hhigh]
  simp [hspace]
  omega

theorem isBlank_of_isDigit (h : c.isDigit = true) : isBlank c = false := by
  have hrange : 48 ≤ c.toNat ∧ c.toNat ≤ 57 := by
    simpa [Char.isDigit, UInt32.le_iff_toNat_le] using h
  exact isBlank_of_graphic (by omega) (by omega)

theorem isBlank_of_isAlpha (h : c.isAlpha = true) : isBlank c = false := by
  obtain hu | hl : c.isUpper = true ∨ c.isLower = true := Bool.or_eq_true_iff.mp h
  · have hrange : 65 ≤ c.toNat ∧ c.toNat ≤ 90 := of_decide_eq_true hu
    exact isBlank_of_graphic (by omega) (by omega)
  · obtain ⟨hlow, hhigh⟩ := Bool.and_eq_true_iff.mp hl
    have hlow : 97 ≤ c.toNat := of_decide_eq_true hlow
    have hhigh : c.toNat ≤ 122 := of_decide_eq_true hhigh
    exact isBlank_of_graphic (by omega) (by omega)

theorem Padded.refl (cs : List Char) : Padded cs cs := ⟨[], [], nofun, nofun, by simp⟩

theorem AllBlank.append {a b : List Char} (ha : AllBlank a) (hb : AllBlank b) :
    AllBlank (a ++ b) := fun c hc => (List.mem_append.mp hc).elim (ha c) (hb c)

/-- More blanks in front make no difference. -/
theorem Padded.behind {before : List Char} (hb : AllBlank before) (h : Padded core cs) :
    Padded core (before ++ cs) := by
  obtain ⟨front, back, hfront, hback, rfl⟩ := h
  exact ⟨before ++ front, back, hb.append hfront, hback, by simp⟩

theorem Padded.before {after : List Char} (ha : AllBlank after) (h : Padded core cs) :
    Padded core (cs ++ after) := by
  obtain ⟨front, back, hfront, hback, rfl⟩ := h
  exact ⟨front, back ++ after, hfront, hback.append ha, by simp⟩

theorem Padded.subset (h : Padded core cs) : core ⊆ cs := by
  obtain ⟨before, after, -, -, rfl⟩ := h
  simp

theorem Padded.not_mem (hc : isBlank c = false) (hcore : c ∉ core) (h : Padded core cs) :
    c ∉ cs := by
  obtain ⟨before, after, hb, ha, rfl⟩ := h
  have hblank : ∀ {l : List Char}, AllBlank l → c ∉ l := by
    intro l hl hmem
    rw [hl c hmem] at hc
    cases hc
  simp [hblank hb, hblank ha, hcore]

theorem Bare.of_visible (h : ∀ c ∈ cs, isBlank c = false) : Bare cs where
  head c hc := h c (List.mem_of_mem_head? hc)
  last c hc := h c (List.mem_of_getLast? hc)

-- ---------------------------------------------------------------------------
-- Trimming
-- ---------------------------------------------------------------------------

/-- What is dropped in front of a character that stays is dropped without it. -/
theorem dropWhile_stop {p : Char → Bool} {behind : List Char} (h : p c = false) :
    (cs ++ c :: behind).dropWhile p = cs.dropWhile p ++ c :: behind := by
  induction cs with
  | nil => rw [List.nil_append, List.dropWhile_cons_of_neg (by simp [h])]; rfl
  | cons d cs ih =>
    rw [List.cons_append, List.dropWhile_cons, List.dropWhile_cons]
    split
    · exact ih
    · rfl

theorem dropWhile_visible (h : ∀ c, cs.head? = some c → isBlank c = false) :
    cs.dropWhile isBlank = cs := by
  cases cs with
  | nil => rfl
  | cons c cs => rw [List.dropWhile_cons, if_neg (by simp [h c rfl])]

theorem padded_trimList (cs : List Char) : Padded (trimList cs) cs := by
  refine ⟨cs.takeWhile isBlank, ((cs.dropWhile isBlank).reverse.takeWhile isBlank).reverse,
    fun c hc => List.mem_takeWhile_imp hc,
    fun c hc => List.mem_takeWhile_imp (List.mem_reverse.mp hc), ?_⟩
  rw [trimList, List.append_assoc, ← List.reverse_append, List.takeWhile_append_dropWhile,
    List.reverse_reverse, List.takeWhile_append_dropWhile]

theorem bare_trimList (cs : List Char) : Bare (trimList cs) := by
  have hhead : ∀ (l : List Char) c, (l.dropWhile isBlank).head? = some c → isBlank c = false := by
    intro l c hc
    have hnot := List.head?_dropWhile_not isBlank l
    rw [hc] at hnot
    simpa using hnot
  refine ⟨fun c hc => ?_, fun c hc => ?_⟩
  · -- the first character that is left was the first one before blanks were dropped at the end
    refine hhead cs c ?_
    have hsuffix := List.dropWhile_suffix isBlank (l := (cs.dropWhile isBlank).reverse)
    obtain ⟨after, hafter⟩ := List.reverse_prefix.mpr hsuffix
    rw [List.reverse_reverse] at hafter
    rw [← hafter, List.head?_append]
    exact Option.or_eq_some_iff.mpr (.inl hc)
  · rw [trimList, List.getLast?_reverse] at hc
    exact hhead _ c hc

theorem trimList_of_padded (hb : Bare core) (h : Padded core cs) : trimList cs = core := by
  obtain ⟨before, after, hbefore, hafter, rfl⟩ := h
  rw [trimList, List.append_assoc, List.dropWhile_append_of_pos hbefore]
  cases core with
  | nil =>
    have hnone : (after.dropWhile isBlank) = [] := by
      rw [List.dropWhile_eq_nil_iff]
      exact hafter
    rw [List.nil_append, hnone]
    rfl
  | cons c core =>
    have hfront : (c :: core ++ after).dropWhile isBlank = c :: core ++ after :=
      dropWhile_visible fun d hd => hb.head d hd
    have hback : AllBlank after.reverse := fun d hd => hafter d (List.mem_reverse.mp hd)
    rw [hfront, List.reverse_append, List.dropWhile_append_of_pos hback, dropWhile_visible,
      List.reverse_reverse]
    intro d hd
    rw [List.head?_reverse] at hd
    exact hb.last d hd

theorem trimList_eq_iff : trimList cs = core ↔ Padded core cs ∧ Bare core := by
  constructor
  · rintro rfl
    exact ⟨padded_trimList cs, bare_trimList cs⟩
  · rintro ⟨hp, hb⟩
    exact trimList_of_padded hb hp

theorem trimList_behind {before : List Char} (hb : AllBlank before) :
    trimList (before ++ cs) = trimList cs :=
  trimList_of_padded (bare_trimList cs) ((padded_trimList cs).behind hb)

theorem trimList_before {after : List Char} (ha : AllBlank after) :
    trimList (cs ++ after) = trimList cs :=
  trimList_of_padded (bare_trimList cs) ((padded_trimList cs).before ha)

/-- Trimming takes blanks off the front of what is before a visible character, and off the end of
what is behind it. -/
theorem trimList_append_cons (hc : isBlank c = false) (a b : List Char) :
    trimList (a ++ c :: b) =
      a.dropWhile isBlank ++ c :: (b.reverse.dropWhile isBlank).reverse := by
  rw [trimList, dropWhile_stop hc, List.reverse_append, List.reverse_cons, List.append_assoc,
    List.singleton_append, dropWhile_stop hc]
  simp

theorem trimList_dropWhile (cs : List Char) : trimList (cs.dropWhile isBlank) = trimList cs := by
  have hblank : AllBlank (cs.takeWhile isBlank) := fun c hc => List.mem_takeWhile_imp hc
  rw [← trimList_behind hblank, List.takeWhile_append_dropWhile]

theorem trimList_dropWhile_reverse (cs : List Char) :
    trimList (cs.reverse.dropWhile isBlank).reverse = trimList cs := by
  have hblank : AllBlank (cs.reverse.takeWhile isBlank).reverse := fun c hc =>
    List.mem_takeWhile_imp (List.mem_reverse.mp hc)
  rw [← trimList_before hblank, ← List.reverse_append, List.takeWhile_append_dropWhile,
    List.reverse_reverse]

theorem trimList_eq_nil_iff : trimList cs = [] ↔ AllBlank cs := by
  rw [trimList_eq_iff]
  constructor
  · rintro ⟨⟨before, after, hb, ha, rfl⟩, -⟩
    simpa using hb.append ha
  · intro h
    exact ⟨⟨cs, [], h, nofun, by simp⟩, ⟨nofun, nofun⟩⟩

end ChainGateway.Text
