import Mathlib.Data.List.Infix
import ChainGateway.Text.Pieces

/-!
# Pieces of a text

A text is its first piece with the others behind it, each behind a separator. No piece holds a
separator, so the pieces are read back from such a text, and whatever of a text holds no separator
lies within one of its pieces.
-/

namespace ChainGateway.Text

variable {sep : Char} {cs s u : List Char} {ps : List (List Char)}

theorem pieces_ne_nil : pieces sep cs ≠ [] := by
  cases cs with
  | nil => simp [pieces]
  | cons c cs =>
    rw [pieces]
    split
    · simp
    · split <;> simp

theorem joined_cons (h : ps ≠ []) : joined [sep] (s :: ps) = s ++ sep :: joined [sep] ps := by
  cases ps with
  | nil => exact absurd rfl h
  | cons q ps => simp [joined]

/-- Putting the pieces together again. -/
theorem joined_pieces : joined [sep] (pieces sep cs) = cs := by
  induction cs with
  | nil => rfl
  | cons c cs ih =>
    rw [pieces]
    split
    · rename_i hc
      rw [joined_cons pieces_ne_nil, ih, hc, List.nil_append]
    · cases hp : pieces sep cs with
      | nil => exact absurd hp pieces_ne_nil
      | cons first more =>
        rw [hp] at ih
        cases more with
        | nil => exact congrArg (c :: ·) ih
        | cons q more => exact congrArg (c :: ·) ih

/-- The last piece stands behind a separator, be it the one in front. -/
theorem last_suffix {p : List Char} (h : ps.getLast? = some p) : sep :: p <:+ sep :: joined [sep] ps := by
  induction ps with
  | nil => cases h
  | cons q ps ih =>
    cases ps with
    | nil =>
      obtain rfl := Option.some.inj h
      exact List.suffix_refl _
    | cons r ps =>
      rw [List.getLast?_cons_cons] at h
      rw [joined_cons (List.cons_ne_nil r ps)]
      exact (ih h).trans ((List.suffix_append q _).trans (List.suffix_cons sep _))

-- ---------------------------------------------------------------------------
-- Texts with separators
-- ---------------------------------------------------------------------------

theorem pieces_append {first : List Char} {more : List (List Char)} (hs : sep ∉ s)
    (h : pieces sep cs = first :: more) : pieces sep (s ++ cs) = (s ++ first) :: more := by
  induction s with
  | nil => exact h
  | cons c s ih =>
    rw [List.mem_cons, not_or] at hs
    rw [List.cons_append, pieces, if_neg (Ne.symm hs.1), ih hs.2]
    rfl

/-- Pieces without separators can be read back from the text they make. -/
theorem pieces_behind (hs : sep ∉ s) (hp : ∀ p ∈ ps, sep ∉ p) :
    pieces sep (s ++ ps.flatMap (sep :: ·)) = s :: ps := by
  induction ps generalizing s with
  | nil => simpa using pieces_append hs (rfl : pieces sep [] = [[]])
  | cons p ps ih =>
    have hrest := ih (hp p List.mem_cons_self) fun q hq => hp q (List.mem_cons_of_mem _ hq)
    have hcut : pieces sep ((p :: ps).flatMap (sep :: ·)) = [] :: p :: ps := by
      rw [List.flatMap_cons, List.cons_append, pieces, if_pos rfl, hrest]
    simpa using pieces_append hs hcut

/-- Every text is made of pieces without separators. -/
theorem exists_behind (sep : Char) (cs : List Char) :
    ∃ (s : List Char) (ps : List (List Char)),
      sep ∉ s ∧ (∀ p ∈ ps, sep ∉ p) ∧ cs = s ++ ps.flatMap (sep :: ·) := by
  induction cs with
  | nil => exact ⟨[], [], by simp⟩
  | cons c cs ih =>
    obtain ⟨s, ps, hs, hp, rfl⟩ := ih
    by_cases hc : c = sep
    · subst hc
      exact ⟨[], s :: ps, by simp, by simpa [hs] using hp, by simp⟩
    · exact ⟨c :: s, ps, by simp [Ne.symm hc, hs], hp, by simp⟩

theorem length_pieces (sep : Char) (cs : List Char) :
    (pieces sep cs).length = cs.count sep + 1 := by
  induction cs with
  | nil => rfl
  | cons c cs ih =>
    rw [pieces, List.count_cons]
    by_cases hc : c = sep
    · simp [hc, ih]
    · cases hp : pieces sep cs with
      | nil => exact absurd hp pieces_ne_nil
      | cons first more => simpa [hp, hc] using ih

/-- The first piece ends where the first separator is. -/
theorem pieces_eq_cons (sep : Char) (cs : List Char) :
    ∃ more, pieces sep cs = cs.takeWhile (· ≠ sep) :: more := by
  induction cs with
  | nil => exact ⟨[], rfl⟩
  | cons c cs ih =>
    obtain ⟨more, hmore⟩ := ih
    by_cases hc : c = sep
    · exact ⟨pieces sep cs, by simp [pieces, hc]⟩
    · exact ⟨more, by simp [pieces, hc, hmore]⟩

theorem not_mem_pieces : ∀ p ∈ pieces sep cs, sep ∉ p := by
  induction cs with
  | nil => simp [pieces]
  | cons c cs ih =>
    rw [pieces]
    split
    · simpa using ih
    · rename_i hc
      cases hp : pieces sep cs with
      | nil => exact absurd hp pieces_ne_nil
      | cons first more =>
        rw [hp, List.forall_mem_cons] at ih
        rw [List.forall_mem_cons, List.mem_cons, not_or]
        exact ⟨⟨Ne.symm hc, ih.1⟩, ih.2⟩

/-- Pieces without separators can be read back once they are put together. -/
theorem pieces_joined (h : ps ≠ []) (hp : ∀ p ∈ ps, sep ∉ p) :
    pieces sep (joined [sep] ps) = ps := by
  induction ps with
  | nil => exact absurd rfl h
  | cons p ps ih =>
    rw [List.forall_mem_cons] at hp
    cases ps with
    | nil => simpa [joined] using pieces_append hp.1 (rfl : pieces sep [] = [[]])
    | cons q ps =>
      have hrest := ih (List.cons_ne_nil q ps) hp.2
      have hcut : pieces sep (sep :: joined [sep] (q :: ps)) = [] :: q :: ps := by
        rw [pieces, if_pos rfl, hrest]
      rw [joined_cons (List.cons_ne_nil q ps)]
      simpa using pieces_append hp.1 hcut

-- ---------------------------------------------------------------------------
-- The first separator
-- ---------------------------------------------------------------------------

theorem cut?_eq_some_iff {a b : List Char} :
    cut? sep cs = some (a, b) ↔ cs = a ++ sep :: b ∧ sep ∉ a := by
  induction cs generalizing a with
  | nil => simp [cut?]
  | cons c cs ih =>
    rw [cut?]
    split
    · rename_i hc
      subst hc
      constructor
      · rintro ⟨⟩
        exact ⟨rfl, List.not_mem_nil⟩
      · rintro ⟨h, hn⟩
        cases a with
        | nil => rw [(List.cons.inj h).2]
        | cons d a =>
          rw [(List.cons.inj h).1] at hn
          exact absurd List.mem_cons_self hn
    · rename_i hc
      simp only [Option.map_eq_some_iff, Prod.exists, Prod.mk.injEq]
      constructor
      · rintro ⟨a', b', hcut, rfl, rfl⟩
        obtain ⟨rfl, hn⟩ := ih.mp hcut
        exact ⟨rfl, by simp [Ne.symm hc, hn]⟩
      · rintro ⟨h, hn⟩
        cases a with
        | nil => exact absurd (List.cons.inj h).1 hc
        | cons d a =>
          obtain ⟨rfl, rfl⟩ := List.cons.inj h
          exact ⟨a, b, ih.mpr ⟨rfl, fun hm => hn (List.mem_cons_of_mem _ hm)⟩, rfl, rfl⟩

theorem cut?_eq_none_iff : cut? sep cs = none ↔ sep ∉ cs := by
  induction cs with
  | nil => simp [cut?]
  | cons c cs ih =>
    rw [cut?]
    split
    · rename_i hc
      simp [hc]
    · rename_i hc
      rw [Option.map_eq_none_iff, ih, List.mem_cons, not_or]
      exact ⟨fun h => ⟨Ne.symm hc, h⟩, fun h => h.2⟩

-- ---------------------------------------------------------------------------
-- What lies within a text
-- ---------------------------------------------------------------------------

theorem prefix_of_prefix_append (hu : sep ∉ u) (h : u <+: s ++ sep :: cs) : u <+: s := by
  rcases List.prefix_or_prefix_of_prefix h (List.prefix_append s _) with hle | ⟨v, rfl⟩
  · exact hle
  · cases v with
    | nil => simp
    | cons c v =>
      obtain ⟨rfl, -⟩ := List.cons_prefix_cons.mp ((List.prefix_append_right_inj s).mp h)
      simp at hu

theorem infix_or_infix_of_infix_append (hu : sep ∉ u) (h : u <:+: s ++ sep :: cs) :
    u <:+: s ∨ u <:+: cs := by
  induction s with
  | nil =>
    rcases List.infix_cons_iff.mp h with hp | hi
    · exact .inl (prefix_of_prefix_append hu hp).isInfix
    · exact .inr hi
  | cons c s ih =>
    rcases List.infix_cons_iff.mp h with hp | hi
    · exact .inl (prefix_of_prefix_append hu hp).isInfix
    · exact (ih hi).imp_left fun hs => List.infix_cons_iff.mpr (.inr hs)

/-- What holds no separator lies within a piece. -/
theorem infix_of_infix_behind (hu : sep ∉ u) (h : u <:+: s ++ ps.flatMap (sep :: ·)) :
    ∃ p ∈ s :: ps, u <:+: p := by
  induction ps generalizing s with
  | nil => exact ⟨s, List.mem_cons_self, by simpa using h⟩
  | cons p ps ih =>
    rcases infix_or_infix_of_infix_append hu (by simpa using h) with hs | hrest
    · exact ⟨s, List.mem_cons_self, hs⟩
    · obtain ⟨q, hq, hi⟩ := ih hrest
      exact ⟨q, List.mem_cons_of_mem _ hq, hi⟩

theorem infix_behind {p : List Char} (h : p ∈ s :: ps) : p <:+: s ++ ps.flatMap (sep :: ·) := by
  rcases List.mem_cons.mp h with rfl | hp
  · exact (List.prefix_append ..).isInfix
  · have hin : sep :: p <:+: ps.flatMap (sep :: ·) :=
      List.flatMap_def ▸ List.infix_of_mem_flatten (List.mem_map_of_mem hp)
    exact ((List.suffix_cons sep p).isInfix.trans hin).trans (List.suffix_append ..).isInfix

end ChainGateway.Text
