import ChainGateway.Metrics.PathLabel
import ChainGateway.Proofs.Text.PieceLaws

/-!
# Unique identifiers in a path

A unique identifier is met wherever its five groups of digits stand, also inside a segment. Those
that are replaced are the ones met from the left, each past the end of the one before. The
placeholder is no part of an identifier, so replacing makes no new one: a text that went through
holds none.
-/

namespace ChainGateway.Metrics.PathLabel

open Text

variable {cs rest u : List Char} {gs : List Nat} {c : Char} {n : Nat}

/-- Groups of hexadecimal digits of these lengths, with dashes between them. -/
inductive Grouped : List Nat → List Char → Prop
  | last {n : Nat} {digits : List Char} (size : digits.length = n)
      (hex : ∀ c ∈ digits, isHexDigit c) : Grouped [n] digits
  | more {n : Nat} {gs : List Nat} {digits u : List Char} (size : digits.length = n)
      (hex : ∀ c ∈ digits, isHexDigit c) (behind : Grouped gs u) :
      Grouped (n :: gs) (digits ++ '-' :: u)

/-- A unique identifier, and nothing else. -/
def IsIdentifier (u : List Char) : Prop := Grouped identifierGroups u

/-- No unique identifier stands in the text. -/
def Plain (cs : List Char) : Prop := ∀ u, u <:+: cs → ¬ IsIdentifier u

/-- The first text with placeholders for its identifiers: those met from the left, each past the
end of the one before. -/
inductive Replaced : List Char → List Char → Prop
  | nil : Replaced [] []
  | identifier {u rest out : List Char} (whole : IsIdentifier u) (behind : Replaced rest out) :
      Replaced (u ++ rest) ("\x7bid\x7d".toList ++ out)
  | other {c : Char} {rest out : List Char} (none : ∀ u, u <+: c :: rest → ¬ IsIdentifier u)
      (behind : Replaced rest out) : Replaced (c :: rest) (c :: out)

-- ---------------------------------------------------------------------------
-- Groups of digits
-- ---------------------------------------------------------------------------

theorem afterDigits?_eq_some : afterDigits? n cs = some rest ↔
    ∃ digits, cs = digits ++ rest ∧ digits.length = n ∧ ∀ c ∈ digits, isHexDigit c := by
  induction n generalizing cs with
  | zero => simp [afterDigits?]
  | succ n ih =>
    cases cs with
    | nil =>
      simp only [afterDigits?, reduceCtorEq, false_iff]
      rintro ⟨digits, hcs, hsize, -⟩
      obtain ⟨rfl, -⟩ := List.nil_eq_append_iff.mp hcs
      cases hsize
    | cons c cs =>
      rw [afterDigits?]
      constructor
      · intro h
        split at h
        · rename_i hc
          obtain ⟨digits, rfl, rfl, hex⟩ := ih.mp h
          exact ⟨c :: digits, rfl, rfl, by simpa [hc] using hex⟩
        · cases h
      · rintro ⟨digits, hcs, hsize, hex⟩
        obtain ⟨d, digits, rfl⟩ := List.exists_cons_of_length_eq_add_one hsize
        obtain ⟨rfl, rfl⟩ := List.cons.inj hcs
        rw [if_pos (hex _ List.mem_cons_self)]
        exact ih.mpr ⟨digits, rfl, Nat.succ.inj hsize,
          fun e he => hex e (List.mem_cons_of_mem _ he)⟩

theorem afterGroups?_eq_some (hg : gs ≠ []) : afterGroups? gs cs = some rest ↔
    ∃ u, cs = u ++ rest ∧ Grouped gs u := by
  induction gs generalizing cs with
  | nil => exact absurd rfl hg
  | cons n gs ih =>
    cases gs with
    | nil =>
      rw [afterGroups?, afterDigits?_eq_some]
      constructor
      · rintro ⟨digits, rfl, hsize, hex⟩
        exact ⟨digits, rfl, .last hsize hex⟩
      · rintro ⟨u, rfl, hu⟩
        cases hu with
        | last hsize hex => exact ⟨u, rfl, hsize, hex⟩
        | more _ _ hu => cases hu
    | cons m gs =>
      rw [afterGroups?.eq_3 _ _ _ (by simp)]
      constructor
      · intro hsome
        obtain ⟨after, hafter, h⟩ := Option.bind_eq_some_iff.mp hsome
        clear hsome
        obtain ⟨digits, rfl, hsize, hex⟩ := afterDigits?_eq_some.mp hafter
        split at h
        · obtain ⟨u, rfl, hu⟩ := (ih (List.cons_ne_nil _ _)).mp h
          exact ⟨digits ++ '-' :: u, by simp, .more hsize hex hu⟩
        · cases h
      · rintro ⟨u, rfl, hu⟩
        cases hu with
        | @more _ _ digits u hsize hex hu =>
          have hdigits : afterDigits? n (digits ++ '-' :: u ++ rest) = some ('-' :: (u ++ rest)) :=
            afterDigits?_eq_some.mpr ⟨digits, by simp, hsize, hex⟩
          rw [hdigits]
          exact (ih (List.cons_ne_nil _ _)).mpr ⟨u, rfl, hu⟩

/-- An identifier begins the text. -/
theorem isSome_afterGroups? : (afterGroups? identifierGroups cs).isSome ↔
    ∃ u, u <+: cs ∧ IsIdentifier u := by
  rw [Option.isSome_iff_exists]
  constructor
  · rintro ⟨rest, h⟩
    obtain ⟨u, rfl, hu⟩ := (afterGroups?_eq_some (by decide)).mp h
    exact ⟨u, List.prefix_append u rest, hu⟩
  · rintro ⟨u, ⟨rest, rfl⟩, hu⟩
    exact ⟨rest, (afterGroups?_eq_some (by decide)).mpr ⟨u, rfl, hu⟩⟩

theorem Grouped.length (h : Grouped gs u) : u.length + 1 = gs.foldr (· + 1 + ·) 0 := by
  induction h with
  | last hsize _ => simp [hsize]
  | more hsize _ _ ih => simp [hsize, ← ih]; omega

theorem IsIdentifier.length (h : IsIdentifier u) : u.length = identifierLength :=
  Nat.succ.inj (Grouped.length h)

theorem Grouped.mem (h : Grouped gs u) (hc : c ∈ u) : isHexDigit c ∨ c = '-' := by
  induction h with
  | last _ hex => exact .inl (hex c hc)
  | more _ hex _ ih =>
    rcases List.mem_append.mp hc with hc | hc
    · exact .inl (hex c hc)
    · rcases List.mem_cons.mp hc with rfl | hc
      · exact .inr rfl
      · exact ih hc

theorem IsIdentifier.not_mem (h : IsIdentifier u) (hc : ¬ (isHexDigit c ∨ c = '-')) : c ∉ u :=
  fun hm => hc (Grouped.mem h hm)

-- ---------------------------------------------------------------------------
-- Replacing
-- ---------------------------------------------------------------------------

theorem replaceIdentifiers_drop (n : Nat) (cs : List Char) :
    replaceIdentifiers n cs = replaceIdentifiers 0 (cs.drop n) := by
  induction n generalizing cs with
  | zero => rfl
  | succ n ih =>
    cases cs with
    | nil => rfl
    | cons c cs => rw [replaceIdentifiers, List.drop_succ_cons, ih]

theorem replaced (cs : List Char) : Replaced cs (replaceIdentifiers 0 cs) := by
  induction hn : cs.length using Nat.strong_induction_on generalizing cs with
  | _ n ih =>
    subst hn
    cases cs with
    | nil => exact .nil
    | cons c rest =>
      rw [replaceIdentifiers]
      split
      · rename_i h
        obtain ⟨u, ⟨after, hu⟩, hid⟩ := isSome_afterGroups?.mp h
        have hrest : rest.drop (identifierLength - 1) = after := by
          have hdrop := congrArg (List.drop u.length) hu
          rw [List.drop_left, hid.length] at hdrop
          exact hdrop.symm
        rw [replaceIdentifiers_drop, hrest, ← hu]
        refine .identifier hid (ih _ ?_ after rfl)
        rw [← hu, List.length_append, hid.length]
        exact Nat.lt_add_of_pos_left (by decide)
      · rename_i h
        exact .other (fun u hu hid => h (isSome_afterGroups?.mpr ⟨u, hu, hid⟩))
          (ih _ (Nat.lt_succ_self _) rest rfl)

-- ---------------------------------------------------------------------------
-- Texts without identifiers
-- ---------------------------------------------------------------------------

theorem Plain.within {p : List Char} (h : Plain cs) (hp : p <:+: cs) : Plain p :=
  fun u hu => h u (hu.trans hp)

theorem plain_of_short (h : cs.length < identifierLength) : Plain cs := by
  intro u hu hid
  have := hu.length_le
  rw [hid.length] at this
  omega

theorem plain_behind {s : List Char} {ps : List (List Char)} (h : ∀ p ∈ s :: ps, Plain p) :
    Plain (s ++ ps.flatMap ('/' :: ·)) := by
  intro u hu hid
  obtain ⟨p, hp, hup⟩ := infix_of_infix_behind (hid.not_mem (by decide)) hu
  exact h p hp u hup hid

/-- What holds no brace was there before. -/
theorem Replaced.before {out : List Char} (h : Replaced cs out) (hu : u <+: out) (hb : '\x7b' ∉ u) :
    u <+: cs := by
  induction h generalizing u with
  | nil => exact hu
  | @identifier _ _ out _ _ _ =>
    have hopen : u <+: '\x7b' :: ("id\x7d".toList ++ out) := hu
    rcases List.prefix_cons_iff.mp hopen with rfl | ⟨v, rfl, -⟩
    · exact List.nil_prefix
    · exact absurd List.mem_cons_self hb
  | other _ _ ih =>
    rcases List.prefix_cons_iff.mp hu with rfl | ⟨v, rfl, hv⟩
    · exact List.nil_prefix
    · rw [List.mem_cons, not_or] at hb
      exact List.cons_prefix_cons.mpr ⟨rfl, ih hv hb.2⟩

theorem Replaced.plain {out : List Char} (h : Replaced cs out) : Plain out := by
  induction h with
  | nil => exact plain_of_short (by decide)
  | @identifier _ _ out _ _ ih =>
    intro u hu hid
    -- The braces of the placeholder are in no identifier.
    have hopen : u <:+: [] ++ '\x7b' :: ("id".toList ++ '\x7d' :: out) := hu
    rcases infix_or_infix_of_infix_append (hid.not_mem (by decide)) hopen with hu | hu
    · exact plain_of_short (by decide) u hu hid
    · rcases infix_or_infix_of_infix_append (hid.not_mem (by decide)) hu with hu | hu
      · exact plain_of_short (by decide) u hu hid
      · exact ih u hu hid
  | other hnone hbehind ih =>
    intro u hu hid
    rcases List.infix_cons_iff.mp hu with hp | hi
    · exact hnone u ((Replaced.other hnone hbehind).before hp (hid.not_mem (by decide))) hid
    · exact ih u hi hid

/-- Nothing changes where no identifier stands. -/
theorem Plain.replaceIdentifiers_eq (h : Plain cs) : replaceIdentifiers 0 cs = cs := by
  induction cs with
  | nil => rfl
  | cons c cs ih =>
    have hnone : ¬ (afterGroups? identifierGroups (c :: cs)).isSome := by
      intro hsome
      obtain ⟨u, hu, hid⟩ := isSome_afterGroups?.mp hsome
      exact h u hu.isInfix hid
    rw [replaceIdentifiers, if_neg hnone, ih (h.within (List.suffix_cons c cs).isInfix)]

end ChainGateway.Metrics.PathLabel
