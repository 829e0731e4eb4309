import ChainGateway.Pattern.Match
import Mathlib.Logic.Relation
import Mathlib.Tactic.Tauto

/-!
# What the marks stand for

`Spans` says between which places of a text a pattern is met, whatever marks it has. The marks
stand for the matches underway: `Rest` says at which places those that have got to a place may
end. One step of all the marks keeps just the matches that go on, so a text that is read to its end
holds a match if and only if the marks say so.
-/

namespace ChainGateway.Pattern

open Relation

variable {R S : Place → Place → Prop} {i j k : Place} {c : Char} {cs rest before after : List Char}

-- ---------------------------------------------------------------------------
-- Places
-- ---------------------------------------------------------------------------

namespace Place

/-- The place behind the next character. -/
def Next (i k : Place) : Prop := ∃ c, i.after = c :: k.after ∧ k.before = c :: i.before

def Reaches : Place → Place → Prop := ReflTransGen Next

theorem Reaches.eq_or_lt (h : Reaches i k) : k = i ∨ k.after.length < i.after.length := by
  induction h with
  | refl => exact .inl rfl
  | @tail j k _ hjk ih =>
    obtain ⟨c, hc, -⟩ := hjk
    rw [hc, List.length_cons] at ih
    rcases ih with rfl | hlt
    · rw [hc, List.length_cons]
      exact .inr (Nat.lt_succ_self _)
    · exact .inr (by omega)

theorem Reaches.antisymm (h : Reaches i k) (hb : Reaches k i) : k = i := by
  rcases h.eq_or_lt with he | hlt
  · exact he
  · rcases hb.eq_or_lt with he | hlt'
    · exact he.symm
    · omega

/-- What was read at a place is still behind it at the places that it reaches. -/
theorem Reaches.before_length (h : Reaches i k) : k = i ∨ k.before ≠ [] := by
  induction h with
  | refl => exact .inl rfl
  | tail _ hjk _ =>
    obtain ⟨c, -, hc⟩ := hjk
    exact .inr (by simp [hc])

theorem reaches_cons : Reaches ⟨before, c :: rest⟩ k ↔
    k = ⟨before, c :: rest⟩ ∨ Reaches ⟨c :: before, rest⟩ k := by
  have hnext : ∀ j, Next ⟨before, c :: rest⟩ j ↔ j = ⟨c :: before, rest⟩ := by
    rintro ⟨b, a⟩
    constructor
    · rintro ⟨d, hd, hb⟩
      cases hd
      exact congrArg (Place.mk · a) hb
    · intro hj
      cases hj
      exact ⟨c, rfl, rfl⟩
  rw [Reaches, ReflTransGen.cases_head_iff]
  simp only [hnext, exists_eq_left, eq_comm]

theorem reaches_append (before cs ds : List Char) :
    Reaches ⟨before, cs ++ ds⟩ ⟨cs.reverse ++ before, ds⟩ := by
  induction cs generalizing before with
  | nil => exact .refl
  | cons c cs ih =>
    have hrev : (c :: cs).reverse ++ before = cs.reverse ++ c :: before := by simp
    rw [List.cons_append, reaches_cons, hrev]
    exact .inr (ih (c :: before))

theorem reaches_nil (h : Reaches ⟨before, []⟩ k) : k = ⟨before, []⟩ :=
  h.eq_or_lt.resolve_right (Nat.not_lt_zero _)

/-- A way back to a place never leaves it. -/
theorem exists_loop (hR : ∀ i k, R i k → Reaches i k) (hS : ∀ i k, S i k → Reaches i k) :
    (∃ j, R i j ∧ S j i) ↔ R i i ∧ S i i := by
  constructor
  · rintro ⟨j, hr, hs⟩
    obtain rfl := (hR i j hr).antisymm (hS j i hs)
    exact ⟨hr, hs⟩
  · exact fun h => ⟨i, h⟩

/-- A place that was left is not reached again. -/
theorem ne_of_reaches (hij : Reaches i j) (hjk : Reaches j k) (hj : j ≠ i) : k ≠ i := by
  rintro rfl
  exact hj (hij.antisymm hjk)

/-- Going on for some times leaves a place by one of them, if it leaves it at all. -/
theorem first_move (h : ReflTransGen S i k) (hk : k ≠ i) :
    ∃ j, j ≠ i ∧ S i j ∧ ReflTransGen S j k := by
  induction h using ReflTransGen.head_induction_on with
  | refl => exact absurd rfl hk
  | @head i j hij hjk ih =>
    by_cases hj : j = i
    · subst hj
      exact ih hk
    · exact ⟨j, hj, hij, hjk⟩

end Place

open Place

namespace Marked

variable {m p q : Marked} {enter : Bool}

-- ---------------------------------------------------------------------------
-- Matches
-- ---------------------------------------------------------------------------

/-- The pattern is met between two places. -/
def Spans : Marked → Place → Place → Prop
  | .empty, i, k => i = k
  | .char s _, i, k => ∃ c, s.contains c = true ∧ i.after = c :: k.after ∧ k.before = c :: i.before
  | .anchor a, i, k => i = k ∧ a.holds i = true
  | .seq p q, i, k => ∃ j, p.Spans i j ∧ q.Spans j k
  | .alt p q, i, k => p.Spans i k ∨ q.Spans i k
  | .many p, i, k => TransGen p.Spans i k

/-- A match that the marks at a place stand for ends at another. -/
def Rest : Marked → Place → Place → Prop
  | .empty, _, _ | .anchor _, _, _ => False
  | .char _ mark, i, k => mark = true ∧ i = k
  | .seq p q, i, k => (∃ j, p.Rest i j ∧ q.Spans j k) ∨ q.Rest i k
  | .alt p q, i, k => p.Rest i k ∨ q.Rest i k
  | .many p, i, k => ∃ j, p.Rest i j ∧ ReflTransGen p.Spans j k

theorem Spans.reaches (h : m.Spans i k) : Reaches i k := by
  induction m generalizing i k with
  | empty => exact h ▸ .refl
  | char s mark =>
    obtain ⟨c, -, hnext⟩ := h
    exact .single ⟨c, hnext⟩
  | anchor a => exact h.1 ▸ .refl
  | seq p q ihp ihq =>
    obtain ⟨j, hp, hq⟩ := h
    exact (ihp hp).trans (ihq hq)
  | alt p q ihp ihq => exact h.elim ihp ihq
  | many p ih =>
    induction h with
    | single h => exact ih h
    | tail _ h hrest => exact hrest.trans (ih h)

theorem reaches_of_spans (h : ReflTransGen p.Spans i k) : Reaches i k := by
  induction h with
  | refl => exact .refl
  | tail _ h ih => exact ih.trans h.reaches

theorem Rest.reaches (h : m.Rest i k) : Reaches i k := by
  induction m generalizing i k with
  | empty | anchor => exact h.elim
  | char s mark => exact h.2 ▸ .refl
  | seq p q ihp ihq =>
    obtain ⟨j, hp, hq⟩ | hq := h
    · exact (ihp hp).trans hq.reaches
    · exact ihq hq
  | alt p q ihp ihq => exact h.elim ihp ihq
  | many p ih =>
    obtain ⟨j, hp, hrest⟩ := h
    exact (ih hp).trans (reaches_of_spans hrest)

-- ---------------------------------------------------------------------------
-- Reading
-- ---------------------------------------------------------------------------

/-- A match ends at a place when one underway does, or one that is let in there is empty. -/
theorem exits_iff : m.exits i enter = true ↔ m.Rest i i ∨ (enter = true ∧ m.Spans i i) := by
  induction m generalizing enter with
  | empty => simp [exits, Rest, Spans]
  | char s mark =>
    have hloop : ¬(Marked.char s mark).Spans i i := by
      rintro ⟨c, -, hc, -⟩
      exact absurd (congrArg List.length hc) (by simp)
    simp [exits, Rest, hloop]
  | anchor a => simp [exits, Rest, Spans]
  | seq p q ihp ihq =>
    have hrest := exists_loop (i := i) (fun _ _ => Rest.reaches (m := p))
      fun _ _ => Spans.reaches (m := q)
    have hspans := exists_loop (i := i) (fun _ _ => Spans.reaches (m := p))
      fun _ _ => Spans.reaches (m := q)
    rw [exits, ihq, ihp, Rest, Spans, hrest, hspans]
    tauto
  | alt p q ihp ihq =>
    rw [exits, Bool.or_eq_true, ihp, ihq, Rest, Spans]
    tauto
  | many p ih =>
    have hrest := exists_loop (i := i) (fun _ _ => Rest.reaches (m := p))
      fun _ _ => reaches_of_spans (p := p)
    have hspans := exists_loop (i := i) (fun _ _ => Spans.reaches (m := p))
      fun _ _ => reaches_of_spans (p := p)
    have hrefl : ReflTransGen p.Spans i i := .refl
    rw [exits, ih, Rest, Spans, hrest, TransGen.head'_iff, hspans]
    tauto

theorem step_met : (m.step i c enter).2 = m.exits i enter := by
  induction m generalizing enter with
  | empty | char | anchor => rfl
  | seq p q ihp ihq =>
    simp only [step, exits, ihp, ihq]
  | alt p q ihp ihq =>
    simp only [step, exits, ihp, ihq]
  | many p ih =>
    simp only [step, exits, ih]
    rw [Bool.eq_iff_iff, exits_iff, Bool.or_eq_true, exits_iff]
    tauto

/-- Steps move nothing but marks. -/
theorem step_spans : (m.step i c enter).1.Spans = m.Spans := by
  induction m generalizing enter with
  | empty | char | anchor => rfl
  | seq p q ihp ihq =>
    funext i k
    simp only [step, Spans, ihp, ihq]
  | alt p q ihp ihq =>
    funext i k
    simp only [step, Spans, ihp, ihq]
  | many p ih =>
    funext i k
    simp only [step, Spans, ih]

/-- A step over a character takes along the matches that do not end in front of it. -/
theorem step_rest : (m.step ⟨before, c :: rest⟩ c enter).1.Rest ⟨c :: before, rest⟩ k ↔
    k ≠ ⟨before, c :: rest⟩ ∧
      (m.Rest ⟨before, c :: rest⟩ k ∨ (enter = true ∧ m.Spans ⟨before, c :: rest⟩ k)) := by
  have hleave : (⟨c :: before, rest⟩ : Place) ≠ ⟨before, c :: rest⟩ := fun he =>
    absurd (congrArg (·.after.length) he) (by simp)
  induction m generalizing enter k with
  | empty =>
    simp only [step, Rest, Spans, false_or]
    exact ⟨False.elim, fun h => h.1 h.2.2.symm⟩
  | anchor a =>
    simp only [step, Rest, Spans, false_or]
    exact ⟨False.elim, fun h => h.1 h.2.2.1.symm⟩
  | char s mark =>
    simp only [step, Rest, Spans, Bool.and_eq_true]
    constructor
    · rintro ⟨⟨henter, hc⟩, rfl⟩
      exact ⟨hleave, .inr ⟨henter, c, hc, rfl, rfl⟩⟩
    · rintro ⟨hk, ⟨-, he⟩ | ⟨henter, d, hd, hafter, hbefore⟩⟩
      · exact absurd he.symm hk
      · obtain ⟨b, a⟩ := k
        cases hafter
        cases hbefore
        exact ⟨⟨henter, hd⟩, rfl⟩
  | alt p q ihp ihq =>
    simp only [step, Rest, Spans, ihp, ihq]
    tauto
  | seq p q ihp ihq =>
    generalize hi : (⟨before, c :: rest⟩ : Place) = i at *
    simp only [step, Rest, Spans, ihp, ihq, step_spans, step_met, exits_iff]
    have hrest : ∀ j, p.Rest i j → q.Spans j k → j ≠ i → k ≠ i := fun j hp hq =>
      ne_of_reaches hp.reaches hq.reaches
    have hspans : ∀ j, p.Spans i j → q.Spans j k → j ≠ i → k ≠ i := fun j hp hq =>
      ne_of_reaches hp.reaches hq.reaches
    constructor
    · rintro (⟨j, ⟨hj, hp | ⟨henter, hp⟩⟩, hq⟩ | ⟨hk, hq | ⟨hp | ⟨henter, hp⟩, hq⟩⟩)
      · exact ⟨hrest j hp hq hj, .inl (.inl ⟨j, hp, hq⟩)⟩
      · exact ⟨hspans j hp hq hj, .inr ⟨henter, j, hp, hq⟩⟩
      · exact ⟨hk, .inl (.inr hq)⟩
      · exact ⟨hk, .inl (.inl ⟨i, hp, hq⟩)⟩
      · exact ⟨hk, .inr ⟨henter, i, hp, hq⟩⟩
    · rintro ⟨hk, (⟨j, hp, hq⟩ | hq) | ⟨henter, j, hp, hq⟩⟩
      · by_cases hj : j = i
        · subst hj
          exact .inr ⟨hk, .inr ⟨.inl hp, hq⟩⟩
        · exact .inl ⟨j, ⟨hj, .inl hp⟩, hq⟩
      · exact .inr ⟨hk, .inl hq⟩
      · by_cases hj : j = i
        · subst hj
          exact .inr ⟨hk, .inr ⟨.inr ⟨henter, hp⟩, hq⟩⟩
        · exact .inl ⟨j, ⟨hj, .inr ⟨henter, hp⟩⟩, hq⟩
  | many p ih =>
    generalize hi : (⟨before, c :: rest⟩ : Place) = i at *
    simp only [step, Rest, Spans, ih, step_spans, Bool.or_eq_true, exits_iff]
    have hmany : ∀ j, Reaches i j → ReflTransGen p.Spans j k → j ≠ i → k ≠ i := fun j hij hjk =>
      ne_of_reaches hij (reaches_of_spans hjk)
    constructor
    · rintro ⟨j, ⟨hj, hp | ⟨henter, hp⟩⟩, hmore⟩
      · exact ⟨hmany j hp.reaches hmore hj, .inl ⟨j, hp, hmore⟩⟩
      · refine ⟨hmany j hp.reaches hmore hj, ?_⟩
        rcases henter with henter | hmet | ⟨henter, -⟩
        · exact .inr ⟨henter, TransGen.head' hp hmore⟩
        · exact .inl ⟨i, hmet, hmore.head hp⟩
        · exact .inr ⟨henter, TransGen.head' hp hmore⟩
    -- the first time that leaves the place is let in at it
    · rintro ⟨hk, ⟨j, hp, hmore⟩ | ⟨henter, hmore⟩⟩
      · by_cases hj : j = i
        · subst hj
          obtain ⟨j', hj', hspan, hmore⟩ := first_move hmore hk
          exact ⟨j', ⟨hj', .inr ⟨.inr (.inl hp), hspan⟩⟩, hmore⟩
        · exact ⟨j, ⟨hj, .inl hp⟩, hmore⟩
      · obtain ⟨j, hj, hspan, hmore⟩ := first_move hmore.to_reflTransGen hk
        exact ⟨j, ⟨hj, .inr ⟨.inl henter, hspan⟩⟩, hmore⟩

/-- Reading on from a place finds the matches that are underway there and those that begin there
or later. -/
theorem scan_iff : m.scan before after = true ↔
    (∃ k, m.Rest ⟨before, after⟩ k) ∨ ∃ i k, Reaches ⟨before, after⟩ i ∧ m.Spans i k := by
  induction after generalizing m before with
  | nil =>
    rw [scan, exits_iff]
    constructor
    · rintro (h | ⟨-, h⟩)
      · exact .inl ⟨_, h⟩
      · exact .inr ⟨_, _, .refl, h⟩
    · rintro (⟨k, h⟩ | ⟨i, k, hi, h⟩)
      · obtain rfl := reaches_nil h.reaches
        exact .inl h
      · obtain rfl := reaches_nil hi
        obtain rfl := reaches_nil h.reaches
        exact .inr ⟨rfl, h⟩
  | cons c rest ih =>
    rw [scan]
    dsimp only
    rw [Bool.or_eq_true, step_met, exits_iff, ih]
    simp only [step_rest, step_spans, reaches_cons]
    constructor
    · rintro ((h | ⟨-, h⟩) | ⟨k, -, h | ⟨-, h⟩⟩ | ⟨i, k, hi, h⟩)
      · exact .inl ⟨_, h⟩
      · exact .inr ⟨_, _, .inl rfl, h⟩
      · exact .inl ⟨k, h⟩
      · exact .inr ⟨_, k, .inl rfl, h⟩
      · exact .inr ⟨i, k, .inr hi, h⟩
    · rintro (⟨k, h⟩ | ⟨i, k, rfl | hi, h⟩)
      · by_cases hk : k = ⟨before, c :: rest⟩
        · subst hk
          exact .inl (.inl h)
        · exact .inr (.inl ⟨k, hk, .inl h⟩)
      · by_cases hk : k = ⟨before, c :: rest⟩
        · subst hk
          exact .inl (.inr ⟨trivial, h⟩)
        · exact .inr (.inl ⟨k, hk, .inr ⟨trivial, h⟩⟩)
      · exact .inr (.inr ⟨i, k, hi, h⟩)

-- ---------------------------------------------------------------------------
-- Patterns without marks
-- ---------------------------------------------------------------------------

theorem rest_copies (h : ∀ i k, ¬p.Rest i k) (n : Nat) : ¬(p.copies n).Rest i k := by
  induction n using Nat.strongRecOn generalizing i k with
  | _ n ih =>
    rw [copies]
    split
    · exact id
    · split
      · exact h i k
      · rintro (⟨j, hp, -⟩ | hq)
        · exact ih _ (by omega) hp
        · exact ih _ (by omega) hq

end Marked

/-- Written out, a pattern has no marks. -/
theorem rest_marked (p : Pattern) (bound : Nat) : ¬(p.marked bound).Rest i k := by
  induction p generalizing i k with
  | empty | anchor => exact id
  | text cs =>
    induction cs generalizing i k with
    | nil => exact id
    | cons c cs ih =>
      rintro (⟨j, hc, -⟩ | hcs)
      · exact absurd hc.1 (by decide)
      · exact ih hcs
  | oneOf s => exact fun h => absurd h.1 (by decide)
  | group n p ih => exact ih
  | seq p q ihp ihq =>
    rintro (⟨j, hp, -⟩ | hq)
    · exact ihp hp
    · exact ihq hq
  | alt p q ihp ihq => exact fun h => h.elim ihp ihq
  | «repeat» p least most ih =>
    have hmany : ∀ i k, ¬(Marked.many (p.marked bound)).Rest i k := fun i k h => ih h.choose_spec.1
    have hcopies : ∀ n i k, ¬((p.marked bound).copies n).Rest i k := fun n i k =>
      Marked.rest_copies (fun _ _ => ih) n
    have hoptional : ∀ i k, ¬((p.marked bound).alt .empty).Rest i k := fun i k h => h.elim ih id
    rw [marked]
    split
    · exact fun h => absurd h.1 (by decide)
    · cases most with
      | none =>
        dsimp only
        split
        · exact fun h => h.elim (hmany i k) id
        · rintro (⟨j, hp, -⟩ | hq)
          · exact hcopies _ _ _ hp
          · exact hmany i k hq
      | some most =>
        rintro (⟨j, hp, -⟩ | hq)
        · exact hcopies _ _ _ hp
        · exact Marked.rest_copies hoptional _ hq

/-- A text holds a match just when there are places between which the pattern is met. -/
theorem isMatch_iff {p : Pattern} {s : String} : p.isMatch s = true ↔
    ∃ i k, Place.Reaches ⟨[], s.toList⟩ i ∧ (p.marked (s.length + 1)).Spans i k := by
  rw [isMatch, Marked.scan_iff]
  simp only [rest_marked, exists_false, false_or]

-- ---------------------------------------------------------------------------
-- Texts and the start of a text
-- ---------------------------------------------------------------------------

theorem contains_single {d : Char} : (Text.CharSet.single c).contains d = true ↔ d = c := by
  unfold Text.CharSet.contains Text.CharSet.single Text.CharSet.range
  rw [List.any_cons, List.any_nil, Bool.or_false, Bool.and_eq_true, decide_eq_true_eq,
    decide_eq_true_eq]
  constructor
  · rintro ⟨hlow, hhigh⟩
    exact Char.toNat_inj.mp (Nat.le_antisymm hhigh hlow)
  · rintro rfl
    exact ⟨Nat.le_refl _, Nat.le_refl _⟩

/-- A text is met where it stands. -/
theorem spans_text {bound : Nat} : ((Pattern.text cs).marked bound).Spans i k ↔
    i.after = cs ++ k.after ∧ k.before = cs.reverse ++ i.before := by
  induction cs generalizing i with
  | nil =>
    obtain ⟨b, a⟩ := i
    obtain ⟨b', a'⟩ := k
    constructor
    · intro h
      cases h
      exact ⟨rfl, rfl⟩
    · rintro ⟨ha, hb⟩
      exact congrArg₂ Place.mk hb.symm ha
  | cons c cs ih =>
    constructor
    · rintro ⟨j, ⟨d, hd, hafter, hbefore⟩, hrest⟩
      obtain rfl := contains_single.mp hd
      obtain ⟨ha, hb⟩ := ih.mp hrest
      rw [hafter, ha, hb, hbefore]
      simp
    · rintro ⟨hafter, hbefore⟩
      refine ⟨⟨c :: i.before, cs ++ k.after⟩, ⟨c, contains_single.mpr rfl, hafter, rfl⟩,
        ih.mpr ⟨rfl, ?_⟩⟩
      rw [hbefore]
      simp

/-- A pattern that is bound to the start is met there or nowhere. -/
theorem isMatch_start {q : Pattern} {s : String} :
    (Pattern.seq (.anchor .start) q).isMatch s = true ↔ ∃ k, (q.marked (s.length + 1)).Spans ⟨[], s.toList⟩ k := by
  rw [isMatch_iff]
  constructor
  · rintro ⟨i, k, hi, j, ⟨rfl, hstart⟩, hq⟩
    have hempty : i.before = [] := by simpa [Anchor.holds] using hstart
    obtain rfl | hne := hi.before_length
    · exact ⟨k, hq⟩
    · exact absurd hempty hne
  · rintro ⟨k, hq⟩
    exact ⟨_, k, .refl, _, ⟨rfl, rfl⟩, hq⟩

theorem isMatch_start_text {s : String} :
    (Pattern.seq (.anchor .start) (.text cs)).isMatch s = true ↔ cs <+: s.toList := by
  simp only [isMatch_start, spans_text]
  constructor
  · rintro ⟨k, hafter, -⟩
    exact ⟨k.after, hafter.symm⟩
  · rintro ⟨rest, hs⟩
    exact ⟨⟨cs.reverse ++ [], rest⟩, hs.symm, rfl⟩

end ChainGateway.Pattern
