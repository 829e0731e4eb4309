import ChainGateway.Pattern.Layout

/-!
# Patterns that fit

How much room a pattern takes at most, whatever has been laid out before it. States that are found
again only make it less.
-/

namespace ChainGateway.Pattern

open Layout

variable {f g : Layout → Option Layout} {a b c d n m : Nat} {back : Bool} {l : Layout}

/-- A layout of no more than `n` states and `m` bytes of links. -/
def Layout.Within (l : Layout) (n m : Nat) : Prop := l.states ≤ n ∧ l.links ≤ m

/-- Adds no more than `a` states and `b` bytes of links to a layout that leaves room for them. -/
def Takes (f : Layout → Option Layout) (a b : Nat) : Prop :=
  ∀ l n m, l.Within n m → (n + a) * stateBytes + (m + b) ≤ budget →
    ∃ l', f l = some l' ∧ l'.Within (n + a) (m + b)

namespace Takes

theorem grow (a b : Nat) : Takes (·.grow a b) a b := by
  rintro l n m ⟨hs, hl⟩ hroom
  refine ⟨⟨l.states + a, l.links + b⟩, if_neg ?_, Nat.add_le_add_right hs a,
    Nat.add_le_add_right hl b⟩
  have hstates : (l.states + a) * stateBytes ≤ (n + a) * stateBytes :=
    Nat.mul_le_mul_right _ (Nat.add_le_add_right hs a)
  show ¬budget < (l.states + a) * stateBytes + (l.links + b)
  omega

theorem bind (hf : Takes f a b) (hg : Takes g c d) :
    Takes (fun l => f l >>= g) (a + c) (b + d) := by
  intro l n m hl hroom
  have hfirst : (n + a) * stateBytes ≤ (n + (a + c)) * stateBytes :=
    Nat.mul_le_mul_right _ (by omega)
  obtain ⟨l', hl', hwithin⟩ := hf l n m hl (by omega)
  obtain ⟨l'', hl'', hwithin'⟩ := hg l' (n + a) (m + b) hwithin (by
    rw [Nat.add_assoc n, Nat.add_assoc m]
    exact hroom)
  refine ⟨l'', ?_, ?_⟩
  · show (f l >>= g) = some l''
    rw [hl']
    exact hl''
  · rw [← Nat.add_assoc, ← Nat.add_assoc]
    exact hwithin'

theorem mono (hf : Takes f a b) (ha : a ≤ c) (hb : b ≤ d) : Takes f c d := by
  intro l n m hl hroom
  have hstates : (n + a) * stateBytes ≤ (n + c) * stateBytes := Nat.mul_le_mul_right _ (by omega)
  obtain ⟨l', hl', hs, hk⟩ := hf l n m hl (by omega)
  exact ⟨l', hl', by omega, by omega⟩

end Takes

/-- A state is found or takes one more. -/
theorem intern_takes (slots links : Nat) (content : List Nat) (known : Known) (hl : l.Within n m)
    (hroom : (n + 1) * stateBytes + (m + links) ≤ budget) : ∃ state known' l',
    intern slots links content known l = some (state, known', l') ∧
      l'.Within (n + 1) (m + links) := by
  obtain ⟨l', hgrow, hwithin⟩ := Takes.grow 1 links l n m hl hroom
  have hadd : (do
      let more ← l.grow 1 links
      some (l.states, known.insert (hash slots content) (content, l.states), more)) =
        some (l.states, known.insert (hash slots content) (content, l.states), l') := by
    dsimp only at hgrow
    rw [hgrow]
    rfl
  have hsame : l.Within (n + 1) (m + links) := ⟨by have := hl.1; omega, by have := hl.2; omega⟩
  unfold intern
  dsimp only
  split
  · split
    · exact ⟨_, _, l, rfl, hsame⟩
    · exact ⟨_, _, l', hadd, hwithin⟩
  · exact ⟨_, _, l', hadd, hwithin⟩

/-- One sequence of bytes that is read backwards takes a state for each byte. -/
theorem sequence_takes (ranges : List (Nat × Nat)) (next : Nat) (known : Known)
    (hl : l.Within n m) (hroom : (n + ranges.length) * stateBytes + m ≤ budget) :
    ∃ next' known' l', ranges.foldlM (fun (acc : Nat × Known × Layout) (low, high) => do
        let (next, known, l) := acc
        intern 1000 0 [next, low, high] known l) (next, known, l) = some (next', known', l') ∧
      l'.Within (n + ranges.length) m := by
  induction ranges generalizing next known l n with
  | nil => exact ⟨next, known, l, rfl, hl⟩
  | cons r ranges ih =>
    rw [List.length_cons, Nat.add_comm ranges.length, ← Nat.add_assoc] at hroom ⊢
    have hfirst : (n + 1) * stateBytes ≤ (n + 1 + ranges.length) * stateBytes :=
      Nat.mul_le_mul_right _ (by omega)
    obtain ⟨next', known', l', hi, hwithin⟩ :=
      intern_takes 1000 0 [next, r.1, r.2] known hl (by omega)
    obtain ⟨next'', known'', l'', hrest, hwithin'⟩ := ih next' known' hwithin hroom
    refine ⟨next'', known'', l'', ?_, hwithin'⟩
    rw [List.foldlM_cons]
    dsimp only
    rw [hi]
    exact hrest

/-- Several such sequences, one after the other, take a link each beside their states. -/
theorem sequences_take (target : Nat) (sequences : List (List (Nat × Nat))) (known : Known)
    (hl : l.Within n m) (hroom : (n + sequences.flatten.length) * stateBytes +
      (m + freeLink * sequences.length) ≤ budget) :
    ∃ known' l', sequences.foldlM (fun (acc : Known × Layout) sequence => do
        let (known, l) := acc
        let (_, known, l) ← sequence.foldlM (fun (acc : Nat × Known × Layout) (low, high) => do
          let (next, known, l) := acc
          intern 1000 0 [next, low, high] known l) (target, known, l)
        some (known, ← l.grow 0 freeLink)) (known, l) = some (known', l') ∧
      l'.Within (n + sequences.flatten.length) (m + freeLink * sequences.length) := by
  induction sequences generalizing known l n m with
  | nil => exact ⟨known, l, rfl, hl⟩
  | cons sequence sequences ih =>
    have hn : n + (sequence :: sequences).flatten.length =
        n + sequence.length + sequences.flatten.length := by
      rw [List.flatten_cons, List.length_append, Nat.add_assoc]
    have hm : m + freeLink * (sequence :: sequences).length =
        m + freeLink + freeLink * sequences.length := by
      rw [List.length_cons, Nat.mul_succ]
      omega
    rw [hn, hm] at hroom ⊢
    have hfirst : (n + sequence.length) * stateBytes ≤
        (n + sequence.length + sequences.flatten.length) * stateBytes :=
      Nat.mul_le_mul_right _ (by omega)
    obtain ⟨next, known₁, l₁, hs, hwithin₁⟩ := sequence_takes sequence target known hl (by omega)
    obtain ⟨l₂, hgrow, hwithin₂⟩ :=
      Takes.grow 0 freeLink l₁ _ _ hwithin₁ (by rw [Nat.add_zero]; omega)
    obtain ⟨known₃, l₃, hrest, hwithin₃⟩ := ih known₁ hwithin₂ hroom
    refine ⟨known₃, l₃, ?_, hwithin₃⟩
    dsimp only at hgrow
    rw [List.foldlM_cons]
    dsimp only
    rw [hs]
    dsimp only [bind, Option.bind]
    rw [hgrow]
    exact hrest

theorem takes_backward (target : Nat) (sequences : List (List (Nat × Nat))) :
    Takes (backward target sequences) sequences.flatten.length (freeLink * sequences.length) := by
  intro l n m hl hroom
  obtain ⟨known, l', hl', hwithin⟩ := sequences_take target sequences ∅ hl hroom
  refine ⟨l', ?_, hwithin⟩
  unfold backward
  rw [hl']
  rfl

/-- Every group has a byte of its own, beside those of its tails. -/
theorem length_groupByHead (sequences : List (List (Nat × Nat))) :
    ((groupByHead sequences).flatMap (·.2.flatten)).length + (groupByHead sequences).length ≤
      sequences.flatten.length := by
  induction sequences with
  | nil => exact Nat.le_refl _
  | cons sequence sequences ih =>
    cases sequence with
    | nil => exact ih
    | cons r tail =>
      rw [groupByHead]
      cases hg : groupByHead sequences with
      | nil => simp
      | cons g groups =>
        obtain ⟨r', tails⟩ := g
        rw [hg] at ih
        dsimp only
        split <;> simp at ih ⊢ <;> omega

theorem groupByHead_ne_nil {sequences : List (List (Nat × Nat))}
    (h : ¬sequences.all List.isEmpty = true) : groupByHead sequences ≠ [] := by
  induction sequences with
  | nil => exact absurd rfl h
  | cons sequence sequences ih =>
    cases sequence with
    | nil => exact ih (by simpa using h)
    | cons r tail =>
      rw [groupByHead]
      split
      · split <;> exact List.cons_ne_nil _ _
      · exact List.cons_ne_nil _ _

/-- Sequences that are read forwards at a depth take no more than a state and a link for each
byte. -/
def ForwardTakes (target depth : Nat) : Prop :=
  ∀ (sequences : List (List (Nat × Nat))) (known : Known) (l : Layout) (n m : Nat), l.Within n m →
    (n + sequences.flatten.length) * stateBytes +
      (m + byteLink * sequences.flatten.length) ≤ budget →
    ∃ next known' l', forward target depth sequences known l = some (next, known', l') ∧
      l'.Within (n + sequences.flatten.length) (m + byteLink * sequences.flatten.length)

/-- The tails of some groups, one group after the other. -/
theorem groups_take {target depth : Nat} (hf : ForwardTakes target depth)
    (groups : List ((Nat × Nat) × List (List (Nat × Nat)))) (content : List Nat) (known : Known)
    (hl : l.Within n m) (hk : (groups.flatMap (·.2.flatten)).length = a)
    (hroom : (n + a) * stateBytes + (m + byteLink * a) ≤ budget) :
    ∃ content' known' l', groups.foldlM (fun (acc : List Nat × Known × Layout) (r, tails) => do
        let (content, known, l) := acc
        let (next, known, l) ← forward target depth tails known l
        some (next :: r.2 :: r.1 :: content, known, l)) (content, known, l) =
          some (content', known', l') ∧
      content'.length = content.length + 3 * groups.length ∧
      l'.Within (n + a) (m + byteLink * a) := by
  simp only [stateBytes, byteLink] at hroom ⊢
  induction groups generalizing content known l n m a with
  | nil =>
    subst hk
    exact ⟨content, known, l, rfl, rfl, hl⟩
  | cons g groups ih =>
    rw [List.flatMap_cons, List.length_append] at hk
    obtain ⟨next, known₁, l₁, h₁, hwithin₁⟩ := hf g.2 known l n m hl (by
      simp only [stateBytes, byteLink]
      omega)
    simp only [byteLink] at hwithin₁
    obtain ⟨content₂, known₂, l₂, h₂, hlength, hwithin₂⟩ :=
      ih (next :: g.1.2 :: g.1.1 :: content) known₁ hwithin₁ rfl (by omega)
    refine ⟨content₂, known₂, l₂, ?_, ?_, ?_⟩
    · rw [List.foldlM_cons]
      dsimp only
      rw [h₁]
      exact h₂
    · simp only [List.length_cons] at hlength ⊢
      omega
    · exact ⟨by have := hwithin₂.1; omega, by have := hwithin₂.2; omega⟩

theorem forwardTakes (target depth : Nat) : ForwardTakes target depth := by
  induction depth with
  | zero =>
    exact fun _ known l n m hl _ => ⟨target, known, l, rfl, by have := hl.1; omega,
      by have := hl.2; omega⟩
  | succ depth ih =>
    intro sequences known l n m hl hroom
    rw [forward]
    split
    · exact ⟨target, known, l, rfl, by have := hl.1; omega, by have := hl.2; omega⟩
    · rename_i hne
      -- each group leaves a byte to its own link, and the first one to the state of all
      have hlength := length_groupByHead sequences
      have hpos := List.length_pos_iff.mpr (groupByHead_ne_nil hne)
      simp only [stateBytes, byteLink] at hroom ⊢
      obtain ⟨content, known₁, l₁, h₁, hcontent, hwithin₁⟩ :=
        groups_take ih (groupByHead sequences) [] known hl rfl (by
          simp only [stateBytes, byteLink]
          omega)
      simp only [byteLink] at hwithin₁
      have hlinks : byteLink * (content.reverse.length / 3) =
          8 * (groupByHead sequences).length := by
        rw [List.length_reverse, hcontent, List.length_nil, Nat.zero_add,
          Nat.mul_div_cancel_left _ (by decide)]
        rfl
      obtain ⟨state, known₂, l₂, h₂, hwithin₂⟩ :=
        intern_takes 10000 (byteLink * (content.reverse.length / 3)) content.reverse known₁ hwithin₁
          (by
            rw [hlinks]
            simp only [stateBytes]
            omega)
      rw [hlinks] at hwithin₂
      refine ⟨state, known₂, l₂, ?_, ?_, ?_⟩
      · rw [h₁]
        exact h₂
      · have := hwithin₂.1
        omega
      · have := hwithin₂.2
        omega

/-- A set takes no more than two states and one for each byte of its characters, and no more than a
link for each byte and each range, and for each character range beside them. -/
theorem takes_set (back : Bool) (set : Text.CharSet) : Takes (Layout.set back set)
    (2 + set.byteRanges.flatten.length)
    (byteLink * (set.ranges.length + set.byteRanges.length + set.byteRanges.flatten.length)) := by
  intro l n m hl hroom
  have hlinks : freeLink * set.byteRanges.length ≤
      byteLink * (set.ranges.length + set.byteRanges.length + set.byteRanges.flatten.length) := by
    simp only [freeLink, byteLink]
    omega
  unfold Layout.set
  split
  · exact ((Takes.grow 2 (byteLink * set.ranges.length)).mono (by omega)
      (Nat.mul_le_mul_left _ (by omega))) l n m hl hroom
  · split
    · exact (((Takes.grow 2 0).bind (takes_backward (l.states + 1) set.byteRanges)).mono
        (Nat.le_refl _) (by omega)) l n m hl hroom
    · simp only [stateBytes, byteLink] at hroom ⊢
      obtain ⟨l₁, hgrow, hwithin₁⟩ := Takes.grow 1 0 l n m hl (by
        simp only [stateBytes]
        omega)
      obtain ⟨state, known, l₂, h₂, hwithin₂⟩ :=
        forwardTakes l.states 4 set.byteRanges ∅ l₁ _ _ hwithin₁ (by
          simp only [stateBytes, byteLink]
          omega)
      simp only [byteLink] at hwithin₂
      dsimp only at hgrow
      refine ⟨l₂, ?_, ?_, ?_⟩
      · simp only [hgrow, h₂, bind, Option.bind]
      · have := hwithin₂.1
        omega
      · have := hwithin₂.2
        omega

-- ---------------------------------------------------------------------------
-- Parts
-- ---------------------------------------------------------------------------

variable {p q : Pattern}

theorem takes_text (cs : List Char) :
    Takes ((Pattern.text cs).layOut back .only) (Text.utf8Bytes cs).length 0 := by
  intro l n m hl hroom
  obtain ⟨l', hl', hwithin⟩ := Takes.grow _ 0 l n m hl hroom
  dsimp only at hl'
  exact ⟨l', by rw [layOut, hl']; rfl, hwithin⟩

theorem takes_anchor (a : Anchor) : Takes ((Pattern.anchor a).layOut back .only) 1 0 := by
  intro l n m hl hroom
  obtain ⟨l', hl', hwithin⟩ := Takes.grow 1 0 l n m hl hroom
  dsimp only at hl'
  exact ⟨l', by rw [layOut, hl']; rfl, hwithin⟩

theorem takes_oneOf (set : Text.CharSet) : Takes ((Pattern.oneOf set).layOut back .only)
    (2 + set.byteRanges.flatten.length)
    (byteLink * (set.ranges.length + set.byteRanges.length + set.byteRanges.flatten.length)) := by
  intro l n m hl hroom
  obtain ⟨l', hl', hwithin⟩ := takes_set back set l n m hl hroom
  exact ⟨l', by rw [layOut, hl']; rfl, hwithin⟩

theorem takes_seq (hp : Takes (p.layOut back .only) a b) (hq : Takes (q.layOut back .only) c d) :
    Takes ((Pattern.seq p q).layOut back .only) (a + c) (b + d) := by
  intro l n m hl hroom
  cases back with
  | true =>
    rw [Nat.add_comm a, Nat.add_comm b] at hroom ⊢
    obtain ⟨l', hl', hwithin⟩ := (hq.bind hp) l n m hl hroom
    exact ⟨l', by simpa [layOut, Branch.close] using hl', hwithin⟩
  | false =>
    obtain ⟨l', hl', hwithin⟩ := (hp.bind hq) l n m hl hroom
    exact ⟨l', by simpa [layOut, Branch.close] using hl', hwithin⟩

/-- A sequence takes the room of its parts. -/
theorem takes_ofParts {ps : List Pattern} (hne : ps ≠ [])
    (h : ∀ p ∈ ps, Takes (p.layOut back .only) a b) :
    Takes ((ofParts ps).layOut back .only) (a * ps.length) (b * ps.length) := by
  induction ps with
  | nil => exact absurd rfl hne
  | cons p ps ih =>
    obtain ⟨hp, hps⟩ := List.forall_mem_cons.mp h
    cases ps with
    | nil => simpa [ofParts] using hp
    | cons q ps =>
      have hrest := takes_seq hp (ih (List.cons_ne_nil q ps) hps)
      rw [List.length_cons, Nat.mul_succ, Nat.mul_succ, Nat.add_comm _ a, Nat.add_comm _ b]
      exact hrest

/-- A pattern whose room is small enough both ways fits, with the states around it. -/
theorem fits_of_takes (h : ∀ back, Takes (p.layOut back .only) a b)
    (hroom : (a + 6) * stateBytes + (b + 16) ≤ budget) : p.fits = true := by
  have hwhole : ∀ back, (p.wholeLayout? back).isSome = true := by
    intro back
    have haround : ∀ states links room, states ≤ 3 → links ≤ 16 → room ≤ 1 →
        (((Layout.grow ⟨0, 0⟩ states links >>= (·.grow room 0)) >>= p.layOut back .only) >>=
          (·.grow (room + 1) 0)).isSome = true := by
      intro states links room hs hl hr
      have htakes := (((Takes.grow states links).bind (Takes.grow room 0)).bind (h back)).bind
        (Takes.grow (room + 1) 0)
      have hstates : (0 + (states + room + a + (room + 1))) * stateBytes ≤ (a + 6) * stateBytes :=
        Nat.mul_le_mul_right _ (by omega)
      obtain ⟨l', hl', -⟩ := htakes ⟨0, 0⟩ 0 0 ⟨Nat.le_refl _, Nat.le_refl _⟩ (by omega)
      exact Option.isSome_iff_exists.mpr ⟨l', hl'⟩
    have hbound := fun room hr => haround 1 0 room (by decide) (by decide) hr
    have hfree := fun room hr => haround 3 (byteLink + 2 * freeLink) room (by decide) (by decide) hr
    unfold wholeLayout?
    cases back with
    | true =>
      simp only [if_true]
      split
      · simpa only [bind_assoc] using hbound 0 (by decide)
      · simpa only [bind_assoc] using hfree 0 (by decide)
    | false =>
      simp only [Bool.false_eq_true, if_false]
      split
      · simpa only [bind_assoc] using hbound 1 (by decide)
      · simpa only [bind_assoc] using hfree 1 (by decide)
  rw [fits, hwhole, hwhole]
  rfl

end ChainGateway.Pattern
