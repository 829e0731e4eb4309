import ChainGateway.Model.Atom
import ChainGateway.Proofs.Binary.TextLaws
import ChainGateway.Proofs.Json.NumeralLaws

/-!
# Codecs that read back what they write

A value is read back when its text is read as that value in front of whatever may stand behind it.
Where it may be left out or stand in a list, its text has to be told from null and from the end of
the list as well. Both go from the parts of a value to the whole.
-/

namespace ChainGateway.Json

variable {α β : Type} {c : Codec α} {a : α} {ch : Char} {cs rest : List Char}

namespace Codec

/-- The value is read back from its text, whatever may stand behind it. -/
def ReadsBack (c : Codec α) (a : α) : Prop :=
  ∀ rest, EndsValue rest → c.read (c.write a ++ rest) = .ok (a, rest)

/-- The value is read back, and its text is neither null nor nothing. -/
structure Solid (c : Codec α) (a : α) : Prop where
  readsBack : c.ReadsBack a
  start : ∃ ch cs, c.write a = ch :: cs ∧ isGap ch = false ∧ ch ≠ ']' ∧ ch ≠ 'n'

theorem Solid.text {s : String} : Codec.text.Solid s where
  readsBack _ _ := readString_writeString s _
  start := ⟨'"', _, rfl, by decide⟩

theorem Solid.parsed {print : α → String} {parse : String → Option α}
    (h : parse (print a) = some a) : (Codec.parsed print parse).Solid a where
  readsBack _ _ := by
    simp only [Codec.parsed, readString_writeString, bind, Except.bind, h]
  start := ⟨'"', _, rfl, by decide⟩

theorem Solid.boolean {b : Bool} : Codec.boolean.Solid b := by
  cases b with
  | false =>
    refine ⟨fun _ _ => ?_, 'f', _, rfl, by decide⟩
    exact bind_ok.mpr ⟨_, readWord_append ['a', 'l', 's', 'e'] _, rfl⟩
  | true =>
    refine ⟨fun _ _ => ?_, 't', _, rfl, by decide⟩
    exact bind_ok.mpr ⟨_, readWord_append ['r', 'u', 'e'] _, rfl⟩

theorem start_of_isDigit (h : ch.isDigit = true) : isGap ch = false ∧ ch ≠ ']' ∧ ch ≠ 'n' := by
  refine ⟨isGap_of_isDigit h, ?_, ?_⟩ <;> (rintro rfl; cases h)

theorem Solid.natural {n limit : Nat} (hn : n ≤ limit) (hl : limit ≤ maxInt) :
    (Codec.natural limit).Solid n where
  readsBack rest hrest := by
    have hlimit : (0 : Int) ≤ n ∧ (n : Int) ≤ limit := by omega
    simp only [Codec.natural, readNumeral_natural (Nat.le_trans hn hl) hrest, bind, Except.bind,
      if_pos hlimit, Int.toNat_natCast]
  start := by
    obtain ⟨d, ds, hds⟩ := List.exists_cons_of_ne_nil (Text.natural_ne_nil (n := n))
    exact ⟨d, ds, hds, start_of_isDigit
      (Text.isDigit_of_mem_natural d (hds ▸ List.mem_cons_self))⟩

theorem Solid.through {forth : β → α} {back : α → β} {b : β} (h : c.Solid (forth b))
    (hb : back (forth b) = b) : (c.through forth back).Solid b where
  readsBack rest hrest := by
    simp only [Codec.through, h.readsBack rest hrest, bind, Except.bind, hb]
  start := h.start

theorem Solid.byte {n : UInt8} : Codec.byte.Solid n :=
  (Solid.natural (Nat.le_of_lt_succ n.toNat_lt) (by decide)).through UInt8.ofNat_toNat

theorem Solid.word16 {n : UInt16} : Codec.word16.Solid n :=
  (Solid.natural (Nat.le_of_lt_succ n.toNat_lt) (by decide)).through UInt16.ofNat_toNat

theorem Solid.word32 {n : UInt32} : Codec.word32.Solid n :=
  (Solid.natural (Nat.le_of_lt_succ n.toNat_lt) (by decide)).through UInt32.ofNat_toNat

theorem Solid.word64 {n : UInt64} : Codec.word64.Solid n :=
  (Solid.natural (Nat.le_of_lt_succ n.toNat_lt) (by decide)).through UInt64.ofNat_toNat

-- ---------------------------------------------------------------------------
-- Options and lists
-- ---------------------------------------------------------------------------

theorem ReadsBack.optional {o : Option α} (h : ∀ a ∈ o, c.Solid a) : c.optional.ReadsBack o := by
  intro rest hrest
  cases o with
  | none => exact bind_ok.mpr ⟨_, readWord_append ['u', 'l', 'l'] rest, rfl⟩
  | some a =>
    have hsolid := h a rfl
    obtain ⟨ch, cs, htext, hgap, -, hnull⟩ := hsolid.start
    have hread := hsolid.readsBack rest hrest
    simp only [Codec.optional]
    rw [htext, List.cons_append] at hread ⊢
    rw [skipGaps_cons hgap]
    split
    · rename_i heq
      exact absurd (List.cons.inj heq).1 hnull
    · rw [hread]
      rfl

theorem readItems_writeItems {items : List α} {fuel : Nat} (rest : List Char) (hne : items ≠ [])
    (hfuel : items.length ≤ fuel) (h : ∀ a ∈ items, c.ReadsBack a) :
    readItems c.read fuel (writeItems c.write items ++ ']' :: rest) = .ok (items, rest) := by
  induction items generalizing fuel with
  | nil => exact absurd rfl hne
  | cons a items ih =>
    obtain ⟨fuel, rfl⟩ := Nat.exists_eq_succ_of_ne_zero (Nat.ne_of_gt (Nat.zero_lt_of_lt hfuel))
    have ha := h a List.mem_cons_self
    cases items with
    | nil =>
      simp only [writeItems, readItems, ha _ (.cons (.inr (.inl rfl))), bind, Except.bind]
      rfl
    | cons b items =>
      have hitems := ih (List.cons_ne_nil _ _) (Nat.le_of_succ_le_succ hfuel)
        fun x hx => h x (List.mem_cons_of_mem _ hx)
      simp only [writeItems, List.append_assoc, List.cons_append, readItems,
        ha _ (.cons (.inl rfl)), bind, Except.bind]
      rw [skipGaps_cons (by decide)]
      simp only [hitems]

theorem length_le_writeItems {items : List α} (h : ∀ a ∈ items, c.Solid a) :
    items.length ≤ (writeItems c.write items).length := by
  induction items with
  | nil => exact Nat.le_refl 0
  | cons a items ih =>
    obtain ⟨ch, cs, htext, -⟩ := (h a List.mem_cons_self).start
    have hitems := ih fun x hx => h x (List.mem_cons_of_mem _ hx)
    cases items with
    | nil => simp [writeItems, htext]
    | cons b items =>
      simp only [writeItems, htext, List.length_cons, List.length_append] at hitems ⊢
      omega

theorem list_write (items : List α) (rest : List Char) :
    c.list.write items ++ rest = '[' :: (writeItems c.write items ++ ']' :: rest) := by
  simp [list]

theorem list_read (cs : List Char) : c.list.read ('[' :: cs) =
    match skipGaps cs with
    | ']' :: rest => .ok ([], rest)
    | rest => readItems c.read (rest.length + 1) rest :=
  rfl

theorem Solid.list {items : List α} (h : ∀ a ∈ items, c.Solid a) : c.list.Solid items where
  readsBack rest hrest := by
    rw [list_write, list_read]
    cases items with
    | nil => rfl
    | cons a items =>
      obtain ⟨ch, cs, htext, hgap, hclose, -⟩ := (h a List.mem_cons_self).start
      obtain ⟨cs', hitems⟩ : ∃ cs', writeItems c.write (a :: items) = ch :: cs' := by
        cases items <;> simp [writeItems, htext]
      have hfuel : (a :: items).length ≤
          (writeItems c.write (a :: items) ++ ']' :: rest).length + 1 := by
        have := length_le_writeItems h
        rw [List.length_append]
        omega
      have hread := readItems_writeItems rest (List.cons_ne_nil a items) hfuel
        fun x hx => (h x hx).readsBack
      rw [hitems, List.cons_append] at hread ⊢
      rw [skipGaps_cons hgap]
      split
      · rename_i heq
        exact absurd (List.cons.inj heq).1 hclose
      · exact hread
  start := ⟨'[', _, rfl, by decide⟩

end Codec

-- ---------------------------------------------------------------------------
-- Floating-point numbers
-- ---------------------------------------------------------------------------

end Json

namespace Binary.Number

open Json

variable {f : Format} {x : Number f}

/-- The number comes back when it is written and read again. -/
def Prints (x : Number f) : Prop := (Codec.floating f).decode ((Codec.floating f).encode x) = .ok x

instance (x : Number f) : Decidable x.Prints :=
  have h (r : Except DecodeFault (Number f)) : r.toOption = some x ↔ r = .ok x := by
    cases r <;> simp [Except.toOption]
  decidable_of_iff _ (h _)

theorem isGap_of_mem_write {ch : Char} (h : ch ∈ (Codec.floating f).write x) :
    isGap ch = false := by
  simp only [Codec.floating] at h
  cases hwire : x.wire? with
  | none =>
    have hnull : "null".toList.all (!isGap ·) = true := by decide
    rw [hwire] at h
    simpa using List.all_eq_true.mp hnull ch h
  | some cs =>
    rw [hwire] at h
    rcases Numeric.wire hwire ch h with hdigit | hmark
    · exact isGap_of_isDigit hdigit
    · have hmarks : ['-', '+', '.', 'e'].all (!isGap ·) = true := by decide
      simpa using List.all_eq_true.mp hmarks ch hmark

/-- The number of the format nearest to a numeral. -/
def ofNumeral (f : Format) : Numeral → Number f
  | .int n => .ofInt f n
  | .real x => x.convert f

theorem floating_read (f : Format) : (Codec.floating f).read = fun cs =>
    readNumeral cs >>= fun p => .ok (ofNumeral f p.1, p.2) := by
  funext cs
  simp only [Codec.floating]
  congr 1
  funext p
  rcases p with ⟨_ | _, rest⟩ <;> rfl

theorem fronts_floating : Fronts (Codec.floating f).read := by
  rw [floating_read]
  exact .bind fronts_readNumeral fun _ => .pure _

/-- The text is read wholly, for it has no blanks that could be left. -/
theorem Prints.read (h : x.Prints) :
    (Codec.floating f).read ((Codec.floating f).write x) = .ok (x, []) := by
  unfold Prints Codec.decode Codec.encode at h
  rw [String.toList_ofList] at h
  obtain ⟨⟨a, left⟩, hread, hwhole⟩ := bind_ok.mp h
  dsimp only at hwhole
  split at hwhole
  · rename_i hskip
    cases hwhole
    cases left with
    | nil => exact hread
    | cons ch left =>
      have hmem := (fronts_floating.suffix hread).subset List.mem_cons_self
      rw [skipGaps_cons (isGap_of_mem_write hmem)] at hskip
      cases hskip
  · cases hwhole

theorem Prints.start (h : x.Prints) : ∃ ch cs, (Codec.floating f).write x = ch :: cs ∧
    (ch = '-' ∨ ch.isDigit = true) := by
  obtain ⟨⟨n, left⟩, hread, -⟩ := bind_ok.mp h.read
  obtain ⟨ch, cs, hskip, hch⟩ := readNumeral_head hread
  refine ⟨ch, cs, ?_, hch⟩
  cases hw : (Codec.floating f).write x with
  | nil =>
    rw [hw] at hskip
    cases hskip
  | cons d ds =>
    have hgap : isGap d = false := isGap_of_mem_write (hw ▸ List.mem_cons_self)
    rw [hw, skipGaps_cons hgap] at hskip
    exact hskip

/-- A number that is not finite is written as null, which is not read as a number. -/
theorem Prints.isFinite (h : x.Prints) : x.isFinite = true := by
  cases x with
  | finite => rfl
  | infinite s =>
    obtain ⟨ch, cs, hw, hch⟩ := h.start
    obtain rfl : 'n' = ch := (List.cons.inj hw).1
    exact absurd hch (by decide)

/-- Some finite numbers do not come back either: the powers of ten by which the digits of a number
are scaled are rounded themselves. -/
theorem exists_finite_not_prints : ∃ x : Double, x.isFinite = true ∧ ¬ x.Prints :=
  ⟨.ofNat double (7 * Nat.pow 10 23), by decide +kernel⟩

/-- A number that comes back does so whatever may stand behind it. -/
theorem Prints.solid (h : x.Prints) : (Codec.floating f).Solid x where
  readsBack rest hrest := by
    rw [fronts_floating.append h.read hrest, List.nil_append]
  start := by
    obtain ⟨ch, cs, hw, rfl | hdigit⟩ := h.start
    · exact ⟨'-', cs, hw, by decide⟩
    · exact ⟨ch, cs, hw, Codec.start_of_isDigit hdigit⟩

end Binary.Number
end ChainGateway
