import ChainGateway.Json.Numeral
import ChainGateway.Proofs.Json.LexemeLaws
import ChainGateway.Proofs.Results
import ChainGateway.Proofs.Text.NumeralLaws

/-!
# Numerals read back

A numeral is read the same in front of anything that may stand behind a value, for every function
that takes part only looks at a front of the text. Naturals that 64 bits hold are read back as such.
-/

namespace ChainGateway.Json

open Binary

variable {α β : Type} {negative : Bool} {n count significand : Nat} {e start : Int} {c : Char}
  {cs ds left rest : List Char}

/-- What may stand behind a value: nothing, or what goes on with or closes what the value is in. -/
def EndsValue (rest : List Char) : Prop :=
  ∀ c ∈ rest.head?, c = ',' ∨ c = ']' ∨ c = '}'

theorem EndsValue.nil : EndsValue [] := nofun

theorem EndsValue.cons (h : c = ',' ∨ c = ']' ∨ c = '}') : EndsValue (c :: rest) := by
  intro d hd
  cases hd
  exact h

theorem EndsValue.cases (h : EndsValue rest) :
    rest = [] ∨ ∃ c r, rest = c :: r ∧ (c = ',' ∨ c = ']' ∨ c = '}') := by
  cases rest with
  | nil => exact .inl rfl
  | cons c r => exact .inr ⟨c, r, rfl, h c rfl⟩

theorem EndsValue.numeral (h : EndsValue rest) : EndsNumeral rest := by
  rcases h.cases with rfl | ⟨c, r, rfl, rfl | rfl | rfl⟩ <;> rfl

theorem digit?_of_isDigit (h : c.isDigit = true) : digit? c = some (c.toNat - 48) := if_pos h

theorem takeDigits_ends (h : EndsNumeral rest) :
    takeDigits n count rest = (n, count, rest) := by
  cases rest with
  | nil => rfl
  | cons c rest => simp [takeDigits, digit?, EndsNumeral.cons_iff.mp h]

/-- Digits whose value has room are all taken. -/
theorem takeDigits_digits (hd : ∀ c ∈ ds, c.isDigit = true) (hr : EndsNumeral rest)
    (hroom : Nat.ofDigitChars 10 ds n ≤ maxInt) :
    takeDigits n count (ds ++ rest) = (Nat.ofDigitChars 10 ds n, count + ds.length, rest) := by
  induction ds generalizing n count with
  | nil => exact takeDigits_ends hr
  | cons c ds ih =>
    rw [Nat.ofDigitChars_cons, Nat.mul_comm 10 n] at hroom ⊢
    have hle : n * 10 + (c.toNat - 48) ≤ maxInt := by
      refine Nat.le_trans ?_ hroom
      rw [Nat.ofDigitChars_eq_ofDigitChars_zero]
      exact Nat.le_trans (Nat.le_mul_of_pos_left _ (Nat.pow_pos (by decide))) (Nat.le_add_right _ _)
    rw [List.cons_append, takeDigits, digit?_of_isDigit (hd c List.mem_cons_self)]
    simp only [if_neg (Nat.not_lt.mpr hle)]
    refine (ih (fun d hmem => hd d (List.mem_cons_of_mem _ hmem)) hroom).trans ?_
    rw [List.length_cons, Nat.add_assoc, Nat.add_comm 1]

-- ---------------------------------------------------------------------------
-- Fronts of a text
-- ---------------------------------------------------------------------------

/-- The scanner takes a front of the text and does not see what stands behind a value. -/
structure Scans (scan : List Char → α × List Char) : Prop where
  suffix : ∀ cs, (scan cs).2 <:+ cs
  append : ∀ cs {rest}, EndsValue rest → scan (cs ++ rest) = ((scan cs).1, (scan cs).2 ++ rest)

/-- The reader takes a front of the text if it reads it, and reads it in front of whatever may
stand behind a value. -/
structure Fronts (read : Reader α) : Prop where
  suffix : ∀ {cs a left}, read cs = .ok (a, left) → left <:+ cs
  append : ∀ {cs a left rest}, read cs = .ok (a, left) → EndsValue rest →
    read (cs ++ rest) = .ok (a, left ++ rest)

namespace Fronts

theorem pure (a : α) : Fronts fun cs => .ok (a, cs) where
  suffix h := by
    cases h
    exact List.suffix_refl _
  append h _ := by
    cases h
    rfl

theorem error (f : DecodeFault) : Fronts (α := α) fun _ => .error f := ⟨nofun, nofun⟩

/-- What does not depend on the text comes before a reader. -/
theorem after {x : Except DecodeFault β} {k : β → Reader α} (h : ∀ b, Fronts (k b)) :
    Fronts fun cs => x >>= fun b => k b cs := by
  cases x with
  | error f => exact ⟨nofun, nofun⟩
  | ok b => exact h b

theorem bind {read : Reader β} {k : β → Reader α} (hr : Fronts read) (h : ∀ b, Fronts (k b)) :
    Fronts fun cs => read cs >>= fun p => k p.1 p.2 where
  suffix hok := by
    obtain ⟨p, hread, hk⟩ := bind_ok.mp hok
    exact ((h p.1).suffix hk).trans (hr.suffix hread)
  append hok hrest := by
    obtain ⟨p, hread, hk⟩ := bind_ok.mp hok
    exact bind_ok.mpr ⟨_, hr.append hread hrest, (h p.1).append hk hrest⟩

theorem scan {scan : List Char → β × List Char} {k : β → Reader α} (hs : Scans scan)
    (h : ∀ b, Fronts (k b)) : Fronts fun cs => k (scan cs).1 (scan cs).2 where
  suffix {cs _ _} hok := ((h _).suffix hok).trans (hs.suffix cs)
  append {cs _ _ _} hok hrest := by
    rw [hs.append cs hrest]
    exact (h _).append hok hrest

/-- A reader that goes by the first character of the text, if that is one of `l`. -/
theorem onHead {l : List Char} {read other : Reader α}
    (hl : ',' ∉ l ∧ ']' ∉ l ∧ '}' ∉ l)
    (hhead : ∀ c ∈ l, Fronts fun cs => read (c :: cs)) (hother : Fronts other)
    (h : ∀ cs, (∀ c ∈ cs.head?, c ∉ l) → read cs = other cs) : Fronts read := by
  have hcons : ∀ {c cs a left}, c ∈ l → read (c :: cs) = .ok (a, left) → left <:+ c :: cs :=
    fun hc hok => ((hhead _ hc).suffix hok).trans (List.suffix_cons _ _)
  have hcases : ∀ cs, (∀ c ∈ cs.head?, c ∉ l) ∨ ∃ c r, cs = c :: r ∧ c ∈ l := by
    intro cs
    cases cs with
    | nil => exact .inl nofun
    | cons c cs => exact (Classical.em (c ∈ l)).symm.imp (by simp) fun hc => ⟨c, cs, rfl, hc⟩
  refine ⟨fun {cs a left} hok => ?_, fun {cs a left rest} hok hrest => ?_⟩
  · rcases hcases cs with hc | ⟨c, cs, rfl, hc⟩
    · exact hother.suffix ((h cs hc).symm.trans hok)
    · exact hcons hc hok
  · rcases hcases cs with hc | ⟨c, cs, rfl, hc⟩
    · rw [h, hother.append ((h cs hc).symm.trans hok) hrest]
      cases cs with
      | nil =>
        intro c hmem
        rcases hrest c hmem with rfl | rfl | rfl
        · exact hl.1
        · exact hl.2.1
        · exact hl.2.2
      | cons c cs => exact hc
    · exact (hhead c hc).append hok hrest

/-- A reader that first asks whether there is a digit. -/
theorem ite {yes no : Reader α} (hy : Fronts yes) (hn : Fronts no) :
    Fronts fun cs => if startsDigit cs then yes cs else no cs := by
  have hstarts : ∀ cs {rest}, EndsValue rest → startsDigit (cs ++ rest) = startsDigit cs := by
    intro cs rest hrest
    cases cs with
    | cons c cs => rfl
    | nil => rcases hrest.cases with rfl | ⟨c, r, rfl, rfl | rfl | rfl⟩ <;> rfl
  refine ⟨fun {cs a left} hok => ?_, fun {cs a left rest} hok hrest => ?_⟩
  · split at hok
    · exact hy.suffix hok
    · exact hn.suffix hok
  · rw [hstarts cs hrest]
    split at hok
    · rename_i hdigit
      rw [if_pos hdigit, hy.append hok hrest]
    · rename_i hdigit
      rw [if_neg hdigit, hn.append hok hrest]

end Fronts

-- ---------------------------------------------------------------------------
-- Scanners
-- ---------------------------------------------------------------------------

theorem scans_takeDigits : Scans fun cs =>
    (((takeDigits n count cs).1, (takeDigits n count cs).2.1), (takeDigits n count cs).2.2) := by
  refine ⟨fun cs => ?_, fun cs rest hrest => ?_⟩
  · induction cs generalizing n count with
    | nil => exact List.suffix_refl _
    | cons c cs ih =>
      simp only [takeDigits]
      split
      · exact List.suffix_refl _
      · split
        · exact List.suffix_refl _
        · exact ih.trans (List.suffix_cons _ _)
  · induction cs generalizing n count with
    | nil => simp only [List.nil_append, takeDigits_ends hrest.numeral, takeDigits]
    | cons c cs ih =>
      simp only [List.cons_append, takeDigits]
      split
      · rfl
      · split
        · rfl
        · exact ih

theorem scans_skipDigits : Scans fun cs =>
    ((cs.takeWhile Char.isDigit).length, cs.dropWhile Char.isDigit) := by
  refine ⟨fun cs => List.dropWhile_suffix _, fun cs rest hrest => ?_⟩
  dsimp only
  induction cs with
  | nil => rcases hrest.cases with rfl | ⟨c, r, rfl, rfl | rfl | rfl⟩ <;> rfl
  | cons c cs ih =>
    simp only [List.cons_append, List.takeWhile_cons, List.dropWhile_cons]
    split
    · simpa using ih
    · rfl

theorem scans_exponentValue : Scans (exponentValue n) := by
  refine ⟨fun cs => ?_, fun cs rest hrest => ?_⟩
  · induction cs generalizing n with
    | nil => exact List.suffix_refl _
    | cons c cs ih =>
      simp only [exponentValue]
      split
      · exact List.suffix_refl _
      · split
        · exact (List.dropWhile_suffix _).trans (List.suffix_cons _ _)
        · exact ih.trans (List.suffix_cons _ _)
  · induction cs generalizing n with
    | nil => rcases hrest.cases with rfl | ⟨c, r, rfl, rfl | rfl | rfl⟩ <;> rfl
    | cons c cs ih =>
      simp only [List.cons_append, exponentValue]
      split
      · rfl
      · split
        · exact congrArg (none, ·) (congrArg Prod.snd (scans_skipDigits.append cs hrest))
        · exact ih

theorem scans_skipGaps : Scans fun cs => ((), skipGaps cs) := by
  refine ⟨fun cs => List.dropWhile_suffix _, fun cs rest hrest => ?_⟩
  dsimp only
  induction cs with
  | nil => rcases hrest.cases with rfl | ⟨c, r, rfl, rfl | rfl | rfl⟩ <;> rfl
  | cons c cs ih =>
    simp only [skipGaps, List.cons_append, List.dropWhile_cons] at ih ⊢
    split
    · exact ih
    · rfl

/-- The sign of an exponent and what follows it. -/
def signed : List Char → Bool × List Char
  | '+' :: rest => (false, rest)
  | '-' :: rest => (true, rest)
  | cs => (false, cs)

theorem signed_of_ne (hplus : c ≠ '+') (hminus : c ≠ '-') :
    signed (c :: cs) = (false, c :: cs) := by
  unfold signed
  split
  · rename_i heq
    exact absurd (List.cons.inj heq).1 hplus
  · rename_i heq
    exact absurd (List.cons.inj heq).1 hminus
  · rfl

theorem scans_signed : Scans signed := by
  have hcons : ∀ c cs, (signed (c :: cs)).2 <:+ c :: cs ∧ ∀ rest,
      signed (c :: cs ++ rest) = ((signed (c :: cs)).1, (signed (c :: cs)).2 ++ rest) := by
    intro c cs
    by_cases hplus : c = '+'
    · subst hplus
      exact ⟨List.suffix_cons _ _, fun _ => rfl⟩
    by_cases hminus : c = '-'
    · subst hminus
      exact ⟨List.suffix_cons _ _, fun _ => rfl⟩
    simp only [List.cons_append, signed_of_ne hplus hminus]
    exact ⟨List.suffix_refl _, fun _ => trivial⟩
  refine ⟨fun cs => ?_, fun cs rest hrest => ?_⟩
  · cases cs with
    | nil => exact List.suffix_refl _
    | cons c cs => exact (hcons c cs).1
  · cases cs with
    | nil => rcases hrest.cases with rfl | ⟨c, r, rfl, rfl | rfl | rfl⟩ <;> rfl
    | cons c cs => exact (hcons c cs).2 rest

-- ---------------------------------------------------------------------------
-- Readers
-- ---------------------------------------------------------------------------

/-- What the digits of an exponent, of the value that is given, make of the number. -/
def withExponent (negative : Bool) (significand : Nat) (start : Int) (down : Bool) :
    Option Nat → Reader Double
  | some e => fun rest => do
    let total := if down then start - e else start + e
    .ok (← assemble negative significand (clampExponent total), rest)
  | none => fun rest =>
    if significand ≠ 0 && !down then .error .malformed
    else .ok (.finite negative 0 double.least, rest)

/-- Reads what follows the sign of an exponent. -/
def exponentDigits (negative : Bool) (significand : Nat) (start : Int) (down : Bool) :
    Reader Double := fun cs =>
  if startsDigit cs then
    match exponentValue 0 cs with
    | (some e, rest) => do
      let total := if down then start - e else start + e
      .ok (← assemble negative significand (clampExponent total), rest)
    | (none, rest) =>
      if significand ≠ 0 && !down then .error .malformed
      else .ok (.finite negative 0 double.least, rest)
  else .error .malformed

theorem exponentDigits_eq {down : Bool} : exponentDigits negative significand start down = fun cs =>
    if startsDigit cs then
      withExponent negative significand start down (exponentValue 0 cs).1 (exponentValue 0 cs).2
    else .error .malformed := by
  funext cs
  unfold exponentDigits
  rcases exponentValue 0 cs with ⟨_ | e, rest⟩ <;> rfl

theorem fronts_withExponent {down : Bool} (v : Option Nat) :
    Fronts (withExponent negative significand start down v) := by
  cases v with
  | some e => exact .after .pure
  | none =>
    simp only [withExponent]
    split
    · exact .error _
    · exact .pure _

theorem fronts_exponentDigits {down : Bool} :
    Fronts (exponentDigits negative significand start down) :=
  exponentDigits_eq ▸ .ite (.scan scans_exponentValue fronts_withExponent) (.error _)

theorem fronts_readExponent : Fronts (readExponent negative significand start) :=
  have heq : readExponent negative significand start = fun cs =>
      exponentDigits negative significand start (signed cs).1 (signed cs).2 := rfl
  heq ▸ .scan scans_signed fun _ => fronts_exponentDigits

theorem fronts_afterDigits : Fronts (afterDigits negative significand e) := by
  have hplain : Fronts fun cs => assemble negative significand e >>= fun x => .ok (x, cs) :=
    .after .pure
  refine Fronts.onHead (l := ['e', 'E']) (by decide) (fun c hc => ?_) hplain fun cs hcs => ?_
  · rcases List.mem_cons.mp hc with rfl | hc
    · exact fronts_readExponent
    · obtain rfl := List.mem_singleton.mp hc
      exact fronts_readExponent
  · unfold afterDigits
    split
    · exact absurd List.mem_cons_self (hcs 'e' rfl)
    · exact absurd (by decide) (hcs 'E' rfl)
    · rfl

theorem fronts_readFraction : Fronts (readFraction negative significand start) := by
  let digits (t : Nat × Nat) : Reader Double := fun rest =>
    if startsDigit rest then
      afterDigits negative t.1 (start - t.2) (rest.dropWhile Char.isDigit)
    else if t.2 = 0 then .error .malformed
    else afterDigits negative t.1 (start - t.2) rest
  have hdigits : ∀ t, Fronts (digits t) := by
    intro t
    refine .ite (.scan scans_skipDigits fun _ => fronts_afterDigits) ?_
    by_cases hnone : t.2 = 0
    · simp only [if_pos hnone]
      exact .error _
    · simp only [if_neg hnone]
      exact fronts_afterDigits
  exact Fronts.scan scans_takeDigits hdigits

theorem fronts_readReal : Fronts (readReal negative significand e) := by
  have hplain : Fronts fun cs => afterDigits negative significand e cs >>= fun p =>
      .ok (Numeral.real p.1, p.2) := .bind fronts_afterDigits fun x => .pure _
  refine Fronts.onHead (l := ['.']) (by decide) (fun c hc => ?_) hplain fun cs hcs => ?_
  · obtain rfl := List.mem_singleton.mp hc
    exact .bind fronts_readFraction fun x => .pure _
  · unfold readReal
    split
    · exact absurd List.mem_cons_self (hcs '.' rfl)
    · rfl

theorem fronts_readTail : Fronts (readTail negative n) := by
  let whole : Except DecodeFault Numeral :=
    if !negative then .ok (.int n)
    else if n = 0 || 9223372036854775808 < n then .ok (.real (Number.ofNat double n).neg)
    else .ok (.int (-n))
  have hplain : Fronts fun cs => whole >>= fun x => .ok (x, cs) := .after .pure
  refine Fronts.onHead (l := ['.', 'e', 'E']) (by decide) (fun c hc => ?_) hplain fun cs hcs => ?_
  · simp only [List.mem_cons, List.not_mem_nil, or_false] at hc
    rcases hc with rfl | rfl | rfl
    · exact .bind fronts_readFraction fun x => .pure _
    · exact .bind fronts_readExponent fun x => .pure _
    · exact .bind fronts_readExponent fun x => .pure _
  · unfold readTail
    split
    · exact absurd (by decide) (hcs '.' rfl)
    · exact absurd (by decide) (hcs 'e' rfl)
    · exact absurd (by decide) (hcs 'E' rfl)
    · simp only [whole]
      split
      · rfl
      · split <;> rfl

theorem fronts_readUnsigned : Fronts (readUnsigned negative) := by
  let digits (t : Nat × Nat) : Reader Numeral := fun rest =>
    if startsDigit rest then
      readReal negative t.1 (rest.takeWhile Char.isDigit).length (rest.dropWhile Char.isDigit)
    else readTail negative t.1 rest
  have hdigits : ∀ t, Fronts (digits t) := fun t =>
    .ite (.scan scans_skipDigits fun _ => fronts_readReal) fronts_readTail
  have hplain : Fronts fun cs => if startsDigit cs then
      digits ((takeDigits 0 0 cs).1, (takeDigits 0 0 cs).2.1) (takeDigits 0 0 cs).2.2
      else .error .malformed := .ite (.scan scans_takeDigits hdigits) (.error _)
  refine Fronts.onHead (l := ['0']) (by decide) (fun c hc => ?_) hplain fun cs hcs => ?_
  · obtain rfl := List.mem_singleton.mp hc
    exact .ite (.error _) fronts_readTail
  · unfold readUnsigned
    split
    · exact absurd List.mem_cons_self (hcs '0' rfl)
    · rfl

/-- Reads a numeral that has no blanks before it. -/
def readSigned : Reader Numeral
  | '-' :: rest => readUnsigned true rest
  | cs => readUnsigned false cs

theorem fronts_readSigned : Fronts readSigned := by
  have hplain : Fronts (readUnsigned false) := fronts_readUnsigned
  refine Fronts.onHead (l := ['-']) (by decide) (fun c hc => ?_) hplain fun cs hcs => ?_
  · obtain rfl := List.mem_singleton.mp hc
    exact fronts_readUnsigned
  · unfold readSigned
    split
    · exact absurd List.mem_cons_self (hcs '-' rfl)
    · rfl

/-- A numeral is read from a front of the text, whatever stands behind the value. -/
theorem fronts_readNumeral : Fronts readNumeral :=
  .scan scans_skipGaps fun _ => fronts_readSigned

/-- Behind blanks, a numeral starts with a digit or a minus sign. -/
theorem readNumeral_head {x : Numeral} (h : readNumeral cs = .ok (x, left)) :
    ∃ c r, skipGaps cs = c :: r ∧ (c = '-' ∨ c.isDigit = true) := by
  have hunsigned : ∀ {cs}, readUnsigned false cs = .ok (x, left) →
      ∃ c r, cs = c :: r ∧ c.isDigit = true := by
    intro cs h
    unfold readUnsigned at h
    split at h
    · exact ⟨_, _, rfl, by decide⟩
    · split at h
      · rename_i hdigit
        cases cs with
        | nil => cases hdigit
        | cons c r => exact ⟨c, r, rfl, hdigit⟩
      · cases h
  unfold readNumeral at h
  split at h
  · exact ⟨_, _, ‹_›, .inl rfl⟩
  · obtain ⟨c, r, hcs, hdigit⟩ := hunsigned h
    exact ⟨c, r, hcs, .inr hdigit⟩

-- ---------------------------------------------------------------------------
-- Naturals
-- ---------------------------------------------------------------------------

theorem isGap_of_isDigit (h : c.isDigit = true) : isGap c = false := by
  have hne : ∀ d, d.isDigit = false → c ≠ d := fun d hd hcd => by
    rw [hcd, hd] at h
    cases h
  simp [isGap, hne ' ' rfl, hne '\n' rfl, hne '\t' rfl, hne '\r' rfl]

theorem startsDigit_of_ends (h : EndsValue rest) : startsDigit rest = false := by
  rcases h.cases with rfl | ⟨c, r, rfl, rfl | rfl | rfl⟩ <;> rfl

theorem readTail_ends (h : EndsValue rest) : readTail false n rest = .ok (.int n, rest) := by
  rcases h.cases with rfl | ⟨c, r, rfl, rfl | rfl | rfl⟩ <;> rfl

theorem readUnsigned_natural (hn : n ≤ maxInt) (hr : EndsValue rest) :
    readUnsigned false (Text.natural n ++ rest) = .ok (.int n, rest) := by
  unfold readUnsigned
  split
  · rename_i cs hzero
    obtain ⟨d, ds, hds⟩ := List.exists_cons_of_ne_nil (Text.natural_ne_nil (n := n))
    rw [hds] at hzero
    obtain rfl := (List.cons.inj hzero).1
    obtain rfl := Text.natural_zero_cons hds
    obtain rfl : ds = [] := (List.cons.inj hds).2.symm
    obtain rfl : rest = cs := (List.cons.inj hzero).2
    rw [startsDigit_of_ends hr, if_neg Bool.false_ne_true, readTail_ends hr]
  · have hvalue : Nat.ofDigitChars 10 (Text.natural n) 0 ≤ maxInt := by
      rwa [Text.ofDigitChars_natural]
    have hstarts : startsDigit (Text.natural n ++ rest) = true := by
      obtain ⟨d, ds, hds⟩ := List.exists_cons_of_ne_nil (Text.natural_ne_nil (n := n))
      rw [hds]
      exact Text.isDigit_of_mem_natural d (hds ▸ List.mem_cons_self)
    rw [if_pos hstarts, takeDigits_digits Text.isDigit_of_mem_natural hr.numeral hvalue]
    dsimp only
    rw [startsDigit_of_ends hr, if_neg Bool.false_ne_true, readTail_ends hr,
      Text.ofDigitChars_natural]

/-- A natural that 64 bits hold is read back. -/
theorem readNumeral_natural (hn : n ≤ maxInt) (hr : EndsValue rest) :
    readNumeral (Text.natural n ++ rest) = .ok (.int n, rest) := by
  have hread := readUnsigned_natural hn hr
  obtain ⟨d, ds, hds⟩ := List.exists_cons_of_ne_nil (Text.natural_ne_nil (n := n))
  have hdigit : d.isDigit = true := Text.isDigit_of_mem_natural d (hds ▸ List.mem_cons_self)
  rw [hds, List.cons_append] at hread ⊢
  unfold readNumeral
  rw [skipGaps_cons (isGap_of_isDigit hdigit)]
  split
  · rename_i heq
    rw [(List.cons.inj heq).1] at hdigit
    cases hdigit
  · exact hread

end ChainGateway.Json
