import Mathlib.Data.List.TakeWhile
import ChainGateway.Net.Address
import ChainGateway.Proofs.Text.NumeralLaws

/-!
# Spellings of addresses

An address of version 4 has one text. One of version 6 has many: digits of either case, zeros in
front of a group, any run of zero groups left out, and the last two groups as an address of
version 4. `Spells` says which texts these are, without the reader; the reader finds an address
just in the texts that spell it, so no text spells two.
-/

namespace ChainGateway.Net.Address

open Text

variable {room n a b c d : Nat} {first four : Bool} {cs ds r s body front back : List Char}
  {g : Nat} {gs head tail : List Nat}

-- ---------------------------------------------------------------------------
-- Texts of addresses
-- ---------------------------------------------------------------------------

/-- A text for a group: up to four hexadecimal digits. -/
structure Group (g : Nat) (cs : List Char) : Prop where
  ne_nil : cs ≠ []
  short : cs.length ≤ 4
  hex : ∀ c ∈ cs, isHexDigit c = true
  value : hexValue cs = g

/-- A text for groups with colons between them; `four` says whether the last two are written as an
address of version 4. -/
inductive Row : List Nat → Bool → List Char → Prop
  | last {g : Nat} {cs : List Char} : Group g cs → Row [g] false cs
  | four {a b c d : Nat} : a < 256 → b < 256 → c < 256 → d < 256 →
    Row [a * 256 + b, c * 256 + d] true (dotted [a, b, c, d])
  | more {g : Nat} {gs : List Nat} {four : Bool} {cs rest : List Char} :
    Group g cs → Row gs four rest → Row (g :: gs) four (cs ++ ':' :: rest)

/-- A row, or nothing at all. -/
inductive Part : List Nat → Bool → List Char → Prop
  | nothing : Part [] false []
  | row {gs : List Nat} {four : Bool} {cs : List Char} : Row gs four cs → Part gs four cs

/-- A text for eight groups: a row of them all, or two rows with two colons in place of zeros. -/
inductive Eight : List Nat → List Char → Prop
  | whole {gs : List Nat} {four : Bool} {cs : List Char} :
    gs.length = 8 → Row gs four cs → Eight gs cs
  | leftOut {n : Nat} {head tail : List Nat} {four : Bool} {front back : List Char} :
    0 < n → head.length + n + tail.length = 8 → Part head false front → Part tail four back →
    Eight (head ++ List.replicate n 0 ++ tail) (front ++ ':' :: ':' :: back)

/-- The text spells the address. -/
inductive Spells : Address → List Char → Prop
  | v4 (a b c d : UInt8) : Spells (.v4 a b c d) (dotted [a.toNat, b.toNat, c.toNat, d.toNat])
  | v6 {groups : List UInt16} (eight : groups.length = 8) {cs : List Char} :
    Eight (groups.map UInt16.toNat) cs → Spells (.v6 groups eight) cs

-- ---------------------------------------------------------------------------
-- Their characters
-- ---------------------------------------------------------------------------

/-- What the texts of addresses consist of. -/
def IsAddressChar (c : Char) : Prop := isHexDigit c = true ∨ c = ':' ∨ c = '.'

theorem mem_dotted (a b c d : Nat) : ∀ x ∈ dotted [a, b, c, d], IsAddressChar x := by
  have hdigits : ∀ n, ∀ x ∈ natural n, IsAddressChar x := fun n x hx =>
    .inl (isHexDigit_of_isDigit (isDigit_of_mem_natural x hx))
  intro x hx
  simp only [dotted, List.map_cons, List.map_nil, joined, List.mem_append, List.mem_singleton] at hx
  rcases hx with ((hx | rfl) | ((hx | rfl) | ((hx | rfl) | hx)))
  · exact hdigits a x hx
  · exact .inr (.inr rfl)
  · exact hdigits b x hx
  · exact .inr (.inr rfl)
  · exact hdigits c x hx
  · exact .inr (.inr rfl)
  · exact hdigits d x hx

theorem Row.mem (h : Row gs four cs) : ∀ x ∈ cs, IsAddressChar x := by
  induction h with
  | last hg => exact fun x hx => .inl (hg.hex x hx)
  | four => exact mem_dotted _ _ _ _
  | more hg _ ih =>
    intro x hx
    rcases List.mem_append.mp hx with hx | hx
    · exact .inl (hg.hex x hx)
    · rcases List.mem_cons.mp hx with rfl | hx
      · exact .inr (.inl rfl)
      · exact ih x hx

theorem Part.mem (h : Part gs four cs) : ∀ x ∈ cs, IsAddressChar x := by
  cases h with
  | nothing => exact nofun
  | row hrow => exact hrow.mem

theorem Eight.mem (h : Eight gs cs) : ∀ x ∈ cs, IsAddressChar x := by
  cases h with
  | whole _ hrow => exact hrow.mem
  | leftOut _ _ hfront hback =>
    intro x hx
    simp only [List.mem_append, List.mem_cons] at hx
    rcases hx with hx | rfl | rfl | hx
    · exact hfront.mem x hx
    · exact .inr (.inl rfl)
    · exact .inr (.inl rfl)
    · exact hback.mem x hx

theorem Spells.mem {a : Address} (h : Spells a cs) : ∀ x ∈ cs, IsAddressChar x := by
  cases h with
  | v4 => exact mem_dotted _ _ _ _
  | v6 _ height => exact height.mem

-- ---------------------------------------------------------------------------
-- Where digits end
-- ---------------------------------------------------------------------------

/-- The text goes on with a colon, if at all. -/
def AtColon (r : List Char) : Prop := ∀ c, r.head? = some c → c = ':'

theorem AtColon.nil : AtColon [] := nofun

theorem AtColon.cons (s : List Char) : AtColon (':' :: s) := fun _ hc => (Option.some.inj hc).symm

theorem takeWhile_dropWhile (p : Char → Bool) (cs : List Char) :
    (cs.dropWhile p).takeWhile p = [] := by
  induction cs with
  | nil => rfl
  | cons c cs ih =>
    rw [List.dropWhile_cons]
    split
    · exact ih
    · rename_i hc
      rw [List.takeWhile_cons_of_neg hc]

/-- The characters of a kind in front of a text, and what is behind them. -/
theorem takeWhile_and_dropWhile {p : Char → Bool} :
    (cs.takeWhile p = ds ∧ cs.dropWhile p = r) ↔
      cs = ds ++ r ∧ (∀ c ∈ ds, p c = true) ∧ r.takeWhile p = [] := by
  constructor
  · rintro ⟨rfl, rfl⟩
    exact ⟨List.takeWhile_append_dropWhile.symm, fun c hc => List.mem_takeWhile_imp hc,
      takeWhile_dropWhile p cs⟩
  · rintro ⟨rfl, hds, hr⟩
    have hdrop : r.dropWhile p = r := by
      have hparts := List.takeWhile_append_dropWhile (p := p) (l := r)
      rwa [hr] at hparts
    rw [List.takeWhile_append_of_pos hds, List.dropWhile_append_of_pos hds, hr, hdrop]
    simp

theorem AtColon.takeWhile {p : Char → Bool} (h : AtColon r) (hp : p ':' = false) :
    r.takeWhile p = [] := by
  cases r with
  | nil => rfl
  | cons c r =>
    obtain rfl := h c rfl
    rw [List.takeWhile_cons_of_neg (by simp [hp])]

-- ---------------------------------------------------------------------------
-- Reading version 4
-- ---------------------------------------------------------------------------

theorem readByte?_eq_some :
    readByte? cs = some (n, r) ↔ n < 256 ∧ cs = natural n ++ r ∧ EndsNumeral r := by
  unfold readByte?
  dsimp only
  rw [foldl_eq_ofDigitChars]
  constructor
  · intro h
    split at h
    · cases h
    · rename_i hbyte
      simp only [not_or, not_and, Nat.not_lt] at hbyte
      obtain ⟨hne, -, hmax, hzero⟩ := hbyte
      obtain ⟨rfl, rfl⟩ := Prod.mk.inj (Option.some.inj h)
      obtain ⟨hcs, hds, hr⟩ := takeWhile_and_dropWhile.mp ⟨rfl, rfl⟩
      have hpos : 0 < (cs.takeWhile Char.isDigit).length := List.length_pos_iff.mpr hne
      refine ⟨Nat.lt_succ_of_le hmax, ?_, hr⟩
      rw [natural_ofDigitChars hne hds fun hz => by have := hzero hz; omega]
      exact hcs
  · rintro ⟨hn, rfl, hr⟩
    obtain ⟨htake, hdrop⟩ := takeWhile_and_dropWhile.mpr ⟨rfl, isDigit_of_mem_natural (n := n), hr⟩
    have hlength : (natural n).length ≤ 3 :=
      (Nat.length_toDigits_le_iff (by decide) (by decide)).mpr (by omega)
    have hzero : (natural n).head? = some '0' → (natural n).length = 1 := by
      intro h
      obtain ⟨ds, hds⟩ := List.head?_eq_some_iff.mp h
      rw [natural_zero_cons hds]
      rfl
    rw [htake, hdrop, ofDigitChars_natural, if_neg]
    simp only [natural_ne_nil, false_or, not_or, not_and]
    exact ⟨by omega, by omega, fun h => by have := hzero h; omega⟩

theorem readDottedByte?_eq_some : readDottedByte? cs = some (n, r) ↔
    n < 256 ∧ cs = '.' :: (natural n ++ r) ∧ EndsNumeral r := by
  unfold readDottedByte?
  split
  · rename_i rest
    rw [readByte?_eq_some, List.cons.injEq]
    simp
  · rename_i hnot
    constructor
    · nofun
    · rintro ⟨-, rfl, -⟩
      exact absurd rfl (hnot _)

theorem dotted_append (a b c d : Nat) (r : List Char) : dotted [a, b, c, d] ++ r =
    natural a ++ '.' :: (natural b ++ '.' :: (natural c ++ '.' :: (natural d ++ r))) := by
  simp [dotted, joined]

theorem readFour?_eq_some : readFour? cs = some ((a, b, c, d), r) ↔
    (a < 256 ∧ b < 256 ∧ c < 256 ∧ d < 256) ∧ cs = dotted [a, b, c, d] ++ r ∧ EndsNumeral r := by
  rw [dotted_append]
  constructor
  · intro h
    simp only [readFour?, Option.bind_eq_bind, Option.bind_eq_some_iff, Prod.exists] at h
    obtain ⟨_, _, hreada, _, _, hreadb, _, _, hreadc, _, _, hreadd, h⟩ := h
    cases h
    obtain ⟨ha, rfl, -⟩ := readByte?_eq_some.mp hreada
    obtain ⟨hb, rfl, -⟩ := readDottedByte?_eq_some.mp hreadb
    obtain ⟨hc, rfl, -⟩ := readDottedByte?_eq_some.mp hreadc
    obtain ⟨hd, rfl, hr⟩ := readDottedByte?_eq_some.mp hreadd
    exact ⟨⟨ha, hb, hc, hd⟩, rfl, hr⟩
  · rintro ⟨⟨ha, hb, hc, hd⟩, rfl, hr⟩
    have hdot : ∀ r, EndsNumeral ('.' :: r) := fun _ => .cons (by decide)
    have hreadd := readDottedByte?_eq_some.mpr ⟨hd, rfl, hr⟩
    have hreadc := readDottedByte?_eq_some.mpr ⟨hc, rfl, hdot (natural d ++ r)⟩
    have hreadb := readDottedByte?_eq_some.mpr
      ⟨hb, rfl, hdot (natural c ++ '.' :: (natural d ++ r))⟩
    have hreada := readByte?_eq_some.mpr
      ⟨ha, rfl, hdot (natural b ++ '.' :: (natural c ++ '.' :: (natural d ++ r)))⟩
    simp only [readFour?, hreada, hreadb, hreadc, hreadd, Option.bind_eq_bind, Option.bind_some]

-- ---------------------------------------------------------------------------
-- Reading groups
-- ---------------------------------------------------------------------------

theorem readGroup?_eq_some : readGroup? cs = some (g, r) ↔
    ∃ ds, Group g ds ∧ cs = ds ++ r ∧ r.takeWhile isHexDigit = [] := by
  unfold readGroup?
  dsimp only
  constructor
  · intro h
    split at h
    · cases h
    · rename_i hgroup
      simp only [not_or, Nat.not_lt] at hgroup
      obtain ⟨rfl, rfl⟩ := Prod.mk.inj (Option.some.inj h)
      obtain ⟨hcs, hds, hr⟩ := takeWhile_and_dropWhile.mp ⟨rfl, rfl⟩
      exact ⟨_, ⟨hgroup.1, hgroup.2, hds, rfl⟩, hcs, hr⟩
  · rintro ⟨ds, h, rfl, hr⟩
    obtain ⟨htake, hdrop⟩ := takeWhile_and_dropWhile.mpr ⟨rfl, h.hex, hr⟩
    rw [htake, hdrop, if_neg (not_or.mpr ⟨h.ne_nil, Nat.not_lt.mpr h.short⟩)]
    rw [← h.value]
    rfl

theorem Group.readGroup? (h : Group g cs) (hr : AtColon r) :
    readGroup? (cs ++ r) = some (g, r) :=
  readGroup?_eq_some.mpr ⟨cs, h, rfl, hr.takeWhile (by decide)⟩

/-- Behind the digits of a group there is no dot. -/
theorem Group.readFour? (h : Group g cs) (hr : AtColon r) : readFour? (cs ++ r) = none := by
  refine Option.eq_none_iff_forall_ne_some.mpr fun ⟨⟨a, b, c, d⟩, t⟩ hread => ?_
  obtain ⟨-, hcs, -⟩ := readFour?_eq_some.mp hread
  rw [dotted_append] at hcs
  have hgroup := takeWhile_and_dropWhile.mpr ⟨rfl, h.hex, hr.takeWhile (by decide)⟩
  have hbyte := (takeWhile_and_dropWhile (p := isHexDigit)).mpr
    ⟨hcs, fun c hc => isHexDigit_of_isDigit (isDigit_of_mem_natural c hc), rfl⟩
  have hdot := hr '.' (by rw [← hgroup.2, hbyte.2]; rfl)
  exact absurd hdot (by decide)

-- ---------------------------------------------------------------------------
-- Reading rows
-- ---------------------------------------------------------------------------

/-- Where a row ends: with the text, or in front of two colons. -/
inductive Stops : List Char → Prop
  | nil : Stops []
  | colons (s : List Char) : Stops (':' :: ':' :: s)

theorem Stops.atColon (h : Stops r) : AtColon r := by
  cases h with
  | nil => exact .nil
  | colons s => exact .cons _

/-- A row as it stands in a text: behind a colon, unless it is the first. -/
def placed (first : Bool) (cs : List Char) : List Char := if first then cs else ':' :: cs

theorem opened_iff : (if first then some cs else after? [':'] cs) = some body ↔
    cs = placed first body := by
  cases first with
  | true => exact Option.some_inj
  | false =>
    cases cs with
    | nil => exact ⟨nofun, nofun⟩
    | cons c cs =>
      by_cases hc : c = ':'
      · simp [after?, placed, hc]
      · simp [after?, placed, hc, Ne.symm hc]

theorem readGroups_nil (room : Nat) (first : Bool) :
    readGroups room first [] = ([], false, []) := by
  cases room with
  | zero => rfl
  | succ room => cases first <;> cases room <;> rfl

theorem readGroups_colons (room : Nat) (first : Bool) (s : List Char) :
    readGroups room first (':' :: ':' :: s) = ([], false, ':' :: ':' :: s) := by
  cases room with
  | zero => rfl
  | succ room => cases first <;> cases room <;> rfl

/-- Nothing is read where a row ends. -/
theorem Stops.readGroups (h : Stops r) (room : Nat) (first : Bool) :
    readGroups room first r = ([], false, r) := by
  cases h with
  | nil => exact readGroups_nil room first
  | colons s => exact readGroups_colons room first s

/-- A group in front of a colon or the end is read, and the row goes on behind it. -/
theorem Group.readGroups (h : Group g cs) (hr : AtColon r) (room : Nat) (first : Bool) :
    readGroups (room + 1) first (placed first (cs ++ r)) =
      (g :: (readGroups room false r).1, (readGroups room false r).2) := by
  rw [Address.readGroups, opened_iff.mpr rfl]
  dsimp only
  rw [h.readFour? hr, ite_self, h.readGroup? hr]

/-- With room for two groups, they are read as an address of version 4 where there is one. -/
theorem readGroups_dotted (hbytes : a < 256 ∧ b < 256 ∧ c < 256 ∧ d < 256) (hr : AtColon r)
    (room : Nat) (first : Bool) :
    readGroups (room + 2) first (placed first (dotted [a, b, c, d] ++ r)) =
      ([a * 256 + b, c * 256 + d], true, r) := by
  have hends : EndsNumeral r := hr.takeWhile (by decide)
  rw [readGroups, opened_iff.mpr rfl]
  dsimp only
  rw [if_neg (Nat.succ_ne_zero room), readFour?_eq_some.mpr ⟨hbytes, rfl, hends⟩]

theorem Row.readGroups (h : Row gs four cs) (hroom : gs.length ≤ room) (hr : Stops r) :
    readGroups room first (placed first (cs ++ r)) = (gs, four, r) := by
  induction h generalizing room first with
  | @last g _ hg =>
    obtain ⟨room, rfl⟩ : ∃ k, room = k + 1 := Nat.exists_eq_add_of_le' hroom
    rw [hg.readGroups hr.atColon, hr.readGroups]
  | @four a b c d ha hb hc hd =>
    obtain ⟨room, rfl⟩ : ∃ k, room = k + 2 := Nat.exists_eq_add_of_le' hroom
    exact readGroups_dotted ⟨ha, hb, hc, hd⟩ hr.atColon room first
  | @more g gs four cs rest hg _ ih =>
    obtain ⟨room, rfl⟩ := Nat.exists_eq_add_of_le' hroom
    have hrest : readGroups (room + gs.length) false (placed false (rest ++ r)) = (gs, four, r) :=
      ih (Nat.le_add_left ..)
    rw [List.append_assoc, List.cons_append, List.length_cons, ← Nat.add_assoc,
      hg.readGroups (.cons _)]
    exact congrArg (fun p => (g :: p.1, p.2)) hrest

/-- What is read is a row or nothing, and has room. -/
theorem readGroups_part (h : readGroups room first cs = (gs, four, r)) :
    gs.length ≤ room ∧
      ((gs = [] ∧ four = false ∧ r = cs) ∨
        ∃ body, Row gs four body ∧ cs = placed first (body ++ r)) := by
  induction room generalizing first cs gs four r with
  | zero =>
    cases h
    exact ⟨Nat.le_refl _, .inl ⟨rfl, rfl, rfl⟩⟩
  | succ room ih =>
    rw [readGroups] at h
    split at h
    · cases h
      exact ⟨Nat.zero_le _, .inl ⟨rfl, rfl, rfl⟩⟩
    · rename_i body hbody
      obtain rfl := opened_iff.mp hbody
      split at h
      · -- two groups as an address of version 4, for which there has to be room
        rename_i a b c d rest hread
        cases h
        split at hread
        · cases hread
        · rename_i hroom
          obtain ⟨⟨ha, hb, hc, hd⟩, rfl, -⟩ := readFour?_eq_some.mp hread
          exact ⟨by simp only [List.length_cons, List.length_nil]; omega,
            .inr ⟨_, .four ha hb hc hd, rfl⟩⟩
      · split at h
        · cases h
          exact ⟨Nat.zero_le _, .inl ⟨rfl, rfl, rfl⟩⟩
        · rename_i g rest hread
          obtain ⟨ds, hg, rfl, -⟩ := readGroup?_eq_some.mp hread
          generalize hrest : readGroups room false rest = p at h
          obtain ⟨groups, dotted, rest'⟩ := p
          cases h
          obtain ⟨hlength, ⟨rfl, rfl, rfl⟩ | ⟨body, hrow, rfl⟩⟩ := ih hrest
          · exact ⟨Nat.succ_le_succ hlength, .inr ⟨ds, .last hg, rfl⟩⟩
          · refine ⟨Nat.succ_le_succ hlength, .inr ⟨_, .more hg hrow, ?_⟩⟩
            rw [List.append_assoc]
            rfl

-- ---------------------------------------------------------------------------
-- Reading version 6
-- ---------------------------------------------------------------------------

theorem Part.readGroups (h : Part gs four cs) (hroom : gs.length ≤ room) (hr : Stops r) :
    readGroups room true (cs ++ r) = (gs, four, r) := by
  cases h with
  | nothing => exact hr.readGroups room true
  | row hrow => exact hrow.readGroups hroom hr

theorem part_of_readGroups (h : readGroups room true cs = (gs, four, r)) :
    gs.length ≤ room ∧ ∃ body, Part gs four body ∧ cs = body ++ r := by
  obtain ⟨hlength, ⟨rfl, rfl, rfl⟩ | ⟨body, hrow, hcs⟩⟩ := readGroups_part h
  · exact ⟨hlength, [], .nothing, rfl⟩
  · exact ⟨hlength, body, .row hrow, hcs⟩

theorem Part.whole (h : Part gs four cs) (hlength : gs.length = 8) : Eight gs cs := by
  cases h with
  | nothing => cases hlength
  | row hrow => exact .whole hlength hrow

theorem eq_of_after? {word : List Char} (h : after? word cs = some s) : cs = word ++ s := by
  induction word generalizing cs with
  | nil => exact Option.some.inj h
  | cons c word ih =>
    cases cs with
    | nil => cases h
    | cons d cs =>
      rw [after?] at h
      split at h
      · rename_i hcd
        rw [hcd, ih h, List.cons_append]
      · cases h

/-- Eight groups are read to the end just from the texts for them. -/
theorem readEight?_eq_some : readEight? cs = some (gs, []) ↔ Eight gs cs := by
  unfold readEight?
  constructor
  · intro h
    generalize hread : readGroups 8 true cs = p at h
    obtain ⟨head, four, r⟩ := p
    obtain ⟨hroom, front, hfront, rfl⟩ := part_of_readGroups hread
    dsimp only at h
    split at h
    · rename_i hlength
      cases h
      rw [List.append_nil]
      exact hfront.whole hlength
    · split at h
      · cases h
      · rename_i hlength hfour
        obtain rfl : four = false := by simpa using hfour
        simp only [Option.bind_eq_bind, Option.bind_eq_some_iff] at h
        obtain ⟨back, hback, h⟩ := h
        obtain rfl := eq_of_after? hback
        generalize hread : readGroups (7 - head.length) true back = p at h
        obtain ⟨tail, four, r⟩ := p
        dsimp only at h
        obtain ⟨hgroups, rfl⟩ := Prod.mk.inj (Option.some.inj h)
        obtain ⟨hroom', back, htail, rfl⟩ := part_of_readGroups hread
        rw [List.append_nil, ← hgroups]
        have hlength' : head.length + (8 - head.length - tail.length) + tail.length = 8 := by omega
        exact .leftOut (by omega) hlength' hfront htail
  · intro h
    cases h with
    | @whole _ four _ hlength hrow =>
      have hread : readGroups 8 true (cs ++ []) = (gs, four, []) :=
        (Part.row hrow).readGroups (Nat.le_of_eq hlength) .nil
      rw [List.append_nil] at hread
      rw [hread]
      exact if_pos hlength
    | @leftOut n head tail four front back hn hlength hfront hback =>
      have hread : readGroups 8 true (front ++ ':' :: ':' :: back) =
          (head, false, ':' :: ':' :: back) :=
        hfront.readGroups (by omega) (.colons back)
      have hread' : readGroups (7 - head.length) true (back ++ []) = (tail, four, []) :=
        hback.readGroups (by omega) .nil
      rw [List.append_nil] at hread'
      have hn : 8 - head.length - tail.length = n := by omega
      have hnot : head.length ≠ 8 := by omega
      rw [hread]
      dsimp only
      rw [if_neg hnot, if_neg Bool.false_ne_true]
      simp only [after?, if_true, Option.bind_eq_bind, Option.bind_some, hread', hn]

-- ---------------------------------------------------------------------------
-- Reading addresses
-- ---------------------------------------------------------------------------

theorem Group.lt (h : Group g cs) : g < 65536 := by
  rw [← h.value]
  exact Nat.lt_of_lt_of_le (hexValue_lt cs) (Nat.pow_le_pow_right (by decide) h.short)

theorem Row.lt (h : Row gs four cs) : ∀ g ∈ gs, g < 65536 := by
  induction h with
  | last hg => simpa using hg.lt
  | four ha hb hc hd =>
    simp only [List.mem_cons, List.not_mem_nil, or_false, forall_eq_or_imp, forall_eq]
    omega
  | more hg _ ih => exact List.forall_mem_cons.mpr ⟨hg.lt, ih⟩

theorem Part.lt (h : Part gs four cs) : ∀ g ∈ gs, g < 65536 := by
  cases h with
  | nothing => exact nofun
  | row hrow => exact hrow.lt

theorem Eight.lt (h : Eight gs cs) : ∀ g ∈ gs, g < 65536 := by
  cases h with
  | whole _ hrow => exact hrow.lt
  | leftOut _ _ hfront hback =>
    simp only [List.mem_append, List.mem_replicate]
    rintro g ((hg | ⟨-, rfl⟩) | hg)
    · exact hfront.lt g hg
    · decide
    · exact hback.lt g hg

/-- Groups that fit their words are kept by them. -/
theorem map_toNat_ofNat (h : ∀ g ∈ gs, g < 65536) :
    (gs.map UInt16.ofNat).map UInt16.toNat = gs := by
  rw [List.map_map]
  refine (List.map_congr_left fun g hg => ?_).trans (List.map_id gs)
  exact Nat.mod_eq_of_lt (h g hg)

/-- No address of version 4 is in front of a text for eight groups. -/
theorem Eight.readFour? (h : Eight gs cs) : readFour? cs = none := by
  cases h with
  | whole hlength hrow =>
    cases hrow with
    | last hg => cases hlength
    | four => cases hlength
    | more hg _ => exact hg.readFour? (.cons _)
  | leftOut _ _ hfront _ =>
    cases hfront with
    | nothing => rfl
    | row hrow =>
      generalize hfour : false = four at hrow
      cases hrow with
      | last hg => exact hg.readFour? (.cons _)
      | four => cases hfour
      | more hg _ =>
        rw [List.append_assoc]
        exact hg.readFour? (.cons _)

theorem ofGroups?_eq_some {a : Address} : ofGroups? gs = some a ↔
    ∃ h : (gs.map UInt16.ofNat).length = 8, a = .v6 (gs.map UInt16.ofNat) h := by
  unfold ofGroups?
  dsimp only
  split
  · rename_i h
    exact ⟨fun ha => ⟨h, (Option.some.inj ha).symm⟩, fun ⟨_, ha⟩ => congrArg some ha.symm⟩
  · rename_i h
    exact ⟨nofun, fun ⟨h', _⟩ => absurd h' h⟩

theorem Spells.parse? {a : Address} (h : Spells a cs) : parse? cs = some a := by
  cases h with
  | v4 a b c d =>
    have hread := readFour?_eq_some.mpr
      ⟨⟨a.toNat_lt, b.toNat_lt, c.toNat_lt, d.toNat_lt⟩, (List.append_nil _).symm, .nil⟩
    rw [Address.parse?, hread]
    simp
  | @v6 groups eight _ h =>
    have hwords : (groups.map UInt16.toNat).map UInt16.ofNat = groups := by
      rw [List.map_map]
      exact (List.map_congr_left fun g _ => UInt16.ofNat_toNat).trans (List.map_id groups)
    rw [Address.parse?, h.readFour?, readEight?_eq_some.mpr h]
    exact ofGroups?_eq_some.mpr ⟨by rw [hwords, eight], by simp only [hwords]⟩

theorem spells_of_parse? {a : Address} (h : parse? cs = some a) : Spells a cs := by
  unfold parse? at h
  split at h
  · rename_i a b c d r hread
    obtain ⟨⟨ha, hb, hc, hd⟩, rfl, -⟩ := readFour?_eq_some.mp hread
    split at h
    · rename_i hr
      subst hr
      obtain rfl := Option.some.inj h
      have hspells := Spells.v4 (.ofNat a) (.ofNat b) (.ofNat c) (.ofNat d)
      have hword : ∀ n < 256, (UInt8.ofNat n).toNat = n := fun n hn => Nat.mod_eq_of_lt hn
      rwa [hword a ha, hword b hb, hword c hc, hword d hd, ← List.append_nil (dotted _)] at hspells
    · cases h
  · split at h
    · rename_i groups hread
      have height := readEight?_eq_some.mp hread
      obtain ⟨hlength, rfl⟩ := ofGroups?_eq_some.mp h
      refine .v6 hlength ?_
      rw [map_toNat_ofNat height.lt]
      exact height
    · cases h

/-- A text is read as an address just when it spells it. -/
theorem parse?_eq_some {a : Address} : parse? cs = some a ↔ Spells a cs :=
  ⟨spells_of_parse?, Spells.parse?⟩

end ChainGateway.Net.Address
