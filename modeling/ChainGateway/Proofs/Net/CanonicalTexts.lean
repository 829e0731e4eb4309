import ChainGateway.Proofs.Net.Spellings

/-!
# Canonical texts of addresses

The canonical text of an address is one of its spellings: groups are written in one to four digits,
and what is left out is a run of zero groups. So it is read back as the address, and no two
addresses have the same.
-/

namespace ChainGateway.Net.Address

open Text

variable {n places start : Nat} {ds : List Char} {gs : List Nat} {a b : Address}

-- ---------------------------------------------------------------------------
-- Groups
-- ---------------------------------------------------------------------------

/-- The digits of a number that has as many places stand in front, and give back its value. -/
theorem hexDigits_front (hpos : 0 < places) (hn : n < Nat.pow 16 places) (ds : List Char) :
    ∃ front, hexDigits places n ds = front ++ ds ∧ front ≠ [] ∧ front.length ≤ places ∧
      (∀ c ∈ front, isHexDigit c = true) ∧ hexValue front = n := by
  induction places generalizing n ds with
  | zero => exact absurd hpos (Nat.lt_irrefl 0)
  | succ places ih =>
    rw [hexDigits]
    split
    · rename_i hsmall
      refine ⟨[hexDigit n], rfl, by simp, by simp, ?_, ?_⟩
      · simpa using isHexDigit_hexDigit n hsmall
      · simp [hexValue, hexDigit?_hexDigit n hsmall]
    · rename_i hlarge
      have hlt : n < Nat.pow 16 places * 16 := hn
      have hplaces : 0 < places := by
        rcases Nat.eq_zero_or_pos places with rfl | h
        · exact absurd hlt (by simpa using hlarge)
        · exact h
      have hdigit : n % 16 < 16 := Nat.mod_lt n (by decide)
      obtain ⟨front, hfront, -, hlength, hhex, hvalue⟩ :=
        ih hplaces (n := n / 16) (by omega) (hexDigit (n % 16) :: ds)
      refine ⟨front ++ [hexDigit (n % 16)], by simp [hfront], by simp, by simpa using hlength,
        ?_, ?_⟩
      · intro c hc
        rcases List.mem_append.mp hc with hc | hc
        · exact hhex c hc
        · rw [List.mem_singleton.mp hc]
          exact isHexDigit_hexDigit _ hdigit
      · rw [hexValue_snoc, hvalue, hexDigit?_hexDigit _ hdigit]
        exact Nat.div_add_mod' n 16

theorem group_hexGroup (h : n < 65536) : Group n (hexGroup n) := by
  have hn : n < Nat.pow 16 4 := h
  obtain ⟨front, hfront, hne, hlength, hhex, hvalue⟩ := hexDigits_front (by decide) hn []
  rw [hexGroup, hfront, List.append_nil]
  exact ⟨hne, hlength, hhex, hvalue⟩

theorem row_hexGroups (hne : gs ≠ []) (h : ∀ g ∈ gs, g < 65536) : Row gs false (hexGroups gs) := by
  induction gs with
  | nil => exact absurd rfl hne
  | cons g gs ih =>
    obtain ⟨hg, hgs⟩ := List.forall_mem_cons.mp h
    cases gs with
    | nil => exact .last (group_hexGroup hg)
    | cons g' gs =>
      have hrow := Row.more (group_hexGroup hg) (ih (List.cons_ne_nil g' gs) hgs)
      simpa [hexGroups, joined] using hrow

theorem part_hexGroups (h : ∀ g ∈ gs, g < 65536) : Part gs false (hexGroups gs) := by
  cases gs with
  | nil => exact .nothing
  | cons g gs => exact .row (row_hexGroups (List.cons_ne_nil g gs) h)

-- ---------------------------------------------------------------------------
-- What is left out
-- ---------------------------------------------------------------------------

/-- Groups start with as many zeros as their run of zeros is long, or fewer. -/
theorem eq_zeros_append (h : n ≤ zeroRun gs) : gs = List.replicate n 0 ++ gs.drop n := by
  induction gs generalizing n with
  | nil =>
    obtain rfl : n = 0 := Nat.le_zero.mp h
    rfl
  | cons g gs ih =>
    cases n with
    | zero => rfl
    | succ n =>
      by_cases hg : g = 0
      · have hrest : n ≤ zeroRun gs := by
          simp only [zeroRun, List.takeWhile_cons, hg, decide_true, if_true,
            List.length_cons] at h
          exact Nat.le_of_succ_le_succ h
        rw [List.replicate_succ, List.cons_append, List.drop_succ_cons, ← ih hrest, hg]
      · simp [zeroRun, hg] at h

/-- The longest run of zeros is a run of zeros. -/
theorem longestZeros_le (gs : List Nat) :
    (longestZeros gs).2 ≤ zeroRun (gs.drop (longestZeros gs).1) := by
  unfold longestZeros
  generalize List.range gs.length = places
  have hfold : ∀ best : Nat × Nat, best.2 ≤ zeroRun (gs.drop best.1) →
      let found := places.foldl (fun best i =>
        let n := zeroRun (gs.drop i)
        if best.2 < n then (i, n) else best) best
      found.2 ≤ zeroRun (gs.drop found.1) := by
    induction places with
    | nil => exact fun best h => h
    | cons i places ih =>
      intro best h
      rw [List.foldl_cons]
      refine ih _ ?_
      dsimp only
      split
      · exact Nat.le_refl _
      · exact h
  exact hfold (0, 0) (Nat.zero_le _)

theorem eight_compressed (hlength : gs.length = 8) (h : ∀ g ∈ gs, g < 65536) :
    Eight gs (compressed gs) := by
  have hrun := longestZeros_le gs
  unfold compressed
  generalize longestZeros gs = best at hrun
  obtain ⟨start, n⟩ := best
  dsimp only at hrun ⊢
  split
  · rename_i hlong
    have hzeros := eq_zeros_append hrun
    have hparts : gs = gs.take start ++ List.replicate n 0 ++ gs.drop (start + n) := by
      rw [List.append_assoc, ← List.drop_drop, ← hzeros, List.take_append_drop]
    have hcount : (gs.take start).length + n + (gs.drop (start + n)).length = 8 := by
      have hall := congrArg List.length hparts
      simp only [List.length_append, List.length_replicate] at hall
      omega
    have hfront : Part (gs.take start) false (hexGroups (gs.take start)) :=
      part_hexGroups fun g hg => h g (List.mem_of_mem_take hg)
    have hback : Part (gs.drop (start + n)) false (hexGroups (gs.drop (start + n))) :=
      part_hexGroups fun g hg => h g (List.mem_of_mem_drop hg)
    have height := Eight.leftOut (by omega) hcount hfront hback
    rw [← hparts] at height
    simpa using height
  · have hne : gs ≠ [] := by
      rintro rfl
      cases hlength
    exact .whole hlength (row_hexGroups hne h)

-- ---------------------------------------------------------------------------
-- Addresses
-- ---------------------------------------------------------------------------

/-- An address of version 4 that is mapped into version 6 is written as such behind its groups. -/
theorem eight_mapped {high low : Nat} (hhigh : high < 65536) (hlow : low < 65536) :
    Eight [0, 0, 0, 0, 0, 0xFFFF, high, low]
      ("::ffff:".toList ++ dotted [high / 256, high % 256, low / 256, low % 256]) := by
  have hgroup : Group 0xFFFF ['f', 'f', 'f', 'f'] := group_hexGroup (n := 0xFFFF) (by decide)
  have hfour := Row.four (a := high / 256) (b := high % 256) (c := low / 256) (d := low % 256)
    (by omega) (by omega) (by omega) (by omega)
  rw [Nat.div_add_mod', Nat.div_add_mod'] at hfour
  have hnothing : Part [] false [] := .nothing
  exact .leftOut (n := 5) (by decide) rfl hnothing (.row (.more hgroup hfour))

theorem spells_print (a : Address) : Spells a a.print := by
  cases a with
  | v4 a b c d => exact .v4 a b c d
  | v6 groups eight =>
    have hlt : ∀ g ∈ groups.map UInt16.toNat, g < 65536 := by
      intro g hg
      obtain ⟨word, -, rfl⟩ := List.mem_map.mp hg
      exact word.toNat_lt
    have hlength : (groups.map UInt16.toNat).length = 8 := by rw [List.length_map, eight]
    refine .v6 eight ?_
    rw [print]
    generalize groups.map UInt16.toNat = gs at hlt hlength
    split
    · rename_i bytes hbytes
      unfold mapped? at hbytes
      split at hbytes
      · rename_i high low
        cases hbytes
        exact eight_mapped (hlt high (by simp)) (hlt low (by simp))
      · cases hbytes
    · exact eight_compressed hlength hlt

theorem parse?_print (a : Address) : parse? a.print = some a := (spells_print a).parse?

example : (parse? "2001:0DB8:0:0::0.0.0.1".toList).map print = some "2001:db8::1".toList := by
  decide

/-- No two addresses have one canonical text. -/
theorem print_inj (h : a.print = b.print) : a = b := by
  have hread := parse?_print a
  rw [h, parse?_print] at hread
  exact (Option.some.inj hread).symm

end ChainGateway.Net.Address
