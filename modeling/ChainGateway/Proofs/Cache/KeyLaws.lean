import ChainGateway.Cache.Key
import ChainGateway.Proofs.Text.NumeralLaws

/-!
# Keys tell calls apart

The text of an argument ends by itself in front of anything but a digit, so a list of
arguments can be read back from a key but for what its times have below a microsecond.
`Key.ofCall_eq_iff`: two calls that fit have one key just when they have one operation and,
unless that counts active addresses, the same arguments.
-/

namespace ChainGateway

-- ---------------------------------------------------------------------------
-- Texts with their length
-- ---------------------------------------------------------------------------

namespace Text

theorem charBytes_ne_nil {c : Char} : charBytes c ≠ [] := by
  intro h
  unfold charBytes at h
  dsimp only at h
  split at h
  · cases h
  · split at h
    · cases h
    · split at h <;> cases h

theorem charBytes_pos {c : Char} : 0 < (charBytes c).length :=
  List.length_pos_iff.mpr charBytes_ne_nil

theorem utf8Bytes_cons {c : Char} {cs : List Char} :
    utf8Bytes (c :: cs) = charBytes c ++ utf8Bytes cs := by
  simp [utf8Bytes]

/-- Two texts of as many bytes in front of one and the same text are the same. -/
theorem append_inj_of_bytes {a b r r' : List Char}
    (hl : (utf8Bytes a).length = (utf8Bytes b).length) (h : a ++ r = b ++ r') :
    a = b ∧ r = r' := by
  have hnil : (utf8Bytes []).length = 0 := rfl
  induction a generalizing b with
  | nil =>
    cases b with
    | nil => exact ⟨rfl, h⟩
    | cons c b =>
      rw [utf8Bytes_cons, List.length_append, hnil] at hl
      have := charBytes_pos (c := c)
      omega
  | cons c a ih =>
    cases b with
    | nil =>
      rw [utf8Bytes_cons, List.length_append, hnil] at hl
      have := charBytes_pos (c := c)
      omega
    | cons d b =>
      obtain ⟨rfl, hrest⟩ := List.cons.inj h
      rw [utf8Bytes_cons, utf8Bytes_cons, List.length_append, List.length_append] at hl
      obtain ⟨rfl, hr⟩ := ih (by omega) hrest
      exact ⟨rfl, hr⟩

end Text

-- ---------------------------------------------------------------------------
-- Arguments
-- ---------------------------------------------------------------------------

/-- The time with what it has below a microsecond dropped, outside leap seconds. -/
def Timestamp.coarse (t : Timestamp) : Timestamp :=
  ⟨t.micros / 1000000, (t.micros % 1000000).toNat * 1000⟩

theorem Timestamp.coarse_eq_iff {t t' : Timestamp} :
    t.coarse = t'.coarse ↔ t.micros = t'.micros := by
  constructor
  · intro h
    have hs : t.micros / 1000000 = t'.micros / 1000000 := congrArg Timestamp.second h
    have hn : (t.micros % 1000000).toNat * 1000 = (t'.micros % 1000000).toNat * 1000 :=
      congrArg Timestamp.nanos h
    omega
  · intro h
    simp only [coarse, h]

mutual

/-- What a key has of an argument. -/
def Argument.coarse : Argument → Argument
  | .time t => .time t.coarse
  | .present a => .present a.coarse
  | .list items => .list (Argument.allCoarse items)
  | a => a

def Argument.allCoarse : List Argument → List Argument
  | [] => []
  | a :: rest => a.coarse :: Argument.allCoarse rest

end

/-- The character by which the constructor of an argument is told. -/
def Argument.mark : Argument → Char
  | .text _ => 's'
  | .integer _ => 'n'
  | .flag true => 'T'
  | .flag false => 'F'
  | .time _ => 't'
  | .absent => '~'
  | .present _ => '+'
  | .list _ => 'l'

theorem Argument.keyText_eq_mark_cons {a : Argument} :
    ∃ body, a.keyText = a.mark :: body := by
  cases a with
  | flag b => cases b <;> exact ⟨_, rfl⟩
  | _ => exact ⟨_, by simp [keyText, mark]; rfl⟩

theorem Argument.mark_eq_of_append {a b : Argument} {r r' : List Char}
    (h : a.keyText ++ r = b.keyText ++ r') : a.mark = b.mark := by
  obtain ⟨body, ha⟩ := a.keyText_eq_mark_cons
  obtain ⟨body', hb⟩ := b.keyText_eq_mark_cons
  rw [ha, hb] at h
  exact (List.cons.inj h).1

/-- Two arguments built alike. -/
inductive Argument.SameShape : Argument → Argument → Prop
  | text {s s' : String} : SameShape (.text s) (.text s')
  | integer {n n' : Int} : SameShape (.integer n) (.integer n')
  | flag {b : Bool} : SameShape (.flag b) (.flag b)
  | time {t t' : Timestamp} : SameShape (.time t) (.time t')
  | absent : SameShape .absent .absent
  | present {a a' : Argument} : SameShape (.present a) (.present a')
  | list {items items' : List Argument} : SameShape (.list items) (.list items')

theorem Argument.SameShape.of_mark {a b : Argument} (h : a.mark = b.mark) : SameShape a b := by
  cases a <;> cases b <;> first | constructor | skip
  case flag.flag x y => cases x <;> cases y <;> first | constructor | cases h
  case flag.text x _ | flag.integer x _ | flag.time x _ | flag.absent x | flag.present x _
    | flag.list x _ => cases x <;> cases h
  case text.flag x | integer.flag x | time.flag x | absent.flag x | present.flag x
    | list.flag x => cases x <;> cases h
  all_goals cases h

theorem Argument.endsNumeral_keyTexts {as : List Argument} {r : List Char}
    (hr : EndsNumeral r) : EndsNumeral (keyTexts as ++ r) := by
  cases as with
  | nil => simpa [keyTexts] using hr
  | cons a as => exact .cons (by decide)

mutual

theorem Argument.keyText_append_inj (a b : Argument) {r r' : List Char} (hr : EndsNumeral r)
    (hr' : EndsNumeral r') (h : a.keyText ++ r = b.keyText ++ r') :
    a.coarse = b.coarse ∧ r = r' := by
  cases SameShape.of_mark (mark_eq_of_append h) with
  | @text s s' =>
    simp only [keyText, List.cons_append, List.append_assoc] at h
    obtain ⟨hl, hs⟩ := Text.natural_append_inj (.cons (by decide)) (.cons (by decide))
      (List.cons.inj h).2
    obtain ⟨hs, hrest⟩ := Text.append_inj_of_bytes hl (List.cons.inj hs).2
    rw [String.toList_inj.mp hs]
    exact ⟨rfl, hrest⟩
  | integer =>
    simp only [keyText, List.cons_append] at h
    obtain ⟨rfl, hrest⟩ := Text.integer_append_inj hr hr' (List.cons.inj h).2
    exact ⟨rfl, hrest⟩
  | flag => exact ⟨rfl, List.append_cancel_left h⟩
  | time =>
    simp only [keyText, List.cons_append] at h
    obtain ⟨ht, hrest⟩ := Text.integer_append_inj hr hr' (List.cons.inj h).2
    simp only [coarse, Timestamp.coarse_eq_iff.mpr ht]
    exact ⟨trivial, hrest⟩
  | absent => exact ⟨rfl, List.append_cancel_left h⟩
  | @present a a' =>
    simp only [keyText, List.cons_append] at h
    obtain ⟨ha, hrest⟩ := keyText_append_inj a a' hr hr' (List.cons.inj h).2
    simp only [coarse, ha]
    exact ⟨trivial, hrest⟩
  | @list as bs =>
    simp only [keyText, List.cons_append, List.append_assoc] at h
    obtain ⟨hl, hs⟩ := Text.natural_append_inj (endsNumeral_keyTexts hr)
      (endsNumeral_keyTexts hr') (List.cons.inj h).2
    obtain ⟨hs, hrest⟩ := keyTexts_append_inj as bs hr hr' hl hs
    simp only [coarse, hs]
    exact ⟨trivial, hrest⟩

theorem Argument.keyTexts_append_inj (as bs : List Argument) {r r' : List Char}
    (hr : EndsNumeral r) (hr' : EndsNumeral r') (hl : as.length = bs.length)
    (h : keyTexts as ++ r = keyTexts bs ++ r') : allCoarse as = allCoarse bs ∧ r = r' := by
  cases as with
  | nil =>
    cases bs with
    | nil => exact ⟨rfl, by simpa [keyTexts] using h⟩
    | cons b bs => simp at hl
  | cons a as =>
    cases bs with
    | nil => simp at hl
    | cons b bs =>
      simp only [keyTexts, List.cons_append, List.append_assoc] at h
      obtain ⟨ha, has⟩ := keyText_append_inj a b (endsNumeral_keyTexts hr)
        (endsNumeral_keyTexts hr') (List.cons.inj h).2
      obtain ⟨has, hrest⟩ := keyTexts_append_inj as bs hr hr' (Nat.succ.inj hl) has
      simp only [allCoarse, ha, has]
      exact ⟨trivial, hrest⟩

end

theorem Argument.allCoarse_eq_map {as : List Argument} : allCoarse as = as.map coarse := by
  induction as with
  | nil => rfl
  | cons a as ih => rw [allCoarse, ih, List.map_cons]

/-- Only times have more than a key has of them. -/
theorem Argument.coarse_of_fits {a : Argument} {p : Parameter} (h : a.fits p = true)
    (hp : p ≠ .time) : a.coarse = a := by
  have htext : ∀ a : Argument, a.isText = true → a.coarse = a := by
    intro a ha
    cases a with
    | text s => rfl
    | _ => cases ha
  unfold fits at h
  split at h
  · rfl
  · rfl
  · rfl
  · rfl
  · rename_i items
    rw [List.all_eq_true] at h
    rw [coarse, allCoarse_eq_map, List.map_congr_left fun a ha => htext a (h a ha), List.map_id']
  · rfl
  · exact absurd rfl hp
  · cases h

theorem Argument.map_coarse_of_fits {as : List Argument} {ps : List Parameter}
    (hl : as.length = ps.length) (hp : .time ∉ ps)
    (h : ((ps.zip as).all fun (p, a) => a.fits p) = true) : as.map coarse = as := by
  induction as generalizing ps with
  | nil => rfl
  | cons a as ih =>
    cases ps with
    | nil => cases hl
    | cons p ps =>
      rw [List.zip_cons_cons, List.all_cons, Bool.and_eq_true] at h
      rw [List.mem_cons, not_or] at hp
      rw [List.map_cons, coarse_of_fits h.1 (Ne.symm hp.1), ih (Nat.succ.inj hl) hp.2 h.2]

-- ---------------------------------------------------------------------------
-- Calls
-- ---------------------------------------------------------------------------

/-- Calls that share a slot: of one operation with the same arguments, but for the
cut-off of a count of active addresses. -/
def Call.Akin (c c' : Call) : Prop :=
  c.operation = c'.operation ∧
    (c.operation = .activeAddressesCount ∨ c.arguments = c'.arguments)

theorem Operation.time_mem_parameters {op : Operation} (h : .time ∈ op.parameters) :
    op = .activeAddressesCount := by
  cases op <;> first | rfl | exact absurd h (by decide)

theorem Call.map_coarse_arguments {c : Call} (h : c.fits = true)
    (hc : c.operation ≠ .activeAddressesCount) : c.arguments.map Argument.coarse = c.arguments := by
  rw [fits, Bool.and_eq_true, beq_iff_eq] at h
  exact Argument.map_coarse_of_fits h.1 (fun ht => hc (Operation.time_mem_parameters ht)) h.2

namespace Cache.Key

theorem endsNumeral_arguments {as : List Argument} :
    EndsNumeral (as.flatMap fun a => '-' :: a.keyText) := by
  cases as with
  | nil => exact .nil
  | cons a as => exact .cons (by decide)

theorem arguments_inj {as bs : List Argument}
    (h : (as.flatMap fun a => '-' :: a.keyText) = bs.flatMap fun a => '-' :: a.keyText) :
    as.map Argument.coarse = bs.map Argument.coarse := by
  induction as generalizing bs with
  | nil =>
    cases bs with
    | nil => rfl
    | cons b bs => cases h
  | cons a as ih =>
    cases bs with
    | nil => cases h
    | cons b bs =>
      rw [List.flatMap_cons, List.flatMap_cons, List.cons_append, List.cons_append] at h
      obtain ⟨ha, has⟩ := Argument.keyText_append_inj a b endsNumeral_arguments
        endsNumeral_arguments (List.cons.inj h).2
      rw [List.map_cons, List.map_cons, ha, ih has]

theorem ofArguments_inj {op op' : Operation} {as bs : List Argument}
    (h : ofArguments op as = ofArguments op' bs) :
    op = op' ∧ as.map Argument.coarse = bs.map Argument.coarse := by
  obtain rfl : op = op' := congrArg Key.operation h
  have ht := String.ofList_injective (congrArg Key.text h)
  exact ⟨rfl, arguments_inj (List.append_cancel_left ht)⟩

theorem ofCall_operation {c : Call} : (ofCall c).operation = c.operation := by
  unfold ofCall
  split <;> rfl

/-- Two calls have one key just when they share a slot. -/
theorem ofCall_eq_iff {c c' : Call} (h : c.fits = true) (h' : c'.fits = true) :
    ofCall c = ofCall c' ↔ c.Akin c' := by
  constructor
  · intro hk
    have hop : c.operation = c'.operation := by
      rw [← ofCall_operation (c := c), hk, ofCall_operation]
    refine ⟨hop, ?_⟩
    by_cases hc : c.operation = .activeAddressesCount
    · exact .inl hc
    · have hc' : c'.operation ≠ .activeAddressesCount := hop ▸ hc
      rw [ofCall, ofCall, if_neg hc, if_neg hc'] at hk
      have := (ofArguments_inj hk).2
      rw [Call.map_coarse_arguments h hc, Call.map_coarse_arguments h' hc'] at this
      exact .inr this
  · rintro ⟨hop, hc | ha⟩
    · rw [ofCall, ofCall, if_pos hc, if_pos (hop ▸ hc), hop]
    · rw [ofCall, ofCall, hop, ha]

end Cache.Key
end ChainGateway
