import ChainGateway.Proofs.Cache.KeyLaws

/-!
# Texts of keys

The text of a key tells the operation, whose name has no dash, and behind it the arguments, each
of which ends where the next dash is its own. So keys with one text are of one operation with the
same arguments, times being the same when their microseconds are.
-/

namespace ChainGateway

-- ---------------------------------------------------------------------------
-- Arguments that count as the same
-- ---------------------------------------------------------------------------

mutual

/-- Integers are compared by value and times by their microseconds, at any depth. -/
def Argument.Same : Argument → Argument → Prop
  | .text s, .text s' => s = s'
  | .integer n, .integer n' => n = n'
  | .flag b, .flag b' => b = b'
  | .time t, .time t' => t.micros = t'.micros
  | .absent, .absent => True
  | .present a, .present a' => a.Same a'
  | .list items, .list items' => Argument.AllSame items items'
  | _, _ => False

/-- As many arguments, the same one by one. -/
def Argument.AllSame : List Argument → List Argument → Prop
  | [], [] => True
  | a :: as, b :: bs => a.Same b ∧ Argument.AllSame as bs
  | _, _ => False

end

mutual

theorem Argument.same_iff_coarse (a b : Argument) : a.Same b ↔ a.coarse = b.coarse := by
  cases a <;> cases b <;> simp only [Same, coarse, reduceCtorEq, text.injEq, integer.injEq,
    flag.injEq, time.injEq, present.injEq, list.injEq, Timestamp.coarse_eq_iff]
  case present.present a b => exact same_iff_coarse a b
  case list.list as bs => exact allSame_iff_coarse as bs

theorem Argument.allSame_iff_coarse (as bs : List Argument) :
    AllSame as bs ↔ allCoarse as = allCoarse bs := by
  cases as with
  | nil => cases bs <;> simp [AllSame, allCoarse]
  | cons a as =>
    cases bs with
    | nil => simp [AllSame, allCoarse]
    | cons b bs =>
      simp only [AllSame, allCoarse, List.cons.injEq]
      exact and_congr (same_iff_coarse a b) (allSame_iff_coarse as bs)

end

mutual

theorem Argument.keyText_eq_of_same (a b : Argument) (h : a.Same b) : a.keyText = b.keyText := by
  cases a <;> cases b <;> simp only [Same] at h <;> simp only [keyText]
  case text.text | integer.integer | flag.flag | time.time => rw [h]
  case present.present a b => rw [keyText_eq_of_same a b h]
  case list.list as bs =>
    obtain ⟨hl, ht⟩ := keyTexts_eq_of_allSame as bs h
    rw [hl, ht]

theorem Argument.keyTexts_eq_of_allSame (as bs : List Argument) (h : AllSame as bs) :
    as.length = bs.length ∧ keyTexts as = keyTexts bs := by
  cases as with
  | nil =>
    cases bs with
    | nil => exact ⟨rfl, rfl⟩
    | cons b bs => exact absurd h (by simp [AllSame])
  | cons a as =>
    cases bs with
    | nil => exact absurd h (by simp [AllSame])
    | cons b bs =>
      simp only [AllSame] at h
      obtain ⟨hl, ht⟩ := keyTexts_eq_of_allSame as bs h.2
      rw [keyTexts, keyTexts, keyText_eq_of_same a b h.1, ht, List.length_cons, List.length_cons, hl]
      exact ⟨rfl, rfl⟩

end

-- ---------------------------------------------------------------------------
-- Names of operations
-- ---------------------------------------------------------------------------

theorem Operation.parse_name (op : Operation) : parse op.name = .ok op := by
  cases op <;> rfl

theorem Operation.name_inj {op op' : Operation} (h : op.name = op'.name) : op = op' := by
  have hp := op.parse_name
  rw [h, op'.parse_name] at hp
  exact (Except.ok.inj hp).symm

theorem Operation.name_ne_empty (op : Operation) : op.name ≠ "" := by
  have hempty : parse "" = .error (.unknownOperation "") := rfl
  intro h
  cases op.parse_name.symm.trans (h ▸ hempty)

theorem Operation.isAlpha_of_mem_name {c : Char} (op : Operation) (hc : c ∈ op.name.toList) :
    c.isAlpha = true := by
  have h : op.name.toList.all Char.isAlpha = true := by cases op <;> rfl
  exact List.all_eq_true.mp h c hc

theorem Operation.dash_not_mem_name (op : Operation) : '-' ∉ op.name.toList := fun hc =>
  absurd (op.isAlpha_of_mem_name hc) (by decide)

-- ---------------------------------------------------------------------------
-- Keys
-- ---------------------------------------------------------------------------

namespace Cache.Key

variable {op op' : Operation} {as bs : List Argument}

/-- The name of the operation is what comes before the first dash. -/
theorem takeWhile_text : (op.name.toList ++ as.flatMap fun a => '-' :: a.keyText).takeWhile
    (· ≠ '-') = op.name.toList := by
  have hname : ∀ c ∈ op.name.toList, decide (c ≠ '-') = true := fun c hc => by
    have hne : c ≠ '-' := fun he => op.dash_not_mem_name (he ▸ hc)
    simpa using hne
  rw [List.takeWhile_append_of_pos hname]
  cases as <;> simp

theorem text_inj (h : (ofArguments op as).text = (ofArguments op' bs).text) :
    op = op' ∧ Argument.AllSame as bs := by
  have ht := String.ofList_injective h
  have hn := congrArg (List.takeWhile (· ≠ '-')) ht
  rw [takeWhile_text, takeWhile_text] at hn
  obtain rfl := Operation.name_inj (String.toList_inj.mp hn)
  have hmap := arguments_inj (List.append_cancel_left ht)
  rw [← Argument.allCoarse_eq_map, ← Argument.allCoarse_eq_map] at hmap
  exact ⟨rfl, (Argument.allSame_iff_coarse as bs).mpr hmap⟩

theorem ofArguments_of_allSame (h : Argument.AllSame as bs) :
    ofArguments op as = ofArguments op bs := by
  have hflat : (as.flatMap fun a => '-' :: a.keyText) = bs.flatMap fun a => '-' :: a.keyText := by
    induction as generalizing bs with
    | nil =>
      cases bs with
      | nil => rfl
      | cons b bs => exact absurd h (by simp [Argument.AllSame])
    | cons a as ih =>
      cases bs with
      | nil => exact absurd h (by simp [Argument.AllSame])
      | cons b bs =>
        simp only [Argument.AllSame] at h
        rw [List.flatMap_cons, List.flatMap_cons, Argument.keyText_eq_of_same a b h.1, ih h.2]
  rw [ofArguments, ofArguments, hflat]

/-- Keys are equal just when they have one operation and the same arguments, and so are their
texts already. -/
theorem ofArguments_eq_iff (op op' : Operation) (as bs : List Argument) :
    (ofArguments op as = ofArguments op' bs ↔ op = op' ∧ Argument.AllSame as bs) ∧
      ((ofArguments op as).text = (ofArguments op' bs).text ↔
        op = op' ∧ Argument.AllSame as bs) := by
  have hback : op = op' ∧ Argument.AllSame as bs → ofArguments op as = ofArguments op' bs := by
    rintro ⟨rfl, h⟩
    exact ofArguments_of_allSame h
  exact ⟨⟨fun h => text_inj (congrArg Key.text h), hback⟩,
    ⟨text_inj, fun h => congrArg Key.text (hback h)⟩⟩

/-- An element that goes from one list to the next is told. -/
example : (ofArguments .epochIdentitiesCount [.integer 7, .texts ["Human", "Verified"],
      .texts []]).text ≠
    (ofArguments .epochIdentitiesCount [.integer 7, .texts ["Human"], .texts ["Verified"]]).text := by
  decide

end Cache.Key
end ChainGateway
