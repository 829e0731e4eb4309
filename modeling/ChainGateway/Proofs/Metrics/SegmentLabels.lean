import Mathlib.Data.List.TakeWhile
import ChainGateway.Proofs.Metrics.Identifiers

/-!
# Segments of a path label

A pass goes over the segments behind a slash: one that is covered becomes the placeholder, and the
one right behind it stays as it is, its slash being taken. Every pass therefore leaves fewer covered
segments than it met, and none changes what a segment stands for. The passes end, and what they
make is each segment labelled on its own.
-/

namespace ChainGateway.Metrics.PathLabel

open Text

variable {m : Mark} {cs out s first : List Char} {ps more : List (List Char)} {fuel : Nat}

/-- `0x` or `0X` with hexadecimal digits behind. -/
def IsHash (s : List Char) : Prop :=
  ∃ x digits, s = '0' :: x :: digits ∧ (x = 'x' ∨ x = 'X') ∧ digits ≠ [] ∧
    ∀ c ∈ digits, isHexDigit c

/-- Decimal digits of any script. -/
def IsNumber (s : List Char) : Prop := s ≠ [] ∧ ∀ c ∈ s, isDecimalDigit c

theorem covers_hash : Mark.hash.covers s ↔ IsHash s := by
  constructor
  · intro h
    unfold Mark.covers at h
    split at h
    · rename_i x digits _
      simp only [Bool.and_eq_true, Bool.or_eq_true, decide_eq_true_eq, Bool.not_eq_true',
        List.isEmpty_eq_false_iff, List.all_eq_true] at h
      exact ⟨x, digits, rfl, h.1.1, h.1.2, h.2⟩
    · cases h
    · contradiction
  · rintro ⟨x, digits, rfl, hx, hne, hex⟩
    simpa [Mark.covers, hne] using ⟨hx, hex⟩

theorem covers_number : Mark.number.covers s ↔ IsNumber s := by
  simp [Mark.covers, IsNumber]

instance : DecidablePred IsHash := fun _ => decidable_of_iff _ covers_hash

instance : DecidablePred IsNumber := fun _ => decidable_of_iff _ covers_number

/-- What a segment is shown as. -/
def segmentLabel (s : List Char) : List Char :=
  if IsHash s then "\x7bhash\x7d".toList else if IsNumber s then "\x7bid\x7d".toList else s

namespace Mark

def label (m : Mark) (s : List Char) : List Char := if m.covers s then m.placeholder else s

/-- What a pass makes of the segments behind a slash. -/
def sweep (m : Mark) : List (List Char) → List (List Char)
  | [] => []
  | [s] => [m.label s]
  | s :: t :: rest =>
    if m.covers s then m.placeholder :: t :: m.sweep rest else s :: m.sweep (t :: rest)

/-- The loop over the passes: another one as long as there is something to replace. -/
inductive Settles (m : Mark) : List Char → List Char → Prop
  | done {cs : List Char} (clear : m.occurs cs = false) : m.Settles cs cs
  | again {cs out : List Char} (occurs : m.occurs cs = true) (rest : m.Settles (m.pass 0 cs) out) :
      m.Settles cs out

-- ---------------------------------------------------------------------------
-- One segment
-- ---------------------------------------------------------------------------

@[simp] theorem covers_placeholder (m k : Mark) : m.covers k.placeholder = false := by
  cases m <;> cases k <;> decide

theorem covers_label (m : Mark) (s : List Char) : m.covers (m.label s) = false := by
  unfold label
  split
  · exact covers_placeholder m m
  · rename_i h
    simpa using h

theorem label_of_not_covers (h : m.covers s = false) : m.label s = s := by simp [label, h]

theorem slash_not_mem_placeholder (m : Mark) : '/' ∉ m.placeholder := by
  cases m <;> decide

theorem slash_not_mem_label (h : '/' ∉ s) : '/' ∉ m.label s := by
  unfold label
  split
  · exact m.slash_not_mem_placeholder
  · exact h

theorem plain_label (h : Plain s) : Plain (m.label s) := by
  unfold label
  split
  · cases m <;> exact plain_of_short (by decide)
  · exact h

theorem label_label (s : List Char) : number.label (hash.label s) = segmentLabel s := by
  unfold segmentLabel
  by_cases hs : IsHash s
  · rw [if_pos hs, label, label, if_pos (covers_hash.mpr hs), covers_placeholder]
    rfl
  · have hhash : hash.label s = s := if_neg (mt covers_hash.mp hs)
    rw [if_neg hs, hhash, label]
    simp only [covers_number]
    rfl

-- ---------------------------------------------------------------------------
-- One pass
-- ---------------------------------------------------------------------------

theorem pass_drop (m : Mark) (n : Nat) (cs : List Char) : m.pass n cs = m.pass 0 (cs.drop n) := by
  induction n generalizing cs with
  | zero => rfl
  | succ n ih =>
    cases cs with
    | nil => rfl
    | cons c cs => rw [pass, List.drop_succ_cons, ih]

/-- What stands before a slash stays. -/
theorem pass_before (hs : '/' ∉ s) (cs : List Char) : m.pass 0 (s ++ cs) = s ++ m.pass 0 cs := by
  induction s with
  | nil => rfl
  | cons c s ih =>
    rw [List.mem_cons, not_or] at hs
    rw [List.cons_append, pass, if_neg fun h => hs.1 h.1.symm, ih hs.2, List.cons_append]

theorem ne_slash (hs : '/' ∉ s) : ∀ c ∈ s, decide (c ≠ '/') = true :=
  fun c hc => decide_eq_true fun h : c = '/' => hs (h ▸ hc)

theorem takeWhile_behind (hs : '/' ∉ s) : (s ++ '/' :: cs).takeWhile (· ≠ '/') = s := by
  rw [List.takeWhile_append_of_pos (ne_slash hs)]
  simp

theorem pass_last (hs : '/' ∉ s) : m.pass 0 ('/' :: s) = '/' :: m.label s := by
  unfold label
  rw [pass, List.takeWhile_eq_self_iff.mpr (ne_slash hs)]
  by_cases h : m.covers s
  · simp [h, pass_drop m s.length, pass]
  · have hstays := pass_before (m := m) hs []
    simpa [h, pass] using hstays

/-- A segment that is replaced takes its closing slash with it. -/
theorem pass_covered (hs : '/' ∉ s) (h : m.covers s) (cs : List Char) :
    m.pass 0 ('/' :: s ++ '/' :: cs) = '/' :: m.placeholder ++ '/' :: m.pass 0 cs := by
  rw [List.cons_append, pass, takeWhile_behind hs, List.drop_left]
  simp [h, pass_drop m (s.length + 1)]

theorem pass_uncovered (hs : '/' ∉ s) (h : m.covers s = false) (cs : List Char) :
    m.pass 0 ('/' :: s ++ '/' :: cs) = '/' :: s ++ m.pass 0 ('/' :: cs) := by
  rw [List.cons_append, pass, takeWhile_behind hs]
  simp [h, pass_before hs]

theorem pass_behind (hp : ∀ p ∈ ps, '/' ∉ p) :
    m.pass 0 (ps.flatMap ('/' :: ·)) = (m.sweep ps).flatMap ('/' :: ·) := by
  induction ps using sweep.induct m with
  | case1 => rfl
  | case2 s => simpa [sweep] using pass_last (hp s List.mem_cons_self)
  | case3 s t rest h ih =>
    simp only [List.forall_mem_cons] at hp
    have hpass := pass_covered hp.1 h (t ++ rest.flatMap ('/' :: ·))
    rw [pass_before hp.2.1, ih hp.2.2] at hpass
    simpa [sweep, h] using hpass
  | case4 s t rest h ih =>
    simp only [List.forall_mem_cons] at hp ih
    rw [Bool.not_eq_true] at h
    have hpass := pass_uncovered hp.1 h (t ++ rest.flatMap ('/' :: ·))
    rw [← List.cons_append, ← List.flatMap_cons, ih hp.2] at hpass
    simpa [sweep, h] using hpass

-- ---------------------------------------------------------------------------
-- What a pass does to the segments
-- ---------------------------------------------------------------------------

theorem slash_not_mem_sweep (hp : ∀ p ∈ ps, '/' ∉ p) : ∀ p ∈ m.sweep ps, '/' ∉ p := by
  induction ps using sweep.induct m with
  | case1 => exact hp
  | case2 s => simpa [sweep] using slash_not_mem_label (hp s List.mem_cons_self)
  | case3 s t rest h ih =>
    simp only [List.forall_mem_cons] at hp
    simpa [sweep, h] using ⟨m.slash_not_mem_placeholder, hp.2.1, ih hp.2.2⟩
  | case4 s t rest h ih =>
    rw [List.forall_mem_cons] at hp
    simpa [sweep, h] using ⟨hp.1, ih hp.2⟩

/-- A segment stands for the same before and after a pass. -/
theorem map_label_sweep (ps : List (List Char)) :
    (m.sweep ps).map m.label = ps.map m.label := by
  induction ps using sweep.induct m with
  | case1 => rfl
  | case2 s => simp [sweep, label_of_not_covers (covers_label m s)]
  | case3 s t rest h ih => simp [sweep, h, ih, label]
  | case4 s t rest h ih => simp [sweep, h, ih]

/-- A pass that meets a covered segment leaves fewer of them. -/
theorem countP_sweep (ps : List (List Char)) :
    (m.sweep ps).countP m.covers + (if ps.any m.covers then 1 else 0) ≤ ps.countP m.covers := by
  induction ps using sweep.induct m with
  | case1 => simp [sweep]
  | case2 s =>
    by_cases h : m.covers s <;> simp [sweep, covers_label, h]
  | case3 s t rest h ih =>
    simp only [sweep, h, if_true, List.countP_cons, covers_placeholder, List.any_cons,
      Bool.true_or]
    simp only [Bool.false_eq_true, if_false]
    omega
  | case4 s t rest h ih =>
    rw [Bool.not_eq_true] at h
    simpa [sweep, h] using ih

-- ---------------------------------------------------------------------------
-- The passes together
-- ---------------------------------------------------------------------------

theorem occurs_behind (hs : '/' ∉ first) (hp : ∀ p ∈ more, '/' ∉ p) :
    m.occurs (first ++ more.flatMap ('/' :: ·)) = more.any m.covers := by
  rw [occurs, pieces_behind hs hp, List.tail_cons]

theorem exhaust_of_clear (h : m.occurs cs = false) : m.exhaust fuel cs = cs := by
  cases fuel with
  | zero => rfl
  | succ fuel => rw [exhaust, h, if_neg Bool.false_ne_true]

theorem settles_exhaust (hs : '/' ∉ first) (hp : ∀ p ∈ more, '/' ∉ p)
    (hf : more.countP m.covers ≤ fuel) :
    m.Settles (first ++ more.flatMap ('/' :: ·))
      (m.exhaust fuel (first ++ more.flatMap ('/' :: ·))) := by
  induction fuel generalizing more with
  | zero =>
    refine .done ?_
    rw [occurs_behind hs hp, List.any_eq_false]
    exact List.countP_eq_zero.mp (Nat.le_zero.mp hf)
  | succ fuel ih =>
    rw [exhaust]
    split
    · rename_i h
      refine .again h ?_
      have hcount := m.countP_sweep more
      rw [occurs_behind hs hp] at h
      rw [if_pos h] at hcount
      rw [pass_before hs, pass_behind hp]
      exact ih (slash_not_mem_sweep hp) (by omega)
    · rename_i h
      exact .done (by simpa using h)

theorem length_le_behind (first : List Char) (more : List (List Char)) :
    more.length ≤ (first ++ more.flatMap ('/' :: ·)).length := by
  induction more with
  | nil => exact Nat.zero_le _
  | cons p more ih =>
    simp only [List.length_append, List.length_cons, List.flatMap_cons] at ih ⊢
    omega

/-- As many passes as there are characters are enough. -/
theorem settles_exhaust_length (m : Mark) (cs : List Char) :
    m.Settles cs (m.exhaust cs.length cs) := by
  obtain ⟨first, more, hs, hp, rfl⟩ := exists_behind '/' cs
  exact settles_exhaust hs hp (List.countP_le_length.trans (length_le_behind first more))

theorem Settles.eq (h : m.Settles cs out) (hcs : cs = first ++ more.flatMap ('/' :: ·))
    (hs : '/' ∉ first) (hp : ∀ p ∈ more, '/' ∉ p) :
    out = first ++ (more.map m.label).flatMap ('/' :: ·) := by
  induction h generalizing more with
  | done hclear =>
    rw [hcs, occurs_behind hs hp, List.any_eq_false] at hclear
    have hstay : ∀ p ∈ more, m.label p = id p :=
      fun p hp => label_of_not_covers (by simpa using hclear p hp)
    rw [hcs, List.map_congr_left hstay, List.map_id]
  | again _ _ ih =>
    rw [← map_label_sweep]
    refine ih ?_ (slash_not_mem_sweep hp)
    rw [hcs, pass_before hs, pass_behind hp]

end Mark

-- ---------------------------------------------------------------------------
-- The label of a path
-- ---------------------------------------------------------------------------

theorem not_isHash_segmentLabel (s : List Char) : ¬ IsHash (segmentLabel s) := by
  rw [← covers_hash, ← Mark.label_label, Mark.label]
  split
  · simp
  · simp [Mark.covers_label]

theorem not_isNumber_segmentLabel (s : List Char) : ¬ IsNumber (segmentLabel s) := by
  rw [← covers_number, ← Mark.label_label]
  simp [Mark.covers_label]

theorem plain_segmentLabel (h : Plain s) : Plain (segmentLabel s) :=
  Mark.label_label s ▸ Mark.plain_label (Mark.plain_label h)

theorem slash_not_mem_segmentLabel (h : '/' ∉ s) : '/' ∉ segmentLabel s :=
  Mark.label_label s ▸ Mark.slash_not_mem_label (Mark.slash_not_mem_label h)

theorem count_slash_replaced (h : Replaced cs out) : out.count '/' = cs.count '/' := by
  induction h with
  | nil => rfl
  | identifier hid _ ih =>
    have hnone := List.count_eq_zero.mpr (hid.not_mem (c := '/') (by decide))
    rw [List.count_append, List.count_append, ih, hnone]
    rfl
  | other _ _ ih => rw [List.count_cons, List.count_cons, ih]

/-- A text without identifiers whose segments are labelled is its own label. -/
theorem ofPath_labelled (hs : '/' ∉ first) (hp : ∀ p ∈ more, '/' ∉ p)
    (hplain : ∀ p ∈ first :: more, Plain p) (hlabel : ∀ p ∈ more, ¬ IsHash p ∧ ¬ IsNumber p) :
    ofPath (.ofList (first ++ more.flatMap ('/' :: ·))) =
      .ofList (first ++ more.flatMap ('/' :: ·)) := by
  have hhash : Mark.hash.occurs (first ++ more.flatMap ('/' :: ·)) = false := by
    rw [Mark.occurs_behind hs hp, List.any_eq_false]
    exact fun p hp => mt covers_hash.mp (hlabel p hp).1
  have hnumber : Mark.number.occurs (first ++ more.flatMap ('/' :: ·)) = false := by
    rw [Mark.occurs_behind hs hp, List.any_eq_false]
    exact fun p hp => mt covers_number.mp (hlabel p hp).2
  simp only [ofPath, String.toList_ofList, (plain_behind hplain).replaceIdentifiers_eq,
    Mark.exhaust_of_clear hhash, Mark.exhaust_of_clear hnumber]

/-- The label of a path is its text with identifiers replaced and every segment behind a slash
labelled on its own; both loops over the passes end in it. No hash or number is left, the segments
are as many as before, and a label is its own label. -/
theorem ofPath_segments (path : String) :
    ∃ plain hashed out first more,
      Replaced path.toList plain ∧ Mark.hash.Settles plain hashed ∧
      Mark.number.Settles hashed out ∧ ofPath path = .ofList out ∧
      pieces '/' plain = first :: more ∧
      pieces '/' out = first :: more.map segmentLabel ∧
      (∀ s ∈ more.map segmentLabel, ¬ IsHash s ∧ ¬ IsNumber s) ∧
      (pieces '/' out).length = (pieces '/' path.toList).length ∧
      ofPath (ofPath path) = ofPath path := by
  have hreplaced := replaced path.toList
  generalize hplain : replaceIdentifiers 0 path.toList = plain at hreplaced
  obtain ⟨first, more, hs, hp, htext⟩ := exists_behind '/' plain
  have hhash := Mark.hash.settles_exhaust_length plain
  have hnumber := Mark.number.settles_exhaust_length (Mark.hash.exhaust plain.length plain)
  generalize hhashed : Mark.hash.exhaust plain.length plain = hashed at hhash hnumber
  generalize hout : Mark.number.exhaust hashed.length hashed = out at hnumber
  have hslash : ∀ s ∈ more.map segmentLabel, '/' ∉ s :=
    List.forall_mem_map.mpr fun s hs => slash_not_mem_segmentLabel (hp s hs)
  have htextOut : out = first ++ (more.map segmentLabel).flatMap ('/' :: ·) := by
    rw [hnumber.eq (hhash.eq htext hs hp) hs
      (List.forall_mem_map.mpr fun s hs => Mark.slash_not_mem_label (hp s hs)), List.map_map]
    simp only [Function.comp_def, Mark.label_label]
  have hlabel : ofPath path = .ofList out := by
    simp only [ofPath, hplain, hhashed, hout]
  have hleft : ∀ s ∈ more.map segmentLabel, ¬ IsHash s ∧ ¬ IsNumber s :=
    List.forall_mem_map.mpr fun s _ => ⟨not_isHash_segmentLabel s, not_isNumber_segmentLabel s⟩
  have hpieces : pieces '/' plain = first :: more := htext ▸ pieces_behind hs hp
  have hpiecesOut : pieces '/' out = first :: more.map segmentLabel :=
    htextOut ▸ pieces_behind hs hslash
  refine ⟨plain, hashed, out, first, more, hreplaced, hhash, hnumber, hlabel, hpieces, hpiecesOut,
    hleft, ?_, ?_⟩
  · rw [length_pieces _ path.toList, ← count_slash_replaced hreplaced, ← length_pieces, hpieces,
      hpiecesOut, List.length_cons, List.length_cons, List.length_map]
  · have hwithin : ∀ p ∈ first :: more, Plain p := fun p hp =>
      hreplaced.plain.within (htext ▸ infix_behind hp)
    rw [List.forall_mem_cons] at hwithin
    have hplainOut : ∀ p ∈ first :: more.map segmentLabel, Plain p :=
      List.forall_mem_cons.mpr ⟨hwithin.1,
        List.forall_mem_map.mpr fun s hs => plain_segmentLabel (hwithin.2 s hs)⟩
    rw [hlabel, htextOut]
    exact ofPath_labelled hs hslash hplainOut hleft

/-- Neighbours, of which one pass misses every other one. -/
example : ofPath "/1/2/0xab/0Xc/3" =
    "/\x7bid\x7d/\x7bid\x7d/\x7bhash\x7d/\x7bhash\x7d/\x7bid\x7d" := by
  decide +kernel

end ChainGateway.Metrics.PathLabel
