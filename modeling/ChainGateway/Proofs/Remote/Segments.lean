import ChainGateway.Proofs.Net.PercentLaws
import ChainGateway.Proofs.Results
import ChainGateway.Proofs.Text.PieceLaws
import ChainGateway.Remote.Indexer

/-!
# Segments of an address

A text that is pushed onto a path that has begun becomes its last segment, which decodes to the
text. What is ignored in an address is dropped first, and dots that are left then stand for the
path so far or lead out of its last segment.
-/

namespace ChainGateway.Remote

open Text Net

-- ---------------------------------------------------------------------------
-- Encoded segments
-- ---------------------------------------------------------------------------

/-- The characters that end a segment or are ignored in it. -/
def breaks : List Char := "/?#\t\n\r".toList

/-- The segment holds nothing that would end it. -/
def Sealed (form : SchemeForm) (s : List Char) : Prop :=
  ∀ c ∈ s, c ∉ breaks ∧ (form ≠ .other → c ≠ '\\')

namespace Url

variable {form : SchemeForm} {cs s : List Char} {c : Char} {done path : List (List Char)}
  {u : Url} {v : String}

theorem encodedInSegment_of_mem (h : c ∈ '%' :: breaks) : encodedInSegment form c = true := by
  have hall : ('%' :: breaks).all (fun c => encodedInPath c || c = '/' || c = '%') = true := by
    decide
  unfold encodedInSegment
  rw [List.all_eq_true.mp hall c h, Bool.true_or]

theorem encodedInSegment_dot : encodedInSegment form '.' = false := by
  simp [encodedInSegment, encodedInPath, encodedInFragment]

theorem sealed_percentEncode (cs : List Char) :
    Sealed form (percentEncode (encodedInSegment form) cs) := by
  intro c hc
  rcases mem_percentEncode hc with ⟨-, hplain⟩ | hmark
  · refine ⟨fun hbreak => ?_, ?_⟩
    · rw [encodedInSegment_of_mem (List.mem_cons_of_mem _ hbreak)] at hplain
      cases hplain
    · rintro hform rfl
      simp [encodedInSegment, hform] at hplain
  · have hmarks : percentMarks.all (fun c => c ∉ breaks ∧ c ≠ '\\') = true := by decide
    obtain ⟨hbreaks, hslash⟩ := of_decide_eq_true (List.all_eq_true.mp hmarks c hmark)
    exact ⟨hbreaks, fun _ => hslash⟩

theorem mem_breaks_of_isIgnored (h : isIgnored c = true) : c ∈ breaks := by
  simp only [isIgnored, Bool.or_eq_true, decide_eq_true_eq] at h
  rcases h with (rfl | rfl) | rfl <;> decide

theorem visible_eq_iff : visible cs = cs ↔ ∀ c ∈ cs, isIgnored c = false := by
  simp [visible, List.filter_eq_self]

theorem visible_of_sealed (h : Sealed form s) : visible s = s := by
  refine visible_eq_iff.mpr fun c hc => ?_
  cases hi : isIgnored c with
  | false => rfl
  | true => exact absurd (mem_breaks_of_isIgnored hi) (h c hc).1

theorem plainDots_cons (h : c ≠ '%') : plainDots (c :: cs) = c :: plainDots cs := by
  rw [plainDots]
  · rintro _ rfl
    exact absurd rfl h
  · rintro _ rfl
    exact absurd rfl h

/-- No dot is written as a byte, so dots that can be read in an encoded text stand in it. -/
theorem plainDots_percentByte {b : Nat} (hb : b < 256) (hdot : b ≠ 46) :
    plainDots (percentByte b ++ cs) = percentByte b ++ plainDots cs := by
  have hmarks : ∀ n < 16, upperHexDigit n ≠ '%' := by decide
  have hpair : ∀ b < 256, b ≠ 46 → ¬(upperHexDigit (b / 16) = '2' ∧
      (upperHexDigit (b % 16) = 'e' ∨ upperHexDigit (b % 16) = 'E')) := by decide +kernel
  have hne := hpair b hb hdot
  have hhigh := hmarks (b / 16) (by omega)
  have hlow := hmarks (b % 16) (by omega)
  unfold percentByte
  generalize upperHexDigit (b / 16) = high at *
  generalize upperHexDigit (b % 16) = low at *
  have hcut : plainDots ('%' :: high :: low :: cs) = '%' :: plainDots (high :: low :: cs) := by
    rw [plainDots]
    · intro rest _ h
      obtain ⟨rfl, htail⟩ := List.cons.inj h
      exact hne ⟨rfl, .inl (List.cons.inj htail).1⟩
    · intro rest _ h
      obtain ⟨rfl, htail⟩ := List.cons.inj h
      exact hne ⟨rfl, .inr (List.cons.inj htail).1⟩
  rw [List.cons_append, List.cons_append, List.cons_append, List.nil_append, hcut,
    plainDots_cons hhigh, plainDots_cons hlow]
  rfl

theorem plainDots_percentBytes {bs : List Nat} (hb : ∀ b ∈ bs, b < 256 ∧ b ≠ 46) :
    plainDots (bs.flatMap percentByte ++ cs) = bs.flatMap percentByte ++ plainDots cs := by
  induction bs with
  | nil => rfl
  | cons b bs ih =>
    obtain ⟨hlt, hdot⟩ := hb b List.mem_cons_self
    rw [List.flatMap_cons, List.append_assoc, plainDots_percentByte hlt hdot,
      ih fun b hb' => hb b (List.mem_cons_of_mem _ hb'), List.append_assoc]

theorem plainDots_percentChar :
    plainDots (percentChar (encodedInSegment form) c ++ cs) =
      percentChar (encodedInSegment form) c ++ plainDots cs := by
  unfold percentChar
  split
  · rename_i hc
    refine plainDots_cons fun hpercent => ?_
    rw [hpercent, encodedInSegment_of_mem List.mem_cons_self] at hc
    cases hc
  · rename_i hc
    refine plainDots_percentBytes fun b hb => ⟨lt_of_mem_charBytes hb, ?_⟩
    rintro rfl
    by_cases hascii : c.toNat < 128
    · rw [charBytes_of_ascii hascii, List.mem_singleton] at hb
      rw [Char.toNat_inj.mp (show c.toNat = '.'.toNat from hb.symm), encodedInSegment_dot] at hc
      exact hc rfl
    · exact absurd (le_of_mem_charBytes (Nat.le_of_not_lt hascii) hb) (by decide)

theorem plainDots_percentEncode (cs : List Char) :
    plainDots (percentEncode (encodedInSegment form) cs) =
      percentEncode (encodedInSegment form) cs := by
  induction cs with
  | nil => rfl
  | cons c cs ih => rw [percentEncode_cons, plainDots_percentChar, ih]

/-- What a text is written as within a segment. -/
def encode (form : SchemeForm) (cs : List Char) : List Char :=
  percentEncode (encodedInSegment form) cs

theorem encode_inj {ds : List Char} (h : encode form cs = encode form ds) : cs = ds := by
  have hpercent : encodedInSegment form '%' = true := encodedInSegment_of_mem List.mem_cons_self
  have hdecoded := congrArg (fun text => percentDecode (utf8Bytes text)) h
  dsimp only [encode] at hdecoded
  rw [percentDecode_percentEncode hpercent, percentDecode_percentEncode hpercent] at hdecoded
  exact utf8Bytes_inj hdecoded

theorem encode_dots {dots : List Char} (h : ∀ c ∈ dots, c = '.') : encode form dots = dots := by
  refine percentEncode_of_plain fun c hc => ?_
  rw [h c hc]
  exact ⟨by decide, encodedInSegment_dot⟩

-- ---------------------------------------------------------------------------
-- Paths
-- ---------------------------------------------------------------------------

/-- The path has begun, with a segment that stays in front. -/
structure Firm (form : SchemeForm) (path : List (List Char)) : Prop where
  begun : path ≠ []
  more : path ≠ [[]]
  front : form = .file → path.head? ≠ some []

theorem Firm.append (h : Firm form path) (later : List (List Char)) :
    Firm form (path ++ later) := by
  cases path with
  | nil => exact absurd rfl h.begun
  | cons s rest => 
    refine ⟨nofun, fun heq => ?_, h.front⟩
    obtain ⟨rfl, hrest⟩ := List.cons.inj heq
    exact h.more (by rw [(List.append_eq_nil_iff.mp hrest).1])

theorem Firm.settle (h : Firm form path) : settle form path = path := by
  unfold Url.settle
  split
  · rename_i hform
    cases path with
    | nil => exact absurd rfl h.begun
    | cons s rest =>
      have hs : s ≠ [] := fun hs => h.front hform (by rw [hs]; rfl)
      rw [List.dropWhile_cons_of_neg (by simpa using hs)]
  · rfl

theorem append_of_ne (h : done ≠ []) : append form done s = done ++ [visible s] := by
  simp [append, h]

/-- Only a text of dots is read as dots. -/
theorem close_encode (hd : done ≠ []) (hdot : cs ≠ ['.']) (hdots : cs ≠ ['.', '.']) :
    close form done (encode form cs) = done ++ [encode form cs] := by
  have hvisible : visible (encode form cs) = encode form cs :=
    visible_of_sealed (sealed_percentEncode cs)
  have hplain : plainDots (encode form cs) = encode form cs := plainDots_percentEncode cs
  unfold close
  rw [append_of_ne hd, hvisible, hplain]
  split
  · rename_i h
    exact absurd (encode_inj (h.trans (encode_dots (by simp)).symm)) hdot
  · rename_i h
    exact absurd (encode_inj (h.trans (encode_dots (by simp)).symm)) hdots
  · rfl

/-- How a text is added that is not refused for being dots. -/
theorem Firm.push_eq (h : Firm u.form u.path) (hdot : v ≠ ".") (hdots : v ≠ "..") : u.push v =
    { u with
      path := Url.settle u.form (close u.form u.path (encode u.form (visible v.toList))) } := by
  unfold push
  rw [if_neg (fun hv => hv.elim hdot hdots), if_neg h.more]
  rfl

/-- A text becomes a segment of its own, unless dots are left of it. -/
theorem Firm.push_text (h : Firm u.form u.path) (hdot : visible v.toList ≠ ['.'])
    (hdots : visible v.toList ≠ ['.', '.']) :
    u.push v = { u with path := u.path ++ [encode u.form (visible v.toList)] } := by
  rw [h.push_eq (by rintro rfl; exact hdot rfl) (by rintro rfl; exact hdots rfl),
    close_encode h.begun hdot hdots, (h.append _).settle]

/-- A text of which a dot is left becomes an empty segment. -/
theorem Firm.push_dot (h : Firm u.form u.path) (hv : v ≠ ".")
    (hdot : visible v.toList = ['.']) : u.push v = { u with path := u.path ++ [[]] } := by
  have hdots : v ≠ ".." := by
    rintro rfl
    cases hdot
  rw [h.push_eq hv hdots, hdot, encode_dots (by simp)]
  exact congrArg (fun path => { u with path := path }) (h.append [[]]).settle

/-- A text of which two dots are left leads out of the last segment. -/
theorem Firm.push_dots {last : List Char} (h : Firm u.form done) (hpath : u.path = done ++ [last])
    (hdrive : isDrive last = false) (hv : v ≠ "..") (hdots : visible v.toList = ['.', '.']) :
    u.push v = { u with path := done ++ [[]] } := by
  have hfirm : Firm u.form u.path := by
    rw [hpath]
    exact h.append [last]
  have hdot : v ≠ "." := by
    rintro rfl
    cases hdots
  have hleave : leave u.path = done := by
    rw [leave, hpath, List.getLast?_concat, Option.any_some, hdrive, List.dropLast_concat]
    rfl
  have hclose : close u.form u.path ['.', '.'] = leave u.path ++ [[]] := rfl
  rw [hfirm.push_eq hdot hv, hdots, encode_dots (by simp), hclose, hleave, (h.append _).settle]

-- ---------------------------------------------------------------------------
-- Whole addresses
-- ---------------------------------------------------------------------------

/-- The segments in front of what is added to an address. -/
def stem (u : Url) : List (List Char) := if u.trimPath.path = [[]] then [] else u.trimPath.path

/-- The path of a file does not start with an empty segment. -/
def Settled (u : Url) : Prop := u.form = .file → u.path = [[]] ∨ u.path.head? ≠ some []

theorem settled_settle (h : form = .file) :
    settle form path = [[]] ∨ (settle form path).head? ≠ some [] := by
  have hhead := List.head?_dropWhile_not (fun s : List Char => decide (s = [])) path
  unfold settle
  rw [if_pos h]
  split
  · exact .inl rfl
  · refine .inr fun hempty => ?_
    rw [hempty] at hhead
    cases hhead

theorem parse_settled {text : String} (h : parse text = .ok u) : u.Settled := by
  unfold parse at h
  obtain ⟨⟨scheme, rest⟩, -, h⟩ := bind_ok.mp h
  obtain ⟨⟨authority, path⟩, hread, h⟩ := bind_ok.mp h
  cases h
  intro (hform : formOf scheme = .file)
  rw [hform] at hread
  unfold readHierarchy at hread
  obtain ⟨⟨host, read⟩, -, hread⟩ := bind_ok.mp hread
  cases hread
  exact settled_settle rfl

theorem trimPath_eq (u : Url) : u.trimPath = { u with path := u.trimPath.path } := by
  unfold trimPath
  split <;> rfl

theorem trimPath_prefix (u : Url) : u.trimPath.path <+: u.path := by
  unfold trimPath
  split
  · exact List.dropLast_prefix _
  · exact List.prefix_refl _

/-- What is added to the address of a file does not follow an empty segment. -/
theorem Settled.front (h : u.Settled) (hform : u.form = .file) : u.stem.head? ≠ some [] := by
  unfold Url.stem
  split
  · nofun
  · rename_i hne
    intro hhead
    obtain ⟨rest, hrest⟩ := List.head?_eq_some_iff.mp hhead
    obtain ⟨more, hmore⟩ := u.trimPath_prefix
    rw [hrest] at hmore hne
    rcases h hform with hs | hs
    · rw [hs] at hmore
      obtain ⟨rfl, -⟩ := List.append_eq_nil_iff.mp (List.cons.inj hmore).2
      exact hne rfl
    · rw [← hmore] at hs
      exact hs rfl

/-- A character that is written as it is in every address. -/
def isPlain (c : Char) : Bool := c.toNat < 128 && !encodedInSegment (.web 80) c

theorem encodedInSegment_of_isPlain (h : isPlain c = true) :
    c.toNat < 128 ∧ encodedInSegment form c = false := by
  simp only [isPlain, encodedInSegment, Bool.and_eq_true, decide_eq_true_eq, Bool.not_eq_true',
    Bool.or_eq_false_iff, Bool.and_eq_false_iff, decide_eq_false_iff_not] at h ⊢
  obtain ⟨hascii, ⟨⟨hpath, hslash⟩, hpercent⟩, hback⟩ := h
  exact ⟨hascii, ⟨⟨hpath, hslash⟩, hpercent⟩, .inr (hback.resolve_left (by simp))⟩

/-- A text that is written as it is and stands for itself. -/
def Literal (s : String) : Prop :=
  s.toList.all isPlain = true ∧ s ≠ "" ∧ s ≠ "." ∧ s ≠ ".."

instance (s : String) : Decidable (Literal s) := inferInstanceAs (Decidable (_ ∧ _))

namespace Literal

theorem encode_eq (h : Literal v) : encode form v.toList = v.toList :=
  percentEncode_of_plain fun c hc => encodedInSegment_of_isPlain (List.all_eq_true.mp h.1 c hc)

theorem isSealed (h : Literal v) : Sealed form v.toList :=
  have hencode : encode form v.toList = v.toList := h.encode_eq
  hencode ▸ sealed_percentEncode v.toList

theorem visible_eq (h : Literal v) : visible v.toList = v.toList :=
  have hsealed : Sealed .other v.toList := h.isSealed
  visible_of_sealed hsealed

end Literal

theorem Firm.push_literal (h : Firm u.form u.path) (hv : Literal v) :
    u.push v = { u with path := u.path ++ [v.toList] } := by
  have hne : ∀ {w : String}, v ≠ w → visible v.toList ≠ w.toList := by
    intro w hw heq
    rw [hv.visible_eq] at heq
    exact hw (String.toList_inj.mp heq)
  rw [h.push_text (hne hv.2.2.1) (hne hv.2.2.2), hv.visible_eq, hv.encode_eq]

theorem firm_stem (h : u.Settled) (hs : s ≠ []) : Firm u.form (u.stem ++ [s]) := by
  refine ⟨by simp, fun heq => ?_, fun hform hhead => ?_⟩
  · have hlast := congrArg List.getLast? heq
    rw [List.getLast?_concat] at hlast
    exact hs (Option.some.inj hlast)
  · have hfront := h.front hform
    cases hstem : u.stem with
    | nil =>
      rw [hstem] at hhead
      exact hs (Option.some.inj hhead)
    | cons first rest =>
      rw [hstem] at hhead hfront
      exact hfront hhead

/-- The segment that begins what is added is no drive. -/
theorem push_api (h : u.Settled) :
    u.trimPath.push "api" = { u with path := u.stem ++ ["api".toList] } := by
  have hlit : Literal "api" := by decide
  have hform : u.trimPath.form = u.form := by
    rw [trimPath_eq]
    rfl
  have htext : percentEncode (encodedInSegment u.form) (visible "api".toList) = "api".toList := by
    rw [hlit.visible_eq]
    exact hlit.encode_eq
  have hclose : close u.form u.stem "api".toList = u.stem ++ ["api".toList] := by
    change append u.form u.stem "api".toList = _
    unfold append
    split
    · rename_i hfirst
      rw [hfirst.2]
      rfl
    · rfl
  have hrest : ∀ path, { u.trimPath with path := path } = { u with path := path } := by
    intro path
    rw [trimPath_eq]
  unfold push
  rw [if_neg (by decide), hform, htext, hrest]
  change { u with path := settle u.form (close u.form u.stem "api".toList) } = _
  rw [hclose, (firm_stem h (by decide)).settle]

-- ---------------------------------------------------------------------------
-- Printed addresses
-- ---------------------------------------------------------------------------

def queryText : Option (List Char) → List Char
  | some q => '?' :: q
  | none => []

theorem queryText_inj {q q' : Option (List Char)} (h : queryText q = queryText q') : q = q' := by
  cases q with
  | none =>
    cases q' with
    | none => rfl
    | some q' => cases h
  | some q =>
    cases q' with
    | none => cases h
    | some q' => rw [(List.cons.inj h).2]

/-- A query ends the path in front of it. -/
theorem takeWhile_queryText (q : Option (List Char)) :
    (queryText q).takeWhile (· ≠ '?') = [] := by
  cases q <;> rfl

/-- The text in front of the path. -/
def lead (u : Url) : List Char :=
  u.scheme ++ ':' ::
    (match u.authority with
      | some a => '/' :: '/' :: Authority.print a
      | none => []) ++
    if u.guarded then ['/', '.'] else []

/-- The text behind the query. -/
def tail (u : Url) : List Char :=
  match u.fragment with
  | some f => '#' :: f
  | none => []

theorem print_eq (u : Url) :
    u.print = .ofList (u.lead ++ u.pathText ++ queryText u.query ++ u.tail) := rfl

/-- Addresses that differ in their last segments and their query alone are told apart by their
texts. -/
theorem print_inj {b : Url} {front p p' : List (List Char)} {q q' : Option (List Char)}
    (hp : ∀ s ∈ p, Sealed form s) (hp' : ∀ s ∈ p', Sealed form s)
    (h : { b with path := front ++ p, query := q }.print =
      { b with path := front ++ p', query := q' }.print) : p = p' ∧ q = q' := by
  have hslash : ∀ {p : List (List Char)}, (∀ s ∈ p, Sealed form s) → ∀ s ∈ p, '/' ∉ s :=
    fun hp s hs hc => (hp s hs '/' hc).1 (by decide)
  have hmark : ∀ {p : List (List Char)}, (∀ s ∈ p, Sealed form s) →
      ∀ c ∈ p.flatMap ('/' :: ·), decide (c ≠ '?') = true := by
    intro p hp c hc
    obtain ⟨s, hs, hc⟩ := List.mem_flatMap.mp hc
    rw [decide_eq_true_eq]
    rcases List.mem_cons.mp hc with rfl | hc
    · decide
    · rintro rfl
      exact (hp s hs '?' hc).1 (by decide)
  rw [print_eq, print_eq] at h
  have hread : b.lead ++ (front ++ p).flatMap ('/' :: ·) ++ queryText q =
      b.lead ++ (front ++ p').flatMap ('/' :: ·) ++ queryText q' :=
    List.append_cancel_right (String.ofList_inj.mp h)
  have hboth : p.flatMap ('/' :: ·) ++ queryText q = p'.flatMap ('/' :: ·) ++ queryText q' := by
    rw [List.flatMap_append, List.flatMap_append] at hread
    simp only [List.append_assoc] at hread
    exact List.append_cancel_left (List.append_cancel_left hread)
  have hpath := congrArg (List.takeWhile (· ≠ '?')) hboth
  rw [List.takeWhile_append_of_pos (hmark hp), List.takeWhile_append_of_pos (hmark hp'),
    takeWhile_queryText, takeWhile_queryText, List.append_nil, List.append_nil] at hpath
  rw [hpath] at hboth
  refine ⟨?_, queryText_inj (List.append_cancel_left hboth)⟩
  have hpieces := congrArg (pieces '/' <| [] ++ ·) hpath
  rw [pieces_behind List.not_mem_nil (hslash hp),
    pieces_behind List.not_mem_nil (hslash hp')] at hpieces
  exact (List.cons.inj hpieces).2

end Url
end ChainGateway.Remote
