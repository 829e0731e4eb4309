import Mathlib.Data.List.Forall2
import ChainGateway.Proofs.Remote.Segments

/-!
# Callers' texts in the addresses of an indexer

A text that holds nothing that is ignored in an address is one segment of the address of its query,
between the segments that the query has of its own, and other texts and queries have other
addresses. An ignored character is dropped without a word, so what is left is another text, or dots
that lead out of the segment before.
-/

namespace ChainGateway

open Text Net Remote Url

-- ---------------------------------------------------------------------------
-- What a query is made of
-- ---------------------------------------------------------------------------

namespace PendingQuery

/-- The text of the caller. -/
def text? : PendingQuery → Option String
  | .transaction hash | .raw hash => some hash
  | .ofAddress address _ => some address
  | .all _ => none

/-- The size of a listing. -/
def count? : PendingQuery → Option Nat
  | .transaction _ | .raw _ => none
  | .ofAddress _ count | .all count => some count

/-- The kind of what is asked for. -/
def topic : PendingQuery → String
  | .transaction _ | .raw _ => "Transaction"
  | .ofAddress .. => "Address"
  | .all _ => "Transactions"

/-- The segments behind the text. -/
def after : PendingQuery → List String
  | .transaction _ | .all _ => []
  | .raw _ => ["Raw"]
  | .ofAddress .. => ["Transactions"]

def segments (q : PendingQuery) : List String :=
  ["api", "MemPool", q.topic] ++ q.text?.toList ++ q.after

/-- The text is not one of those that are refused. -/
def Allowed (q : PendingQuery) : Prop := ∀ v, q.text? = some v → v ≠ "" ∧ v ≠ "." ∧ v ≠ ".."

/-- The text holds nothing that is ignored in an address. -/
def Plain (q : PendingQuery) : Prop := ∀ v, q.text? = some v → visible v.toList = v.toList

theorem literal_topic (q : PendingQuery) : Literal q.topic ∧ isDrive q.topic.toList = false := by
  have htopics : ∀ s ∈ ["Transaction", "Address", "Transactions"],
      Literal s ∧ isDrive s.toList = false := by decide
  cases q <;> exact htopics _ (by simp [topic])

theorem literal_after {q : PendingQuery} {s : String} (h : s ∈ q.after) : Literal s := by
  have hall : ∀ s ∈ ["Raw", "Transactions"], Literal s := by decide
  cases q <;> simp [after] at h <;> exact hall s (by simp [h])

/-- The number of segments tells apart what the topic does not. -/
theorem after_eq {q q' : PendingQuery} (htopic : q.topic = q'.topic)
    (hlength : q.segments.length = q'.segments.length) : q.after = q'.after := by
  cases q <;> cases q' <;> simp_all [topic, segments, text?, after]

theorem eq_of_parts {q q' : PendingQuery} (htopic : q.topic = q'.topic)
    (hafter : q.after = q'.after) (htext : q.text?.toList = q'.text?.toList)
    (hcount : q.count? = q'.count?) : q = q' := by
  cases q <;> cases q' <;> simp_all [topic, text?, after, count?]

theorem count?_isSome {q q' : PendingQuery} (htopic : q.topic = q'.topic) :
    q.count?.isSome = q'.count?.isSome := by
  cases q <;> cases q' <;> simp_all [topic, count?]

end PendingQuery

namespace Remote.Indexer

variable {x : Indexer} {q q' : PendingQuery} {u u' : Url} {s : List Char} {v v' : String}

/-- Every text is let through but for the empty one and the dots. -/
theorem bind_segment {α : Type} {field : String} {f : String → α} {a : α} :
    (segment field v >>= fun s => .ok (f s)) = .ok a ↔
      (v ≠ "" ∧ v ≠ "." ∧ v ≠ "..") ∧ a = f v := by
  unfold segment
  split
  · rename_i h
    refine ⟨nofun, fun hv => ?_⟩
    rcases h with h | h | h
    · exact absurd h hv.1.1
    · exact absurd h hv.1.2.1
    · exact absurd h hv.1.2.2
  · rename_i h
    simp only [not_or] at h
    refine ⟨fun ha => ⟨h, ?_⟩, fun hv => ?_⟩
    · cases ha
      rfl
    · rw [hv.2]
      rfl

/-- The address with the size of a listing in its query. -/
def sized (q : PendingQuery) (u : Url) : Url :=
  match q.count? with
  | some n => u.ask "limit" n
  | none => u

theorem address_ok : x.address q = .ok u ↔ q.Allowed ∧ u = sized q (x.endpoint q.segments) := by
  have hallowed : ∀ v, q.text? = some v → (q.Allowed ↔ v ≠ "" ∧ v ≠ "." ∧ v ≠ "..") := by
    intro v hv
    simp [PendingQuery.Allowed, hv]
  cases q with
  | transaction hash =>
    rw [hallowed hash rfl]
    exact bind_segment
  | raw hash =>
    rw [hallowed hash rfl]
    exact bind_segment
  | ofAddress address count =>
    rw [hallowed address rfl]
    exact bind_segment
  | all count =>
    refine ⟨fun h => ⟨nofun, ?_⟩, fun h => ?_⟩
    · cases h
      rfl
    · rw [h.2]
      rfl

-- ---------------------------------------------------------------------------
-- Where a text ends up
-- ---------------------------------------------------------------------------

/-- The segments in front of the text. -/
def before (x : Indexer) (q : PendingQuery) : List (List Char) :=
  x.base.stem ++ ["api".toList, "MemPool".toList, q.topic.toList]

theorem firm_before (h : x.base.Settled) : Firm x.base.form (x.before q) := by
  have hfirm := (firm_stem h (s := "api".toList) (by decide)).append
    ["MemPool".toList, q.topic.toList]
  rwa [List.append_assoc] at hfirm

theorem push_before (h : x.base.Settled) : ["api", "MemPool", q.topic].foldl Url.push
    x.base.trimPath = { x.base with path := x.before q } := by
  have hfirm := firm_stem h (s := "api".toList) (by decide)
  have hfirm' := hfirm.append ["MemPool".toList]
  rw [List.foldl_cons, List.foldl_cons, List.foldl_cons, List.foldl_nil, push_api h,
    Firm.push_literal hfirm (by decide : Literal "MemPool"),
    Firm.push_literal hfirm' q.literal_topic.1]
  simp [before]

theorem push_after {path : List (List Char)} (h : Firm x.base.form path) :
    q.after.foldl Url.push { x.base with path := path } =
      { x.base with path := path ++ q.after.map String.toList } := by
  cases hafter : q.after with
  | nil => simp
  | cons s more =>
    have hmore : more = [] := by
      cases q <;> cases hafter <;> rfl
    have hs : Literal s := PendingQuery.literal_after (hafter ▸ List.mem_cons_self)
    rw [hmore, List.foldl_cons, List.foldl_nil, Firm.push_literal h hs]
    rfl

/-- A text that is let through leads back from the segment in front of it, or becomes a segment of
what is left of it, which is all of it only if nothing is ignored. -/
theorem push_text_cases (h : x.base.Settled) (hv : v ≠ "" ∧ v ≠ "." ∧ v ≠ "..") :
    ∃ path, { x.base with path := x.before q }.push v = { x.base with path := path } ∧
      Firm x.base.form path ∧
      (path.length = (x.before q).length ∧ visible v.toList ≠ v.toList ∨
        ∃ left, path = x.before q ++ [encode x.base.form left] ∧
          (left = v.toList ↔ visible v.toList = v.toList)) := by
  obtain ⟨hempty, hdot, hdots⟩ := hv
  have hfirm : Firm x.base.form (x.before q) := firm_before h
  have hne : ∀ {w : String}, v ≠ w → v.toList ≠ w.toList := fun hw heq =>
    hw (String.toList_inj.mp heq)
  by_cases hone : visible v.toList = ['.']
  · refine ⟨_, hfirm.push_dot hdot hone, hfirm.append [[]], .inr ⟨[], rfl, ?_⟩⟩
    rw [hone]
    exact ⟨fun he => absurd he.symm (hne hempty), fun he => absurd he.symm (hne hdot)⟩
  by_cases htwo : visible v.toList = ['.', '.']
  · have hpath : x.before q = x.base.stem ++ ["api".toList, "MemPool".toList] ++
        [q.topic.toList] := by simp [before]
    have hstem := (firm_stem h (s := "api".toList) (by decide)).append ["MemPool".toList]
    rw [List.append_assoc] at hstem
    refine ⟨_, Firm.push_dots hstem hpath q.literal_topic.2 hdots htwo, hstem.append [[]],
      .inl ⟨?_, ?_⟩⟩
    · simp [hpath]
    · rw [htwo]
      exact fun he => hne hdots he.symm
  · exact ⟨_, hfirm.push_text hone htwo, hfirm.append _, .inr ⟨visible v.toList, rfl, Iff.rfl⟩⟩

-- ---------------------------------------------------------------------------
-- Addresses
-- ---------------------------------------------------------------------------

/-- The segment is closed, and decodes to the text. -/
structure Spells (form : SchemeForm) (s : List Char) (v : String) : Prop where
  isSealed : Sealed form s
  bytes : percentDecode (utf8Bytes s) = utf8Bytes v.toList

theorem Spells.inj {form : SchemeForm} (h : Spells form s v) (h' : Spells form s v') : v = v' :=
  String.toList_inj.mp (utf8Bytes_inj (h.bytes.symm.trans h'.bytes))

theorem spells_encode {form : SchemeForm} {left : List Char} :
    Spells form (encode form left) v ↔ left = v.toList := by
  have hpercent : encodedInSegment form '%' = true := encodedInSegment_of_mem List.mem_cons_self
  have hdecoded := percentDecode_percentEncode hpercent left
  refine ⟨fun h => utf8Bytes_inj (hdecoded.symm.trans h.bytes), ?_⟩
  rintro rfl
  exact ⟨sealed_percentEncode _, hdecoded⟩

/-- The address is the indexer's own with the segments of the query behind it, those of the caller
spelled out, and with no more in its query than the size that is asked for. -/
def Carries (x : Indexer) (q : PendingQuery) (u : Url) : Prop :=
  ∃ texts, List.Forall₂ (Spells x.base.form) texts q.text?.toList ∧
    u = sized q { x.base with path := x.before q ++ texts ++ q.after.map String.toList }

theorem sized_path (u : Url) : (sized q u).path = u.path := by
  unfold sized
  split
  · unfold ask
    split <;> rfl
  · rfl

/-- An address is as it should be just when nothing of the caller's text was ignored. -/
theorem carries_iff (h : x.base.Settled) (ha : x.address q = .ok u) : x.Carries q u ↔ q.Plain := by
  obtain ⟨hallowed, rfl⟩ := address_ok.mp ha
  unfold Carries endpoint PendingQuery.segments PendingQuery.Plain
  rw [List.foldl_append, List.foldl_append, push_before h]
  cases htext : q.text? with
  | none =>
    refine ⟨fun _ => nofun, fun _ => ⟨[], .nil, ?_⟩⟩
    rw [List.append_nil]
    exact congrArg (sized q) (push_after (firm_before h))
  | some v =>
    obtain ⟨path, hpush, hfirm, hcases⟩ := push_text_cases (q := q) h (hallowed v htext)
    have hpaths : ∀ texts, sized q { x.base with path := path ++ q.after.map String.toList } =
        sized q { x.base with path := x.before q ++ texts ++ q.after.map String.toList } →
        path = x.before q ++ texts := by
      intro texts heq
      have hpath := congrArg Url.path heq
      rw [sized_path, sized_path] at hpath
      exact List.append_cancel_right hpath
    have hplain : (∀ w, some v = some w → visible w.toList = w.toList) ↔
        visible v.toList = v.toList := by simp
    rw [Option.toList_some, List.foldl_cons, List.foldl_nil, hpush, push_after hfirm, hplain]
    rcases hcases with ⟨hlength, hnot⟩ | ⟨left, rfl, hiff⟩
    · refine iff_of_false ?_ hnot
      rintro ⟨texts, htexts, heq⟩
      rw [hpaths texts heq, List.length_append, htexts.length_eq] at hlength
      simp at hlength
    · rw [← hiff]
      refine ⟨?_, fun hleft => ⟨[encode x.base.form left], ?_, rfl⟩⟩
      · rintro ⟨texts, htexts, heq⟩
        rw [← List.append_cancel_left (hpaths texts heq)] at htexts
        cases htexts with
        | cons hspells _ => exact spells_encode.mp hspells
      · exact .cons (spells_encode.mpr hleft) .nil

theorem new_settled {address : String} (h : Indexer.new address = .ok x) : x.base.Settled := by
  unfold Indexer.new at h
  dsimp only at h
  split at h
  · rename_i base hparse
    cases h
    exact parse_settled hparse
  · cases h

-- ---------------------------------------------------------------------------
-- Addresses and the queries they are of
-- ---------------------------------------------------------------------------

/-- The query of an address with the size of a listing behind what was there. -/
def sizeText (q : PendingQuery) (there : Option (List Char)) : Option (List Char) :=
  match q.count? with
  | some n =>
    let front := match there with
      | none | some [] => []
      | some there => there ++ ['&']
    some (front ++ "limit=".toList ++ natural n)
  | none => there

theorem sized_eq (u : Url) : sized q u = { u with query := sizeText q u.query } := by
  unfold sized sizeText
  cases q.count? with
  | none => rfl
  | some n =>
    unfold ask
    cases hquery : u.query with
    | none => simp
    | some there => cases there <;> simp

theorem sizeText_inj {there : Option (List Char)} (htopic : q.topic = q'.topic)
    (h : sizeText q there = sizeText q' there) : q.count? = q'.count? := by
  have hsome := PendingQuery.count?_isSome htopic
  unfold sizeText at h
  cases hn : q.count? with
  | none =>
    rw [hn] at hsome
    exact (Option.not_isSome_iff_eq_none.mp (by simp [← hsome])).symm
  | some n =>
    rw [hn] at hsome h
    obtain ⟨m, hm⟩ := Option.isSome_iff_exists.mp hsome.symm
    rw [hm] at h ⊢
    rw [natural_inj (List.append_cancel_left (Option.some.inj h))]

/-- The segments that a query adds. -/
def added (q : PendingQuery) (texts : List (List Char)) : List (List Char) :=
  "api".toList :: "MemPool".toList :: q.topic.toList :: (texts ++ q.after.map String.toList)

theorem sealed_of_spells {form : SchemeForm} {texts : List (List Char)} {vs : List String}
    (h : List.Forall₂ (Spells form) texts vs) : ∀ s ∈ texts, Sealed form s := by
  induction h with
  | nil => nofun
  | cons hs _ ih =>
    intro s hmem
    rcases List.mem_cons.mp hmem with rfl | hmem
    · exact hs.isSealed
    · exact ih s hmem

theorem sealed_added {form : SchemeForm} {texts : List (List Char)}
    (h : List.Forall₂ (Spells form) texts q.text?.toList) : ∀ s ∈ added q texts, Sealed form s := by
  intro s hs
  have hlit : ∀ {v : String}, Literal v → s = v.toList → Sealed form s := by
    rintro v hv rfl
    exact hv.isSealed
  rcases List.mem_cons.mp hs with hs | hs
  · exact hlit (by decide) hs
  rcases List.mem_cons.mp hs with hs | hs
  · exact hlit (by decide) hs
  rcases List.mem_cons.mp hs with hs | hs
  · exact hlit q.literal_topic.1 hs
  rcases List.mem_append.mp hs with hs | hs
  · exact sealed_of_spells h s hs
  · obtain ⟨v, hv, rfl⟩ := List.mem_map.mp hs
    exact (PendingQuery.literal_after hv).isSealed

/-- Queries that are spelled out to the same address are the same. -/
theorem carries_inj (hc : x.Carries q u) (hc' : x.Carries q' u') (h : u.print = u'.print) :
    q = q' := by
  obtain ⟨texts, htexts, rfl⟩ := hc
  obtain ⟨texts', htexts', rfl⟩ := hc'
  have hbefore : ∀ (q : PendingQuery) texts, x.before q ++ texts ++ q.after.map String.toList =
      x.base.stem ++ added q texts := by
    intro q texts
    simp [before, added]
  rw [sized_eq, sized_eq, hbefore, hbefore] at h
  obtain ⟨hadded, hsize⟩ := print_inj (sealed_added htexts) (sealed_added htexts') h
  obtain ⟨htopic, hrest⟩ := List.cons.inj (List.cons.inj (List.cons.inj hadded).2).2
  replace htopic : q.topic = q'.topic := String.toList_inj.mp htopic
  have hlength : q.segments.length = q'.segments.length := by
    have hcount := congrArg List.length hrest
    simp only [List.length_append, htexts.length_eq, htexts'.length_eq, List.length_map] at hcount
    simp only [PendingQuery.segments, List.length_append, Nat.add_assoc, hcount]
    rfl
  have hafter := PendingQuery.after_eq htopic hlength
  rw [hafter] at hrest
  obtain rfl := List.append_cancel_right hrest
  have hunique : Relator.RightUnique (Spells x.base.form) := fun _ _ _ hs hs' => hs.inj hs'
  have htext := List.right_unique_forall₂' hunique htexts htexts'
  exact PendingQuery.eq_of_parts htopic hafter htext (sizeText_inj htopic hsize)

/-- For every indexer that can be set: each query whose text is let through has an address; just
when nothing of its text was ignored, that is the indexer's own address with the segments of the
query behind it, the text as one of them, and the size of a listing in its query; and such queries
have different addresses. -/
theorem address_faithful {address : String} (hx : Indexer.new address = .ok x) :
    (∀ q : PendingQuery, q.Allowed → ∃ u, x.address q = .ok u) ∧
    (∀ q u, x.address q = .ok u → (x.Carries q u ↔ q.Plain)) ∧
    (∀ q q' u u', x.address q = .ok u → x.address q' = .ok u' → q.Plain → q'.Plain →
      u.print = u'.print → q = q') := by
  have hsettled := new_settled hx
  refine ⟨fun q hq => ⟨_, address_ok.mpr ⟨hq, rfl⟩⟩, fun q u ha => carries_iff hsettled ha, ?_⟩
  intro q q' u u' ha ha' hplain hplain' hprint
  exact carries_inj ((carries_iff hsettled ha).mpr hplain) ((carries_iff hsettled ha').mpr hplain')
    hprint

/-- A slash stays within its segment. A tab is dropped, so two hashes share an address, and where
only dots are left they lead out of a segment. -/
theorem address_faithful_of_tabs : ∃ x, Indexer.new "http://[::1]:8080" = .ok x ∧
    (∃ u, x.address (.transaction "a/b") = .ok u ∧ x.Carries (.transaction "a/b") u) ∧
    (∃ u, x.address (.transaction "a\tb") = .ok u ∧ x.address (.transaction "ab") = .ok u ∧
      ¬x.Carries (.transaction "a\tb") u) ∧
    ∃ u, x.address (.transaction ".\t.") = .ok u ∧
      u.print = "http://[::1]:8080/api/MemPool/" ∧ ¬x.Carries (.transaction ".\t.") u := by
  let address (path : List String) : Url :=
    ⟨"http".toList, some ⟨[], "[::1]".toList, some 8080⟩, false, path.map String.toList, none, none⟩
  let x : Indexer := ⟨address [""], "http://[::1]:8080"⟩
  have hx : Indexer.new "http://[::1]:8080" = .ok x := by decide +kernel
  have hslash : x.address (.transaction "a/b") =
      .ok (address ["api", "MemPool", "Transaction", "a%2Fb"]) := by decide +kernel
  have htab : x.address (.transaction "a\tb") =
      .ok (address ["api", "MemPool", "Transaction", "ab"]) := by decide +kernel
  have hsame : x.address (.transaction "ab") =
      .ok (address ["api", "MemPool", "Transaction", "ab"]) := by decide +kernel
  have hdots : x.address (.transaction ".\t.") = .ok (address ["api", "MemPool", ""]) := by
    decide +kernel
  have hplain : (PendingQuery.transaction "a/b").Plain := by
    rintro _ ⟨⟩
    decide
  obtain ⟨-, hcarries, -⟩ := address_faithful hx
  refine ⟨x, hx, ⟨_, hslash, (hcarries _ _ hslash).mpr hplain⟩, ⟨_, htab, hsame, fun h => ?_⟩,
    _, hdots, by decide +kernel, fun h => ?_⟩
  · exact absurd ((hcarries _ _ htab).mp h _ rfl) (by decide)
  · exact absurd ((hcarries _ _ hdots).mp h _ rfl) (by decide)

end Remote.Indexer
end ChainGateway
