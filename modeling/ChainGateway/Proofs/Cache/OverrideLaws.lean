import Mathlib.Data.List.Forall2
import ChainGateway.Cache.Overrides
import ChainGateway.Proofs.Cache.KeyTexts
import ChainGateway.Proofs.Results
import ChainGateway.Proofs.Text.BlankLaws
import ChainGateway.Proofs.Text.LowerLaws
import ChainGateway.Proofs.Text.NumeralLaws
import ChainGateway.Proofs.Text.PieceLaws

/-!
# What a list of overrides means

The grammar of an item is stated without its reader: what an item gives an operation, and why
an item is refused. Every item is one or the other, and the reader finds out which. A list is then
followed up to the first item that is refused, and of the items that are followed the last one
about an operation counts.
-/

namespace ChainGateway

open Text

theorem Operation.parse_eq_ok {s : String} {op : Operation} : parse s = .ok op ↔ op.name = s := by
  constructor
  · intro h
    unfold parse at h
    split at h
    · rename_i op' hfind
      obtain rfl := Except.ok.inj h
      simpa using List.find?_some hfind
    · cases h
  · rintro rfl
    exact op.parse_name

theorem Operation.parse_eq_error {s : String} {e : ConfigError} :
    parse s = .error e ↔ e = .unknownOperation s ∧ ∀ op : Operation, op.name ≠ s := by
  constructor
  · intro h
    refine ⟨?_, fun op hop => ?_⟩
    · unfold parse at h
      split at h
      · cases h
      · exact (Except.error.inj h).symm
    · rw [parse_eq_ok.mpr hop] at h
      cases h
  · rintro ⟨rfl, hne⟩
    cases h : parse s with
    | ok op => exact absurd (parse_eq_ok.mp h) (hne op)
    | error e =>
      unfold parse at h
      split at h
      · cases h
      · exact h.symm

/-- There are no blanks in the name of an operation, nor the signs of a list of overrides. -/
theorem Operation.plain_name (op : Operation) :
    op.name.toList ≠ [] ∧ ∀ c ∈ op.name.toList, isBlank c = false ∧ c ∉ [',', '=', ':'] := by
  refine ⟨fun h => op.name_ne_empty (String.toList_eq_nil_iff.mp h), fun c hc => ?_⟩
  have halpha := op.isAlpha_of_mem_name hc
  refine ⟨isBlank_of_isAlpha halpha, fun hsign => ?_⟩
  have hsigns : [',', '=', ':'].all (fun s => !s.isAlpha) = true := by decide
  simpa [halpha] using List.all_eq_true.mp hsigns c hsign

namespace Cache

variable {item piece name rest cs : List Char} {op : Operation} {p : Policy} {t : PolicyTable}
  {e : ConfigError} {n : Nat} {reason : String} {entries : List (Operation × Policy)}

namespace Overrides

-- ---------------------------------------------------------------------------
-- The grammar
-- ---------------------------------------------------------------------------

/-- The word that stands for a policy without room, in whatever case. -/
def IsBypass (cs : List Char) : Prop := cs.map Char.toLower = "bypass".toList

/-- A number of 64 bits with optional blanks around it. -/
def Counts (cs : List Char) (n : Nat) : Prop := ∃ core, Padded core cs ∧ Spells maxU64 core n

/-- An item gives an operation a policy. -/
inductive Gives : List Char → Operation → Policy → Prop
  | bypass {op : Operation} {name rest word : List Char} : Padded op.name.toList name →
    Padded word rest → IsBypass word → Gives (name ++ '=' :: rest) op .bypass
  | sized {op : Operation} {name capacity seconds : List Char} {n s : Nat} :
    Padded op.name.toList name → Counts capacity n → Counts seconds s →
    Gives (name ++ '=' :: (capacity ++ ':' :: seconds)) op ⟨n, .ofSeconds s⟩

/-- An item without blanks around it is refused, at the first of its parts that is wrong. -/
inductive Refused (item : List Char) : ConfigError → Prop
  | noName : '=' ∉ item → Refused item (reject item "expected Op=capacity:ttl_secs or Op=bypass")
  | name {name rest : List Char} : item = name ++ '=' :: rest → '=' ∉ name →
    (∀ op : Operation, ¬Padded op.name.toList name) →
    Refused item (.unknownOperation (.ofList (trimList name)))
  | noPolicy {op : Operation} {name rest : List Char} : item = name ++ '=' :: rest →
    Padded op.name.toList name → ':' ∉ rest → (∀ word, Padded word rest → ¬IsBypass word) →
    Refused item (reject item "expected capacity:ttl_secs")
  | capacity {op : Operation} {name capacity seconds : List Char} :
    item = name ++ '=' :: (capacity ++ ':' :: seconds) → Padded op.name.toList name →
    ':' ∉ capacity → (∀ n, ¬Counts capacity n) →
    Refused item (reject item "capacity is not a number")
  | seconds {op : Operation} {name capacity seconds : List Char} {n : Nat} :
    item = name ++ '=' :: (capacity ++ ':' :: seconds) → Padded op.name.toList name →
    Counts capacity n → (∀ s, ¬Counts seconds s) →
    Refused item (reject item "ttl_secs is not a number")

-- ---------------------------------------------------------------------------
-- Parts of an item
-- ---------------------------------------------------------------------------

theorem bare_name (op : Operation) : Bare op.name.toList :=
  .of_visible fun c hc => (op.plain_name.2 c hc).1

theorem trimList_eq_name : trimList name = op.name.toList ↔ Padded op.name.toList name := by
  rw [trimList_eq_iff]
  exact ⟨fun h => h.1, fun h => ⟨h, bare_name op⟩⟩

theorem equals_not_mem (h : Padded op.name.toList name) : '=' ∉ name :=
  h.not_mem rfl fun hc => (op.plain_name.2 '=' hc).2 (by simp)

theorem visible_of_spells {core : List Char} (h : Spells maxU64 core n) :
    core ≠ [] ∧ ∀ c ∈ core, isBlank c = false ∧ c ≠ ':' := by
  refine ⟨h.mem.1, fun c hc => ?_⟩
  obtain rfl | hd := h.mem.2 c hc
  · decide
  · refine ⟨isBlank_of_isDigit hd, ?_⟩
    rintro rfl
    cases hd

theorem counts_iff : Counts cs n ↔ readNatural maxU64 (trimList cs) = .ok n := by
  rw [readNatural_eq_ok]
  constructor
  · rintro ⟨core, hp, hs⟩
    rw [trimList_of_padded (.of_visible fun c hc => ((visible_of_spells hs).2 c hc).1) hp]
    exact hs
  · intro h
    exact ⟨trimList cs, padded_trimList cs, h⟩

theorem colon_not_mem (h : Counts cs n) : ':' ∉ cs := by
  obtain ⟨core, hp, hs⟩ := h
  exact hp.not_mem rfl fun hc => ((visible_of_spells hs).2 ':' hc).2 rfl

theorem number_eq_ok : number item cs reason = .ok n ↔ Counts cs n := by
  rw [counts_iff, number]
  cases readNatural maxU64 (trimList cs) <;> simp

theorem number_eq_error :
    number item cs reason = .error e ↔ e = reject item reason ∧ ∀ n, ¬Counts cs n := by
  simp only [counts_iff, number]
  cases readNatural maxU64 (trimList cs) with
  | ok n => simp
  | error f => simp [eq_comm]

theorem visible_of_isBypass (h : IsBypass cs) : cs ≠ [] ∧ ∀ c ∈ cs, isBlank c = false := by
  refine ⟨?_, fun c hc => ?_⟩
  · rintro rfl
    cases h
  · have hlower : c.toLower ∈ "bypass".toList := h ▸ List.mem_map_of_mem hc
    obtain hsame | ⟨hlow, hhigh, -⟩ := toLower_cases c
    · have hletters : "bypass".toList.all (fun d => !isBlank d) = true := by decide
      rw [hsame] at hlower
      simpa using List.all_eq_true.mp hletters c hlower
    · exact isBlank_of_graphic (by omega) (by omega)

/-- There are no blanks in the word, so trimming leaves just that. -/
theorem isBypass_trimList : IsBypass (trimList rest) ↔ ∃ word, Padded word rest ∧ IsBypass word := by
  constructor
  · intro h
    exact ⟨trimList rest, padded_trimList rest, h⟩
  · rintro ⟨word, hp, hw⟩
    rw [trimList_of_padded (Bare.of_visible (visible_of_isBypass hw).2) hp]
    exact hw

-- ---------------------------------------------------------------------------
-- Items
-- ---------------------------------------------------------------------------

/-- An item that names an operation is read on behind the equals sign. -/
theorem parseItem_named (hitem : item = name ++ '=' :: rest)
    (hname : Padded op.name.toList name) :
    parseItem item =
      if (trimList rest).map Char.toLower = "bypass".toList then .ok (op, .bypass)
      else match cut? ':' (trimList rest) with
        | none => .error (reject item "expected capacity:ttl_secs")
        | some (capacity, seconds) => (do
          let n ← number item capacity "capacity is not a number"
          let s ← number item seconds "ttl_secs is not a number"
          .ok (op, ⟨n, .ofSeconds s⟩)) := by
  unfold parseItem
  rw [cut?_eq_some_iff.mpr ⟨hitem, equals_not_mem hname⟩]
  dsimp only
  rw [trimList_eq_name.mpr hname, String.ofList_toList, op.parse_name]
  rfl

theorem not_isBypass_trimList (h : ∀ word, Padded word rest → ¬IsBypass word) :
    ¬(trimList rest).map Char.toLower = "bypass".toList := fun hw =>
  h (trimList rest) (padded_trimList rest) hw

theorem not_isBypass_of_colon (h : ':' ∈ rest) (word : List Char) (hp : Padded word rest) :
    ¬IsBypass word := by
  intro hw
  have hword : ':' ∉ word := by
    intro hc
    have hlower := List.mem_map_of_mem (f := Char.toLower) hc
    rw [hw] at hlower
    exact absurd hlower (by decide)
  exact hp.not_mem rfl hword h

/-- The numbers of an item are read with the blanks around each of them left out. -/
theorem parseItem_numbers {capacity seconds : List Char}
    (hitem : item = name ++ '=' :: (capacity ++ ':' :: seconds))
    (hname : Padded op.name.toList name) (hc : ':' ∉ capacity) :
    parseItem item = (do
      let n ← number item capacity "capacity is not a number"
      let s ← number item seconds "ttl_secs is not a number"
      .ok (op, ⟨n, .ofSeconds s⟩)) := by
  have hcolon : ':' ∈ capacity ++ ':' :: seconds := by simp
  have hnot := not_isBypass_trimList (not_isBypass_of_colon hcolon)
  have hfront : ':' ∉ capacity.dropWhile isBlank := fun h =>
    hc ((List.dropWhile_sublist isBlank).subset h)
  have hcut := cut?_eq_some_iff.mpr ⟨trimList_append_cons (c := ':') rfl capacity seconds, hfront⟩
  rw [parseItem_named hitem hname, if_neg hnot, hcut]
  simp only [number, trimList_dropWhile, trimList_dropWhile_reverse]

theorem Gives.parseItem (h : Gives item op p) : parseItem item = .ok (op, p) := by
  cases h with
  | bypass hname hp hw =>
    rw [parseItem_named rfl hname]
    exact if_pos (isBypass_trimList.mpr ⟨_, hp, hw⟩)
  | sized hname hn hs =>
    rw [parseItem_numbers rfl hname (colon_not_mem hn), number_eq_ok.mpr hn, number_eq_ok.mpr hs]
    rfl

theorem Refused.parseItem (h : Refused item e) : parseItem item = .error e := by
  cases h with
  | noName hnot =>
    unfold Overrides.parseItem
    rw [cut?_eq_none_iff.mpr hnot]
  | @name name rest hitem hnot hne =>
    have hparse : Operation.parse (.ofList (trimList name)) =
        .error (.unknownOperation (.ofList (trimList name))) := by
      refine Operation.parse_eq_error.mpr ⟨rfl, fun op hop => hne op ?_⟩
      rw [← trimList_eq_name, hop, String.toList_ofList]
    unfold Overrides.parseItem
    rw [cut?_eq_some_iff.mpr ⟨hitem, hnot⟩]
    dsimp only
    rw [hparse]
    rfl
  | @noPolicy op name rest hitem hname hc hnot =>
    have htrim : ':' ∉ trimList rest := fun h => hc ((padded_trimList rest).subset h)
    rw [parseItem_named hitem hname, if_neg (not_isBypass_trimList hnot),
      cut?_eq_none_iff.mpr htrim]
  | capacity hitem hname hc hnot =>
    rw [parseItem_numbers hitem hname hc, number_eq_error.mpr ⟨rfl, hnot⟩]
    rfl
  | seconds hitem hname hn hnot =>
    rw [parseItem_numbers hitem hname (colon_not_mem hn), number_eq_ok.mpr hn,
      number_eq_error.mpr ⟨rfl, hnot⟩]
    rfl

/-- Every item gives a policy or is refused. -/
theorem gives_or_refused (item : List Char) :
    (∃ op p, Gives item op p) ∨ ∃ e, Refused item e := by
  cases hequals : cut? '=' item with
  | none => exact .inr ⟨_, .noName (cut?_eq_none_iff.mp hequals)⟩
  | some parts =>
    obtain ⟨name, rest⟩ := parts
    obtain ⟨hitem, hnot⟩ := cut?_eq_some_iff.mp hequals
    by_cases hop : ∃ op : Operation, Padded op.name.toList name
    · obtain ⟨op, hname⟩ := hop
      cases hcolon : cut? ':' rest with
      | none =>
        by_cases hword : ∃ word, Padded word rest ∧ IsBypass word
        · obtain ⟨word, hp, hw⟩ := hword
          subst hitem
          exact .inl ⟨op, _, .bypass hname hp hw⟩
        · exact .inr ⟨_, .noPolicy hitem hname (cut?_eq_none_iff.mp hcolon)
            fun word hp hw => hword ⟨word, hp, hw⟩⟩
      | some numbers =>
        obtain ⟨capacity, seconds⟩ := numbers
        obtain ⟨rfl, hc⟩ := cut?_eq_some_iff.mp hcolon
        by_cases hn : ∃ n, Counts capacity n
        · obtain ⟨n, hn⟩ := hn
          by_cases hs : ∃ s, Counts seconds s
          · obtain ⟨s, hs⟩ := hs
            subst hitem
            exact .inl ⟨op, _, .sized hname hn hs⟩
          · exact .inr ⟨_, .seconds hitem hname hn fun s h => hs ⟨s, h⟩⟩
        · exact .inr ⟨_, .capacity hitem hname hc fun n h => hn ⟨n, h⟩⟩
    · exact .inr ⟨_, .name hitem hnot fun op h => hop ⟨op, h⟩⟩

theorem Gives.not_refused (h : Gives item op p) : ¬Refused item e := by
  intro hr
  have heq := h.parseItem.symm.trans hr.parseItem
  cases heq

theorem Gives.unique {op' : Operation} {p' : Policy} (h : Gives item op p)
    (h' : Gives item op' p') : op = op' ∧ p = p' := by
  have heq := h.parseItem.symm.trans h'.parseItem
  exact Prod.mk.inj (Except.ok.inj heq)

theorem Refused.unique {e' : ConfigError} (h : Refused item e) (h' : Refused item e') : e = e' := by
  have heq := h.parseItem.symm.trans h'.parseItem
  exact Except.error.inj heq

theorem Gives.padded {before after : List Char} (hb : AllBlank before) (ha : AllBlank after)
    (h : Gives item op p) : Gives (before ++ item ++ after) op p := by
  cases h with
  | @bypass _ name rest word hname hp hw =>
    simpa using Gives.bypass (hname.behind hb) (hp.before ha) hw
  | @sized _ name capacity seconds n s hname hn hs =>
    obtain ⟨core, hp, hcore⟩ := hs
    simpa using Gives.sized (hname.behind hb) hn ⟨core, hp.before ha, hcore⟩

/-- Blanks around an item make no difference to what it gives. -/
theorem gives_trimList : Gives (trimList piece) op p ↔ Gives piece op p := by
  constructor
  · intro h
    obtain ⟨before, after, hb, ha, hpiece⟩ := padded_trimList piece
    rw [hpiece]
    exact h.padded hb ha
  · intro h
    cases h with
    | @bypass _ name rest word hname hp hw =>
      rw [trimList_append_cons rfl]
      have hpadded : Padded (trimList rest) (rest.reverse.dropWhile isBlank).reverse := by
        rw [← trimList_dropWhile_reverse]
        exact padded_trimList _
      refine .bypass (trimList_eq_name.mp ?_) hpadded (isBypass_trimList.mpr ⟨word, hp, hw⟩)
      rw [trimList_dropWhile]
      exact trimList_eq_name.mpr hname
    | @sized _ name capacity seconds n s hname hn hs =>
      rw [trimList_append_cons rfl, List.reverse_append, List.reverse_cons, List.append_assoc,
        List.singleton_append, dropWhile_stop (c := ':') rfl]
      simp only [List.reverse_append, List.reverse_cons, List.reverse_reverse, List.append_assoc,
        List.singleton_append]
      refine .sized (trimList_eq_name.mp ?_) hn (counts_iff.mpr ?_)
      · rw [trimList_dropWhile]
        exact trimList_eq_name.mpr hname
      · rw [trimList_dropWhile_reverse]
        exact counts_iff.mp hs

-- ---------------------------------------------------------------------------
-- Lists of items
-- ---------------------------------------------------------------------------

/-- The pieces of a list that are more than blanks. -/
def listed (pieces : List (List Char)) : List (List Char) := pieces.filter fun p => ¬AllBlank p

theorem items_eq (spec : String) :
    items spec = (listed (pieces ',' spec.toList)).map trimList := by
  rw [items, List.filter_map, listed]
  refine congrArg (List.map trimList) (List.filter_congr fun piece _ => ?_)
  exact decide_eq_decide.mpr (not_congr trimList_eq_nil_iff)

end Overrides

/-- The table after each of the entries has been set in turn. -/
def PolicyTable.setAll (t : PolicyTable) (entries : List (Operation × Policy)) : PolicyTable :=
  entries.foldl (fun t e => t.set e.1 e.2) t

namespace PolicyTable

@[simp] theorem setAll_nil : t.setAll [] = t := rfl

@[simp] theorem setAll_cons {entry : Operation × Policy} :
    t.setAll (entry :: entries) = (t.set entry.1 entry.2).setAll entries := rfl

/-- Nothing changes but the policies of the operations that are named. -/
theorem setAll_frame (t : PolicyTable) (entries : List (Operation × Policy)) :
    (t.setAll entries).default = t.default ∧
    (t.setAll entries).permanentTtl = t.permanentTtl ∧
    ∀ op, (∀ entry ∈ entries, entry.1 ≠ op) → (t.setAll entries).override op = t.override op := by
  induction entries generalizing t with
  | nil => exact ⟨rfl, rfl, fun _ _ => rfl⟩
  | cons entry entries ih =>
    obtain ⟨hdefault, hpermanent, hothers⟩ := ih (t.set entry.1 entry.2)
    refine ⟨hdefault, hpermanent, fun op hop => ?_⟩
    rw [List.forall_mem_cons] at hop
    rw [setAll_cons, hothers op hop.2]
    exact if_neg (Ne.symm hop.1)

/-- The last entry about an operation counts. -/
theorem policy_setAll {before after : List (Operation × Policy)}
    (hafter : ∀ entry ∈ after, entry.1 ≠ op) :
    (t.setAll (before ++ (op, p) :: after)).policy op = p := by
  have hsplit : t.setAll (before ++ (op, p) :: after) =
      ((t.setAll before).set op p).setAll after := List.foldl_append
  rw [hsplit, policy, (setAll_frame _ _).2.2 op hafter]
  simp [set]

end PolicyTable

namespace Overrides

/-- What comes of the pieces of a list: the entries of the pieces in front of the first that is
refused are set, and that one says why. -/
def Follows (t : PolicyTable) (pieces : List (List Char))
    (result : PolicyTable × Option ConfigError) : Prop :=
  ∃ before after entries, pieces = before ++ after ∧
    List.Forall₂ (fun piece entry => Gives piece entry.1 entry.2) before entries ∧
    result.1 = t.setAll entries ∧
    (after = [] ∧ result.2 = none ∨
      ∃ piece behind e, after = piece :: behind ∧ Refused (trimList piece) e ∧ result.2 = some e)

theorem follows_applyItems (t : PolicyTable) (pieces : List (List Char)) :
    Follows t pieces (applyItems t (pieces.map trimList)) := by
  induction pieces generalizing t with
  | nil => exact ⟨[], [], [], rfl, .nil, rfl, .inl ⟨rfl, rfl⟩⟩
  | cons piece pieces ih =>
    rw [List.map_cons, applyItems]
    obtain ⟨op, p, hgives⟩ | ⟨e, hrefused⟩ := gives_or_refused (trimList piece)
    · rw [hgives.parseItem]
      obtain ⟨before, after, entries, rfl, hbefore, htable, hafter⟩ := ih (t.set op p)
      exact ⟨piece :: before, after, (op, p) :: entries, rfl,
        .cons (gives_trimList.mp hgives) hbefore, htable, hafter⟩
    · rw [hrefused.parseItem]
      exact ⟨[], piece :: pieces, [], rfl, .nil, rfl, .inr ⟨piece, pieces, e, rfl, hrefused, rfl⟩⟩

/-- When every piece gives something, nothing is left out. -/
theorem applyItems_of_forall₂ {pieces : List (List Char)}
    (h : List.Forall₂ (fun piece entry => Gives piece entry.1 entry.2) pieces entries) :
    applyItems t (pieces.map trimList) = (t.setAll entries, none) := by
  induction h generalizing t with
  | nil => rfl
  | cons hgives _ ih =>
    rw [List.map_cons, applyItems, (gives_trimList.mpr hgives).parseItem]
    exact ih

-- ---------------------------------------------------------------------------
-- Printing
-- ---------------------------------------------------------------------------

/-- An entry of a table in the form it is read. -/
def printed (entry : Operation × UInt64 × UInt64) : List Char :=
  entry.1.name.toList ++
    '=' :: (natural entry.2.1.toNat ++ ':' :: natural entry.2.2.toNat)

/-- Entries of a table as a list of overrides. -/
def print (entries : List (Operation × UInt64 × UInt64)) : String :=
  .ofList (joined [','] (entries.map printed))

/-- The policy of a printed entry. -/
def printedPolicy (entry : Operation × UInt64 × UInt64) : Policy :=
  ⟨entry.2.1.toNat, .ofSeconds entry.2.2.toNat⟩

variable {entry : Operation × UInt64 × UInt64}

theorem counts_natural (n : UInt64) : Counts (natural n.toNat) n.toNat :=
  ⟨_, .refl _, spells_natural (Nat.le_of_lt_succ n.toNat_lt)⟩

theorem gives_printed : Gives (printed entry) entry.1 (printedPolicy entry) :=
  .sized (.refl _) (counts_natural _) (counts_natural _)

theorem comma_not_mem_printed : ',' ∉ printed entry := by
  have hname : ',' ∉ entry.1.name.toList := fun h => (entry.1.plain_name.2 ',' h).2 (by simp)
  have hnumber : ∀ n : Nat, ',' ∉ natural n := by
    intro n h
    have hdigit := isDigit_of_mem_natural ',' h
    cases hdigit
  simp [printed, hname, hnumber]

theorem not_allBlank_printed : ¬AllBlank (printed entry) := by
  intro h
  have hequals : isBlank '=' = true := h '=' (by simp [printed])
  cases hequals

theorem listed_printed (entries : List (Operation × UInt64 × UInt64)) :
    listed (pieces ',' (print entries).toList) = entries.map printed := by
  cases entries with
  | nil =>
    -- the empty text is one piece, which is blank
    have hblank : ¬¬AllBlank [] := not_not.mpr nofun
    exact List.filter_cons_of_neg (decide_eq_true_iff.not.mpr hblank)
  | cons entry entries =>
    have hplain : ∀ piece ∈ (entry :: entries).map printed, ',' ∉ piece := by
      intro piece hpiece
      obtain ⟨entry', -, rfl⟩ := List.mem_map.mp hpiece
      exact comma_not_mem_printed
    rw [print, String.toList_ofList, pieces_joined (by simp) hplain, listed, List.filter_eq_self]
    intro piece hpiece
    obtain ⟨entry', -, rfl⟩ := List.mem_map.mp hpiece
    exact decide_eq_true not_allBlank_printed

theorem applyOverrides_print (t : PolicyTable) (entries : List (Operation × UInt64 × UInt64)) :
    t.applyOverrides (print entries) =
      (t.setAll (entries.map fun entry => (entry.1, printedPolicy entry)), none) := by
  rw [PolicyTable.applyOverrides, items_eq, listed_printed]
  refine applyItems_of_forall₂ ?_
  rw [List.forall₂_map_left_iff, List.forall₂_map_right_iff]
  exact List.forall₂_same.mpr fun entry _ => gives_printed

end Overrides

open Overrides

/-- A list of overrides is cut at its commas, pieces of nothing but blanks are left out, and of the
others each one either gives an operation a policy or is refused for one reason. The policies that
the pieces in front of the first refused one give are set in turn, so of several about one operation
the last one counts, and nothing else changes. What is printed as a list of overrides is set. -/
theorem PolicyTable.applyOverrides_follows (t : PolicyTable) (spec : String) :
    (∃ pieces, pieces ≠ [] ∧ joined [','] pieces = spec.toList ∧ (∀ piece ∈ pieces, ',' ∉ piece) ∧
      Follows t (listed pieces) (t.applyOverrides spec)) ∧
    (∀ piece,
      (∃ op p, Gives piece op p ∧ ∀ op' p', Gives piece op' p' → op' = op ∧ p' = p) ∧
        (∀ e, ¬Refused (trimList piece) e) ∨
      (∀ op p, ¬Gives piece op p) ∧
        ∃ e, Refused (trimList piece) e ∧ ∀ e', Refused (trimList piece) e' → e' = e) ∧
    (∀ entries, (t.setAll entries).default = t.default ∧
      (t.setAll entries).permanentTtl = t.permanentTtl ∧
      (∀ op, (∀ entry ∈ entries, entry.1 ≠ op) →
        (t.setAll entries).override op = t.override op) ∧
      ∀ op p before after, entries = before ++ (op, p) :: after →
        (∀ entry ∈ after, entry.1 ≠ op) → (t.setAll entries).policy op = p) ∧
    ∀ entries, t.applyOverrides (print entries) =
      (t.setAll (entries.map fun entry => (entry.1, printedPolicy entry)), none) := by
  refine ⟨?_, fun piece => ?_, fun entries => ?_, applyOverrides_print t⟩
  · refine ⟨pieces ',' spec.toList, pieces_ne_nil, joined_pieces, not_mem_pieces, ?_⟩
    rw [applyOverrides, items_eq]
    exact follows_applyItems t _
  · obtain ⟨op, p, hgives⟩ | ⟨e, hrefused⟩ := gives_or_refused (trimList piece)
    · refine .inl ⟨⟨op, p, gives_trimList.mp hgives, fun op' p' h => ?_⟩, fun _ => hgives.not_refused⟩
      exact (gives_trimList.mpr h).unique hgives
    · refine .inr ⟨fun op p h => (gives_trimList.mpr h).not_refused hrefused, e, hrefused,
        fun e' h => h.unique hrefused⟩
  · obtain ⟨hdefault, hpermanent, hothers⟩ := setAll_frame t entries
    refine ⟨hdefault, hpermanent, hothers, ?_⟩
    rintro op p before after rfl hafter
    exact policy_setAll hafter

end Cache
end ChainGateway
