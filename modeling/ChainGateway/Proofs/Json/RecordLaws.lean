import ChainGateway.Proofs.Json.CodecLaws

/-!
# Records that read back what they write

The members of a record are read one by one, each into the slot of its field, which is found by
name. After some of them just their slots are filled; after all of them only those fields are left
for which nothing was written. So the record comes back if its fields have different names and each
field reads back what it writes, or has for its missing value what it leaves out.
-/

namespace ChainGateway.Json

variable {α : Type} {αs : List Type} {a : α} {name : String} {rest : List Char}

-- ---------------------------------------------------------------------------
-- Fields
-- ---------------------------------------------------------------------------

namespace Field

/-- The field gets its value back, from the text or from there being none. -/
def Keeps (f : Field α) (a : α) : Prop :=
  if f.silent a then f.codec.missing = some a else f.codec.ReadsBack a

end Field

-- ---------------------------------------------------------------------------
-- Layouts
-- ---------------------------------------------------------------------------

namespace Layout

variable {layout : Layout αs} {t : Tuple αs} {slots : Slots αs} {p : String × List Char}
  {ps : List (String × List Char)} {seen seen' : String → Bool} {fuel : Nat}

def names : {αs : List Type} → Layout αs → List String
  | _, .done => []
  | _, .field f rest => f.name :: rest.names

def Keeps : {αs : List Type} → Layout αs → Tuple αs → Prop
  | _, .done, _ => True
  | _, .field f rest, (a, more) => f.Keeps a ∧ rest.Keeps more

namespace Keeps

variable {c : Codec α} {later : Layout αs} {more : Tuple αs}

theorem done : Layout.done.Keeps () := trivial

theorem named (h : c.Solid a) (hl : later.Keeps more) :
    (Layout.field (.named name c) later).Keeps (a, more) := ⟨h.readsBack, hl⟩

theorem optional {o : Option α} (h : ∀ a ∈ o, c.Solid a) (hl : later.Keeps more) :
    (Layout.field (.named name c.optional) later).Keeps (o, more) :=
  ⟨Codec.ReadsBack.optional h, hl⟩

theorem sparse {o : Option α} (h : ∀ a ∈ o, c.Solid a) (hl : later.Keeps more) :
    (Layout.field (.sparse name c) later).Keeps (o, more) := by
  refine ⟨?_, hl⟩
  cases o with
  | none => rfl
  | some a => exact Codec.ReadsBack.optional h

end Keeps

/-- The members that are written, by name and text of the value. -/
def pairs : {αs : List Type} → Layout αs → Tuple αs → List (String × List Char)
  | _, .done, _ => []
  | _, .field f rest, (a, more) =>
    if f.silent a then rest.pairs more else (f.name, f.codec.write a) :: rest.pairs more

def memberText (p : String × List Char) : List Char := writeString p.1 ++ ':' :: p.2

theorem members_eq (layout : Layout αs) (t : Tuple αs) :
    layout.members t = (layout.pairs t).map memberText := by
  induction layout with
  | done => rfl
  | field f rest ih =>
    obtain ⟨a, more⟩ := t
    simp only [members, pairs]
    split
    · exact ih more
    · rw [List.map_cons, ih more]
      rfl

theorem pairs_names (layout : Layout αs) (t : Tuple αs) :
    ((layout.pairs t).map Prod.fst).Sublist layout.names := by
  induction layout with
  | done => exact List.Sublist.refl _
  | field f rest ih =>
    obtain ⟨a, more⟩ := t
    simp only [pairs, names]
    split
    · exact (ih more).cons _
    · exact (ih more).cons_cons _

theorem mem_names (h : p ∈ layout.pairs t) : p.1 ∈ layout.names :=
  (pairs_names layout t).subset (List.mem_map_of_mem h)

/-- The slots after the members whose names were seen. -/
def fill (seen : String → Bool) : {αs : List Type} → Layout αs → Tuple αs → Slots αs
  | _, .done, _ => ()
  | _, .field f rest, (a, more) =>
    (if f.silent a || !seen f.name then none else some a, rest.fill seen more)

theorem fill_none (layout : Layout αs) (t : Tuple αs) :
    layout.fill (fun _ => false) t = Slots.empty αs := by
  induction layout with
  | done => rfl
  | field f rest ih =>
    obtain ⟨a, more⟩ := t
    refine Prod.ext ?_ (ih more)
    exact if_pos (Bool.or_true _)

theorem fill_congr (h : ∀ n ∈ layout.names, seen n = seen' n) :
    layout.fill seen t = layout.fill seen' t := by
  induction layout with
  | done => rfl
  | field f rest ih =>
    obtain ⟨a, more⟩ := t
    obtain ⟨hf, hrest⟩ := List.forall_mem_cons.mp h
    refine Prod.ext ?_ (ih hrest)
    simp only [fill, hf]

/-- A member goes to the slot of its field, and to no other. -/
theorem store_pair (hd : layout.names.Nodup) (hk : layout.Keeps t) (hp : p ∈ layout.pairs t)
    (hseen : seen p.1 = false) (hrest : EndsValue rest) :
    layout.store p.1 (layout.fill seen t) (':' :: (p.2 ++ rest)) =
      .ok (layout.fill (fun n => seen n || n == p.1) t, rest) := by
  induction layout with
  | done => cases hp
  | field f later ih =>
    obtain ⟨a, more⟩ := t
    obtain ⟨hnew, hd⟩ := List.nodup_cons.mp hd
    obtain ⟨hf, hlater⟩ := hk
    have hmine : f.silent a = false → p = (f.name, f.codec.write a) →
        (Layout.field f later).store p.1 ((Layout.field f later).fill seen (a, more))
          (':' :: (p.2 ++ rest)) =
        .ok ((Layout.field f later).fill (fun n => seen n || n == p.1) (a, more), rest) := by
      rintro hwritten rfl
      have hread : f.codec.ReadsBack a := by
        rwa [Field.Keeps, hwritten, if_neg Bool.false_ne_true] at hf
      have hfill : later.fill seen more = later.fill (fun n => seen n || n == f.name) more := by
        refine fill_congr fun n hn => ?_
        have hne : n ≠ f.name := fun heq => hnew (heq ▸ hn)
        simp [hne]
      simp only [fill, store, hseen, hwritten, Bool.not_false, Bool.or_true, if_true, Option.isSome,
        skipGaps_cons (show isGap ':' = false from rfl), hread rest hrest, ← hfill,
        beq_self_eq_true, Bool.false_or, Bool.not_true, Bool.false_eq_true, if_false]
      rfl
    have hother : p ∈ later.pairs more →
        (Layout.field f later).store p.1 ((Layout.field f later).fill seen (a, more))
          (':' :: (p.2 ++ rest)) =
        .ok ((Layout.field f later).fill (fun n => seen n || n == p.1) (a, more), rest) := by
      intro hp
      have hne : f.name ≠ p.1 := fun heq => hnew (heq ▸ mem_names hp)
      have hstore := ih hd hlater hp
      have hsame : (f.name == p.1) = false := by simpa using hne
      simp only [fill, store, if_neg hne, hstore, hsame, Bool.or_false]
      rfl
    simp only [pairs] at hp
    split at hp
    · exact hother hp
    · rename_i hwritten
      rcases List.mem_cons.mp hp with hp | hp
      · exact hmine (by simpa using hwritten) hp
      · exact hother hp

theorem finish_fill (hk : layout.Keeps t) (hall : ∀ p ∈ layout.pairs t, seen p.1 = true) :
    layout.finish (layout.fill seen t) = .ok t := by
  induction layout with
  | done => rfl
  | field f later ih =>
    obtain ⟨a, more⟩ := t
    obtain ⟨hf, hlater⟩ := hk
    simp only [pairs] at hall
    cases hsilent : f.silent a with
    | true =>
      rw [hsilent, if_pos rfl] at hall
      have hmissing : f.codec.missing = some a := by rwa [Field.Keeps, if_pos hsilent] at hf
      simp only [fill, finish, hsilent, Bool.true_or, if_true, hmissing, ih hlater hall]
      rfl
    | false =>
      rw [hsilent, if_neg Bool.false_ne_true] at hall
      obtain ⟨hseen, hall⟩ := List.forall_mem_cons.mp hall
      have hslot : seen f.name = true := hseen
      simp only [fill, finish, hsilent, hslot, ih hlater hall]
      rfl

-- ---------------------------------------------------------------------------
-- Members
-- ---------------------------------------------------------------------------

theorem memberText_append (p : String × List Char) (rest : List Char) :
    memberText p ++ rest = writeString p.1 ++ ':' :: (p.2 ++ rest) := by
  simp [memberText]

/-- Members that were not seen yet are read into their slots, and then all fields are there. -/
theorem readMembers_pairs (seen : String → Bool) (hd : layout.names.Nodup) (hk : layout.Keeps t)
    (hne : ps ≠ []) (hfuel : ps.length ≤ fuel) (hps : ∀ p ∈ ps, p ∈ layout.pairs t)
    (hnodup : (ps.map Prod.fst).Nodup) (hunseen : ∀ p ∈ ps, seen p.1 = false)
    (hall : ∀ p ∈ layout.pairs t, seen p.1 = true ∨ p ∈ ps) :
    layout.readMembers fuel (layout.fill seen t)
      (Text.joined [','] (ps.map memberText) ++ '}' :: rest) = .ok (t, rest) := by
  induction ps generalizing seen fuel with
  | nil => exact absurd rfl hne
  | cons p ps ih =>
    obtain ⟨fuel, rfl⟩ := Nat.exists_eq_succ_of_ne_zero (Nat.ne_of_gt (Nat.zero_lt_of_lt hfuel))
    have hstore : ∀ {rest}, EndsValue rest →
        layout.store p.1 (layout.fill seen t) (':' :: (p.2 ++ rest)) =
          .ok (layout.fill (fun n => seen n || n == p.1) t, rest) :=
      store_pair hd hk (hps p List.mem_cons_self) (hunseen p List.mem_cons_self)
    cases ps with
    | nil =>
      have hfinish : layout.finish (layout.fill (fun n => seen n || n == p.1) t) = .ok t := by
        refine finish_fill hk fun q hq => ?_
        rcases hall q hq with hseen | hmem
        · simp [hseen]
        · simp [List.mem_singleton.mp hmem]
      have hclose : EndsValue ('}' :: rest) := .cons (.inr (.inr rfl))
      simp only [List.map_cons, List.map_nil, Text.joined, memberText_append, readMembers,
        readString_writeString, hstore hclose, skipGaps_cons (show isGap '}' = false from rfl),
        hfinish, bind, Except.bind]
    | cons q ps =>
      obtain ⟨hp, hnodup⟩ := List.nodup_cons.mp hnodup
      have hnext := ih (fun n => seen n || n == p.1) (List.cons_ne_nil q ps)
        (Nat.le_of_succ_le_succ hfuel) (fun x hx => hps x (List.mem_cons_of_mem _ hx)) hnodup ?_ ?_
      · have hcomma : ∀ {rest}, EndsValue (',' :: rest) := .cons (.inl rfl)
        have hjoined : Text.joined [','] ((p :: q :: ps).map memberText) ++ '}' :: rest =
            writeString p.1 ++ ':' :: (p.2 ++ ',' ::
              (Text.joined [','] ((q :: ps).map memberText) ++ '}' :: rest)) := by
          simp [Text.joined, memberText]
        rw [hjoined]
        simp only [readMembers, readString_writeString, hstore hcomma,
          skipGaps_cons (show isGap ',' = false from rfl), hnext, bind, Except.bind]
      · intro x hx
        have hne : x.1 ≠ p.1 := fun heq => hp (heq ▸ List.mem_map_of_mem hx)
        simp [hunseen x (List.mem_cons_of_mem _ hx), hne]
      · intro x hx
        rcases hall x hx with hseen | hmem
        · exact .inl (by simp [hseen])
        · rcases List.mem_cons.mp hmem with rfl | hmem
          · exact .inl (by simp)
          · exact .inr hmem

theorem length_le_joined (ps : List (String × List Char)) :
    ps.length ≤ (Text.joined [','] (ps.map memberText)).length := by
  induction ps with
  | nil => exact Nat.le_refl 0
  | cons p ps ih =>
    have hpos : 1 ≤ (memberText p).length := by simp [memberText, writeString]
    cases ps with
    | nil => exact hpos
    | cons q ps =>
      simp only [List.map_cons, Text.joined, List.length_append, List.length_cons] at ih ⊢
      omega

theorem read_brace (layout : Layout αs) (cs : List Char) : layout.read ('{' :: cs) =
    match skipGaps cs with
    | '}' :: rest => (layout.finish (Slots.empty αs)).map (·, rest)
    | rest => layout.readMembers (rest.length + 1) (Slots.empty αs) rest :=
  rfl

/-- What the members were written as is read as what they were written for. -/
theorem read_members (hd : layout.names.Nodup) (hk : layout.Keeps t) :
    layout.read ('{' :: (Text.joined [','] (layout.members t) ++ '}' :: rest)) = .ok (t, rest) := by
  have hnodup := hd.sublist (pairs_names layout t)
  rw [read_brace, members_eq, ← fill_none layout t]
  cases hpairs : layout.pairs t with
  | nil =>
    have hfinish : layout.finish (layout.fill (fun _ => false) t) = .ok t := by
      refine finish_fill hk ?_
      rw [hpairs]
      exact nofun
    rw [List.map_nil, Text.joined, List.nil_append, skipGaps_cons (by decide)]
    simp only [hfinish, Except.map]
  | cons p ps =>
    have hread : ∀ fuel, (p :: ps).length ≤ fuel → layout.readMembers fuel
        (layout.fill (fun _ => false) t)
        (Text.joined [','] ((p :: ps).map memberText) ++ '}' :: rest) = .ok (t, rest) := by
      intro fuel hfuel
      exact readMembers_pairs (fun _ => false) hd hk (List.cons_ne_nil p ps) hfuel
        (fun x hx => hpairs ▸ hx) (hpairs ▸ hnodup) (fun _ _ => rfl)
        fun x hx => .inr (hpairs ▸ hx)
    obtain ⟨cs, hquote⟩ : ∃ cs, Text.joined [','] ((p :: ps).map memberText) = '"' :: cs := by
      cases ps <;> simp [Text.joined, memberText, writeString]
    have hlength := length_le_joined (p :: ps)
    rw [hquote] at hread hlength ⊢
    rw [List.cons_append, skipGaps_cons (by decide)]
    refine hread _ ?_
    simp only [List.length_cons, List.length_append] at hlength ⊢
    omega

end Layout

-- ---------------------------------------------------------------------------
-- Records
-- ---------------------------------------------------------------------------

/-- A record is solid if its fields keep what they hold. -/
theorem Codec.Solid.record {layout : Layout αs} {split : α → Tuple αs} {back : Tuple αs → α}
    (hd : layout.names.Nodup) (hk : layout.Keeps (split a)) (hb : back (split a) = a) :
    (Codec.record layout split back).Solid a where
  readsBack rest _ := by
    have htext : (Codec.record layout split back).write a ++ rest =
        '{' :: (Text.joined [','] (layout.members (split a)) ++ '}' :: rest) := by
      simp [Codec.record]
    rw [htext]
    simp only [Codec.record, Layout.read_members hd hk, bind, Except.bind, hb]
  start := ⟨'{', _, rfl, by decide⟩

end ChainGateway.Json
