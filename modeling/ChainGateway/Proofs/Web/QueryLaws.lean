import Mathlib.Data.List.Pairwise
import ChainGateway.Web.Query

/-!
# What is read from a query

Where no two fields answer to one key, a query is read just when each field can be read from the
values that are given for it: none, or one of its type.
-/

namespace ChainGateway.Web

variable {f : QueryField} {fields : List QueryField} {seen more pairs : List (String × String)}
  {pair : String × String} {q : Query} {key : String} {x : FieldValue}

namespace QueryField

/-- The keys by which a field can be given. -/
def keys (f : QueryField) : List String := f.name :: f.alternative.toList

theorem answersTo_iff : f.answersTo key = true ↔ key ∈ f.keys := by
  rw [answersTo, keys, List.mem_cons, Option.mem_toList, Bool.or_eq_true, decide_eq_true_iff,
    decide_eq_true_iff, eq_comm (a := key)]

/-- The values that pairs give a field, in their order. -/
def valuesIn (f : QueryField) (pairs : List (String × String)) : List String :=
  (pairs.filter fun pair => f.answersTo pair.1).map (·.2)

/-- The values that a query gives a field, decoded. -/
def values (f : QueryField) (query : String) : List String := f.valuesIn (formPairs query)

/-- What a field is read as from the values it is given. It need not be given, and is given once at
most. -/
inductive Reads (f : QueryField) : List String → Option FieldValue → Prop
  | absent : Reads f [] none
  | once {value : String} {x : FieldValue} : f.read value = .ok x → Reads f [value] (some x)

theorem valuesIn_append (f : QueryField) (pairs more : List (String × String)) :
    f.valuesIn (pairs ++ more) = f.valuesIn pairs ++ f.valuesIn more := by
  rw [valuesIn, List.filter_append, List.map_append, valuesIn, valuesIn]

theorem valuesIn_cons_of_answersTo (h : f.answersTo pair.1 = true) :
    f.valuesIn (pair :: more) = pair.2 :: f.valuesIn more := by
  rw [valuesIn, List.filter_cons_of_pos (by exact h), List.map_cons, valuesIn]

theorem valuesIn_singleton_of_not_answersTo (h : ¬f.answersTo pair.1 = true) :
    f.valuesIn [pair] = [] := by
  rw [valuesIn, List.filter_cons_of_neg (by exact h)]
  rfl

end QueryField

/-- No two of the fields answer to one key. -/
def Apart (fields : List QueryField) : Prop :=
  fields.Pairwise fun f g => ∀ key ∈ f.keys, key ∉ g.keys

instance : DecidablePred Apart := fun fields => by unfold Apart; infer_instance

/-- Just one field answers to a key. -/
theorem Apart.eq {g : QueryField} (h : Apart fields) (hf : f ∈ fields) (hg : g ∈ fields)
    (hkf : key ∈ f.keys) (hkg : key ∈ g.keys) : f = g := by
  by_contra hne
  have hsymm : Std.Symm fun f g : QueryField => ∀ key ∈ f.keys, key ∉ g.keys :=
    ⟨fun f g hfg key hkg hkf => hfg key hkf hkg⟩
  exact h.forall hf hg hne key hkf hkg

namespace Query

/-- What was read from pairs: of every field what can be read from its values. -/
def Taken (fields : List QueryField) (pairs : List (String × String)) (q : Query) : Prop :=
  ∀ f ∈ fields, f.Reads (f.valuesIn pairs) (q.value? f)

theorem value?_snoc {g : QueryField} :
    (⟨q.given ++ [(f.name, x)]⟩ : Query).value? g =
      (q.value? g).or (if g.name = f.name then some x else none) := by
  unfold value?
  rw [List.find?_append, List.find?_singleton, Option.map_or]
  by_cases h : g.name = f.name
  · simp [h]
  · simp [h, Ne.symm h]

/-- A field that is given is read with the next pair. -/
theorem Taken.snoc (ht : Taken fields seen q) (ha : Apart fields) (hf : f ∈ fields)
    (hkey : f.answersTo pair.1 = true) (hnone : q.value? f = none)
    (hread : f.read pair.2 = .ok x) :
    Taken fields (seen ++ [pair]) ⟨q.given ++ [(f.name, x)]⟩ := by
  intro g hg
  have hseen := ht g hg
  rw [QueryField.valuesIn_append, value?_snoc]
  by_cases hgf : g = f
  · subst hgf
    rw [hnone] at hseen ⊢
    generalize g.valuesIn seen = values at hseen ⊢
    cases hseen
    rw [QueryField.valuesIn_cons_of_answersTo hkey, if_pos rfl]
    exact .once hread
  · have hkeys := QueryField.answersTo_iff.mp hkey
    have hnot : ¬g.answersTo pair.1 = true := fun h =>
      hgf (ha.eq hg hf (QueryField.answersTo_iff.mp h) hkeys)
    have hname : g.name ≠ f.name := fun h =>
      hgf (ha.eq hg hf (h ▸ List.mem_cons_self : f.name ∈ g.keys) List.mem_cons_self)
    rw [QueryField.valuesIn_singleton_of_not_answersTo hnot, if_neg hname, List.append_nil,
      Option.or_none]
    exact hseen

/-- The next pair is taken, or there is a field that no longer can be read. -/
theorem take_cases (ha : Apart fields) (ht : Taken fields seen q) (pair : String × String) :
    (∃ q', q.take fields pair = .ok q' ∧ Taken fields (seen ++ [pair]) q') ∨
      ∃ fault, q.take fields pair = .error fault ∧
        ∃ f ∈ fields, ∀ more o, ¬f.Reads (f.valuesIn (seen ++ pair :: more)) o := by
  unfold take
  cases hfind : fields.find? (·.answersTo pair.1) with
  | none =>
    refine .inl ⟨q, rfl, fun g hg => ?_⟩
    have hnot : ¬g.answersTo pair.1 = true := List.find?_eq_none.mp hfind g hg
    rw [QueryField.valuesIn_append, QueryField.valuesIn_singleton_of_not_answersTo hnot,
      List.append_nil]
    exact ht g hg
  | some f =>
    have hf := List.mem_of_find?_eq_some hfind
    have hkey : f.answersTo pair.1 = true := by simpa using List.find?_some hfind
    have hseen := ht f hf
    dsimp only
    cases hgiven : q.value? f with
    | some x =>
      refine .inr ⟨_, if_pos rfl, f, hf, fun more o h => ?_⟩
      rw [hgiven] at hseen
      rw [QueryField.valuesIn_append, QueryField.valuesIn_cons_of_answersTo hkey] at h
      generalize f.valuesIn seen = values at hseen h
      cases hseen
      cases h
    | none =>
      cases hread : f.read pair.2 with
      | ok x => exact .inl ⟨_, rfl, ht.snoc ha hf hkey hgiven hread⟩
      | error fault =>
        refine .inr ⟨fault, rfl, f, hf, fun more o h => ?_⟩
        rw [hgiven] at hseen
        rw [QueryField.valuesIn_append, QueryField.valuesIn_cons_of_answersTo hkey] at h
        generalize f.valuesIn seen = values at hseen h
        cases hseen
        rw [List.nil_append] at h
        generalize f.valuesIn more = others at h
        cases h with
        | once hok => cases hread.symm.trans hok

theorem foldlM_take_cases (ha : Apart fields) (ht : Taken fields seen q)
    (pairs : List (String × String)) :
    (∃ q', pairs.foldlM (take fields) q = .ok q' ∧ Taken fields (seen ++ pairs) q') ∨
      ∃ fault, pairs.foldlM (take fields) q = .error fault ∧
        ∃ f ∈ fields, ∀ o, ¬f.Reads (f.valuesIn (seen ++ pairs)) o := by
  induction pairs generalizing seen q with
  | nil => exact .inl ⟨q, rfl, by rwa [List.append_nil]⟩
  | cons pair pairs ih =>
    rw [List.foldlM_cons]
    obtain ⟨q', hq', ht'⟩ | ⟨fault, hfault, f, hf, hnot⟩ := take_cases ha ht pair
    · rw [hq', List.append_cons]
      exact ih ht'
    · rw [hfault]
      exact .inr ⟨fault, rfl, f, hf, hnot pairs⟩

/-- A query is read as what its fields are, or there is a field that cannot be read. -/
theorem read_cases (ha : Apart fields) (query : String) :
    (∃ q, read fields query = .ok q ∧ ∀ f ∈ fields, f.Reads (f.values query) (q.value? f)) ∨
      ∃ fault, read fields query = .error fault ∧
        ∃ f ∈ fields, ∀ o, ¬f.Reads (f.values query) o :=
  have ht : Taken fields [] ⟨[]⟩ := fun _ _ => .absent
  foldlM_take_cases ha ht (formPairs query)

end Query
end ChainGateway.Web
