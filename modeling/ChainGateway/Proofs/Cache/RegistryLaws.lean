import ChainGateway.Cache.ReadThrough
import ChainGateway.Proofs.Cache.StoreLaws
import ChainGateway.Proofs.Labels

/-!
# Laws of the registry

A registry is seen through the store it has for each operation, a new one where none has
been made. Putting a store back changes that one only; clearing and purging are what they
are on every store, and may as well be done one store after the other.
-/

namespace ChainGateway.Cache.Registry

variable {r : Registry} {s : Store} {op op' : Operation} {t : Instant} {c : Call} {o : Outcome}

-- ---------------------------------------------------------------------------
-- The store of an operation
-- ---------------------------------------------------------------------------

theorem find?_putStore {l : List Store} :
    (putStore s l).find? (·.operation = op) =
      if s.operation = op then some s else l.find? (·.operation = op) := by
  induction l with
  | nil => by_cases h : s.operation = op <;> simp [putStore, h]
  | cons a l ih =>
    by_cases ha : a.operation = s.operation
    · by_cases h : s.operation = op <;> simp [putStore, ha, h]
    · rw [putStore, if_neg ha, List.find?_cons, ih, List.find?_cons]
      by_cases h : s.operation = op
      · subst h
        simp [ha]
      · by_cases hop : a.operation = op <;> simp [h, hop]

theorem find?_put : (r.put s).find? op = if s.operation = op then some s else r.find? op :=
  find?_putStore

theorem find?_operation (h : r.find? op = some s) : s.operation = op := by
  simpa using List.find?_some h

theorem store_operation : (r.store op).operation = op := by
  unfold store
  cases h : r.find? op with
  | none => rfl
  | some s => exact find?_operation h

theorem store_put : (r.put s).store op = if s.operation = op then s else r.store op := by
  unfold store
  rw [find?_put]
  split <;> rfl

/-- No two stores are of one operation. -/
def Single (r : Registry) : Prop := (r.stores.map (·.operation)).Nodup

theorem mem_operations_putStore {l : List Store} :
    op ∈ (putStore s l).map (·.operation) ↔ op = s.operation ∨ op ∈ l.map (·.operation) := by
  induction l with
  | nil => simp [putStore]
  | cons a l ih =>
    by_cases ha : a.operation = s.operation
    · simp [putStore, ha]
    · rw [putStore, if_neg ha, List.map_cons, List.mem_cons, ih, List.map_cons, List.mem_cons]
      exact or_left_comm

theorem nodup_putStore {l : List Store} (h : (l.map (·.operation)).Nodup) :
    ((putStore s l).map (·.operation)).Nodup := by
  induction l with
  | nil => simp [putStore]
  | cons a l ih =>
    rw [List.map_cons, List.nodup_cons] at h
    by_cases ha : a.operation = s.operation
    · rw [putStore, if_pos ha, List.map_cons, List.nodup_cons]
      exact ⟨ha ▸ h.1, h.2⟩
    · rw [putStore, if_neg ha, List.map_cons, List.nodup_cons, mem_operations_putStore]
      exact ⟨fun hm => hm.elim ha h.1, ih h.2⟩

theorem Single.new {p : PolicyTable} : (new p).Single := List.nodup_nil

theorem Single.put (h : r.Single) : (r.put s).Single := nodup_putStore h

theorem Single.find?_mem (h : r.Single) (hs : s ∈ r.stores) : r.find? s.operation = some s :=
  Labels.find?_of_nodup h hs

theorem Single.store_of_mem (h : r.Single) (hs : s ∈ r.stores) : r.store s.operation = s := by
  rw [store, h.find?_mem hs, Option.getD_some]

-- ---------------------------------------------------------------------------
-- Clearing and purging
-- ---------------------------------------------------------------------------

theorem find?_map (f : Store → Store) (hf : ∀ s, (f s).operation = s.operation)
    {l : List Store} :
    (l.map f).find? (·.operation = op) = (l.find? (·.operation = op)).map f := by
  rw [List.find?_map]
  congr 2
  funext s
  simp [hf]

theorem find?_clear : r.clear.2.find? op = (r.find? op).map Store.clear :=
  find?_map Store.clear fun _ => rfl

theorem find?_purge : (r.purge t).2.find? op = (r.find? op).map (·.purge t) :=
  find?_map (·.purge t) fun _ => rfl

theorem store_clear : r.clear.2.store op = (r.store op).clear := by
  rw [store, store, find?_clear]
  cases r.find? op <;> rfl

theorem store_purge : (r.purge t).2.store op = (r.store op).purge t := by
  rw [store, store, find?_purge]
  cases r.find? op <;> rfl

theorem Single.clear (h : r.Single) : r.clear.2.Single := by
  simpa [Single, Registry.clear, Function.comp_def, Store.clear] using h

theorem Single.purge (h : r.Single) : (r.purge t).2.Single := by
  simpa [Single, Registry.purge, Function.comp_def, Store.purge] using h

/-- Changes the store of one operation if there is one. -/
def update (r : Registry) (op : Operation) (f : Store → Store) : Registry :=
  match r.find? op with
  | some s => r.put (f s)
  | none => r

/-- A clear as far as one store goes. -/
def clearOne (r : Registry) (op : Operation) : Registry := r.update op .clear

/-- A purge as far as one store goes. -/
def purgeOne (r : Registry) (t : Instant) (op : Operation) : Registry := r.update op (·.purge t)

theorem update_policies {f : Store → Store} : (r.update op f).policies = r.policies := by
  unfold update
  split <;> rfl

theorem Single.update (h : r.Single) {f : Store → Store} : (r.update op f).Single := by
  unfold Registry.update
  split
  · exact h.put
  · exact h

theorem find?_update {f : Store → Store} (hf : ∀ s, (f s).operation = s.operation) :
    (r.update op f).find? op' = if op = op' then (r.find? op).map f else r.find? op' := by
  unfold update
  split
  · rename_i s hs
    rw [find?_put, hf, find?_operation hs, hs]
    rfl
  · rename_i hn
    split
    · rename_i he
      rw [← he, hn, Option.map_none]
    · rfl

theorem find?_update_of_none {f : Store → Store} (hf : ∀ s, (f s).operation = s.operation)
    (h : r.find? op' = none) : (r.update op f).find? op' = none := by
  rw [find?_update hf]
  split
  · rename_i he
    rw [he, h, Option.map_none]
  · exact h

theorem store_update {f : Store → Store} (hf : ∀ s, (f s).operation = s.operation)
    (hnew : ∀ op p, f (.new op p) = .new op p) :
    (r.update op f).store op' = if op = op' then f (r.store op) else r.store op' := by
  rw [store, find?_update hf, update_policies]
  split
  · rename_i he
    rw [he, store]
    cases r.find? op' with
    | none => exact (hnew _ _).symm
    | some s => rfl
  · rfl

theorem store_clearOne :
    (r.clearOne op).store op' = if op = op' then (r.store op).clear else r.store op' :=
  store_update (fun _ => rfl) fun _ _ => rfl

theorem store_purgeOne :
    (r.purgeOne t op).store op' = if op = op' then (r.store op).purge t else r.store op' :=
  store_update (fun _ => rfl) fun _ _ => rfl

/-- A clear that goes from store to store leaves what one at a stroke leaves. -/
theorem store_foldl_clearOne {ops : List Operation}
    (h : ∀ op, r.find? op ≠ none → op ∈ ops) :
    (ops.foldl clearOne r).store op = r.clear.2.store op := by
  have hfold : ∀ (ops : List Operation) (r : Registry), (ops.foldl clearOne r).store op =
      if op ∈ ops then (r.store op).clear else r.store op := by
    intro ops
    induction ops with
    | nil => intro r; rfl
    | cons a ops ih =>
      intro r
      rw [List.foldl_cons, ih, store_clearOne]
      by_cases ha : a = op
      · by_cases hm : op ∈ ops <;> simp [ha, hm, Store.clear]
      · simp [ha, Ne.symm ha]
  rw [hfold, store_clear]
  split
  · rfl
  · rename_i hm
    have hn : r.find? op = none := Classical.byContradiction fun hne => hm (h op hne)
    rw [store, hn]
    rfl

-- ---------------------------------------------------------------------------
-- Reads
-- ---------------------------------------------------------------------------

/-- A read leaves a bypassed operation alone, and otherwise reads the store of its own. -/
theorem lookup_cases (r : Registry) (t : Instant) (c : Call) :
    ((r.policies.policy c.operation).isBypass = true ∧ r.lookup t c = (.bypass, r)) ∨
    ((r.policies.policy c.operation).isBypass = false ∧
      (r.lookup t c).2 = r.put ((r.store c.operation).get t (.ofCall c)).2 ∧
      ((∃ o, ((r.store c.operation).get t (.ofCall c)).1 = some o ∧
        (r.lookup t c).1 = .hit o) ∨ (r.lookup t c).1 = .miss)) := by
  unfold lookup
  split
  · rename_i hb
    exact .inl ⟨hb, rfl⟩
  · rename_i hb
    refine .inr ⟨by simpa using hb, ?_⟩
    dsimp only
    split
    · rename_i a ha
      split
      · exact ⟨rfl, .inl ⟨_, ha, rfl⟩⟩
      · exact ⟨rfl, .inr rfl⟩
    · rename_i e he
      exact ⟨rfl, .inl ⟨_, he, rfl⟩⟩
    · exact ⟨rfl, .inr rfl⟩

theorem finish_of_bypass (h : (r.policies.policy c.operation).isBypass = true) :
    r.finish t c o = (none, r) := by
  rw [finish, if_pos h]

theorem finish_of_room (h : (r.policies.policy c.operation).isBypass = false) :
    r.finish t c o = (((r.store c.operation).insert t (.ofCall c) o).1,
      r.put ((r.store c.operation).insert t (.ofCall c) o).2) := by
  simp [finish, h, keep]

end ChainGateway.Cache.Registry
