import ChainGateway.Proofs.Cache.Session

/-!
# What the stores hold in a session

Every slot of every store was left there by a load in the log that nothing has superseded
since, and every store has counted the reads of its operation. Each change of the registry
keeps this, together with the deeds that go with it.
-/

namespace ChainGateway.Cache

variable {p : PolicyTable} {r : Registry} {log ds : List Deed} {op op' : Operation}
  {t : Instant} {c : Call} {o : Outcome} {id : Nat} {a : Slot}

/-- A slot as the load left it whose outcome it holds. -/
def Traced (ttl : Span) (log : List Deed) (a : Slot) : Prop :=
  ∃ id t c, Key.ofCall c = a.key ∧ t.after? ttl = some a.expires ∧
    Lasting a.key (.returned id t c a.outcome) log

/-- What is so of a registry with the policies `p` after the deeds of a log. -/
structure Holds (p : PolicyTable) (r : Registry) (log : List Deed) : Prop where
  policies : r.policies = p
  single : r.Single
  bypassed : ∀ op, (p.policy op).isBypass = true → r.find? op = none
  policy : ∀ op, (r.store op).policy = p.policy op
  counted : ∀ op, (p.policy op).isBypass = false →
    (r.store op).hits + (r.store op).misses = starts op log
  traced : ∀ op, ∀ a ∈ (r.store op).slots, a.key.operation = op ∧ Traced (p.policy op).ttl log a

theorem Deed.starts_of_read? {d : Deed} (h : d.read? = none) : d.starts op = false := by
  cases d with
  | cleared | advanced => rfl
  | _ => cases h

theorem Deed.fills_of_read? {d : Deed} {k : Key} (h : d.read? = none) : d.fills k = false := by
  cases d with
  | cleared | advanced => rfl
  | _ => cases h

/-- A deed that neither starts a read nor changes a store. -/
def Deed.Quiet : Deed → Prop
  | .called .. | .answered .. | .consulted .. | .told .. | .failed .. | .abandoned .. => True
  | .looked .. | .returned .. | .cleared .. | .advanced .. => False

theorem Deed.Quiet.starts {d : Deed} (h : d.Quiet) : d.starts op = false := by
  cases d with
  | looked | returned | cleared | advanced => cases h
  | _ => rfl

theorem Deed.Quiet.keeps {d : Deed} (h : d.Quiet) {k : Key} :
    d.fills k = false ∧ d.empties op = false := by
  cases d with
  | looked | returned | cleared | advanced => cases h
  | _ => exact ⟨rfl, rfl⟩

theorem Traced.append {ttl : Span} (h : Traced ttl log a) (ds : List Deed)
    (hd : ∀ e ∈ ds, e.fills a.key = false ∧ e.empties a.key.operation = false) :
    Traced ttl (ds ++ log) a := by
  obtain ⟨id, t, c, hk, he, hl⟩ := h
  exact ⟨id, t, c, hk, he, hl.append ds hd⟩

namespace Holds

theorem new : Holds p (.new p) [] where
  policies := rfl
  single := .new
  bypassed _ _ := rfl
  policy _ := rfl
  counted _ _ := rfl
  traced _ _ h := by cases h

theorem slots_of_bypass (h : Holds p r log) (hb : (p.policy op).isBypass = true) :
    (r.store op).slots = [] := by
  rw [Registry.store, h.bypassed op hb]
  rfl

theorem capacity_pos (h : Holds p r log) (hb : (p.policy op).isBypass = false) :
    0 < (r.store op).policy.capacity := by
  rw [h.policy]
  simpa [Policy.isBypass, Nat.pos_iff_ne_zero] using hb

/-- Deeds that change no store. -/
theorem extend (h : Holds p r log) (ds : List Deed)
    (hs : ∀ op, (p.policy op).isBypass = false → ∀ d ∈ ds, d.starts op = false)
    (hd : ∀ op, ∀ a ∈ (r.store op).slots, ∀ d ∈ ds,
      d.fills a.key = false ∧ d.empties a.key.operation = false) : Holds p r (ds ++ log) where
  policies := h.policies
  single := h.single
  bypassed := h.bypassed
  policy := h.policy
  counted op hb := by
    rw [h.counted op hb, starts_of_none (hs op hb)]
  traced op a ha := by
    obtain ⟨hop, ht⟩ := h.traced op a ha
    exact ⟨hop, ht.append ds (hd op a ha)⟩

theorem quiet (h : Holds p r log) (ds : List Deed) (hd : ∀ d ∈ ds, d.Quiet) :
    Holds p r (ds ++ log) :=
  h.extend ds (fun _ _ d hm => (hd d hm).starts) fun _ _ _ d hm => (hd d hm).keeps

/-- A store put in the place of another, while the deeds concern its operation only. -/
theorem put {s : Store} (h : Holds p r log) (ds : List Deed)
    (hb : (p.policy s.operation).isBypass = false)
    (hp : s.policy = p.policy s.operation)
    (hc : s.hits + s.misses = starts s.operation (ds ++ log))
    (hs : ∀ a ∈ s.slots, a.key.operation = s.operation ∧
      Traced (p.policy s.operation).ttl (ds ++ log) a)
    (hd : ∀ d ∈ ds, (∀ op, op ≠ s.operation → d.starts op = false) ∧
      ∀ k : Key, k.operation ≠ s.operation → d.fills k = false ∧ d.empties k.operation = false) :
    Holds p (r.put s) (ds ++ log) where
  policies := h.policies
  single := h.single.put
  bypassed op hop := by
    have hne : s.operation ≠ op := fun he => by rw [he, hop] at hb; cases hb
    rw [Registry.find?_put, if_neg hne, h.bypassed op hop]
  policy op := by
    rw [Registry.store_put]
    split
    · rename_i he
      rw [hp, he]
    · exact h.policy op
  counted op hop := by
    rw [Registry.store_put]
    split
    · rename_i he
      rw [hc, he]
    · rename_i he
      rw [h.counted op hop, starts_of_none fun d hm => (hd d hm).1 op (Ne.symm he)]
  traced op a ha := by
    rw [Registry.store_put] at ha
    split at ha
    · rename_i he
      rw [← he]
      exact hs a ha
    · rename_i he
      obtain ⟨hop, ht⟩ := h.traced op a ha
      exact ⟨hop, ht.append ds fun d hm => (hd d hm).2 a.key (hop ▸ Ne.symm he)⟩

/-- Stores that lose slots and nothing else, while the deeds empty some of them. -/
theorem shrink {r' : Registry} (h : Holds p r log) (ds : List Deed)
    (hp : r'.policies = r.policies)
    (hs : r'.Single) (hn : ∀ op, r.find? op = none → r'.find? op = none)
    (hst : ∀ op, (r'.store op).policy = (r.store op).policy ∧
      (r'.store op).hits = (r.store op).hits ∧ (r'.store op).misses = (r.store op).misses ∧
      ∀ a ∈ (r'.store op).slots, a ∈ (r.store op).slots ∧ ∀ d ∈ ds, d.empties op = false)
    (hd : ∀ d ∈ ds, d.read? = none) : Holds p r' (ds ++ log) where
  policies := hp.trans h.policies
  single := hs
  bypassed op hb := hn op (h.bypassed op hb)
  policy op := (hst op).1.trans (h.policy op)
  counted op hb := by
    rw [(hst op).2.1, (hst op).2.2.1, h.counted op hb,
      starts_of_none fun d hm => Deed.starts_of_read? (hd d hm)]
  traced op a ha := by
    obtain ⟨hm, he⟩ := (hst op).2.2.2 a ha
    obtain ⟨hop, ht⟩ := h.traced op a hm
    exact ⟨hop, ht.append ds fun d hd' => ⟨Deed.fills_of_read? (hd d hd'), hop ▸ he d hd'⟩⟩

theorem clear {d : Deed} (h : Holds p r log) (hd : d.read? = none) :
    Holds p r.clear.2 (d :: log) := by
  refine h.shrink [d] rfl h.single.clear ?_ ?_ (by simpa using hd)
  · intro op hn
    rw [Registry.find?_clear, hn, Option.map_none]
  · intro op
    rw [Registry.store_clear]
    exact ⟨rfl, rfl, rfl, fun a ha => by cases ha⟩

theorem purge (h : Holds p r log) : Holds p (r.purge t).2 log := by
  refine h.shrink [] rfl h.single.purge ?_ ?_ (by simp)
  · intro op hn
    rw [Registry.find?_purge, hn, Option.map_none]
  · intro op
    rw [Registry.store_purge]
    exact ⟨rfl, rfl, rfl, fun a ha => ⟨(List.mem_filter.mp ha).1, by simp⟩⟩

theorem clearOne (h : Holds p r log) :
    Holds p (r.clearOne op) (.cleared (some op) :: log) := by
  refine h.shrink [_] Registry.update_policies h.single.update ?_ ?_ (by simp [Deed.read?])
  · intro op' hn
    exact Registry.find?_update_of_none (f := Store.clear) (fun _ => rfl) hn
  · intro op'
    rw [Registry.store_clearOne]
    split
    · rename_i he
      rw [← he]
      exact ⟨rfl, rfl, rfl, fun a ha => by cases ha⟩
    · rename_i he
      exact ⟨rfl, rfl, rfl, fun a ha => ⟨ha, by simpa [Deed.empties] using he⟩⟩

theorem purgeOne (h : Holds p r log) : Holds p (r.purgeOne t op) log := by
  refine h.shrink [] Registry.update_policies h.single.update ?_ ?_ (by simp)
  · intro op' hn
    exact Registry.find?_update_of_none (f := (·.purge t)) (fun _ => rfl) hn
  · intro op'
    rw [Registry.store_purgeOne]
    split
    · rename_i he
      rw [← he]
      exact ⟨rfl, rfl, rfl, fun a ha => ⟨(List.mem_filter.mp ha).1, by simp⟩⟩
    · exact ⟨rfl, rfl, rfl, fun a ha => ⟨ha, by simp⟩⟩

theorem lookup {f : Option Outcome} (h : Holds p r log) :
    Holds p (r.lookup t c).2 (.looked id t c f :: log) := by
  have hp := h.policies
  rcases r.lookup_cases t c with ⟨hb, hr⟩ | ⟨hb, hr, -⟩
  · rw [hr]
    refine h.extend [_] ?_ fun _ _ _ d hm => ?_
    · intro op hop d hm
      obtain rfl := List.mem_singleton.mp hm
      rw [hp] at hb
      have hne : c.operation ≠ op := fun he => by rw [← he, hb] at hop; cases hop
      simp [Deed.starts, hne]
    · obtain rfl := List.mem_singleton.mp hm
      exact ⟨rfl, rfl⟩
  · rw [hr]
    have hop : ((r.store c.operation).get t (.ofCall c)).2.operation = c.operation := by
      rw [Store.get_operation, Registry.store_operation]
    rw [hp] at hb
    refine h.put [.looked id t c f] (by rw [hop]; exact hb)
      (by rw [hop, Store.get_policy, h.policy]) ?_ ?_ ?_
    · rw [hop, Store.get_count, h.counted _ hb, starts_append]
      simp [starts, Deed.starts, Nat.add_comm]
    · intro a ha
      obtain ⟨hka, ht⟩ := h.traced _ a (Store.mem_of_mem_get ha)
      rw [hop]
      exact ⟨hka, ht.append [_] (by simp [Deed.fills, Deed.empties])⟩
    · intro d hm
      obtain rfl := List.mem_singleton.mp hm
      rw [hop]
      exact ⟨fun op hne => by simpa [Deed.starts] using Ne.symm hne, fun _ _ => ⟨rfl, rfl⟩⟩

/-- The outcome of a load that is completed is traced to it, and supersedes what the slot of
its key held before. -/
theorem finish_of_none (h : Holds p r log) (hf : (r.finish t c o).1 = none) :
    Holds p (r.finish t c o).2 (.returned id t c o :: log) := by
  have hp := h.policies
  have hquiet : ∀ op, (Deed.returned id t c o).starts op = false := fun _ => rfl
  cases hb : (r.policies.policy c.operation).isBypass with
  | true =>
    rw [Registry.finish_of_bypass hb]
    rw [hp] at hb
    refine h.extend [_] (by simpa using fun op _ => hquiet op) fun op a ha d hm => ?_
    obtain rfl := List.mem_singleton.mp hm
    have hne : a.key.operation ≠ c.operation := by
      rw [(h.traced op a ha).1]
      intro he
      rw [he, h.slots_of_bypass hb] at ha
      cases ha
    refine ⟨?_, rfl⟩
    have : Key.ofCall c ≠ a.key := fun he => hne (by rw [← he, Key.ofCall_operation])
    simpa [Deed.fills] using this
  | false =>
    rw [Registry.finish_of_room hb] at hf ⊢
    dsimp only at hf ⊢
    rw [hp] at hb
    have hcap := h.capacity_pos hb
    have hop : ((r.store c.operation).insert t (.ofCall c) o).2.operation = c.operation := by
      rw [Store.insert_operation, Registry.store_operation]
    refine h.put [.returned id t c o] (by rw [hop]; exact hb)
      (by rw [hop, Store.insert_policy, h.policy]) ?_ ?_ ?_
    · rw [hop, Store.insert_count, h.counted _ hb, starts_of_none (by simp [Deed.starts])]
    · intro a ha
      rw [hop]
      rcases Store.mem_insert hcap ha with ⟨ha, hk⟩ | ⟨-, hk, ho, he⟩
      · obtain ⟨hka, ht⟩ := h.traced _ a ha
        refine ⟨hka, ht.append [_] ?_⟩
        simpa [Deed.fills, Deed.empties] using Ne.symm (hk hf)
      · rw [h.policy] at he
        refine ⟨by rw [hk, Key.ofCall_operation], id, t, c, hk.symm, he, ?_⟩
        rw [ho]
        exact .here
    · intro d hm
      obtain rfl := List.mem_singleton.mp hm
      rw [hop]
      refine ⟨fun _ _ => rfl, fun k hk => ⟨?_, rfl⟩⟩
      have : Key.ofCall c ≠ k := fun he => hk (by rw [← he, Key.ofCall_operation])
      simpa [Deed.fills] using this

/-- An outcome that could not be kept leaves no trace. -/
theorem finish_of_some {f : Fault} (h : Holds p r log) (hf : (r.finish t c o).1 = some f) :
    Holds p (r.finish t c o).2 log := by
  have hp := h.policies
  cases hb : (r.policies.policy c.operation).isBypass with
  | true => rw [Registry.finish_of_bypass hb] at hf; cases hf
  | false =>
    rw [Registry.finish_of_room hb] at hf ⊢
    dsimp only at hf ⊢
    rw [hp] at hb
    have hcap := h.capacity_pos hb
    have hop : ((r.store c.operation).insert t (.ofCall c) o).2.operation = c.operation := by
      rw [Store.insert_operation, Registry.store_operation]
    refine h.put [] (by rw [hop]; exact hb)
      (by rw [hop, Store.insert_policy, h.policy]) ?_ ?_ (by simp)
    · rw [hop, Store.insert_count, h.counted _ hb, List.nil_append]
    · intro a ha
      rw [hop]
      rcases Store.mem_insert hcap ha with ⟨ha, -⟩ | ⟨hn, -⟩
      · exact h.traced _ a ha
      · rw [hn] at hf; cases hf

/-- What a read finds was left by a load, and less than the lifetime before. -/
theorem hit (h : Holds p r log) (hl : (r.lookup t c).1 = .hit o) :
    (p.policy c.operation).isBypass = false ∧ ∃ id t' c' e, Key.ofCall c' = .ofCall c ∧
      t'.after? (p.policy c.operation).ttl = some e ∧ t.nanos < e.nanos ∧
      Lasting (.ofCall c) (.returned id t' c' o) log := by
  rcases r.lookup_cases t c with ⟨-, hr⟩ | ⟨hb, -, ⟨o', hg, ho⟩ | hm⟩
  · rw [hr] at hl; cases hl
  · rw [h.policies] at hb
    rw [ho] at hl
    cases hl
    obtain ⟨a, ha, hk, rfl, hlive⟩ := Store.get_some hg
    obtain ⟨-, id, t', c', hkey, he, hlast⟩ := h.traced _ a ha
    rw [hk] at hkey hlast
    exact ⟨hb, id, t', c', a.expires, hkey, he, by simpa [Slot.live] using hlive, hlast⟩
  · rw [hm] at hl; cases hl

end Holds
end ChainGateway.Cache
