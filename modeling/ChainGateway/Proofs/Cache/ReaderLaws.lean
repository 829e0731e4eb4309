import ChainGateway.Cache.Reader
import ChainGateway.Proofs.Cache.RegistryLaws

/-!
# Laws of reads underway

A step of a read finds the read in the phase the step belongs to or does nothing. Reads are
told by their numbers: a step of one leaves the others as they are.
-/

namespace ChainGateway

/-- What asks the pool asks it for one transaction. -/
theorem PendingQuery.ofCall?_of_consults {c : Call} {o : Outcome} (hf : c.fits = true)
    (h : Cache.consultsPool c o = true) : ∃ q, ofCall? c = some q := by
  obtain ⟨op, args⟩ := c
  unfold Cache.consultsPool at h
  rw [Bool.and_eq_true, Bool.or_eq_true, beq_iff_eq, beq_iff_eq] at h
  have hone : op.parameters = [.text] := by
    rcases h.1 with rfl | rfl <;> rfl
  rw [Call.fits, Bool.and_eq_true, hone, beq_iff_eq] at hf
  obtain ⟨a, rfl⟩ := List.length_eq_one_iff.mp hf.1
  cases a with
  | text s => rcases h.1 with rfl | rfl <;> exact ⟨_, rfl⟩
  | _ => simp [Argument.fits] at hf

namespace Cache.Reader

variable {r : Reader} {id id' : Nat} {t : Instant} {c : Call} {o : Outcome} {x y : OpenRead}

-- ---------------------------------------------------------------------------
-- The read with a number
-- ---------------------------------------------------------------------------

theorem find?_id (h : r.find? id = some x) : x.id = id := by
  simpa using List.find?_some h

theorem find?_mem (h : r.find? id = some x) : x ∈ r.underway := List.mem_of_find?_eq_some h

theorem find?_setPhase {p : ReadPhase} :
    (r.setPhase id p).find? id' =
      if id' = id then (r.find? id).map ({ · with phase := p }) else r.find? id' := by
  unfold find? setPhase
  rw [List.find?_map]
  have hsame : ((fun x : OpenRead => decide (x.id = id')) ∘
      fun x => if x.id = id then { x with phase := p } else x) = fun x => decide (x.id = id') := by
    funext x
    dsimp only [Function.comp]
    split <;> rfl
  rw [hsame]
  by_cases h : id' = id
  · rw [if_pos h, h]
    cases hx : r.underway.find? (·.id = id) with
    | none => rfl
    | some x => simp [show x.id = id by simpa using List.find?_some hx]
  · rw [if_neg h]
    cases hx : r.underway.find? (·.id = id') with
    | none => rfl
    | some x =>
      have : x.id = id' := by simpa using List.find?_some hx
      simp [this, h]

theorem find?_push (r : Reader) (g : Registry) (x : OpenRead) (id : Nat) :
    ({ r with registry := g, underway := r.underway ++ [x] } : Reader).find? id =
      (r.find? id).or (if x.id = id then some x else none) := by
  unfold find?
  rw [List.find?_append, List.find?_singleton]
  simp

theorem find?_abandon :
    (r.abandon id).find? id' = if id' = id then none else r.find? id' :=
  Labels.find?_without

/-- No two reads underway have one number. -/
def Numbered (r : Reader) : Prop := (r.underway.map (·.id)).Nodup

theorem Numbered.find?_of_mem (h : r.Numbered) (hx : x ∈ r.underway) : r.find? x.id = some x :=
  Labels.find?_of_nodup h hx

theorem Numbered.push (h : r.Numbered) (hx : r.find? x.id = none) {g : Registry} :
    ({ r with registry := g, underway := r.underway ++ [x] } : Reader).Numbered := by
  unfold Numbered
  rw [List.map_append, List.nodup_append]
  refine ⟨h, List.nodup_cons.mpr ⟨List.not_mem_nil, List.nodup_nil⟩, fun i hi j hj he => ?_⟩
  obtain ⟨y, hy, rfl⟩ := List.mem_map.mp hi
  have hj : j = x.id := by simpa using hj
  have := h.find?_of_mem hy
  rw [he, hj, hx] at this
  cases this

theorem Numbered.abandon (h : r.Numbered) : (r.abandon id).Numbered :=
  List.Nodup.sublist (List.filter_sublist.map _) h

theorem Numbered.setPhase (h : r.Numbered) {p : ReadPhase} : (r.setPhase id p).Numbered := by
  have hids : (r.setPhase id p).underway.map (·.id) = r.underway.map (·.id) := by
    rw [Reader.setPhase, List.map_map]
    refine List.map_congr_left fun x _ => ?_
    dsimp only [Function.comp]
    split <;> rfl
  rw [Numbered, hids]
  exact h

-- ---------------------------------------------------------------------------
-- Steps of a read
-- ---------------------------------------------------------------------------

theorem look_cases (r : Reader) (t : Instant) (id : Nat) (c : Call) :
    (∃ o, (r.registry.lookup t c).1 = .hit o ∧
      r.look t id c = (.done o, { r with registry := (r.registry.lookup t c).2 })) ∨
    ((∀ o, (r.registry.lookup t c).1 ≠ .hit o) ∧
      r.look t id c = (.missed,
        { r with
          registry := (r.registry.lookup t c).2
          underway := r.underway ++ [⟨id, c, .missed⟩] })) := by
  unfold look
  cases h : r.registry.lookup t c with
  | mk l registry =>
    cases l with
    | hit o => exact .inl ⟨o, rfl, rfl⟩
    | bypass => exact .inr ⟨fun o => nofun, rfl⟩
    | miss => exact .inr ⟨fun o => nofun, rfl⟩

theorem begin_cases (r : Reader) (id : Nat) :
    (∃ c, r.find? id = some ⟨id, c, .missed⟩ ∧ r.begin id = (.load c, r.setPhase id .loading)) ∨
    r.begin id = (.nothing, r) := by
  unfold begin
  split
  · rename_i id' c h
    obtain rfl : id' = id := find?_id h
    exact .inl ⟨c, h, rfl⟩
  · exact .inr rfl

theorem settle_cases (r : Reader) (t : Instant) (x : OpenRead) (o : Outcome) :
    ((r.registry.finish t x.call o).1 = none ∧ r.settle t x o =
      (.done o, { r.abandon x.id with registry := (r.registry.finish t x.call o).2 })) ∨
    (∃ f, (r.registry.finish t x.call o).1 = some f ∧ r.settle t x o =
      (.failed f, { r.abandon x.id with registry := (r.registry.finish t x.call o).2 })) := by
  unfold settle
  cases h : r.registry.finish t x.call o with
  | mk fault registry =>
    cases fault with
    | none => exact .inl ⟨rfl, rfl⟩
    | some f => exact .inr ⟨f, rfl, rfl⟩

/-- The answer of the store to a read that has called it either sends the read to the pool or
ends it. -/
theorem loaded_cases (r : Reader) (t : Instant) (id : Nat) (o : Outcome)
    (hf : ∀ x, r.find? id = some x → x.call.fits = true) :
    (∃ c q, r.find? id = some ⟨id, c, .loading⟩ ∧ r.hasPool = true ∧ consultsPool c o = true ∧
      PendingQuery.ofCall? c = some q ∧ r.loaded t id o = (.ask q, r.setPhase id .asking)) ∨
    (∃ c, r.find? id = some ⟨id, c, .loading⟩ ∧ ¬(r.hasPool = true ∧ consultsPool c o = true) ∧
      r.loaded t id o = r.settle t ⟨id, c, .loading⟩ o) ∨
    r.loaded t id o = (.nothing, r) := by
  unfold loaded
  split
  · rename_i id' c h
    obtain rfl : id' = id := find?_id h
    cases hq : PendingQuery.ofCall? c with
    | some q =>
      dsimp only
      split
      · rename_i hb
        rw [Bool.and_eq_true] at hb
        exact .inl ⟨c, q, h, hb.1, hb.2, hq, rfl⟩
      · rename_i hb
        rw [Bool.and_eq_true] at hb
        exact .inr (.inl ⟨c, h, hb, rfl⟩)
    | none =>
      refine .inr (.inl ⟨c, h, fun hb => ?_, rfl⟩)
      obtain ⟨q, hq'⟩ := PendingQuery.ofCall?_of_consults (hf _ h) hb.2
      rw [hq] at hq'
      cases hq'
  · exact .inr (.inr rfl)

theorem begin_of_missed (hx : r.find? id = some ⟨id, c, .missed⟩) :
    r.begin id = (.load c, r.setPhase id .loading) := by
  rw [begin, hx]

theorem loaded_of_loading (hx : r.find? id = some ⟨id, c, .loading⟩)
    (hc : consultsPool c o = false) : r.loaded t id o = r.settle t ⟨id, c, .loading⟩ o := by
  rw [loaded, hx]
  dsimp only
  cases PendingQuery.ofCall? c with
  | none => rfl
  | some q => simp [hc]

theorem asked_of_asking (hx : r.find? id = some ⟨id, c, .asking⟩) :
    r.asked t id o = r.settle t ⟨id, c, .asking⟩ o := by
  rw [asked, hx]

theorem asked_cases (r : Reader) (t : Instant) (id : Nat) (o : Outcome) :
    (∃ c, r.find? id = some ⟨id, c, .asking⟩ ∧
      r.asked t id o = r.settle t ⟨id, c, .asking⟩ o) ∨
    r.asked t id o = (.nothing, r) := by
  unfold asked
  split
  · rename_i id' c h
    obtain rfl : id' = id := find?_id h
    exact .inl ⟨c, h, rfl⟩
  · exact .inr rfl

end Cache.Reader

-- ---------------------------------------------------------------------------
-- Turns of the registry
-- ---------------------------------------------------------------------------

namespace Cache

/-- What a step of a read does to the registry, and the fault it runs into there. -/
inductive Registry.Turn (t : Instant) (r : Registry) : Option Fault → Registry → Prop
  | still : Turn t r none r
  | lookup (c : Call) : Turn t r none (r.lookup t c).2
  | finish (c : Call) (o : Outcome) : Turn t r (r.finish t c o).1 (r.finish t c o).2

namespace Reader

variable {r : Reader} {t : Instant} {id : Nat}

/-- The step takes a turn of the registry, and fails only if that does. -/
def Turns (r : Reader) (t : Instant) (s : ReadProgress × Reader) : Prop :=
  ∃ fault, r.registry.Turn t fault s.2.registry ∧ ∀ f, s.1 = .failed f → fault = some f

theorem turns_still {p : ReadProgress} {r' : Reader} (hr : r'.registry = r.registry)
    (hp : ∀ f, p ≠ .failed f) : r.Turns t (p, r') :=
  ⟨none, by rw [hr]; exact .still, fun f hf => absurd hf (hp f)⟩

theorem turns_start (c : Call) : r.Turns t (r.start t id c) := by
  unfold start
  rcases look_cases r t id c with ⟨o, -, hs⟩ | ⟨-, hs⟩
  · rw [hs]
    exact ⟨none, .lookup c, nofun⟩
  · rw [hs]
    dsimp only
    rcases begin_cases { r with
      registry := (r.registry.lookup t c).2
      underway := r.underway ++ [⟨id, c, .missed⟩] } id with ⟨c', -, hb⟩ | hb
    · rw [hb]
      exact ⟨none, .lookup c, nofun⟩
    · rw [hb]
      exact ⟨none, .lookup c, nofun⟩

theorem turns_settle (x : OpenRead) (o : Outcome) : r.Turns t (r.settle t x o) := by
  rcases settle_cases r t x o with ⟨-, hs⟩ | ⟨f, hf, hs⟩
  · rw [hs]
    exact ⟨_, .finish x.call o, nofun⟩
  · rw [hs]
    refine ⟨_, .finish x.call o, fun f' hf' => ?_⟩
    cases hf'
    exact hf

theorem turns_loaded (o : Outcome) : r.Turns t (r.loaded t id o) := by
  unfold loaded
  split
  · split
    · split
      · exact turns_still rfl nofun
      · exact turns_settle _ o
    · exact turns_settle _ o
  · exact turns_still rfl nofun

theorem turns_asked (o : Outcome) : r.Turns t (r.asked t id o) := by
  rcases asked_cases r t id o with ⟨c, -, hs⟩ | hs
  · rw [hs]
    exact turns_settle _ o
  · rw [hs]
    exact turns_still rfl nofun

end Reader
end Cache
end ChainGateway
