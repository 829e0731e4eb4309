import ChainGateway.Proofs.Cache.Transcript

/-!
# Lifetimes within the clock

Every outcome that is kept has a lifetime that has to end within the clock. Reads never fail until
`last` just when the lifetime of each operation with room could start then.
-/

namespace ChainGateway.Cache

variable {p : PolicyTable} {r r' : Registry} {s : Store} {t last : Instant} {op : Operation}
  {c : Call} {o : Outcome} {pool : Bool} {id : Nat} {f : Fault}

/-- Every lifetime that starts by `last` ends within the clock. -/
def PolicyTable.Lasts (p : PolicyTable) (last : Instant) : Prop :=
  ∀ op, (p.policy op).isBypass = false → ∃ e, last.after? (p.policy op).ttl = some e

-- ---------------------------------------------------------------------------
-- Reads that do not fail
-- ---------------------------------------------------------------------------

namespace Registry

/-- The stores have the policies of the table. -/
structure Ruled (p : PolicyTable) (r : Registry) : Prop where
  policies : r.policies = p
  policy : ∀ op, (r.store op).policy = p.policy op

namespace Ruled

theorem new : Ruled p (.new p) := ⟨rfl, fun _ => rfl⟩

theorem put (h : r.Ruled p) (hs : s.policy = p.policy s.operation) : (r.put s).Ruled p where
  policies := h.policies
  policy op := by
    rw [store_put]
    split
    · rename_i hop
      rw [hs, hop]
    · exact h.policy op

theorem clear (h : r.Ruled p) : r.clear.2.Ruled p where
  policies := h.policies
  policy op := by
    rw [store_clear]
    exact h.policy op

theorem purge (h : r.Ruled p) : (r.purge t).2.Ruled p where
  policies := h.policies
  policy op := by
    rw [store_purge]
    exact h.policy op

theorem room (h : r.Ruled p) (hb : (p.policy op).isBypass = false) :
    0 < (r.store op).policy.capacity := by
  rw [h.policy]
  exact Nat.pos_of_ne_zero (by simpa [Policy.isBypass] using hb)

theorem finish_overflow (h : r.Ruled p) (hb : (p.policy c.operation).isBypass = false)
    (hend : t.after? (p.policy c.operation).ttl = none) :
    (r.finish t c o).1 = some .timeOverflow := by
  rw [finish_of_room (by rw [h.policies, hb]),
    Store.insert_of_overflow (h.room hb) (by rw [h.policy]; exact hend)]

theorem finish_fault (h : r.Ruled p) (hl : p.Lasts last) (ht : t.nanos ≤ last.nanos) :
    (r.finish t c o).1 = none := by
  cases hb : (r.policies.policy c.operation).isBypass with
  | true => rw [finish_of_bypass hb]
  | false =>
    rw [h.policies] at hb
    obtain ⟨e, he⟩ := hl c.operation hb
    obtain ⟨e', he'⟩ := Instant.after?_mono ht (Nat.le_refl _) he
    rw [finish_of_room (by rw [h.policies, hb]),
      Store.insert_of_after (h.room hb) (by rw [h.policy]; exact he')]

/-- No turn of the registry fails, and it goes on like this. -/
theorem turn {fault : Option Fault} (h : r.Ruled p) (hl : p.Lasts last)
    (ht : t.nanos ≤ last.nanos) (hturn : r.Turn t fault r') : fault = none ∧ r'.Ruled p := by
  cases hturn with
  | still => exact ⟨rfl, h⟩
  | lookup c =>
    rcases r.lookup_cases t c with ⟨-, hlookup⟩ | ⟨-, hlookup, -⟩
    · rw [hlookup]
      exact ⟨rfl, h⟩
    · rw [hlookup]
      refine ⟨rfl, h.put ?_⟩
      rw [Store.get_policy, Store.get_operation, store_operation, h.policy]
  | finish c o =>
    refine ⟨h.finish_fault hl ht, ?_⟩
    cases hb : (r.policies.policy c.operation).isBypass with
    | true =>
      rw [finish_of_bypass hb]
      exact h
    | false =>
      rw [finish_of_room hb]
      refine h.put ?_
      rw [Store.insert_policy, Store.insert_operation, store_operation, h.policy]

end Ruled
end Registry

namespace Session

variable {s : Session} {m : Move} {moves : List Move}

/-- The clock was read at no later moment. -/
def Until (last : Instant) (moves : List Move) : Prop :=
  ∀ m ∈ moves, ∀ t, m.reading? = some t → t.nanos ≤ last.nanos

/-- Nothing that was done was to fail. -/
def Smooth (s : Session) : Prop := ∀ id f, .failed id f ∉ s.log

theorem Smooth.note {r : Reader} {ds : List Deed} (h : s.Smooth) (hd : ∀ id f, .failed id f ∉ ds) :
    (s.note r ds).Smooth := fun id f hmem =>
  (List.mem_append.mp hmem).elim (hd id f) (h id f)

theorem failed_mem_deeds {q : ReadProgress} {x : OpenRead} {d : Deed}
    (hd : ∀ id f, d ≠ .failed id f) (h : .failed id f ∈ q.deeds t x d) : q = .failed f := by
  cases q with
  | failed f' =>
    rcases List.mem_cons.mp h with h | h
    · cases h
      rfl
    · exact absurd (List.mem_singleton.mp h).symm (hd id f)
  | ask q =>
    rcases List.mem_cons.mp h with h | h
    · cases h
    · exact absurd (List.mem_singleton.mp h).symm (hd id f)
  | done o =>
    rcases List.mem_cons.mp h with h | h
    · cases h
    · exact absurd (List.mem_singleton.mp h).symm (hd id f)
  | missed | load | nothing => cases h

/-- An answer that comes by `last` does not make its read fail. -/
theorem Smooth.answered {progress : ReadProgress × Reader} {x : OpenRead} {d : Deed} (h : s.Smooth)
    (hr : s.reader.registry.Ruled p) (hl : p.Lasts last) (ht : t.nanos ≤ last.nanos)
    (hturns : s.reader.Turns t progress) (hd : ∀ id f, d ≠ .failed id f) :
    (s.note progress.2 (progress.1.deeds t x d)).Smooth := by
  refine h.note fun id f hmem => ?_
  obtain ⟨fault, hturn, hfault⟩ := hturns
  have hsome := hfault f (failed_mem_deeds hd hmem)
  rw [(hr.turn hl ht hturn).1] at hsome
  cases hsome

theorem Smooth.step (h : s.Smooth) (ho : s.Orderly p pool) (hl : p.Lasts last)
    (ht : ∀ t, m.reading? = some t → t.nanos ≤ last.nanos) : (s.step m).Smooth := by
  have hr : s.reader.registry.Ruled p := ⟨ho.stocked.policies, ho.stocked.policy⟩
  have hone : ∀ (r : Reader) {d : Deed}, (∀ id f, d ≠ .failed id f) → (s.note r [d]).Smooth :=
    fun _ _ hd => h.note fun id f hmem => hd id f (List.mem_singleton.mp hmem).symm
  cases m with
  | look t c => exact hone (s.reader.look t s.started c).2 (by simp)
  | begin id =>
    simp only [Session.step, Session.begin]
    split
    · exact hone _ (by simp)
    · exact h
  | loaded t id o =>
    simp only [Session.step, Session.loaded]
    split
    · exact h.answered hr hl (ht t rfl) (Reader.turns_loaded o) (by simp)
    · exact h
  | asked t id o =>
    simp only [Session.step, Session.asked]
    split
    · exact h.answered hr hl (ht t rfl) (Reader.turns_asked o) (by simp)
    · exact h
  | abandon id =>
    simp only [Session.step, Session.abandon]
    split
    · exact hone _ (by simp)
    · exact h
  | clear => exact hone _ (by simp)
  | clearOne op => exact hone _ (by simp)
  | purge t => exact h
  | purgeOne t op => exact h
  | poll e =>
    simp only [Session.step, Session.poll]
    split
    · exact hone s.reader.clear.2 (by simp)
    · exact h

theorem Smooth.run (h : s.Smooth) (ho : s.Orderly p pool) (hl : p.Lasts last)
    (ht : Until last moves) : (s.run moves).Smooth := by
  induction moves generalizing s with
  | nil => exact h
  | cons m moves ih =>
    exact ih (h.step ho hl (ht m List.mem_cons_self)) ho.step
      fun m hm => ht m (List.mem_cons_of_mem _ hm)

-- ---------------------------------------------------------------------------
-- A read that fails
-- ---------------------------------------------------------------------------

/-- An argument that may stand for the parameter. -/
def sample : Parameter → Argument
  | .text => .text ""
  | .optionalText => .absent
  | .number => .integer 0
  | .texts => .list []
  | .flag => .flag false
  | .time => .time .epoch

theorem fits_sample (op : Operation) : (Call.mk op (op.parameters.map sample)).fits = true := by
  have hone : ∀ q : Parameter, (sample q).fits q = true := by
    intro q
    cases q <;> rfl
  have hall : ∀ ps : List Parameter,
      ((ps.zip (ps.map sample)).all fun p => p.2.fits p.1) = true := by
    intro ps
    induction ps with
    | nil => rfl
    | cons q ps ih => simpa [hone] using ih
  simp [Call.fits, hall]

theorem loaded_failed {r : Reader} (hx : r.find? id = some ⟨id, c, .loading⟩)
    (hc : consultsPool c o = false) (hf : (r.registry.finish t c o).1 = some f) :
    (r.loaded t id o).1 = .failed f := by
  rw [Reader.loaded_of_loading hx hc]
  rcases r.settle_cases t ⟨id, c, .loading⟩ o with ⟨hnone, -⟩ | ⟨f', hf', hs⟩
  · cases hnone.symm.trans hf
  · cases hf'.symm.trans hf
    rw [hs]

/-- Where the lifetime of an operation cannot start at `last`, a read that comes back then
fails. -/
theorem exists_failed (pool : Bool) (tracker : Epoch.Tracker) (h : ¬p.Lasts last) :
    ∃ moves, Until last moves ∧ ¬((Session.new p pool tracker).run moves).Smooth := by
  obtain ⟨op, h⟩ := Classical.not_forall.mp h
  obtain ⟨hb, hnever⟩ := Classical.not_imp.mp h
  have hend : last.after? (p.policy op).ttl = none := by
    cases he : last.after? (p.policy op).ttl with
    | none => rfl
    | some e => exact absurd ⟨e, he⟩ hnever
  let c : FittingCall := ⟨⟨op, op.parameters.map sample⟩, fits_sample op⟩
  let failure : Outcome := .error (.storage (.queryFailed "" ""))
  let r : Registry := (Registry.new p).put ((Store.new op (p.policy op)).get last (.ofCall c)).2
  have hr : r.Ruled p := Registry.Ruled.new.put (by rw [Store.get_policy, Store.get_operation]; rfl)
  have hlookup : (Registry.new p).lookup last c = (.miss, r) := by
    have hroom : ¬((Registry.new p).policies.policy c.1.operation).isBypass = true :=
      fun hbypass => Bool.false_ne_true (hb.symm.trans hbypass)
    unfold Registry.lookup
    rw [if_neg hroom]
    rfl
  have hlook : (Session.new p pool tracker).look last c =
      ⟨⟨r, pool, [⟨0, c, .missed⟩]⟩, tracker, 1, [.looked 0 last c none]⟩ := by
    simp only [Session.look, Session.new, Reader.look, Reader.new, hlookup]
    rfl
  -- the read has looked and called the store, which answers at `last`
  let asked : Session :=
    ⟨⟨r, pool, [⟨0, c, .loading⟩]⟩, tracker, 1, [.called 0 c, .looked 0 last c none]⟩
  have hrun : (Session.new p pool tracker).run [.look last c, .begin 0, .loaded last 0 failure] =
      asked.loaded last 0 failure := by
    change (((Session.new p pool tracker).look last c).begin 0).loaded last 0 failure = _
    rw [hlook]
    rfl
  have hfailed : (asked.reader.loaded last 0 failure).1 = .failed .timeOverflow :=
    loaded_failed rfl (Bool.and_false _) (hr.finish_overflow hb hend)
  refine ⟨[.look last c, .begin 0, .loaded last 0 failure], ?_, fun hsmooth => ?_⟩
  · intro m hm t ht
    simp only [List.mem_cons, List.not_mem_nil, or_false] at hm
    rcases hm with rfl | rfl | rfl <;> cases ht <;> exact Nat.le_refl _
  · refine hsmooth 0 .timeOverflow ?_
    rw [hrun]
    change _ ∈ (asked.reader.loaded last 0 failure).1.deeds last ⟨0, c, .loading⟩ _ ++ asked.log
    rw [hfailed]
    exact List.mem_cons_self

end Session
end ChainGateway.Cache
