import ChainGateway.Proofs.Cache.Holdings
import ChainGateway.Proofs.Cache.Lives

/-!
# Coherent sessions

In every session a read that returns without calling the store repeats the last load that was
completed for its call, while that load is younger than the lifetime and its store has not
been emptied since. Every other read that returns has called the store once.
-/

namespace ChainGateway.Cache

variable {p : PolicyTable} {pool : Bool} {s : Session} {log ds : List Deed} {id : Nat}
  {t : Instant} {c : Call} {o : Outcome} {x : OpenRead} {d : Deed}

-- ---------------------------------------------------------------------------
-- The registry of a session
-- ---------------------------------------------------------------------------

/-- What the log of a session says about its stores. -/
def Stocked (p : PolicyTable) (s : Session) : Prop := Holds p s.reader.registry s.log

namespace Stocked

theorem settle (h : Stocked p s) (hd : d.Quiet) :
    let (q, r) := s.reader.settle t x o
    Stocked p (s.note r (q.deeds t x d)) := by
  have hq : Holds p s.reader.registry ([d] ++ s.log) := h.quiet _ (by simpa using hd)
  rcases s.reader.settle_cases t x o with ⟨hn, hs⟩ | ⟨f, hf, hs⟩ <;> rw [hs]
  · exact hq.finish_of_none hn
  · exact (hq.finish_of_some hf).quiet [.failed x.id f] (by simp [Deed.Quiet])

theorem look (h : Stocked p s) : Stocked p (s.look t c) := by
  unfold Session.look
  rcases s.reader.look_cases t s.started c with ⟨o, -, hl⟩ | ⟨-, hl⟩ <;>
    rw [hl]
  · exact Holds.lookup h
  · exact Holds.lookup h

theorem begin (h : Stocked p s) : Stocked p (s.begin id) := by
  unfold Session.begin
  rcases s.reader.begin_cases id with ⟨c, -, hb⟩ | hb <;> rw [hb]
  · exact h.quiet [.called id c] (by simp [Deed.Quiet])
  · exact h

theorem loaded (h : Stocked p s) (hr : Reads pool s) : Stocked p (s.loaded t id o) := by
  unfold Session.loaded
  cases hx : s.reader.find? id with
  | none => exact h
  | some x =>
    dsimp only
    rcases s.reader.loaded_cases t id o (fun x hx => hr.fits x hx) with
      ⟨c, q, hx', -, -, -, hs⟩ | ⟨c, hx', -, hs⟩ | hs <;> rw [hs]
    · cases hx.symm.trans hx'
      exact h.quiet [.consulted id q, .answered id o] (by simp [Deed.Quiet])
    · cases hx.symm.trans hx'
      exact h.settle trivial
    · exact h

theorem asked (h : Stocked p s) : Stocked p (s.asked t id o) := by
  unfold Session.asked
  cases hx : s.reader.find? id with
  | none => exact h
  | some x =>
    dsimp only
    rcases s.reader.asked_cases t id o with ⟨c, hx', hs⟩ | hs <;> rw [hs]
    · cases hx.symm.trans hx'
      exact h.settle trivial
    · exact h

theorem abandon (h : Stocked p s) : Stocked p (s.abandon id) := by
  unfold Session.abandon
  split
  · exact h.quiet [.abandoned id] (by simp [Deed.Quiet])
  · exact h

theorem poll {e : Except ReadError Epoch.Marker} (h : Stocked p s) : Stocked p (s.poll e) := by
  unfold Session.poll
  dsimp only
  split
  · exact Holds.clear h rfl
  · exact h

theorem step {m : Move} (h : Stocked p s) (hr : Reads pool s) : Stocked p (s.step m) := by
  cases m with
  | look t c => exact h.look
  | begin id => exact h.begin
  | loaded t id o => exact h.loaded hr
  | asked t id o => exact h.asked
  | abandon id => exact h.abandon
  | clear => exact Holds.clear h rfl
  | clearOne op => exact Holds.clearOne h
  | purge t => exact Holds.purge h
  | purgeOne t op => exact Holds.purgeOne h
  | poll e => exact h.poll

end Stocked

-- ---------------------------------------------------------------------------
-- What reads find
-- ---------------------------------------------------------------------------

/-- What a read at `t` of `c` found is what a load left, and less than the lifetime before. -/
def Found (p : PolicyTable) (t : Instant) (c : Call) (o : Outcome) (earlier : List Deed) : Prop :=
  (p.policy c.operation).isBypass = false ∧ ∃ id t' c' e, Key.ofCall c' = .ofCall c ∧
    t'.after? (p.policy c.operation).ttl = some e ∧ t.nanos < e.nanos ∧
    Lasting (.ofCall c) (.returned id t' c' o) earlier

def Replays (p : PolicyTable) (log : List Deed) : Prop :=
  ∀ id t c o earlier, .looked id t c (some o) :: earlier <:+ log → Found p t c o earlier

namespace Replays

theorem cons (h : Replays p log) (hd : d.isHit = false) : Replays p (d :: log) := by
  intro id t c o earlier hs
  rcases List.suffix_cons_iff.mp hs with he | hs
  · rw [← (List.cons.inj he).1] at hd
    cases hd
  · exact h id t c o earlier hs

theorem append (h : Replays p log) (hd : ∀ d ∈ ds, d.isHit = false) : Replays p (ds ++ log) := by
  induction ds with
  | nil => exact h
  | cons d ds ih =>
    rw [List.forall_mem_cons] at hd
    exact (ih hd.2).cons hd.1

theorem hit (h : Replays p log) (hf : Found p t c o log) :
    Replays p (.looked id t c (some o) :: log) := by
  intro id' t' c' o' earlier hs
  rcases List.suffix_cons_iff.mp hs with he | hs
  · cases he
    exact hf
  · exact h id' t' c' o' earlier hs

theorem look (h : Replays p s.log) (hs : Stocked p s) : Replays p (s.look t c).log := by
  unfold Session.look
  rcases s.reader.look_cases t s.started c with ⟨o, hlk, hl⟩ | ⟨-, hl⟩ <;>
    rw [hl]
  · exact h.hit (Holds.hit hs hlk)
  · exact h.cons rfl

theorem step {m : Move} (h : Replays p s.log) (hs : Stocked p s) : Replays p (s.step m).log := by
  cases hm : m.isLook with
  | true =>
    cases m with
    | look t c => exact h.look hs
    | _ => cases hm
  | false =>
    obtain ⟨ds, hds, hd⟩ := s.step_log (m := m)
    rw [hds]
    exact h.append fun d hmem => (hd d hmem).2 hm

end Replays

-- ---------------------------------------------------------------------------
-- Runs
-- ---------------------------------------------------------------------------

/-- What holds after every step of a session. -/
structure Session.Orderly (p : PolicyTable) (pool : Bool) (s : Session) : Prop where
  reads : Reads pool s
  stocked : Stocked p s
  replays : Replays p s.log

theorem Session.Orderly.new {tracker : Epoch.Tracker} :
    (Session.new p pool tracker).Orderly p pool :=
  ⟨.new, .new, fun _ _ _ _ _ h => by simp [Session.new] at h⟩

theorem Session.Orderly.step (h : s.Orderly p pool) {m : Move} : (s.step m).Orderly p pool :=
  ⟨h.reads.step, h.stocked.step h.reads, h.replays.step h.stocked⟩

theorem Session.Orderly.run (h : s.Orderly p pool) {moves : List Move} :
    (s.run moves).Orderly p pool := by
  induction moves generalizing s with
  | nil => exact h
  | cons m moves ih => exact ih h.step

/-- The load of `o` by the read `id` at `t` is the last one that was completed for calls like
`c`, and their store has not been emptied since. -/
def LastLoad (c : Call) (id : Nat) (t : Instant) (o : Outcome) (log : List Deed) : Prop :=
  ∃ since c' prior, log = since ++ .returned id t c' o :: prior ∧ c'.Akin c ∧
    ∀ d ∈ since, d.empties c.operation = false ∧
      ∀ id' t' c'' o', d = .returned id' t' c'' o' → ¬c''.Akin c

/-- What clients see of the reads of a session. -/
structure Session.Coherent (p : PolicyTable) (pool : Bool) (s : Session) : Prop where
  /-- A read that returns what it found has done nothing else, and returns what the last load
  for its call returned, less than the lifetime after that. -/
  hits : ∀ id t c o earlier, .looked id t c (some o) :: earlier <:+ s.log →
    lifeOf id s.log = [.looked id t c (some o)] ∧ (p.policy c.operation).isBypass = false ∧
    ∃ id' t', LastLoad c id' t' o earlier ∧
      t.nanos < t'.nanos + (p.policy c.operation).ttl.nanos
  /-- Any other read that returns has called the store, and the pool if need be, once. -/
  loads : ∀ id t c o, .returned id t c o ∈ s.log → Completed pool id t c o (lifeOf id s.log)
  /-- A bypassed operation has no store, so its reads find nothing. -/
  bypassed : ∀ op, (p.policy op).isBypass = true → s.reader.registry.find? op = none ∧
    ∀ id t c found, .looked id t c found ∈ s.log → c.operation = op → found = none
  single : s.reader.registry.Single
  counted : ∀ st ∈ s.reader.registry.stores,
    st.hits + st.misses = starts st.operation s.log

theorem Session.Orderly.completed (h : s.Orderly p pool) (hm : .returned id t c o ∈ s.log) :
    c.fits = true ∧ Completed pool id t c o (lifeOf id s.log) :=
  ((h.reads.lives id).completed_of_mem (mem_lifeOf.mpr ⟨hm, rfl⟩)).2

theorem Session.Orderly.hit (h : s.Orderly p pool)
    (hm : .looked id t c (some o) ∈ s.log) :
    c.fits = true ∧ lifeOf id s.log = [.looked id t c (some o)] :=
  ((h.reads.lives id).hit_of_mem (mem_lifeOf.mpr ⟨hm, rfl⟩)).2

/-- What lasts in the slot of a call is the last load for it. -/
theorem Lasting.lastLoad {c' : Call} (hl : Lasting (.ofCall c) (.returned id t c' o) log)
    (hk : Key.ofCall c' = .ofCall c) (hc : c.fits = true)
    (hfits : ∀ id t c o, .returned id t c o ∈ log → c.fits = true) : LastLoad c id t o log := by
  obtain ⟨since, prior, rfl, hs⟩ := hl
  have hc' := hfits id t c' o (by simp)
  refine ⟨since, c', prior, rfl, (Key.ofCall_eq_iff hc' hc).mp hk, fun d hd => ?_⟩
  obtain ⟨hfill, hempty⟩ := hs d hd
  rw [Key.ofCall_operation] at hempty
  refine ⟨hempty, ?_⟩
  rintro id' t' c'' o' rfl hakin
  have hc'' := hfits id' t' c'' o' (by simp [hd])
  simp [Deed.fills, (Key.ofCall_eq_iff hc'' hc).mpr hakin] at hfill

theorem Session.coherent (p : PolicyTable) (pool : Bool) (tracker : Epoch.Tracker)
    (moves : List Move) : ((Session.new p pool tracker).run moves).Coherent p pool := by
  have h : ((Session.new p pool tracker).run moves).Orderly p pool := Orderly.new.run
  generalize (Session.new p pool tracker).run moves = s at h
  constructor
  case hits =>
    intro id t c o earlier hs
    obtain ⟨hfits, hlife⟩ := h.hit (hs.subset List.mem_cons_self)
    obtain ⟨hb, id', t', c', e, hk, he, hlt, hlast⟩ := h.replays id t c o earlier hs
    rw [Instant.eq_of_after? he] at hlt
    refine ⟨hlife, hb, id', t', hlast.lastLoad hk hfits fun i u d e hm => ?_, hlt⟩
    exact (h.completed (hs.subset (List.mem_cons_of_mem _ hm))).1
  case loads => exact fun id t c o hm => (h.completed hm).2
  case bypassed =>
    intro op hb
    refine ⟨h.stocked.bypassed op hb, fun id t c found hm hop => ?_⟩
    cases found with
    | none => rfl
    | some o =>
      obtain ⟨later, earlier, he⟩ := List.append_of_mem hm
      have hs : .looked id t c (some o) :: earlier <:+ s.log := ⟨later, he.symm⟩
      have hroom := (h.replays id t c o earlier hs).1
      rw [hop, hb] at hroom
      cases hroom
  case single => exact h.stocked.single
  case counted =>
    intro st hst
    have hstore := h.stocked.single.store_of_mem hst
    have hb : (p.policy st.operation).isBypass = false := by
      cases hb : (p.policy st.operation).isBypass with
      | false => rfl
      | true =>
        have := h.stocked.bypassed _ hb
        rw [h.stocked.single.find?_mem hst] at this
        cases this
    have := h.stocked.counted _ hb
    rw [hstore] at this
    exact this

end ChainGateway.Cache
