import ChainGateway.Proofs.Cache.StoreLaws

/-!
# Lazy expiry

An ideal store drops an entry the instant its lifetime is over; a store keeps the expired
slot until it meets it. `lazy_expiry_invisible`: whatever is done to a store in the order
of time, no read, counter or live slot tells it from the ideal one, and purging it in
between changes nothing.
-/

namespace ChainGateway.Cache

-- ---------------------------------------------------------------------------
-- Runs
-- ---------------------------------------------------------------------------

inductive StoreOp
  | insert (key : Key) (o : Outcome)
  | get (key : Key)
  | purge
  | clear

/-- Operations with the readings of the clock at which they are done. -/
abbrev StoreRun := List (Instant × StoreOp)

/-- The clock never goes back. -/
def InOrder (run : StoreRun) : Prop := run.Pairwise fun a b => a.1.nanos ≤ b.1.nanos

/-- No lifetime ends beyond the clock. -/
def WithinClock (p : Policy) (run : StoreRun) : Prop :=
  ∀ x ∈ run, ∀ k o, x.2 = .insert k o → (x.1.after? p.ttl).isSome

/-- All operations in their order; the answers to the reads are collected. -/
def StoreRun.foldWith {σ : Type} (perform : σ → Instant → StoreOp → List (Option Outcome) × σ)
    (s : σ) : StoreRun → List (Option Outcome) × σ
  | [] => ([], s)
  | (t, op) :: rest =>
    let (first, s) := perform s t op
    let (later, s) := foldWith perform s rest
    (first ++ later, s)

theorem StoreRun.foldWith_append {σ : Type}
    (perform : σ → Instant → StoreOp → List (Option Outcome) × σ) (s : σ) (a b : StoreRun) :
    StoreRun.foldWith perform s (a ++ b) =
      ((foldWith perform s a).1 ++ (foldWith perform (foldWith perform s a).2 b).1,
        (foldWith perform (foldWith perform s a).2 b).2) := by
  induction a generalizing s with
  | nil => rfl
  | cons x a ih => simp only [List.cons_append, foldWith, ih, List.append_assoc]

namespace Store

def perform (s : Store) (t : Instant) : StoreOp → List (Option Outcome) × Store
  | .insert k o => ([], (s.insert t k o).2)
  | .get k => let (found, s) := s.get t k; ([found], s)
  | .purge => ([], s.purge t)
  | .clear => ([], s.clear)

def run (s : Store) (run : StoreRun) : List (Option Outcome) × Store := run.foldWith perform s

end Store

-- ---------------------------------------------------------------------------
-- The ideal store
-- ---------------------------------------------------------------------------

/-- An outcome and when it was last inserted. -/
structure Entry where
  key : Key
  outcome : Outcome
  inserted : Instant

/-- Whether less than the lifetime has gone by since the entry was inserted. -/
def Entry.within (ttl : Span) (t : Instant) (e : Entry) : Bool :=
  t.nanos < e.inserted.nanos + ttl.nanos

structure Ideal where
  policy : Policy
  /-- Most recently used first. -/
  entries : List Entry
  hits : Nat
  misses : Nat
  evictions : Nat

namespace Ideal

def new (p : Policy) : Ideal := ⟨p, [], 0, 0, 0⟩

/-- The entries at `t`: each is gone from the instant its lifetime has elapsed. -/
def alive (i : Ideal) (t : Instant) : List Entry := i.entries.filter (Entry.within i.policy.ttl t)

def without (l : List Entry) (k : Key) : List Entry := l.filter (·.key ≠ k)

def get (i : Ideal) (t : Instant) (k : Key) : Option Outcome × Ideal :=
  match (i.alive t).find? (·.key = k) with
  | some e =>
    (some e.outcome, { i with entries := e :: without (i.alive t) k, hits := i.hits + 1 })
  | none => (none, { i with entries := i.alive t, misses := i.misses + 1 })

/-- Puts an entry in front; the last one goes when all places are taken by others. -/
def insert (i : Ideal) (t : Instant) (k : Key) (o : Outcome) : Ideal :=
  let rest := without (i.alive t) k
  if rest.length < i.policy.capacity then { i with entries := ⟨k, o, t⟩ :: rest }
  else { i with entries := ⟨k, o, t⟩ :: rest.dropLast, evictions := i.evictions + 1 }

def expire (i : Ideal) (t : Instant) : Ideal := { i with entries := i.alive t }

def perform (i : Ideal) (t : Instant) : StoreOp → List (Option Outcome) × Ideal
  | .insert k o => ([], i.insert t k o)
  | .get k => let (found, i) := i.get t k; ([found], i)
  | .purge => ([], i.expire t)
  | .clear => ([], { i with entries := [] })

def run (i : Ideal) (run : StoreRun) : List (Option Outcome) × Ideal := run.foldWith perform i

theorem filter_within {ttl : Span} {t t' : Instant} {l : List Entry} (h : t.nanos ≤ t'.nanos) :
    (l.filter (Entry.within ttl t)).filter (Entry.within ttl t') =
      l.filter (Entry.within ttl t') := by
  rw [List.filter_filter]
  refine List.filter_congr fun e _ => ?_
  simp only [Entry.within, Bool.and_eq_left_iff_imp, decide_eq_true_eq]
  omega

theorem alive_expire {i : Ideal} {t t' : Instant} (h : t.nanos ≤ t'.nanos) :
    (i.expire t).alive t' = i.alive t' := filter_within h

theorem insert_eq {i : Ideal} {t : Instant} {k : Key} {o : Outcome} (hc : 0 < i.policy.capacity)
    (hlen : (without (i.alive t) k).length ≤ i.policy.capacity) :
    i.insert t k o = { i with
      entries := ⟨k, o, t⟩ :: (without (i.alive t) k).take (i.policy.capacity - 1)
      evictions := i.evictions + ((without (i.alive t) k).length - (i.policy.capacity - 1)) } := by
  simp only [insert]
  split
  · rename_i hlt
    rw [List.take_of_length_le (by omega), Nat.sub_eq_zero_of_le (by omega)]
    rfl
  · rename_i hge
    have hfull : (without (i.alive t) k).length = i.policy.capacity := by omega
    rw [List.dropLast_eq_take, hfull, show i.policy.capacity - (i.policy.capacity - 1) = 1 by omega]

/-- Expiring an ideal store ahead of an operation makes no difference to it. -/
theorem perform_expire {i : Ideal} {t t' : Instant} (h : t.nanos ≤ t'.nanos) (op : StoreOp) :
    (i.expire t).perform t' op = i.perform t' op := by
  cases op with
  | insert k o => simp only [perform, insert, alive_expire h]; rfl
  | get k => simp only [perform, get, alive_expire h]; rfl
  | purge => simp only [perform, expire]; rw [← expire, alive_expire h]
  | clear => rfl

theorem run_expire {i : Ideal} {t : Instant} {run : StoreRun}
    (h : ∀ x ∈ run, t.nanos ≤ x.1.nanos) :
    ((i.expire t).run run).1 = (i.run run).1 ∧
      ((i.expire t).run run).2.hits = (i.run run).2.hits ∧
      ((i.expire t).run run).2.misses = (i.run run).2.misses ∧
      ((i.expire t).run run).2.evictions = (i.run run).2.evictions := by
  cases run with
  | nil => exact ⟨rfl, rfl, rfl, rfl⟩
  | cons x rest =>
    have hx := perform_expire (i := i) (h x (by simp)) x.2
    simp only [Ideal.run, StoreRun.foldWith, hx, and_self]

end Ideal

/-- The slot of an entry. -/
def Entry.slot (ttl : Span) (e : Entry) : Slot :=
  ⟨e.key, e.outcome, ⟨e.inserted.nanos + ttl.nanos⟩⟩

section
variable {ttl : Span} {t : Instant} {k : Key} (l : List Entry)

theorem others_map_slot :
    Store.others (l.map (Entry.slot ttl)) k = (Ideal.without l k).map (Entry.slot ttl) :=
  List.filter_map

theorem find?_map_slot : (l.map (Entry.slot ttl)).find? (·.key = k) =
    (l.find? (·.key = k)).map (Entry.slot ttl) :=
  List.find?_map ..

theorem filter_live_map_slot : (l.map (Entry.slot ttl)).filter (Slot.live t) =
    (l.filter (Entry.within ttl t)).map (Entry.slot ttl) :=
  List.filter_map

end

-- ---------------------------------------------------------------------------
-- The simulation
-- ---------------------------------------------------------------------------

/-- A store and an ideal one that nothing tells apart from `t` on. -/
structure Tracks (t : Instant) (s : Store) (i : Ideal) : Prop where
  sound : s.Sound
  policy : i.policy = s.policy
  hits : i.hits = s.hits
  misses : i.misses = s.misses
  evictions : i.evictions = s.evictions
  live : s.live t = (i.alive t).map (Entry.slot s.policy.ttl)

namespace Tracks

variable {s : Store} {i : Ideal} {t t' : Instant} {k : Key} {o : Outcome}

theorem new (op : Operation) (p : Policy) : Tracks t (.new op p) (.new p) :=
  ⟨.new op p, rfl, rfl, rfl, rfl, rfl⟩

theorem later (h : Tracks t s i) (ht : t.nanos ≤ t'.nanos) : Tracks t' s i where
  sound := h.sound
  policy := h.policy
  hits := h.hits
  misses := h.misses
  evictions := h.evictions
  live := by
    have hl := congrArg (List.filter (Slot.live t')) h.live
    rw [Store.live, Store.filter_live ht, filter_live_map_slot, Ideal.alive, ← h.policy,
      Ideal.filter_within ht, h.policy] at hl
    rw [Store.live, hl, Ideal.alive, h.policy]

theorem peek (h : Tracks t s i) : s.peek t k =
    ((i.alive t).find? (·.key = k)).map (Entry.slot s.policy.ttl) := by
  rw [Store.peek, h.live, find?_map_slot]

theorem others (h : Tracks t s i) : Store.others (s.live t) k =
    (Ideal.without (i.alive t) k).map (Entry.slot s.policy.ttl) := by
  rw [h.live, others_map_slot]

theorem purge (h : Tracks t s i) : Tracks t (s.purge t) (i.expire t) where
  sound := h.sound.purge
  policy := h.policy
  hits := h.hits
  misses := h.misses
  evictions := h.evictions
  live := by
    rw [Ideal.alive_expire (Nat.le_refl _)]
    exact (Store.filter_live (Nat.le_refl _)).trans h.live

theorem clear (h : Tracks t s i) : Tracks t s.clear { i with entries := [] } where
  sound := .clear
  policy := h.policy
  hits := h.hits
  misses := h.misses
  evictions := h.evictions
  live := rfl

theorem get (h : Tracks t s i) :
    (s.get t k).1 = (i.get t k).1 ∧ Tracks t (s.get t k).2 (i.get t k).2 := by
  have hsound := h.sound.get (t := t) (k := k)
  cases hf : (i.alive t).find? (·.key = k) with
  | none =>
    obtain ⟨ha, hl, hh, hm⟩ := Store.get_of_peek_none h.sound.keyed (by rw [h.peek, hf]; rfl)
    simp only [Ideal.get, hf]
    refine ⟨ha, hsound, ?_, ?_, ?_, ?_, ?_⟩
    · rw [Store.get_policy]; exact h.policy
    · rw [hh]; exact h.hits
    · rw [hm]; exact congrArg (· + 1) h.misses
    · rw [Store.get_evictions]; exact h.evictions
    · rw [hl, Store.get_policy, h.live]
      exact congrArg _ (Ideal.alive_expire (Nat.le_refl _)).symm
  | some e =>
    have hg := Store.get_of_peek_some h.sound.keyed (by rw [h.peek, hf]; rfl)
    rw [hg] at hsound ⊢
    simp only [Ideal.get, hf]
    refine ⟨rfl, hsound, h.policy, congrArg (· + 1) h.hits, h.misses, h.evictions, ?_⟩
    have hrest : (Store.others s.slots k).filter (Slot.live t) =
        (Store.others (s.live t) k).filter (Slot.live t) := by
      rw [Store.filter_others, Store.filter_others, Store.live, Store.filter_live (Nat.le_refl _)]
    refine (Store.filter_live_cons hrest).trans ?_
    rw [h.others, ← List.map_cons, filter_live_map_slot, ← h.policy]
    rfl

theorem insert (h : Tracks t s i) (hc : 0 < s.policy.capacity)
    (hw : (t.after? s.policy.ttl).isSome) : Tracks t (s.insert t k o).2 (i.insert t k o) := by
  obtain ⟨e, he⟩ := Option.isSome_iff_exists.mp hw
  have hsound := h.sound.insert (t := t) (k := k) (o := o)
  have hend := Instant.eq_of_after? he
  have hlen : (Ideal.without (i.alive t) k).length = (Store.others (s.live t) k).length := by
    rw [h.others, List.length_map]
  have hle : (Store.others (s.live t) k).length ≤ s.policy.capacity :=
    Nat.le_trans Store.others_sublist.length_le h.sound.length_live_le
  obtain ⟨hroom, hev⟩ := h.sound.live_roomFor (t := t) (k := k) hc
  rw [Ideal.insert_eq (h.policy ▸ hc) (by rw [hlen, h.policy]; exact hle), hlen, h.policy]
  rw [Store.insert_of_after hc he] at hsound ⊢
  refine ⟨hsound, ?_, ?_, ?_, ?_, ?_⟩
  · exact Store.roomFor_policy.symm
  · exact h.hits.trans Store.roomFor_hits.symm
  · exact h.misses.trans Store.roomFor_misses.symm
  · exact h.evictions ▸ hev.symm
  · have hkept := congrArg (List.filter (Slot.live t)) hroom
    rw [Store.filter_live (Nat.le_refl _)] at hkept
    refine (Store.filter_live_cons hkept).trans ?_
    dsimp only
    rw [h.others, ← List.map_take, hend, Store.roomFor_policy]
    exact filter_live_map_slot (⟨k, o, t⟩ :: _)

theorem perform (h : Tracks t s i) (hc : 0 < s.policy.capacity) {op : StoreOp}
    (hw : ∀ k o, op = .insert k o → (t.after? s.policy.ttl).isSome) :
    (s.perform t op).1 = (i.perform t op).1 ∧
      Tracks t (s.perform t op).2 (i.perform t op).2 := by
  cases op with
  | insert k o => exact ⟨rfl, h.insert hc (hw k o rfl)⟩
  | get k => exact ⟨congrArg (fun a => [a]) h.get.1, h.get.2⟩
  | purge => exact ⟨rfl, h.purge⟩
  | clear => exact ⟨rfl, h.clear⟩

end Tracks

theorem Store.perform_policy {s : Store} {t : Instant} {op : StoreOp} :
    (s.perform t op).2.policy = s.policy := by
  cases op with
  | insert k o => exact insert_policy
  | get k => exact get_policy
  | purge => rfl
  | clear => rfl

theorem Store.Sound.perform {s : Store} (h : s.Sound) (t : Instant) (op : StoreOp) :
    (s.perform t op).2.Sound := by
  cases op with
  | insert k o => exact h.insert
  | get k => exact h.get
  | purge => exact h.purge
  | clear => exact .clear

theorem Store.Sound.run {s : Store} (h : s.Sound) (run : StoreRun) :
    (s.run run).2.Sound ∧ (s.run run).2.policy = s.policy := by
  induction run generalizing s with
  | nil => exact ⟨h, rfl⟩
  | cons x rest ih =>
    obtain ⟨hs, hp⟩ := ih (h.perform x.1 x.2)
    exact ⟨hs, hp.trans perform_policy⟩

/-- Nothing tells the two apart after a run either, from its last operation on. -/
theorem Tracks.run {run : StoreRun} {s : Store} {i : Ideal} {t : Instant} (h : Tracks t s i)
    (hc : 0 < s.policy.capacity) (hw : WithinClock s.policy run) (ho : InOrder run)
    (ht : ∀ x ∈ run, t.nanos ≤ x.1.nanos) :
    (s.run run).1 = (i.run run).1 ∧
      ∀ t' : Instant, t.nanos ≤ t'.nanos → (∀ x ∈ run, x.1.nanos ≤ t'.nanos) →
        Tracks t' (s.run run).2 (i.run run).2 := by
  induction run generalizing s i t with
  | nil => exact ⟨rfl, fun t' hle _ => h.later hle⟩
  | cons x rest ih =>
    obtain ⟨u, op⟩ := x
    obtain ⟨hu, ho'⟩ := List.pairwise_cons.mp ho
    obtain ⟨ha, hx⟩ := (h.later (ht _ List.mem_cons_self)).perform hc
      (hw _ List.mem_cons_self)
    have hpol : (s.perform u op).2.policy = s.policy := Store.perform_policy
    obtain ⟨hrest, hend⟩ := ih hx (hpol ▸ hc)
      (fun y hy => hpol ▸ hw y (List.mem_cons_of_mem _ hy)) ho' hu
    refine ⟨?_, fun t' _ hle => hend t' (hle _ List.mem_cons_self)
      fun y hy => hle y (List.mem_cons_of_mem _ hy)⟩
    simp only [Store.run, Ideal.run, StoreRun.foldWith] at hrest ⊢
    rw [ha, hrest]

-- ---------------------------------------------------------------------------
-- Lazy expiry is invisible
-- ---------------------------------------------------------------------------

/-- What a run on an empty store answers to its reads, and the store it leaves. -/
def Store.ofRun (op : Operation) (p : Policy) (run : StoreRun) : List (Option Outcome) × Store :=
  (Store.new op p).run run

def Ideal.ofRun (p : Policy) (run : StoreRun) : List (Option Outcome) × Ideal :=
  (Ideal.new p).run run

section
variable {op : Operation} {p : Policy} {run : StoreRun}

theorem Store.ofRun_sound (op : Operation) (p : Policy) (run : StoreRun) :
    (Store.ofRun op p run).2.Sound ∧ (Store.ofRun op p run).2.policy = p :=
  (Sound.new op p).run run

theorem StoreRun.exists_end (run : StoreRun) :
    ∃ t : Instant, ∀ x ∈ run, x.1.nanos ≤ t.nanos := by
  induction run with
  | nil => exact ⟨⟨0⟩, by simp⟩
  | cons x rest ih =>
    obtain ⟨t, ht⟩ := ih
    refine ⟨⟨max x.1.nanos t.nanos⟩, fun y hy => ?_⟩
    rcases List.mem_cons.mp hy with rfl | hy
    · exact Nat.le_max_left ..
    · exact Nat.le_trans (ht y hy) (Nat.le_max_right ..)

theorem ofRun_tracks (op : Operation) (hc : 0 < p.capacity) (hw : WithinClock p run)
    (ho : InOrder run) :
    (Store.ofRun op p run).1 = (Ideal.ofRun p run).1 ∧
      ∀ t : Instant, (∀ x ∈ run, x.1.nanos ≤ t.nanos) →
        Tracks t (Store.ofRun op p run).2 (Ideal.ofRun p run).2 := by
  obtain ⟨ha, ht⟩ := (Tracks.new (t := ⟨0⟩) op p).run hc hw ho fun _ _ => Nat.zero_le _
  exact ⟨ha, fun t hle => ht t (Nat.zero_le _) hle⟩

theorem ofRun_counters (op : Operation) (hc : 0 < p.capacity) (hw : WithinClock p run)
    (ho : InOrder run) :
    (Store.ofRun op p run).2.hits = (Ideal.ofRun p run).2.hits ∧
      (Store.ofRun op p run).2.misses = (Ideal.ofRun p run).2.misses ∧
      (Store.ofRun op p run).2.evictions = (Ideal.ofRun p run).2.evictions := by
  obtain ⟨t, ht⟩ := run.exists_end
  have h := (ofRun_tracks op hc hw ho).2 t ht
  exact ⟨h.hits.symm, h.misses.symm, h.evictions.symm⟩

theorem Ideal.ofRun_purge {a b : StoreRun} {t : Instant} (ho : InOrder (a ++ (t, .purge) :: b)) :
    (Ideal.ofRun p (a ++ (t, .purge) :: b)).1 = (Ideal.ofRun p (a ++ b)).1 ∧
      (Ideal.ofRun p (a ++ (t, .purge) :: b)).2.hits = (Ideal.ofRun p (a ++ b)).2.hits ∧
      (Ideal.ofRun p (a ++ (t, .purge) :: b)).2.misses = (Ideal.ofRun p (a ++ b)).2.misses ∧
      (Ideal.ofRun p (a ++ (t, .purge) :: b)).2.evictions =
        (Ideal.ofRun p (a ++ b)).2.evictions := by
  have hb := (List.pairwise_cons.mp (List.pairwise_append.mp ho).2.1).1
  obtain ⟨ha, hh, hm, he⟩ := run_expire (i := (Ideal.ofRun p a).2) hb
  simp only [Ideal.ofRun, Ideal.run, StoreRun.foldWith_append] at ha hh hm he ⊢
  exact ⟨congrArg (_ ++ ·) ha, hh, hm, he⟩

/-- A purge anywhere in a run changes neither answers nor counters. -/
theorem Store.ofRun_purge (hc : 0 < p.capacity) {a b : StoreRun} {t : Instant}
    (hw : WithinClock p (a ++ b)) (ho : InOrder (a ++ (t, .purge) :: b)) :
    (Store.ofRun op p (a ++ (t, .purge) :: b)).1 = (Store.ofRun op p (a ++ b)).1 ∧
      (Store.ofRun op p (a ++ (t, .purge) :: b)).2.hits = (Store.ofRun op p (a ++ b)).2.hits ∧
      (Store.ofRun op p (a ++ (t, .purge) :: b)).2.misses = (Store.ofRun op p (a ++ b)).2.misses ∧
      (Store.ofRun op p (a ++ (t, .purge) :: b)).2.evictions =
        (Store.ofRun op p (a ++ b)).2.evictions := by
  have ho' : InOrder (a ++ b) :=
    List.Pairwise.sublist (.append_left (List.sublist_cons_self ..) a) ho
  have hw' : WithinClock p (a ++ (t, .purge) :: b) := by
    intro x hx k o hop
    rcases List.mem_append.mp hx with hx | hx
    · exact hw x (List.mem_append_left _ hx) k o hop
    · rcases List.mem_cons.mp hx with rfl | hx
      · cases hop
      · exact hw x (List.mem_append_right _ hx) k o hop
  obtain ⟨ha, hh, hm, he⟩ := Ideal.ofRun_purge (p := p) ho
  obtain ⟨hh₁, hm₁, he₁⟩ := ofRun_counters op hc hw' ho
  obtain ⟨hh₂, hm₂, he₂⟩ := ofRun_counters op hc hw ho'
  refine ⟨?_, ?_, ?_, ?_⟩
  · rw [(ofRun_tracks op hc hw' ho).1, ha, (ofRun_tracks op hc hw ho').1]
  · rw [hh₁, hh, hh₂]
  · rw [hm₁, hm, hm₂]
  · rw [he₁, he, he₂]

/-- An eviction is counted exactly when a key that is not live is inserted while live slots
of other keys take all the room, and it costs one of these its place. -/
theorem Store.Sound.insert_evicts {s : Store} (h : s.Sound) (hc : 0 < s.policy.capacity)
    {t : Instant} {k : Key} {o : Outcome} :
    (s.insert t k o).2.evictions = s.evictions +
      (if s.peek t k = none ∧ (others (s.live t) k).length = s.policy.capacity then 1 else 0) ∧
    ∃ lost, others (s.live t) k = others ((s.insert t k o).2.live t) k ++ lost ∧
      (s.insert t k o).2.evictions = s.evictions + lost.length := by
  have hle : (others (s.live t) k).length ≤ s.policy.capacity :=
    Nat.le_trans others_sublist.length_le h.length_live_le
  rw [h.others_live_insert hc, h.evictions_insert hc]
  refine ⟨?_, _, (List.take_append_drop (s.policy.capacity - 1) _).symm, by rw [List.length_drop]⟩
  split
  · rename_i hfull
    omega
  · rename_i hfree
    have : (others (s.live t) k).length ≠ s.policy.capacity :=
      fun hf => hfree ⟨h.peek_of_full hf, hf⟩
    omega

theorem Store.perform_evictions {s : Store} {t : Instant} {op : StoreOp}
    (h : ∀ k o, op ≠ .insert k o) : (s.perform t op).2.evictions = s.evictions := by
  cases op with
  | insert k o => exact absurd rfl (h k o)
  | get k => exact get_evictions
  | purge => rfl
  | clear => rfl

end

/-- What it means that a run on a store cannot be told from the run on an ideal one. -/
structure MatchesIdeal (op : Operation) (p : Policy) (run : StoreRun) : Prop where
  answers : (Store.ofRun op p run).1 = (Ideal.ofRun p run).1
  hits : (Store.ofRun op p run).2.hits = (Ideal.ofRun p run).2.hits
  misses : (Store.ofRun op p run).2.misses = (Ideal.ofRun p run).2.misses
  evictions : (Store.ofRun op p run).2.evictions = (Ideal.ofRun p run).2.evictions
  /-- At every later instant the same entries are live, in the same order of use. -/
  live : ∀ t : Instant, (∀ x ∈ run, x.1.nanos ≤ t.nanos) →
    (Store.ofRun op p run).2.live t =
      ((Ideal.ofRun p run).2.alive t).map (Entry.slot p.ttl)
  /-- Expired slots count, and still the store is never over full. -/
  size_le : (Store.ofRun op p run).2.size ≤ p.capacity
  /-- A purge anywhere changes no answer and no counter. -/
  purged : ∀ a b t, run = a ++ b → InOrder (a ++ (t, .purge) :: b) →
    (Store.ofRun op p (a ++ (t, .purge) :: b)).1 = (Store.ofRun op p run).1 ∧
    (Store.ofRun op p (a ++ (t, .purge) :: b)).2.hits = (Store.ofRun op p run).2.hits ∧
    (Store.ofRun op p (a ++ (t, .purge) :: b)).2.misses = (Store.ofRun op p run).2.misses ∧
    (Store.ofRun op p (a ++ (t, .purge) :: b)).2.evictions = (Store.ofRun op p run).2.evictions
  /-- The next insert counts an eviction exactly when its key is not live and live slots of
  other keys take all the room; then one of these is lost, and else none. -/
  evicted : ∀ t k o, let s := (Store.ofRun op p run).2
    (s.insert t k o).2.evictions = s.evictions +
      (if s.peek t k = none ∧ (Store.others (s.live t) k).length = p.capacity then 1 else 0) ∧
    ∃ lost, Store.others (s.live t) k = Store.others ((s.insert t k o).2.live t) k ++ lost ∧
      (s.insert t k o).2.evictions = s.evictions + lost.length
  /-- No other operation counts one. -/
  kept : ∀ t next, (∀ k o, next ≠ .insert k o) →
    ((Store.ofRun op p run).2.perform t next).2.evictions = (Store.ofRun op p run).2.evictions

/-- Done in the order of time and within the clock, no operations tell a store with room
from an ideal one; a store without room never holds anything. -/
theorem lazy_expiry_invisible (op : Operation) (p : Policy) (run : StoreRun) (ho : InOrder run)
    (hw : WithinClock p run) :
    (0 < p.capacity → MatchesIdeal op p run) ∧
      (p.capacity = 0 → (Store.ofRun op p run).2.slots = []) := by
  obtain ⟨hsound, hpol⟩ := Store.ofRun_sound op p run
  have hsize := hsound.size_le
  rw [hpol] at hsize
  refine ⟨fun hc => ?_, fun hc => ?_⟩
  · obtain ⟨hh, hm, he⟩ := ofRun_counters op hc hw ho
    have htracks := ofRun_tracks op hc hw ho
    refine ⟨htracks.1, hh, hm, he, fun t ht => ?_, hsize, ?_, fun t k o => ?_, ?_⟩
    · rw [(htracks.2 t ht).live, hpol]
    · rintro a b t rfl ho'
      exact Store.ofRun_purge hc hw ho'
    · have := hsound.insert_evicts (t := t) (k := k) (o := o) (by rw [hpol]; exact hc)
      rwa [hpol] at this
    · exact fun t next hn => Store.perform_evictions hn
  · rw [hc] at hsize
    exact List.length_eq_zero_iff.mp (Nat.le_zero.mp hsize)

/-- Two places and ten seconds: the third insert takes the place of an expired slot, the
fourth costs a live one. -/
theorem lazy_expiry_invisible_of_two_places :
    let p : Policy := ⟨2, .ofSeconds 10⟩
    let key (name : String) : Key := ⟨.epoch, name⟩
    let gone : Outcome := .error .notFound
    let run : StoreRun :=
      [(.ofMillis 0, .insert (key "a") gone), (.ofMillis 6000, .insert (key "b") gone),
        (.ofMillis 11000, .insert (key "c") gone), (.ofMillis 11000, .get (key "b")),
        (.ofMillis 12000, .insert (key "d") gone), (.ofMillis 12000, .get (key "c"))]
    InOrder run ∧ WithinClock p run ∧ 0 < p.capacity ∧ MatchesIdeal .epoch p run ∧
      (Store.ofRun .epoch p run).1.map Option.isSome = [true, false] ∧
      (Store.ofRun .epoch p run).2.evictions = 1 := by
  intro p key gone run
  have ho : InOrder run := by simp [InOrder, run, Instant.ofMillis]
  have hw : WithinClock p run := by
    intro x hx k o _
    simp only [run, List.mem_cons, List.not_mem_nil, or_false] at hx
    rcases hx with rfl | rfl | rfl | rfl | rfl | rfl <;> decide
  exact ⟨ho, hw, by decide, (lazy_expiry_invisible .epoch p run ho hw).1 (by decide),
    by decide, by decide⟩

end ChainGateway.Cache
