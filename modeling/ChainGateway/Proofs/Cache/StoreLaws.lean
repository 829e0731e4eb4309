import ChainGateway.Cache.Store
import ChainGateway.Proofs.Time.Waits

/-!
# Laws of one store

A store that started empty never holds two slots of one key nor more slots than its
capacity. Under that invariant each operation is described by what it does to the live
slots: reads move one of them to the front, inserts put one there and drop the last live
one only when all the room is taken by live slots of other keys.
-/

namespace ChainGateway.Cache

variable {s : Store} {t t' now : Instant} {k k' : Key} {o : Outcome} {l : List Slot}

-- ---------------------------------------------------------------------------
-- Lists of slots
-- ---------------------------------------------------------------------------

/-- No key occurs twice. -/
def Keyed (l : List Slot) : Prop := l.Pairwise fun a b => a.key ≠ b.key

theorem Keyed.sublist {l' : List Slot} (h : Keyed l) (hs : l'.Sublist l) : Keyed l' :=
  List.Pairwise.sublist hs h

theorem Keyed.eq_of_key (h : Keyed l) {a b : Slot} (ha : a ∈ l) (hb : b ∈ l)
    (hk : a.key = b.key) : a = b := by
  induction l with
  | nil => cases ha
  | cons c l ih =>
    have hc := List.pairwise_cons.mp h
    rcases List.mem_cons.mp ha with rfl | ha' <;> rcases List.mem_cons.mp hb with rfl | hb'
    · rfl
    · exact absurd hk (hc.1 b hb')
    · exact absurd hk.symm (hc.1 a ha')
    · exact ih hc.2 ha' hb'

namespace Store

theorem mem_others {a : Slot} : a ∈ others l k ↔ a ∈ l ∧ a.key ≠ k := by
  simp [others]

theorem others_sublist : (others l k).Sublist l := List.filter_sublist

theorem others_of_absent (h : ∀ a ∈ l, a.key ≠ k) : others l k = l :=
  List.filter_eq_self.mpr fun a ha => by simpa using h a ha

theorem filter_others (p : Slot → Bool) : (others l k).filter p = others (l.filter p) k := by
  simp only [others, List.filter_filter]
  exact List.filter_congr fun a _ => Bool.and_comm ..

theorem length_others_lt {a : Slot} (ha : a ∈ l) : (others l a.key).length < l.length := by
  refine List.length_filter_lt_length_iff_exists.mpr ⟨a, ha, ?_⟩
  simp

theorem keyed_cons_others (h : Keyed l) (x : Slot) : Keyed (x :: others l x.key) :=
  List.pairwise_cons.mpr
    ⟨fun _ ha => (mem_others.mp ha).2.symm, h.sublist others_sublist⟩

theorem find?_mem {a : Slot} (h : s.find? k = some a) : a ∈ s.slots ∧ a.key = k := by
  have hk := List.find?_some h
  exact ⟨List.mem_of_find?_eq_some h, by simpa using hk⟩

theorem absent_of_find? (h : s.find? k = none) : ∀ a ∈ s.slots, a.key ≠ k := by
  intro a ha
  simpa using List.find?_eq_none.mp h a ha

-- ---------------------------------------------------------------------------
-- Live slots
-- ---------------------------------------------------------------------------

/-- The slots whose lifetime is not over, in their order of use. -/
def live (s : Store) (t : Instant) : List Slot := s.slots.filter (Slot.live t)

theorem live_sublist : (s.live t).Sublist s.slots := List.filter_sublist

theorem filter_live (h : t.nanos ≤ t'.nanos) :
    (l.filter (Slot.live t)).filter (Slot.live t') = l.filter (Slot.live t') := by
  rw [List.filter_filter]
  refine List.filter_congr fun a _ => ?_
  simp only [Slot.live, Bool.and_eq_left_iff_imp, decide_eq_true_eq]
  omega

theorem filter_live_cons {a : Slot} {l' : List Slot}
    (h : l.filter (Slot.live t) = l'.filter (Slot.live t)) :
    (a :: l).filter (Slot.live t) = (a :: l').filter (Slot.live t) := by
  rw [List.filter_cons, List.filter_cons, h]

/-- The live slot of a key. -/
def peek (s : Store) (t : Instant) (k : Key) : Option Slot := (s.live t).find? (·.key = k)

theorem peek_mem {a : Slot} (h : s.peek t k = some a) : a ∈ s.live t ∧ a.key = k :=
  ⟨List.mem_of_find?_eq_some h, by simpa using List.find?_some h⟩

theorem peek_eq_none : s.peek t k = none ↔ ∀ a ∈ s.live t, a.key ≠ k := by
  unfold peek
  rw [List.find?_eq_none]
  simp

theorem peek_of_none (hf : s.find? k = none) : s.peek t k = none :=
  peek_eq_none.mpr fun a ha => absent_of_find? hf a (live_sublist.subset ha)

theorem peek_of_live (h : Keyed s.slots) {a : Slot} (hf : s.find? k = some a)
    (hl : a.live t = true) : s.peek t k = some a := by
  obtain ⟨ha, rfl⟩ := find?_mem hf
  have hm : a ∈ s.live t := List.mem_filter.mpr ⟨ha, hl⟩
  cases hb : s.peek t a.key with
  | none => exact absurd rfl (peek_eq_none.mp hb a hm)
  | some b =>
    obtain ⟨hbm, hk⟩ := peek_mem hb
    rw [h.eq_of_key (live_sublist.subset hbm) ha hk]

theorem peek_of_expired (h : Keyed s.slots) {a : Slot} (hf : s.find? k = some a)
    (hl : a.live t = false) : s.peek t k = none := by
  obtain ⟨ha, rfl⟩ := find?_mem hf
  refine peek_eq_none.mpr fun b hb hk => ?_
  obtain ⟨hm, hlb⟩ := List.mem_filter.mp hb
  rw [h.eq_of_key hm ha hk, hl] at hlb
  cases hlb

theorem others_live_of_peek (h : s.peek t k = none) : others (s.live t) k = s.live t :=
  others_of_absent (peek_eq_none.mp h)

-- ---------------------------------------------------------------------------
-- The invariant
-- ---------------------------------------------------------------------------

/-- What holds of every store that started empty. -/
structure Sound (s : Store) : Prop where
  keyed : Keyed s.slots
  size_le : s.size ≤ s.policy.capacity

theorem Sound.new (op : Operation) (p : Policy) : (Store.new op p).Sound :=
  ⟨List.Pairwise.nil, Nat.zero_le _⟩

theorem Sound.length_le (h : s.Sound) : s.slots.length ≤ s.policy.capacity := h.size_le

theorem Sound.length_live_le (h : s.Sound) : (s.live t).length ≤ s.policy.capacity :=
  Nat.le_trans live_sublist.length_le h.size_le

theorem Sound.clear : s.clear.Sound := ⟨List.Pairwise.nil, Nat.zero_le _⟩

theorem Sound.purge (h : s.Sound) : (s.purge t).Sound :=
  ⟨h.keyed.sublist List.filter_sublist, Nat.le_trans List.filter_sublist.length_le h.size_le⟩

-- ---------------------------------------------------------------------------
-- Reads
-- ---------------------------------------------------------------------------

theorem get_of_none (h : s.find? k = none) :
    s.get t k = (none, { s with misses := s.misses + 1 }) := by
  simp [get, h]

theorem get_of_live {a : Slot} (h : s.find? k = some a) (hl : a.live t = true) :
    s.get t k = (some a.outcome,
      { s with slots := a :: others s.slots k, hits := s.hits + 1 }) := by
  simp [get, h, hl]

theorem get_of_expired {a : Slot} (h : s.find? k = some a) (hl : a.live t = false) :
    s.get t k = (none, { s with slots := others s.slots k, misses := s.misses + 1 }) := by
  simp [get, h, hl]

theorem get_of_peek_some (h : Keyed s.slots) {a : Slot} (hp : s.peek t k = some a) :
    s.get t k = (some a.outcome,
      { s with slots := a :: others s.slots k, hits := s.hits + 1 }) := by
  cases hf : s.find? k with
  | none => rw [peek_of_none hf] at hp; cases hp
  | some b =>
    cases hl : b.live t with
    | true =>
      rw [peek_of_live h hf hl] at hp
      cases hp
      exact get_of_live hf hl
    | false => rw [peek_of_expired h hf hl] at hp; cases hp

theorem get_of_peek_none (h : Keyed s.slots) (hp : s.peek t k = none) :
    (s.get t k).1 = none ∧ (s.get t k).2.live t = s.live t ∧
      (s.get t k).2.hits = s.hits ∧ (s.get t k).2.misses = s.misses + 1 := by
  cases hf : s.find? k with
  | none => rw [get_of_none hf]; exact ⟨rfl, rfl, rfl, rfl⟩
  | some a =>
    cases hl : a.live t with
    | true => rw [peek_of_live h hf hl] at hp; cases hp
    | false =>
      rw [get_of_expired hf hl]
      refine ⟨rfl, ?_, rfl, rfl⟩
      simp only [live, filter_others]
      exact others_live_of_peek hp

theorem get_policy : (s.get t k).2.policy = s.policy := by
  unfold get
  split
  · split <;> rfl
  · rfl

theorem get_evictions : (s.get t k).2.evictions = s.evictions := by
  unfold get
  split
  · split <;> rfl
  · rfl

theorem get_operation : (s.get t k).2.operation = s.operation := by
  unfold get
  split
  · split <;> rfl
  · rfl

/-- Every read is counted once, as a hit or as a miss. -/
theorem get_count :
    (s.get t k).2.hits + (s.get t k).2.misses = s.hits + s.misses + 1 := by
  unfold get
  split
  · split <;> dsimp only <;> omega
  · dsimp only; omega

theorem mem_of_mem_get {a : Slot} (h : a ∈ (s.get t k).2.slots) : a ∈ s.slots := by
  cases hf : s.find? k with
  | none => rwa [get_of_none hf] at h
  | some b =>
    cases hl : b.live t with
    | true =>
      rw [get_of_live hf hl] at h
      rcases List.mem_cons.mp h with rfl | h
      · exact (find?_mem hf).1
      · exact others_sublist.subset h
    | false =>
      rw [get_of_expired hf hl] at h
      exact others_sublist.subset h

theorem get_some (h : (s.get t k).1 = some o) :
    ∃ a ∈ s.slots, a.key = k ∧ a.outcome = o ∧ a.live t = true := by
  cases hf : s.find? k with
  | none => rw [get_of_none hf] at h; cases h
  | some a =>
    cases hl : a.live t with
    | true =>
      rw [get_of_live hf hl] at h
      obtain ⟨ha, hk⟩ := find?_mem hf
      exact ⟨a, ha, hk, Option.some.inj h, hl⟩
    | false => rw [get_of_expired hf hl] at h; cases h

theorem Sound.get (h : s.Sound) : (s.get t k).2.Sound := by
  have hlen := h.length_le
  cases hf : s.find? k with
  | none => rw [get_of_none hf]; exact ⟨h.keyed, h.size_le⟩
  | some a =>
    obtain ⟨ha, rfl⟩ := find?_mem hf
    have hlt := length_others_lt ha
    cases hl : a.live t with
    | true =>
      rw [get_of_live hf hl]
      refine ⟨keyed_cons_others h.keyed a, ?_⟩
      simp only [size, List.length_cons]
      omega
    | false =>
      rw [get_of_expired hf hl]
      refine ⟨h.keyed.sublist others_sublist, ?_⟩
      simp only [size]
      omega

-- ---------------------------------------------------------------------------
-- Inserts
-- ---------------------------------------------------------------------------

/-- How a store makes room: not at all while the key has a slot or a slot is free. -/
theorem roomFor_cases :
    (s.roomFor t k = s ∧ ((s.find? k).isSome ∨ s.slots.length < s.policy.capacity)) ∨
    (s.roomFor t k = s.makeRoom t ∧ s.find? k = none ∧ s.policy.capacity ≤ s.slots.length) := by
  unfold roomFor
  by_cases hf : s.find? k = none
  · by_cases hl : s.policy.capacity ≤ s.slots.length
    · exact .inr ⟨by simp [hf, hl], hf, hl⟩
    · exact .inl ⟨by simp [hl], .inr (by omega)⟩
  · obtain ⟨a, ha⟩ := Option.ne_none_iff_exists'.mp hf
    exact .inl ⟨by simp [ha], .inl (by simp [ha])⟩

theorem makeRoom_slots : (s.makeRoom t).slots = (s.live t).take (s.policy.capacity - 1) := rfl

theorem makeRoom_evictions :
    (s.makeRoom t).evictions = s.evictions + ((s.live t).length - (s.policy.capacity - 1)) := rfl

theorem roomFor_policy : (s.roomFor t k).policy = s.policy := by
  rcases roomFor_cases (s := s) (t := t) (k := k) with ⟨h, -⟩ | ⟨h, -⟩ <;> rw [h]
  rfl

theorem roomFor_hits : (s.roomFor t k).hits = s.hits := by
  rcases roomFor_cases (s := s) (t := t) (k := k) with ⟨h, -⟩ | ⟨h, -⟩ <;> rw [h]
  rfl

theorem roomFor_misses : (s.roomFor t k).misses = s.misses := by
  rcases roomFor_cases (s := s) (t := t) (k := k) with ⟨h, -⟩ | ⟨h, -⟩ <;> rw [h]
  rfl

theorem roomFor_sublist : (s.roomFor t k).slots.Sublist s.slots := by
  rcases roomFor_cases (s := s) (t := t) (k := k) with ⟨h, -⟩ | ⟨h, -⟩
  · simp [h]
  · rw [h]
    exact (List.take_sublist _ _).trans live_sublist

theorem Sound.roomFor (h : s.Sound) : (s.roomFor t k).Sound where
  keyed := h.keyed.sublist roomFor_sublist
  size_le := by
    rw [roomFor_policy]
    exact Nat.le_trans roomFor_sublist.length_le h.size_le

theorem Sound.length_others_roomFor (h : s.Sound) (hc : 0 < s.policy.capacity) :
    (others (s.roomFor t k).slots k).length < s.policy.capacity := by
  have hlen := h.length_le
  rcases roomFor_cases (s := s) (t := t) (k := k) with ⟨hr, hs | hs⟩ | ⟨hr, -, -⟩ <;> rw [hr]
  · obtain ⟨a, ha⟩ := Option.isSome_iff_exists.mp hs
    obtain ⟨hm, rfl⟩ := find?_mem ha
    have := length_others_lt hm
    omega
  · have := (others_sublist (l := s.slots) (k := k)).length_le
    omega
  · have := (others_sublist (l := (s.makeRoom t).slots) (k := k)).length_le
    rw [makeRoom_slots, List.length_take] at this
    rw [makeRoom_slots]
    omega

/-- Room is made at the expense of a live slot only when live slots of other keys take all
of it, and then it is the last of them that goes. -/
theorem Sound.live_roomFor (h : s.Sound) (hc : 0 < s.policy.capacity) :
    (others (s.roomFor t k).slots k).filter (Slot.live t) =
      (others (s.live t) k).take (s.policy.capacity - 1) ∧
    (s.roomFor t k).evictions =
      s.evictions + ((others (s.live t) k).length - (s.policy.capacity - 1)) := by
  have hlen := h.length_live_le (t := t)
  have hfit : (others s.slots k).length < s.policy.capacity →
      (others s.slots k).filter (Slot.live t) =
        (others (s.live t) k).take (s.policy.capacity - 1) ∧
      s.evictions = s.evictions + ((others (s.live t) k).length - (s.policy.capacity - 1)) := by
    intro hlt
    have hle : (others (s.live t) k).length ≤ s.policy.capacity - 1 := by
      have := (List.filter_sublist (p := Slot.live t) (l := others s.slots k)).length_le
      rw [filter_others] at this
      simp only [live]
      omega
    exact ⟨by rw [List.take_of_length_le hle, filter_others]; rfl, by omega⟩
  rcases roomFor_cases (s := s) (t := t) (k := k) with ⟨hr, -⟩ | ⟨hr, hn, -⟩
  · have hlt := h.length_others_roomFor (t := t) (k := k) hc
    rw [hr] at hlt ⊢
    exact hfit hlt
  · -- no slot has the key, so the live slots of other keys are all the live slots
    have hall : others (s.live t) k = s.live t := others_live_of_peek (peek_of_none hn)
    have hkept : (s.live t).filter (Slot.live t) = s.live t := filter_live (Nat.le_refl _)
    rw [hr, hall, makeRoom_slots, makeRoom_evictions]
    refine ⟨?_, rfl⟩
    rw [others_of_absent fun a ha => peek_eq_none.mp (peek_of_none hn) a (List.mem_of_mem_take ha)]
    exact List.filter_eq_self.mpr fun a ha =>
      (List.mem_filter.mp (List.mem_of_mem_take ha)).2

theorem insert_of_bypass (h : s.policy.capacity = 0) : s.insert t k o = (none, s) := by
  simp [insert, Policy.isBypass, h]

theorem insert_of_overflow (hc : 0 < s.policy.capacity) (h : t.after? s.policy.ttl = none) :
    s.insert t k o = (some .timeOverflow, s.roomFor t k) := by
  have : s.policy.isBypass = false := by simpa [Policy.isBypass] using Nat.ne_of_gt hc
  simp [insert, this, h]

theorem insert_of_after (hc : 0 < s.policy.capacity) {e : Instant}
    (h : t.after? s.policy.ttl = some e) :
    s.insert t k o =
      (none, { s.roomFor t k with slots := ⟨k, o, e⟩ :: others (s.roomFor t k).slots k }) := by
  have : s.policy.isBypass = false := by simpa [Policy.isBypass] using Nat.ne_of_gt hc
  simp [insert, this, h]

/-- An insert leaves the store alone, makes room in vain, or makes room and fills it. -/
theorem insert_cases :
    (s.policy.capacity = 0 ∧ s.insert t k o = (none, s)) ∨
    (0 < s.policy.capacity ∧ s.insert t k o = (some .timeOverflow, s.roomFor t k)) ∨
    (0 < s.policy.capacity ∧ ∃ e, t.after? s.policy.ttl = some e ∧ s.insert t k o =
      (none, { s.roomFor t k with slots := ⟨k, o, e⟩ :: others (s.roomFor t k).slots k })) := by
  rcases Nat.eq_zero_or_pos s.policy.capacity with hc | hc
  · exact .inl ⟨hc, insert_of_bypass hc⟩
  · cases h : t.after? s.policy.ttl with
    | none => exact .inr (.inl ⟨hc, insert_of_overflow hc h⟩)
    | some e => exact .inr (.inr ⟨hc, e, rfl, insert_of_after hc h⟩)

theorem insert_policy : (s.insert t k o).2.policy = s.policy := by
  rcases insert_cases (s := s) (t := t) (k := k) (o := o) with ⟨-, hi⟩ | ⟨-, hi⟩ | ⟨-, e, -, hi⟩ <;>
    rw [hi]
  · exact roomFor_policy
  · exact roomFor_policy

theorem insert_operation : (s.insert t k o).2.operation = s.operation := by
  have hroom : (s.roomFor t k).operation = s.operation := by
    rcases roomFor_cases (s := s) (t := t) (k := k) with ⟨h, -⟩ | ⟨h, -⟩ <;> rw [h]
    rfl
  rcases insert_cases (s := s) (t := t) (k := k) (o := o) with ⟨-, hi⟩ | ⟨-, hi⟩ | ⟨-, e, -, hi⟩ <;>
    rw [hi]
  · exact hroom
  · exact hroom

theorem insert_count :
    (s.insert t k o).2.hits + (s.insert t k o).2.misses = s.hits + s.misses := by
  rcases insert_cases (s := s) (t := t) (k := k) (o := o) with ⟨-, hi⟩ | ⟨-, hi⟩ | ⟨-, e, -, hi⟩ <;>
    rw [hi]
  · rw [roomFor_hits, roomFor_misses]
  · dsimp only
    rw [roomFor_hits, roomFor_misses]

/-- After an insert a slot is the new one, or an old one and, if the outcome was kept, of
another key. -/
theorem mem_insert (hc : 0 < s.policy.capacity) {a : Slot}
    (h : a ∈ (s.insert t k o).2.slots) :
    (a ∈ s.slots ∧ ((s.insert t k o).1 = none → a.key ≠ k)) ∨
    ((s.insert t k o).1 = none ∧ a.key = k ∧ a.outcome = o ∧
      t.after? s.policy.ttl = some a.expires) := by
  rcases insert_cases (s := s) (t := t) (k := k) (o := o) with ⟨h0, -⟩ | ⟨-, hi⟩ | ⟨-, e, he, hi⟩
  · omega
  · rw [hi] at h ⊢
    exact .inl ⟨roomFor_sublist.subset h, fun hn => by cases hn⟩
  · rw [hi] at h ⊢
    rcases List.mem_cons.mp h with rfl | h
    · exact .inr ⟨rfl, rfl, rfl, he⟩
    · obtain ⟨ha, hk⟩ := mem_others.mp h
      exact .inl ⟨roomFor_sublist.subset ha, fun _ => hk⟩

theorem Sound.insert (h : s.Sound) : (s.insert t k o).2.Sound := by
  rcases insert_cases (s := s) (t := t) (k := k) (o := o) with
    ⟨-, hi⟩ | ⟨-, hi⟩ | ⟨hc, e, -, hi⟩ <;> rw [hi]
  · exact h
  · exact h.roomFor
  · refine ⟨keyed_cons_others (h.roomFor (t := t) (k := k)).keyed ⟨k, o, e⟩, ?_⟩
    have := h.length_others_roomFor (t := t) (k := k) hc
    simp only [size, List.length_cons, roomFor_policy]
    omega

theorem others_others : others (others l k) k = others l k := by
  simp [others]

/-- After an insert the live slots of other keys are those before it, less the last one if
they took all the room. -/
theorem Sound.others_live_insert (h : s.Sound) (hc : 0 < s.policy.capacity) :
    others ((s.insert t k o).2.live t) k = (others (s.live t) k).take (s.policy.capacity - 1) := by
  have hroom := (h.live_roomFor (t := t) (k := k) hc).1
  rcases insert_cases (s := s) (t := t) (k := k) (o := o) with ⟨h0, -⟩ | ⟨-, hi⟩ | ⟨-, e, -, hi⟩
  · omega
  · rw [hi, ← hroom, filter_others]
    rfl
  · rw [hi, ← hroom]
    simp only [live, ← filter_others]
    rw [← others_others (l := (s.roomFor t k).slots)]
    simp [others]

theorem Sound.evictions_insert (h : s.Sound) (hc : 0 < s.policy.capacity) :
    (s.insert t k o).2.evictions =
      s.evictions + ((others (s.live t) k).length - (s.policy.capacity - 1)) := by
  rw [← (h.live_roomFor (t := t) (k := k) hc).2]
  rcases insert_cases (s := s) (t := t) (k := k) (o := o) with ⟨h0, -⟩ | ⟨-, hi⟩ | ⟨-, e, -, hi⟩
  · omega
  · rw [hi]
  · rw [hi]

/-- The key of a full set of live slots of other keys is not live itself. -/
theorem Sound.peek_of_full (h : s.Sound) (hf : (others (s.live t) k).length = s.policy.capacity) :
    s.peek t k = none := by
  cases hp : s.peek t k with
  | none => rfl
  | some a =>
    obtain ⟨ha, rfl⟩ := peek_mem hp
    have := length_others_lt ha
    have := h.length_live_le (t := t)
    omega

end Store
end ChainGateway.Cache
