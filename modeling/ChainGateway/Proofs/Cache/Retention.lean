import Mathlib.Data.Finset.Card
import Mathlib.Data.Finset.Dedup
import ChainGateway.Proofs.Cache.Expiry

/-!
# Retention

The slots in front of a key's belong to keys that were inserted or hit after it was. A slot is only
evicted from behind as many others as there is room for, so a key outlives fewer such rivals than
that until its lifetime is over. Its lifetime runs from its latest insert: a hit moves the slot to
the front and leaves its end as it is.
-/

namespace ChainGateway.Cache

variable {s : Store} {p : Policy} {t now e : Instant} {k j : Key} {o : Outcome} {op : StoreOp}

-- ---------------------------------------------------------------------------
-- Uses of a store
-- ---------------------------------------------------------------------------

/-- What an operation does to the order of use. -/
inductive Use
  | touch (key : Key)
  | clear
  | idle
  deriving DecidableEq

variable {u : Use} {log : List Use}

namespace Use

def key? : Use → Option Key
  | .touch k => some k
  | .clear | .idle => none

/-- The uses since the last touch of a key, the latest first as in the log. -/
def since (k : Key) (log : List Use) : List Use := log.takeWhile (· ≠ .touch k)

/-- The keys that were touched since the key was. -/
def rivals (k : Key) (log : List Use) : Finset Key := ((since k log).filterMap key?).toFinset

theorem since_cons (h : u ≠ .touch k) : since k (u :: log) = u :: since k log := by
  simp [since, h]

theorem rivals_touch (h : j ≠ k) (log : List Use) :
    rivals k (.touch j :: log) = insert j (rivals k log) := by
  have hne : Use.touch j ≠ .touch k := by simpa using h
  simp [rivals, since_cons hne, key?]

theorem rivals_idle (k : Key) (log : List Use) : rivals k (.idle :: log) = rivals k log := by
  rw [rivals, since_cons (by simp), List.filterMap_cons_none rfl, rivals]

end Use

namespace Store

/-- Inserts and hits touch their key; a miss touches nothing. -/
def use (s : Store) (t : Instant) : StoreOp → Use
  | .insert k _ => .touch k
  | .get k => if (s.get t k).1.isSome then .touch k else .idle
  | .purge => .idle
  | .clear => .clear

theorem use_of_miss (h : (s.get t k).1 = none) : s.use t (.get k) = .idle := by
  rw [use, h]
  rfl

theorem use_of_hit (h : (s.get t k).1 = some o) : s.use t (.get k) = .touch k := by
  rw [use, h]
  rfl

/-- The uses of a run in their order. -/
def uses (s : Store) : StoreRun → List Use
  | [] => []
  | (t, op) :: rest => s.use t op :: (s.perform t op).2.uses rest

end Store

-- ---------------------------------------------------------------------------
-- The front of a key
-- ---------------------------------------------------------------------------

/-- Whatever stands in front of the slot of `k` is of one of these keys. -/
def Behind (k : Key) (front : Finset Key) (l : List Slot) : Prop :=
  l.Pairwise fun b a => a.key = k → b.key ∈ front

namespace Behind

variable {front front' : Finset Key} {l l' : List Slot}

theorem mono (h : Behind k front l) (hf : front ⊆ front') (hl : l'.Sublist l) :
    Behind k front' l' :=
  (List.Pairwise.sublist hl h).imp fun hab ha => hf (hab ha)

theorem of_absent (h : ∀ a ∈ l, a.key ≠ k) : Behind k front l :=
  List.pairwise_of_forall_mem_list fun _ _ a ha hk => absurd hk (h a ha)

theorem cons {b : Slot} (h : Behind k front l) (hb : b.key ∈ front) :
    Behind k front (b :: l) :=
  List.pairwise_cons.mpr ⟨fun _ _ _ => hb, h⟩

/-- A slot with few keys in front of it is among the first. -/
theorem mem_take (h : Behind k front l) (hkeyed : Keyed l) {a : Slot} (ha : a ∈ l)
    (hk : a.key = k) (hj : ∀ b ∈ l, b.key ≠ j) {n : Nat} (hn : (insert j front).card ≤ n) :
    a ∈ l.take n := by
  obtain ⟨pre, post, rfl⟩ := List.append_of_mem ha
  have hfront : ∀ b ∈ pre, b.key ∈ front := fun b hb =>
    (List.pairwise_append.mp h).2.2 b hb a List.mem_cons_self hk
  have hnodup : (pre.map Slot.key).Nodup :=
    List.pairwise_map.mpr (hkeyed.sublist (List.sublist_append_left pre _))
  -- the new key is none of those in front, and it counts as well
  have hsub : insert j (pre.map Slot.key).toFinset ⊆ insert j front := by
    refine Finset.insert_subset_insert j fun x hx => ?_
    obtain ⟨b, hb, rfl⟩ := List.mem_map.mp (List.mem_toFinset.mp hx)
    exact hfront b hb
  have hnew : j ∉ (pre.map Slot.key).toFinset := by
    intro hx
    obtain ⟨b, hb, hbj⟩ := List.mem_map.mp (List.mem_toFinset.mp hx)
    exact hj b (List.mem_append_left _ hb) hbj
  have hcard := Finset.card_le_card hsub
  rw [Finset.card_insert_of_notMem hnew, List.toFinset_card_of_nodup hnodup,
    List.length_map] at hcard
  have hlen : pre.length < n := by omega
  rw [List.take_append, List.take_of_length_le hlen.le]
  refine List.mem_append_right _ ?_
  rw [show n - pre.length = n - pre.length - 1 + 1 by omega, List.take_succ_cons]
  exact List.mem_cons_self

end Behind

-- ---------------------------------------------------------------------------
-- A key since its latest insert
-- ---------------------------------------------------------------------------

/-- What is known of a key at `now`, when its latest insert was of `o`, ends at `e` and has the log
of uses behind it. -/
structure Recent (p : Policy) (k : Key) (o : Outcome) (e now : Instant) (s : Store)
    (log : List Use) : Prop where
  policy : s.policy = p
  keyed : Keyed s.slots
  entry : ∀ a ∈ s.slots, a.key = k → a.outcome = o ∧ a.expires = e
  behind : Behind k (Use.rivals k log) s.slots
  present : now.nanos < e.nanos → .clear ∉ Use.since k log → (Use.rivals k log).card < p.capacity →
    ∃ a ∈ s.slots, a.key = k

namespace Recent

theorem later (h : Recent p k o e now s log) (ht : now.nanos ≤ t.nanos) :
    Recent p k o e t s log :=
  { h with present := fun he => h.present (by omega) }

theorem find? (h : Recent p k o e now s log) {a : Slot} (ha : a ∈ s.slots) (hk : a.key = k) :
    ∃ b, s.find? k = some b ∧ b.outcome = o ∧ b.expires = e := by
  cases hf : s.find? k with
  | none => exact absurd hk (Store.absent_of_find? hf a ha)
  | some b =>
    obtain ⟨hb, hbk⟩ := Store.find?_mem hf
    exact ⟨b, rfl, h.entry b hb hbk⟩

theorem live (h : Recent p k o e now s log) {a : Slot} (ha : a ∈ s.slots) (hk : a.key = k) :
    a.live now = decide (now.nanos < e.nanos) := by
  rw [Slot.live, (h.entry a ha hk).2]

/-- Dropping slots of other keys, and those whose lifetime is over. -/
theorem shrink (h : Recent p k o e now s log) (s' : Store) (hp : s'.policy = s.policy)
    (hl : s'.slots.Sublist s.slots)
    (hkept : ∀ a ∈ s.slots, a.key = k → now.nanos < e.nanos → a ∈ s'.slots) :
    Recent p k o e now s' log where
  policy := hp.trans h.policy
  keyed := h.keyed.sublist hl
  entry a ha := h.entry a (hl.subset ha)
  behind := h.behind.mono (Finset.Subset.refl _) hl
  present he hc hr := by
    obtain ⟨a, ha, hk⟩ := h.present he hc hr
    exact ⟨a, hkept a ha hk he, hk⟩

theorem idle (h : Recent p k o e now s log) : Recent p k o e now s (.idle :: log) := by
  have hrivals := Use.rivals_idle k log
  refine ⟨h.policy, h.keyed, h.entry, hrivals ▸ h.behind, fun he hc hr => ?_⟩
  rw [Use.since_cons (by simp), List.mem_cons, not_or] at hc
  exact h.present he hc.2 (hrivals ▸ hr)

/-- Another key is touched: its slot may come to the front, and others may have been dropped for
it as long as there are enough rivals. -/
theorem touch (h : Recent p k o e now s log) (hj : j ≠ k) {s' : Store} {l : List Slot}
    (hp : s'.policy = s.policy) (hl : l.Sublist s.slots)
    (hs : s'.slots = l ∨ ∃ b : Slot, b.key = j ∧ s'.slots = b :: Store.others l j)
    (hkept : ∀ a ∈ s.slots, a.key = k → now.nanos < e.nanos →
      (insert j (Use.rivals k log)).card < p.capacity → a ∈ l) :
    Recent p k o e now s' (.touch j :: log) := by
  have hrivals := Use.rivals_touch hj log
  have hmem : ∀ a, a.key = k → (a ∈ s'.slots ↔ a ∈ l) := by
    intro a hk
    rcases hs with hs | ⟨b, rfl, hs⟩
    · rw [hs]
    · have hkb : a.key ≠ b.key := fun hab => hj (hab.symm.trans hk)
      have hne : a ≠ b := fun hab => hkb (congrArg Slot.key hab)
      simp [hs, Store.mem_others, hne, hkb]
  have hbehind := h.behind.mono (Finset.subset_insert j _) hl
  refine ⟨hp.trans h.policy, ?_, fun a ha hk => h.entry a (hl.subset ((hmem a hk).mp ha)) hk, ?_,
    fun he hc hr => ?_⟩
  · rcases hs with hs | ⟨b, rfl, hs⟩ <;> rw [hs]
    · exact h.keyed.sublist hl
    · exact Store.keyed_cons_others (h.keyed.sublist hl) b
  · rw [hrivals]
    rcases hs with hs | ⟨b, rfl, hs⟩ <;> rw [hs]
    · exact hbehind
    · exact (hbehind.mono (Finset.Subset.refl _) Store.others_sublist).cons
        (Finset.mem_insert_self ..)
  · rw [Use.since_cons (by simpa using hj), List.mem_cons, not_or] at hc
    rw [hrivals] at hr
    obtain ⟨a, ha, hk⟩ := h.present he hc.2
      (Nat.lt_of_le_of_lt (Finset.card_le_card (Finset.subset_insert ..)) hr)
    exact ⟨a, (hmem a hk).mpr (hkept a ha hk he hr), hk⟩

/-- Making room for one more rival leaves the key its place while there are few of them. -/
theorem mem_roomFor (h : Recent p k o e now s log) {a : Slot} (ha : a ∈ s.slots) (hk : a.key = k)
    (he : now.nanos < e.nanos) (hr : (insert j (Use.rivals k log)).card < p.capacity) :
    a ∈ (s.roomFor now j).slots := by
  rcases Store.roomFor_cases (s := s) (t := now) (k := j) with ⟨hroom, -⟩ | ⟨hroom, hj, -⟩ <;>
    rw [hroom]
  · exact ha
  · have hlive : a ∈ s.live now := List.mem_filter.mpr ⟨ha, by simp [h.live ha hk, he]⟩
    rw [Store.makeRoom_slots, h.policy]
    exact (h.behind.mono (Finset.Subset.refl _) Store.live_sublist).mem_take
      (h.keyed.sublist Store.live_sublist) hlive hk
      (fun b hb => Store.absent_of_find? hj b (Store.live_sublist.subset hb)) (by omega)

/-- The key itself comes to the front. -/
theorem own {s' : Store} {l : List Slot} (hp : s'.policy = p) (hl : Keyed l)
    (hs : s'.slots = ⟨k, o, e⟩ :: Store.others l k) :
    Recent p k o e now s' (.touch k :: log) := by
  have hothers : ∀ a ∈ Store.others l k, a.key ≠ k := fun a ha => (Store.mem_others.mp ha).2
  refine ⟨hp, ?_, ?_, ?_, fun _ _ _ => ⟨⟨k, o, e⟩, by simp [hs], rfl⟩⟩
  · rw [hs]
    exact Store.keyed_cons_others hl ⟨k, o, e⟩
  · rw [hs]
    rintro a (_ | ⟨_, ha⟩) hk
    · exact ⟨rfl, rfl⟩
    · exact absurd hk (hothers a ha)
  · rw [hs]
    exact List.pairwise_cons.mpr
      ⟨fun a ha hk => absurd hk (hothers a ha), Behind.of_absent hothers⟩

-- ---------------------------------------------------------------------------
-- One operation
-- ---------------------------------------------------------------------------

theorem insert_other (h : Recent p k o e now s log) (hc : 0 < p.capacity) (hj : j ≠ k)
    (o' : Outcome) : Recent p k o e now (s.insert now j o').2 (.touch j :: log) := by
  have hkept : ∀ a ∈ s.slots, a.key = k → now.nanos < e.nanos →
      (insert j (Use.rivals k log)).card < p.capacity → a ∈ (s.roomFor now j).slots :=
    fun a ha hk he hr => h.mem_roomFor ha hk he hr
  refine h.touch hj Store.insert_policy Store.roomFor_sublist ?_ hkept
  rcases Store.insert_cases (s := s) (t := now) (k := j) (o := o') with
    ⟨hc', -⟩ | ⟨-, hi⟩ | ⟨-, e', -, hi⟩
  · rw [h.policy] at hc'
    omega
  · exact .inl (by rw [hi])
  · exact .inr ⟨⟨j, o', e'⟩, rfl, by rw [hi]⟩

theorem get (h : Recent p k o e now s log) (j : Key) :
    Recent p k o e now (s.get now j).2 (s.use now (.get j) :: log) := by
  cases hf : s.find? j with
  | none =>
    rw [Store.use_of_miss (by rw [Store.get_of_none hf]), Store.get_of_none hf]
    exact idle (h.shrink _ rfl (List.Sublist.refl _) fun _ ha _ _ => ha)
  | some b =>
    obtain ⟨hb, rfl⟩ := Store.find?_mem hf
    cases hl : b.live now with
    | true =>
      rw [Store.use_of_hit (by rw [Store.get_of_live hf hl]), Store.get_of_live hf hl]
      by_cases hk : b.key = k
      · obtain ⟨ho, he⟩ := h.entry b hb hk
        obtain ⟨key, outcome, expires⟩ := b
        subst hk ho he
        exact own h.policy h.keyed rfl
      · exact h.touch hk rfl (List.Sublist.refl _) (.inr ⟨b, rfl, rfl⟩) fun _ ha _ _ _ => ha
    | false =>
      rw [Store.use_of_miss (by rw [Store.get_of_expired hf hl]), Store.get_of_expired hf hl]
      refine idle (h.shrink _ rfl Store.others_sublist fun a ha hk he => ?_)
      refine Store.mem_others.mpr ⟨ha, fun hab => ?_⟩
      -- a slot of the key is live as long as its lifetime lasts, and this one is not
      rw [h.keyed.eq_of_key ha hb hab] at hk ha
      rw [h.live ha hk, decide_eq_false_iff_not] at hl
      exact hl he

theorem purge (h : Recent p k o e now s log) : Recent p k o e now (s.purge now) (.idle :: log) :=
  idle (h.shrink _ rfl List.filter_sublist fun a ha hk he =>
    List.mem_filter.mpr ⟨ha, by simp [h.live ha hk, he]⟩)

theorem clear (h : Recent p k o e now s log) : Recent p k o e now s.clear (.clear :: log) where
  policy := h.policy
  keyed := List.Pairwise.nil
  entry _ ha := by cases ha
  behind := List.Pairwise.nil
  present _ hc _ := by
    rw [Use.since_cons (by simp)] at hc
    exact absurd List.mem_cons_self hc

theorem perform (h : Recent p k o e now s log) (hc : 0 < p.capacity) (ht : now.nanos ≤ t.nanos)
    (hop : ∀ o', op ≠ .insert k o') :
    Recent p k o e t (s.perform t op).2 (s.use t op :: log) := by
  have h := h.later ht
  cases op with
  | insert j o' => exact h.insert_other hc (fun hj => hop o' (by rw [hj])) o'
  | get j => exact h.get j
  | purge => exact h.purge
  | clear => exact h.clear

/-- Whatever is done after the insert, as long as it is no other insert of the key. -/
theorem run (h : Recent p k o e now s log) (hc : 0 < p.capacity) {after : StoreRun}
    (ho : InOrder after) (hnow : ∀ x ∈ after, now.nanos ≤ x.1.nanos)
    (hlast : ∀ x ∈ after, ∀ o', x.2 ≠ .insert k o') (ht : ∀ x ∈ after, x.1.nanos ≤ t.nanos)
    (hle : now.nanos ≤ t.nanos) :
    Recent p k o e t (s.run after).2 ((s.uses after).reverse ++ log) := by
  induction after generalizing s now log with
  | nil => exact h.later hle
  | cons x after ih =>
    rw [List.forall_mem_cons] at hnow hlast ht
    have hx := h.perform hc hnow.1 hlast.1
    have hrest := ih hx (List.pairwise_cons.mp ho).2 (List.pairwise_cons.mp ho).1 hlast.2 ht.2 ht.1
    rw [Store.uses, List.reverse_cons, List.append_assoc]
    exact hrest

/-- A get before the end of the lifetime, of a key that has its place. -/
theorem get_eq_some (h : Recent p k o e now s log) (he : now.nanos < e.nanos)
    (hc : .clear ∉ Use.since k log) (hr : (Use.rivals k log).card < p.capacity) :
    (s.get now k).1 = some o := by
  obtain ⟨a, ha, hk⟩ := h.present he hc hr
  obtain ⟨b, hf, rfl, rfl⟩ := h.find? ha hk
  rw [Store.get_of_live hf (by simpa [Slot.live] using he)]

theorem get_eq_none (h : Recent p k o e now s log) (he : e.nanos ≤ now.nanos) :
    (s.get now k).1 = none := by
  cases hg : (s.get now k).1 with
  | none => rfl
  | some o' =>
    obtain ⟨a, ha, hk, -, hl⟩ := Store.get_some hg
    rw [h.live ha hk, decide_eq_true_eq] at hl
    omega

end Recent

-- ---------------------------------------------------------------------------
-- A whole run
-- ---------------------------------------------------------------------------

theorem recent_ofRun {before after : StoreRun} {t₀ : Instant} (op : Operation)
    (hc : 0 < p.capacity)
    (ho : InOrder (before ++ (t₀, .insert k o) :: after ++ [(t, .get k)]))
    (hlast : ∀ x ∈ after, ∀ o', x.2 ≠ .insert k o') (he : t₀.after? p.ttl = some e) :
    Recent p k o e t (Store.ofRun op p (before ++ (t₀, .insert k o) :: after)).2
      ((Store.ofRun op p before).2.uses ((t₀, .insert k o) :: after)).reverse := by
  obtain ⟨hsound, hpol⟩ := Store.ofRun_sound op p before
  have hall := List.pairwise_append.mp ho
  have htail := List.pairwise_cons.mp (List.pairwise_append.mp hall.1).2.1
  have hend : ∀ x ∈ before ++ (t₀, .insert k o) :: after, x.1.nanos ≤ t.nanos :=
    fun x hx => hall.2.2 x hx _ List.mem_cons_self
  rw [List.forall_mem_append, List.forall_mem_cons] at hend
  have hstart : Recent p k o e t₀ ((Store.ofRun op p before).2.insert t₀ k o).2
      [.touch k] := by
    refine .own (l := ((Store.ofRun op p before).2.roomFor t₀ k).slots)
      (Store.insert_policy.trans hpol) (hsound.keyed.sublist Store.roomFor_sublist) ?_
    rw [Store.insert_of_after (by rwa [hpol]) (by rwa [hpol])]
  have hrun := hstart.run hc htail.2 htail.1 hlast hend.2.2 hend.2.1
  have hwhole := congrArg Prod.snd
    (StoreRun.foldWith_append Store.perform (Store.new op p) before ((t₀, .insert k o) :: after))
  rw [Store.uses, List.reverse_cons]
  exact hwhole ▸ hrun

/-- A key that was inserted at `t₀` and not since. The insert is carried out unless its lifetime
ends beyond the clock. Then a later get hits, before the lifetime is over, when since the last touch
of the key there was no clear and fewer other keys were touched than there is room for; and once it
is over, a get misses in any case. -/
theorem retention (op : Operation) (p : Policy) (before after : StoreRun) (t₀ t : Instant)
    (k : Key) (o : Outcome) (hc : 0 < p.capacity)
    (ho : InOrder (before ++ (t₀, .insert k o) :: after ++ [(t, .get k)]))
    (hlast : ∀ x ∈ after, ∀ o', x.2 ≠ .insert k o') :
    let start := (Store.ofRun op p before).2
    let last := (Store.ofRun op p (before ++ (t₀, .insert k o) :: after)).2
    let log := (start.uses ((t₀, .insert k o) :: after)).reverse
    ((start.insert t₀ k o).1 = none ↔ (t₀.after? p.ttl).isSome) ∧
    ((start.insert t₀ k o).1 = none →
      (t.nanos < t₀.nanos + p.ttl.nanos → .clear ∉ Use.since k log →
        (Use.rivals k log).card < p.capacity → (last.get t k).1 = some o) ∧
      (t₀.nanos + p.ttl.nanos ≤ t.nanos → (last.get t k).1 = none)) := by
  intro start last log
  have hpol : start.policy = p := (Store.ofRun_sound op p before).2
  cases he : t₀.after? p.ttl with
  | none =>
    rw [Store.insert_of_overflow (by rwa [hpol]) (by rwa [hpol])]
    simp
  | some e =>
    rw [Store.insert_of_after (by rwa [hpol]) (by rwa [hpol])]
    have hrecent : Recent p k o e t last log := recent_ofRun op hc ho hlast he
    obtain rfl := Instant.eq_of_after? he
    exact ⟨by simp, fun _ => ⟨hrecent.get_eq_some, hrecent.get_eq_none⟩⟩

/-- Two places and ten seconds: a hit at three seconds puts `a` in front again, so the key `c` that
comes after it takes the place of `b`; and it does not put off the end of `a`. -/
theorem retention_of_two_places :
    let p : Policy := ⟨2, .ofSeconds 10⟩
    let key (name : String) : Key := ⟨.epoch, name⟩
    let gone : Outcome := .error .notFound
    let after : StoreRun := [(.ofMillis 2000, .insert (key "b") gone),
      (.ofMillis 3000, .get (key "a")), (.ofMillis 4000, .insert (key "c") gone)]
    let start := (Store.ofRun .epoch p []).2
    let last := (Store.ofRun .epoch p ([] ++ (.ofMillis 1000, .insert (key "a") gone) :: after)).2
    let log := (start.uses ((.ofMillis 1000, .insert (key "a") gone) :: after)).reverse
    (start.insert (.ofMillis 1000) (key "a") gone).1 = none ∧
      .clear ∉ Use.since (key "a") log ∧ Use.rivals (key "a") log = {key "c"} ∧
      (last.get (.ofMillis 10999) (key "a")).1 = some gone ∧
      (last.get (.ofMillis 10999) (key "b")).1 = none ∧
      (last.get (.ofMillis 11000) (key "a")).1 = none := by
  intro p key gone after start last log
  have hlast : ∀ x ∈ after, ∀ o', x.2 ≠ .insert (key "a") o' := by
    simp [after, key]
  have hlive := retention .epoch p [] after (.ofMillis 1000) (.ofMillis 10999) (key "a") gone
    (by decide) (by simp [InOrder, after, Instant.ofMillis]) hlast
  have hover := retention .epoch p [] after (.ofMillis 1000) (.ofMillis 11000) (key "a") gone
    (by decide) (by simp [InOrder, after, Instant.ofMillis]) hlast
  have hdone := hlive.1.mpr (by decide)
  have hclear : .clear ∉ Use.since (key "a") log := by decide
  have hrivals : Use.rivals (key "a") log = {key "c"} := by decide
  exact ⟨hdone, hclear, hrivals, (hlive.2 hdone).1 (by decide) hclear (by rw [hrivals]; decide),
    by decide, (hover.2 hdone).2 (by decide)⟩

end ChainGateway.Cache
