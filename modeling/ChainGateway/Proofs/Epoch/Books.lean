import ChainGateway.Proofs.Epoch.Chronicle
import ChainGateway.Proofs.Labels

/-!
# The books of a chronicle

What the records of a chronicle agree on at any moment. The answers that were taken in, in the
order of the lock, fix what the tracker holds and which of them were advances; each poll has left
in the records just what belongs to the steps it has made; and the counters count those steps.
-/

namespace ChainGateway.Epoch

-- ---------------------------------------------------------------------------
-- Markers in the order of the lock, the latest first
-- ---------------------------------------------------------------------------

/-- `m` has the greatest epoch of `ms` and is the latest that has it. -/
def Newest (m : Marker) (ms : List Marker) : Prop :=
  ∃ later earlier, ms = later ++ m :: earlier ∧ (∀ n ∈ later, n.epoch < m.epoch) ∧
    ∀ n ∈ earlier, n.epoch ≤ m.epoch

namespace Newest

variable {m n : Marker} {ms : List Marker}

theorem mem (h : Newest m ms) : m ∈ ms := by
  obtain ⟨later, earlier, rfl, -, -⟩ := h
  simp

theorem le (h : Newest m ms) (hn : n ∈ ms) : n.epoch ≤ m.epoch := by
  obtain ⟨later, earlier, rfl, hlater, hearlier⟩ := h
  rcases List.mem_append.mp hn with hn | hn
  · exact UInt64.le_of_lt (hlater n hn)
  · rcases List.mem_cons.mp hn with rfl | hn
    · exact UInt64.le_refl _
    · exact hearlier n hn

theorem lower (h : Newest m ms) (hn : n.epoch < m.epoch) : Newest m (n :: ms) := by
  obtain ⟨later, earlier, rfl, hlater, hearlier⟩ := h
  exact ⟨n :: later, earlier, rfl, List.forall_mem_cons.mpr ⟨hn, hlater⟩, hearlier⟩

theorem top (h : ∀ n ∈ ms, n.epoch ≤ m.epoch) : Newest m (m :: ms) :=
  ⟨[], ms, rfl, by simp, h⟩

end Newest

/-- The epoch that a list of advances reaches from a baseline. -/
def reached (baseline : UInt64) : List Advance → UInt64
  | [] => baseline
  | a :: _ => a.current.epoch

/-- Advances that each start from the epoch where the one before ended. -/
def Linked (baseline : UInt64) : List Advance → Prop
  | [] => True
  | a :: as => a.previous.epoch = reached baseline as ∧ a.previous.epoch < a.current.epoch ∧
      Linked baseline as

/-- An answer is an advance when others came before it and all have lower epochs; it then
replaces what was held. -/
structure Judged (t : Taken) (earlier : List Taken) : Prop where
  advance_iff : t.advance.isSome ↔ earlier ≠ [] ∧ ∀ s ∈ earlier, s.marker.epoch < t.marker.epoch
  pair : ∀ a, t.advance = some a → a.current = t.marker ∧
    Newest a.previous (earlier.map (·.marker))

/-- What the answers taken in make of the tracker. -/
structure InOrder (current : Option Marker) (taken : List Taken) : Prop where
  unknown : current = none ↔ taken = []
  newest : ∀ m, current = some m → Newest m (taken.map (·.marker))
  judged : ∀ later t earlier, taken = later ++ t :: earlier → Judged t earlier
  linked : ∀ later baseline, taken = later ++ [baseline] →
    Linked baseline.marker.epoch (later.filterMap (·.advance))
  reaches : ∀ later baseline m, taken = later ++ [baseline] → current = some m →
    reached baseline.marker.epoch (later.filterMap (·.advance)) = m.epoch

namespace InOrder

variable {current : Option Marker} {m p : Marker} {taken : List Taken} {t : Taken}

theorem nil : InOrder none [] where
  unknown := by simp
  newest := by simp
  judged := by simp
  linked := by simp
  reaches := by simp

/-- The first answer is the baseline. -/
theorem baseline (ht : t.advance = none) : InOrder (some t.marker) [t] where
  unknown := by simp
  newest m hm := by
    cases hm
    exact .top (by simp)
  judged later s earlier h := by
    cases later with
    | nil =>
      obtain ⟨rfl, rfl⟩ := List.cons.inj h
      exact ⟨by simp [ht], by simp [ht]⟩
    | cons _ later => simp at h
  linked later b h := by
    cases later with
    | nil => trivial
    | cons _ later => simp at h
  reaches later b m h hm := by
    cases later with
    | nil =>
      cases hm
      obtain ⟨rfl, -⟩ := List.cons.inj h
      rfl
    | cons _ later => simp at h

/-- What it takes for a further answer to keep the order. -/
theorem cons (h : InOrder (some p) taken) (hn : Newest m ((t :: taken).map (·.marker)))
    (hj : Judged t taken) (hprev : ∀ a, t.advance = some a → a.previous = p ∧ a.current = m ∧
      p.epoch < m.epoch) (hsame : t.advance = none → m.epoch = p.epoch) :
    InOrder (some m) (t :: taken) where
  unknown := by simp
  newest n hm := by
    cases hm
    exact hn
  judged later s earlier hs := by
    cases later with
    | nil =>
      obtain ⟨rfl, rfl⟩ := List.cons.inj hs
      exact hj
    | cons _ later => exact h.judged later s earlier (List.cons.inj hs).2
  linked later b hb := by
    cases later with
    | nil => trivial
    | cons s later =>
      obtain ⟨rfl, htaken⟩ := List.cons.inj hb
      have hl := h.linked later b htaken
      cases ha : t.advance with
      | none => simpa [ha] using hl
      | some a =>
        obtain ⟨rfl, rfl, hlt⟩ := hprev a ha
        simpa [ha, Linked, hlt] using ⟨(h.reaches later b _ htaken rfl).symm, hl⟩
  reaches later b n hb hn := by
    cases hn
    cases later with
    | nil =>
      obtain ⟨-, rfl⟩ := List.cons.inj hb
      exact absurd (h.unknown.mpr rfl) (by simp)
    | cons s later =>
      obtain ⟨rfl, htaken⟩ := List.cons.inj hb
      cases ha : t.advance with
      | none => simpa [ha, hsame ha] using h.reaches later b p htaken rfl
      | some a => simp [ha, reached, (hprev a ha).2.1]

/-- An answer that is not above what is held is no advance. -/
theorem judged_none (h : InOrder (some p) taken) (ht : t.advance = none)
    (hle : t.marker.epoch ≤ p.epoch) : Judged t taken where
  advance_iff := by
    obtain ⟨s, hs, rfl⟩ := List.mem_map.mp (h.newest p rfl).mem
    simp only [ht, Option.isSome_none, Bool.false_eq_true, false_iff, not_and]
    intro _ hall
    exact UInt64.lt_irrefl _ (UInt64.lt_of_le_of_lt hle (hall s hs))
  pair := by simp [ht]

theorem judged_some (h : InOrder (some p) taken) (ht : t.advance = some ⟨p, t.marker⟩)
    (hlt : p.epoch < t.marker.epoch) : Judged t taken where
  advance_iff := by
    have hne : taken ≠ [] := fun hn => absurd (h.unknown.mpr hn) (by simp)
    simp only [ht, Option.isSome_some, true_iff]
    exact ⟨hne, fun s hs => UInt64.lt_of_le_of_lt
      ((h.newest p rfl).le (List.mem_map_of_mem hs)) hlt⟩
  pair a ha := by
    obtain rfl := Option.some.inj (ht.symm.trans ha)
    exact ⟨rfl, h.newest p rfl⟩

theorem update {tracker : Tracker} (h : InOrder tracker.current taken) (i k : Nat) (m : Marker) :
    InOrder (tracker.update m).2.current (⟨i, m, (tracker.update m).1, k⟩ :: taken) := by
  have hold : ∀ p, tracker.current = some p → ∀ s ∈ taken, s.marker.epoch ≤ p.epoch :=
    fun p hp s hs => (h.newest p hp).le (List.mem_map_of_mem hs)
  rcases tracker.update_cases m with ⟨hc, hu⟩ | ⟨p, hc, hlt, hu⟩ | ⟨p, hc, heq, hu⟩ |
    ⟨p, hc, hlt, hu⟩
  · obtain rfl := h.unknown.mp hc
    rw [hu]
    exact baseline (t := ⟨i, m, none, k⟩) rfl
  · rw [hu]
    rw [hc] at h
    refine h.cons (.top ?_) (h.judged_some rfl hlt) ?_ (by simp)
    · exact List.forall_mem_map.mpr fun s hs =>
        UInt64.le_of_lt (UInt64.lt_of_le_of_lt (hold p hc s hs) hlt)
    · rintro a ⟨⟩
      exact ⟨rfl, rfl, hlt⟩
  · rw [hu]
    rw [hc] at h
    refine h.cons (.top ?_) (h.judged_none rfl (UInt64.le_of_eq heq.symm)) (by simp)
      fun _ => heq.symm
    exact List.forall_mem_map.mpr fun s hs => heq ▸ hold p hc s hs
  · rw [hu]
    rw [hc] at h ⊢
    exact h.cons ((h.newest p rfl).lower hlt) (h.judged_none rfl (UInt64.le_of_lt hlt)) (by simp)
      fun _ => rfl

end InOrder

-- ---------------------------------------------------------------------------
-- What the counters count
-- ---------------------------------------------------------------------------

/-- The counters, and how many advances were taken in, by how far the polls have come. -/
structure Tallied (tracker : Tracker) (polls : List Progress) (advances : Nat) : Prop where
  found : advances = polls.countP Progress.hasAdvance
  counted : tracker.advances = polls.countP Progress.hasCounted
  missed : tracker.pollErrors = polls.countP Progress.hasFailed

section
variable {polls : List Progress} {p q : Progress} {i n n' : Nat} {tracker tracker' : Tracker}

theorem Tallied.begin (h : Tallied tracker polls n) :
    Tallied tracker (polls ++ [.fetching]) n where
  found := by simpa [Progress.hasAdvance] using h.found
  counted := by simpa [Progress.hasCounted] using h.counted
  missed := by simpa [Progress.hasFailed] using h.missed

/-- A poll moves from `q` to `p` while the counters follow. -/
theorem Tallied.set (h : Tallied tracker polls n) (hq : polls[i]? = some q)
    (hn : n' + (if q.hasAdvance then 1 else 0) = n + if p.hasAdvance then 1 else 0)
    (hc : tracker'.advances + (if q.hasCounted then 1 else 0) =
      tracker.advances + if p.hasCounted then 1 else 0)
    (hm : tracker'.pollErrors + (if q.hasFailed then 1 else 0) =
      tracker.pollErrors + if p.hasFailed then 1 else 0) :
    Tallied tracker' (polls.set i p) n' where
  found := by
    have hset := Labels.countP_set_add (p := Progress.hasAdvance) (y := p) hq
    have := h.found
    omega
  counted := by
    have hset := Labels.countP_set_add (p := Progress.hasCounted) (y := p) hq
    have := h.counted
    omega
  missed := by
    have hset := Labels.countP_set_add (p := Progress.hasFailed) (y := p) hq
    have := h.missed
    omega

end

-- ---------------------------------------------------------------------------
-- What each poll has left in the records
-- ---------------------------------------------------------------------------

namespace Chronicle

def takenBy (i : Nat) (taken : List Taken) : List Taken := taken.filter (·.poll = i)

/-- Whom a poll has told, the last first. -/
def toldBy (i : Nat) (told : List Notice) : List Nat :=
  (told.filter (·.poll = i)).map (·.observer)

/-- How far poll `i` has come. One that has not begun is no further than the first step. -/
def progress (c : Chronicle) (i : Nat) : Progress := c.polls[i]?.getD .fetching

/-- The one answer that a poll has taken in is the advance `a`. -/
def Found (a : Advance) (taken : List Taken) (t : Taken) : Prop :=
  taken = [t] ∧ t.advance = some a ∧ t.marker = a.current

/-- What a poll has left in the records, by how far it has come. Those it calls are the ones
registered when it asks, which are no fewer than when it took the answer in. -/
def Account (taken : List Taken) (told : List Nat) : Progress → Prop
  | .fetching | .answered _ => taken = [] ∧ told = []
  | .advanced a | .counted a => (∃ t, Found a taken t) ∧ told = []
  | .telling a left => ∃ t k, Found a taken t ∧ t.registered ≤ k ∧
      told.reverse ++ left = List.range k
  | .done (.error _) result => result = ⟨false, none⟩ ∧ taken = [] ∧ told = []
  | .done (.ok m) result => ∃ t, taken = [t] ∧ t.marker = m ∧
      result = ⟨t.advance.isSome, some m⟩ ∧
      match t.advance with
      | none => told = []
      | some _ => ∃ k, t.registered ≤ k ∧ told.reverse = List.range k

/-- The records agree with one another. -/
structure Books (c : Chronicle) : Prop where
  order : InOrder c.tracker.current c.taken
  enrolled : ∀ t ∈ c.taken, t.registered ≤ c.registered
  account : ∀ i, Account (takenBy i c.taken) (toldBy i c.told) (c.progress i)
  genuine : ∀ n ∈ c.told, ∃ t ∈ c.taken, t.poll = n.poll ∧ t.advance = some n.advance
  tallied : Tallied c.tracker c.polls (c.taken.countP (·.advance.isSome))

variable {c : Chronicle} {i j : Nat} {p q : Progress} {t : Taken} {n : Notice}
  {taken : List Taken} {told : List Notice}

@[simp] theorem takenBy_cons_self : takenBy t.poll (t :: taken) = t :: takenBy t.poll taken := by
  simp [takenBy]

theorem takenBy_cons_of_ne (h : t.poll ≠ i) : takenBy i (t :: taken) = takenBy i taken := by
  simp [takenBy, h]

@[simp] theorem toldBy_cons_self :
    toldBy n.poll (n :: told) = n.observer :: toldBy n.poll told := by
  simp [toldBy]

theorem toldBy_cons_of_ne (h : n.poll ≠ i) : toldBy i (n :: told) = toldBy i told := by
  simp [toldBy, h]

theorem Found.mem {a : Advance} (h : Found a (takenBy i taken) t) : t ∈ taken ∧ t.poll = i := by
  have ht : t ∈ takenBy i taken := h.1 ▸ List.mem_singleton.mpr rfl
  simpa [takenBy] using ht

theorem progress_eq (hp : c.polls[i]? = some p) : c.progress i = p := by
  simp [progress, hp]

theorem progress_begin (c : Chronicle) (i : Nat) :
    (c.step .begin).progress i = c.progress i := by
  simp only [progress, step]
  rcases Nat.lt_trichotomy i c.polls.length with hi | rfl | hi
  · rw [List.getElem?_append_left hi]
  · simp
  · rw [List.getElem?_eq_none (Nat.le_of_lt hi), List.getElem?_eq_none (by simp; omega)]

theorem progress_put_self (hq : c.polls[i]? = some q) : (c.put i p).progress i = p := by
  obtain ⟨hi, -⟩ := List.getElem?_eq_some_iff.mp hq
  simp [progress, put, List.getElem?_set_self hi]

theorem progress_put_of_ne (h : i ≠ j) : (c.put i p).progress j = c.progress j := by
  simp [progress, put, List.getElem?_set_ne h]

namespace Books

theorem new (pacing : Pacing) : (Chronicle.new pacing).Books where
  order := .nil
  enrolled := by simp [Chronicle.new]
  account i := ⟨rfl, rfl⟩
  genuine := by simp [Chronicle.new]
  tallied := ⟨rfl, rfl, rfl⟩

theorem account_of (h : c.Books) (hp : c.polls[i]? = some p) :
    Account (takenBy i c.taken) (toldBy i c.told) p :=
  progress_eq hp ▸ h.account i

/-- A poll that goes on leaves the accounts of the others alone. -/
theorem account_put (h : c.Books) (hq : c.polls[i]? = some q)
    (hother : ∀ j, i ≠ j → takenBy j taken = takenBy j c.taken ∧ toldBy j told = toldBy j c.told)
    (hi : Account (takenBy i taken) (toldBy i told) p) (j : Nat) :
    Account (takenBy j taken) (toldBy j told) ((c.put i p).progress j) := by
  by_cases hj : i = j
  · subst hj
    rw [progress_put_self hq]
    exact hi
  · rw [progress_put_of_ne hj, (hother j hj).1, (hother j hj).2]
    exact h.account j

/-- A poll goes on without the lock and without a call. -/
theorem put {tracker : Tracker} (h : c.Books) (hq : c.polls[i]? = some q)
    (hi : Account (takenBy i c.taken) (toldBy i c.told) p)
    (hc : tracker.current = c.tracker.current)
    (ht : Tallied tracker (c.polls.set i p) (c.taken.countP (·.advance.isSome))) :
    Books { c.put i p with tracker := tracker } where
  order := hc ▸ h.order
  enrolled := h.enrolled
  account := h.account_put hq (fun _ _ => ⟨rfl, rfl⟩) hi
  genuine := h.genuine
  tallied := ht

theorem take {m : Marker} (h : c.Books) (hq : c.polls[i]? = some (.answered m)) :
    (c.take i m).Books := by
  obtain ⟨htaken, htold⟩ := h.account_of hq
  have horder := h.order.update i c.registered m
  have hpair := (horder.judged [] _ _ rfl).pair
  refine ⟨horder, List.forall_mem_cons.mpr ⟨Nat.le_refl _, h.enrolled⟩,
    h.account_put hq (fun j hj => ⟨takenBy_cons_of_ne hj, rfl⟩) ?_, fun n hn => ?_,
    h.tallied.set hq ?_ ?_ ?_⟩
  · have hnew : takenBy i (c.take i m).taken = [⟨i, m, (c.tracker.update m).1, c.registered⟩] :=
      takenBy_cons_self.trans (congrArg _ htaken)
    rw [hnew]
    cases ha : (c.tracker.update m).1 with
    | none => exact ⟨_, rfl, rfl, rfl, htold⟩
    | some a => exact ⟨⟨_, rfl, rfl, (hpair a ha).1.symm⟩, htold⟩
  · obtain ⟨t, ht, hpoll, ha⟩ := h.genuine n hn
    exact ⟨t, List.mem_cons_of_mem _ ht, hpoll, ha⟩
  · cases ha : (c.tracker.update m).1 with
    | none => simp [Chronicle.take, ha, Progress.judged, Progress.hasAdvance]
    | some a => simp [Chronicle.take, ha, Progress.judged, Progress.hasAdvance]
  · cases (c.tracker.update m).1 <;> rfl
  · cases (c.tracker.update m).1 <;> rfl

theorem tell {a : Advance} {o : Nat} {left : List Nat} (h : c.Books)
    (hq : c.polls[i]? = some (.telling a (o :: left))) : (c.tell i a o left).Books := by
  obtain ⟨t, k, hfound, hk, htold⟩ := h.account_of hq
  refine ⟨h.order, h.enrolled, h.account_put hq (fun j hj => ⟨rfl, toldBy_cons_of_ne hj⟩) ?_,
    List.forall_mem_cons.mpr ⟨⟨t, hfound.mem.1, hfound.mem.2, hfound.2.1⟩, h.genuine⟩,
    h.tallied.set hq rfl rfl rfl⟩
  refine ⟨t, k, hfound, hk, ?_⟩
  rw [show toldBy i (c.tell i a o left).told = o :: toldBy i c.told from toldBy_cons_self]
  simpa using htold

theorem move {c' : Chronicle} (h : c.Books) (hm : c.Move c') : c'.Books := by
  cases hm with
  | idle => exact h
  | register =>
    exact ⟨h.order, fun t ht => Nat.le_succ_of_le (h.enrolled t ht), h.account, h.genuine,
      h.tallied⟩
  | begin =>
    exact ⟨h.order, h.enrolled, fun i => progress_begin c i ▸ h.account i, h.genuine,
      h.tallied.begin⟩
  | answer hq =>
    have hacc := h.account_of hq
    exact h.put hq hacc rfl (h.tallied.set hq rfl rfl rfl)
  | fail hq =>
    have hacc := h.account_of hq
    exact h.put hq ⟨rfl, hacc⟩ rfl (h.tallied.set hq rfl rfl rfl)
  | take hq => exact h.take hq
  | tally hq =>
    have hacc := h.account_of hq
    exact h.put hq hacc rfl (h.tallied.set hq rfl rfl rfl)
  | list hq =>
    obtain ⟨⟨t, hfound⟩, htold⟩ := h.account_of hq
    refine h.put hq ⟨t, _, hfound, h.enrolled t hfound.mem.1, ?_⟩ rfl
      (h.tallied.set hq rfl rfl rfl)
    rw [htold]
    rfl
  | tell hq => exact h.tell hq
  | finish hq =>
    obtain ⟨t, k, ⟨htaken, ha, hcur⟩, hk, htold⟩ := h.account_of hq
    refine h.put hq ⟨t, htaken, hcur, by rw [ha]; rfl, ?_⟩ rfl (h.tallied.set hq rfl rfl rfl)
    rw [ha]
    exact ⟨k, hk, by simpa using htold⟩

theorem run (h : c.Books) (events : List Event) : (c.run events).Books :=
  run_keeps (fun c e hc => hc.move (c.step_move e)) h events

end Books
end Chronicle
end ChainGateway.Epoch
