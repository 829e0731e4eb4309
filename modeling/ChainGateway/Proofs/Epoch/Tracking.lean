import ChainGateway.Proofs.Epoch.Books
import Mathlib.Data.List.Nodup

/-!
# Tracking

However polls and registrations overlap, the tracker holds the greatest epoch that was fetched,
the advances are the answers above all before them, and everyone who had registered is told of
each of them once.
-/

namespace ChainGateway.Epoch.Chronicle

/-- How often poll `i` has told observer `o`. -/
def calls (c : Chronicle) (i o : Nat) : Nat :=
  c.told.countP fun n => n.poll = i ∧ n.observer = o

/-- What holds of a chronicle at any moment. The answers are in the order of the lock, the latest
first. -/
structure Faithful (c : Chronicle) : Prop where
  unknown : c.tracker.current = none ↔ c.taken = []
  /-- The tracker holds the greatest epoch, with the last validation time fetched for it. -/
  current : ∀ m, c.tracker.current = some m → Newest m (c.taken.map (·.marker))
  /-- The advances are the strict maxima after the first answer. -/
  advance_iff : ∀ later t earlier, c.taken = later ++ t :: earlier →
    (t.advance.isSome ↔ earlier ≠ [] ∧ ∀ s ∈ earlier, s.marker.epoch < t.marker.epoch)
  /-- An advance leads from what was held to the answer. -/
  pair : ∀ later t earlier a, c.taken = later ++ t :: earlier → t.advance = some a →
    a.current = t.marker ∧ Newest a.previous (earlier.map (·.marker))
  chain : ∀ later baseline, c.taken = later ++ [baseline] →
    Linked baseline.marker.epoch (later.filterMap (·.advance))
  /-- A poll takes in one answer at most. -/
  one_answer : (c.taken.map (·.poll)).Nodup
  /-- Observers are told of nothing but the advance that the poll has found. -/
  genuine : ∀ n ∈ c.told, ∃ t ∈ c.taken, t.poll = n.poll ∧ t.advance = some n.advance
  at_most_once : ∀ i o, c.calls i o ≤ 1
  /-- Those registered before the update have all been told when the poll is done. -/
  exactly_once : ∀ t ∈ c.taken, t.advance.isSome → ∀ outcome result,
    c.polls[t.poll]? = some (.done outcome result) → ∀ o < t.registered, c.calls t.poll o = 1
  /-- A poll that fails reports no advance, finds none and tells nobody. -/
  failed : ∀ i e result, c.polls[i]? = some (.done (.error e) result) →
    result = ⟨false, none⟩ ∧ (∀ t ∈ c.taken, t.poll ≠ i) ∧ ∀ o, c.calls i o = 0
  /-- A poll that succeeds reports an advance if it found one, and else tells nobody. -/
  succeeded : ∀ i m result, c.polls[i]? = some (.done (.ok m) result) →
    ∃ t ∈ c.taken, t.poll = i ∧ t.marker = m ∧ result = ⟨t.advance.isSome, some m⟩ ∧
      (t.advance = none → ∀ o, c.calls i o = 0)
  advances : c.tracker.advances = c.polls.countP Progress.hasCounted
  found : c.taken.countP (·.advance.isSome) = c.polls.countP Progress.hasAdvance
  errors : c.tracker.pollErrors = c.polls.countP Progress.hasFailed

variable {c : Chronicle} {i o : Nat} {t : Taken}

theorem calls_eq : c.calls i o = (toldBy i c.told).count o := by
  rw [calls, toldBy, List.count, List.countP_map, List.countP_filter]
  refine List.countP_congr fun n _ => ?_
  simp [and_comm]

/-- A poll takes in one answer at most. -/
theorem Account.length_le {taken : List Taken} {told : List Nat} {p : Progress}
    (h : Account taken told p) : taken.length ≤ 1 := by
  cases p with
  | fetching | answered => simp [h.1]
  | advanced | counted =>
    obtain ⟨⟨t, ht, -⟩, -⟩ := h
    simp [ht]
  | telling =>
    obtain ⟨t, k, ⟨ht, -⟩, -⟩ := h
    simp [ht]
  | done outcome result =>
    cases outcome with
    | error e => simp [h.2.1]
    | ok m =>
      obtain ⟨t, ht, -⟩ := h
      simp [ht]

/-- A poll tells nobody twice. -/
theorem Account.nodup {taken : List Taken} {told : List Nat} {p : Progress}
    (h : Account taken told p) : told.Nodup := by
  cases p with
  | fetching | answered | advanced | counted => simp [h.2]
  | telling =>
    obtain ⟨t, k, -, -, htold⟩ := h
    have hnodup := List.nodup_append.mp (htold ▸ List.nodup_range (n := k))
    exact List.nodup_reverse.mp hnodup.1
  | done outcome result =>
    cases outcome with
    | error e => simp [h.2.2]
    | ok m =>
      obtain ⟨t, -, -, -, htold⟩ := h
      split at htold
      · simp [htold]
      · obtain ⟨k, -, htold⟩ := htold
        exact List.nodup_reverse.mp (htold ▸ List.nodup_range)

theorem mem_takenBy (ht : t ∈ c.taken) : t ∈ takenBy t.poll c.taken := by
  simp [takenBy, ht]

namespace Books

theorem one_answer (h : c.Books) : (c.taken.map (·.poll)).Nodup := by
  refine List.nodup_iff_count_le_one.mpr fun i => ?_
  rw [List.count, List.countP_map, List.countP_eq_length_filter]
  refine Nat.le_trans (Nat.le_of_eq (congrArg _ (List.filter_congr fun t _ => ?_)))
    (h.account i).length_le
  exact beq_eq_decide _ _

theorem exactly_once (h : c.Books) (ht : t ∈ c.taken) (ha : t.advance.isSome)
    {outcome : Except ReadError Marker} {result : Poll}
    (hp : c.polls[t.poll]? = some (.done outcome result)) (ho : o < t.registered) :
    c.calls t.poll o = 1 := by
  have hmem := mem_takenBy ht
  cases outcome with
  | error e =>
    obtain ⟨-, hnone, -⟩ := h.account_of hp
    rw [hnone] at hmem
    cases hmem
  | ok m =>
    obtain ⟨s, hs, -, -, htold⟩ := h.account_of hp
    rw [hs] at hmem
    obtain rfl := List.mem_singleton.mp hmem
    split at htold
    · simp_all
    · obtain ⟨k, hk, htold⟩ := htold
      rw [calls_eq, ← List.count_reverse, htold, List.count_range, if_pos (by omega)]

theorem faithful (h : c.Books) : c.Faithful where
  unknown := h.order.unknown
  current := h.order.newest
  advance_iff later t earlier ht := (h.order.judged later t earlier ht).advance_iff
  pair later t earlier a ht := (h.order.judged later t earlier ht).pair a
  chain := h.order.linked
  one_answer := h.one_answer
  genuine := h.genuine
  at_most_once i o := by
    rw [calls_eq]
    exact List.nodup_iff_count_le_one.mp (h.account i).nodup o
  exactly_once t ht ha _ _ hp o ho := h.exactly_once ht ha hp ho
  failed i e result hp := by
    obtain ⟨hresult, htaken, htold⟩ := h.account_of hp
    refine ⟨hresult, ?_, fun o => by rw [calls_eq, htold]; rfl⟩
    rintro t ht rfl
    have hmem := mem_takenBy ht
    rw [htaken] at hmem
    cases hmem
  succeeded i m result hp := by
    obtain ⟨t, htaken, hm, hresult, htold⟩ := h.account_of hp
    have ht : t ∈ takenBy i c.taken := htaken ▸ List.mem_singleton.mpr rfl
    obtain ⟨ht, hpoll⟩ := List.mem_filter.mp ht
    refine ⟨t, ht, of_decide_eq_true hpoll, hm, hresult, fun ha o => ?_⟩
    rw [ha] at htold
    rw [calls_eq, htold]
    rfl
  advances := h.tallied.counted
  found := h.tallied.found
  errors := h.tallied.missed

end Books

/-- What is held now has no lower epoch than what was held before. -/
def NoLower (before now : Option Marker) : Prop :=
  ∀ m, before = some m → ∃ n, now = some n ∧ m.epoch ≤ n.epoch

theorem NoLower.refl (m : Option Marker) : NoLower m m :=
  fun n hn => ⟨n, hn, UInt64.le_refl _⟩

theorem NoLower.trans {a b d : Option Marker} (h : NoLower a b) (h' : NoLower b d) :
    NoLower a d := by
  rintro m rfl
  obtain ⟨n, rfl, hn⟩ := h m rfl
  obtain ⟨k, rfl, hk⟩ := h' n rfl
  exact ⟨k, rfl, UInt64.le_trans hn hk⟩

theorem noLower_update (tracker : Tracker) (latest : Marker) :
    NoLower tracker.current (tracker.update latest).2.current := by
  rcases tracker.update_cases latest with ⟨hc, hu⟩ | ⟨p, hc, hlt, hu⟩ | ⟨p, hc, heq, hu⟩ |
    ⟨p, hc, hlt, hu⟩ <;> rw [hu] <;> rintro m hm
  · rw [hc] at hm
    cases hm
  · obtain rfl := Option.some.inj (hc.symm.trans hm)
    exact ⟨latest, rfl, UInt64.le_of_lt hlt⟩
  · obtain rfl := Option.some.inj (hc.symm.trans hm)
    exact ⟨latest, rfl, UInt64.le_of_eq heq⟩
  · exact ⟨m, hm, UInt64.le_refl _⟩

theorem Move.noLower {c' : Chronicle} (h : c.Move c') :
    NoLower c.tracker.current c'.tracker.current := by
  cases h with
  | take _ => exact noLower_update _ _
  | _ => exact .refl _

/-- Epochs never go down. -/
theorem noLower_run (c : Chronicle) (events : List Event) :
    NoLower c.tracker.current (c.run events).tracker.current := by
  induction events generalizing c with
  | nil => exact .refl _
  | cons e events ih => exact (c.step_move e).noLower.trans (ih (c.step e))

/-- Polls and registrations may overlap in any way: at every moment the records are faithful, what
is held never goes down from there, and whoever has an answer can be done by its own steps. -/
theorem tracks (pacing : Pacing) (events later : List Event) :
    let c := (new pacing).run events
    c.Faithful ∧ NoLower c.tracker.current (c.run later).tracker.current ∧
      ∀ i p, c.polls[i]? = some p → p ≠ .fetching →
        ∃ n outcome result, (c.goOn i n).polls[i]? = some (.done outcome result) :=
  ⟨((Books.new pacing).run events).faithful, noLower_run _ later,
    fun _ _ hp h => finishes hp h⟩

end ChainGateway.Epoch.Chronicle
