import ChainGateway.Epoch.Tracker

/-!
# A chronicle of overlapping polls

A poll asks the source, takes the answer in under the lock of the marker, counts an advance, asks
who is registered, and tells them one after another. Polls overlap, and between any two of these
steps others may run. A chronicle lets them run in any order; it records which answers were taken
in, in the order of the lock, and who was told of what.
-/

namespace ChainGateway.Epoch

namespace Tracker

/-- What happens to a fetched marker under the lock: an advance is yet to be counted. -/
def update (t : Tracker) (latest : Marker) : Option Advance × Tracker :=
  ((t.observe latest).1, { t with current := (t.observe latest).2.current })

def count (t : Tracker) : Tracker := { t with advances := t.advances + 1 }

def miss (t : Tracker) : Tracker := { t with pollErrors := t.pollErrors + 1 }

variable {t : Tracker} {m latest : Marker}

theorem update_cases (t : Tracker) (latest : Marker) :
    (t.current = none ∧ t.update latest = (none, { t with current := some latest })) ∨
    (∃ m, t.current = some m ∧ m.epoch < latest.epoch ∧
      t.update latest = (some ⟨m, latest⟩, { t with current := some latest })) ∨
    (∃ m, t.current = some m ∧ m.epoch = latest.epoch ∧
      t.update latest = (none, { t with current := some latest })) ∨
    (∃ m, t.current = some m ∧ latest.epoch < m.epoch ∧ t.update latest = (none, t)) := by
  cases hc : t.current with
  | none => exact .inl ⟨rfl, by simp [update, observe, hc]⟩
  | some m =>
    by_cases hlt : m.epoch < latest.epoch
    · exact .inr (.inl ⟨m, rfl, hlt, by simp [update, observe, hc, hlt]⟩)
    · by_cases heq : m.epoch = latest.epoch
      · exact .inr (.inr (.inl ⟨m, rfl, heq, by simp [update, observe, hc, heq]⟩))
      · have hgt := UInt64.lt_of_le_of_ne (UInt64.not_lt.mp hlt) (Ne.symm heq)
        refine .inr (.inr (.inr ⟨m, rfl, hgt, ?_⟩))
        simp only [update, observe, hc, hlt, heq, if_false]
        rw [← hc]

theorem update_current {a : Advance} (h : (t.update latest).1 = some a) : a.current = latest := by
  rcases t.update_cases latest with ⟨-, hu⟩ | ⟨m, -, -, hu⟩ | ⟨m, -, -, hu⟩ | ⟨m, -, -, hu⟩ <;>
    rw [hu] at h <;> cases h
  rfl

/-- Taking a marker in at once is the update, with the count where it is an advance. -/
theorem observe_eq (t : Tracker) (latest : Marker) :
    t.observe latest = ((t.update latest).1,
      if (t.update latest).1.isSome then (t.update latest).2.count else (t.update latest).2) := by
  unfold update observe
  split
  · rfl
  · split
    · rfl
    · split
      · rfl
      · rfl

end Tracker

-- ---------------------------------------------------------------------------
-- The chronicle
-- ---------------------------------------------------------------------------

/-- How far a poll has come. -/
inductive Progress
  | fetching
  | answered (latest : Marker)
  /-- The marker was taken in and is an advance, which is not yet counted. -/
  | advanced (a : Advance)
  | counted (a : Advance)
  /-- The observers in `left` are still to be told. -/
  | telling (a : Advance) (left : List Nat)
  | done (outcome : Except ReadError Marker) (result : Poll)

namespace Progress

/-- Where a poll stands when its answer was taken in. -/
def judged (latest : Marker) : Option Advance → Progress
  | none => .done (.ok latest) ⟨false, some latest⟩
  | some a => .advanced a

/-- Whether the poll has found an advance. -/
def hasAdvance : Progress → Bool
  | .advanced _ | .counted _ | .telling _ _ => true
  | .done _ result => result.advanced
  | .fetching | .answered _ => false

/-- Whether the poll has found an advance and counted it. -/
def hasCounted : Progress → Bool
  | .counted _ | .telling _ _ => true
  | .done _ result => result.advanced
  | .fetching | .answered _ | .advanced _ => false

def hasFailed : Progress → Bool
  | .done (.error _) _ => true
  | _ => false

end Progress

/-- An answer that was taken in under the lock. -/
structure Taken where
  poll : Nat
  marker : Marker
  advance : Option Advance
  /-- How many observers had registered by then. -/
  registered : Nat

/-- A call of an observer. -/
structure Notice where
  poll : Nat
  observer : Nat
  advance : Advance

/-- Polls are numbered as they begin; observers as they register, so that one who registers twice
is two of them. -/
structure Chronicle where
  tracker : Tracker
  registered : Nat
  polls : List Progress
  /-- The latest first. -/
  taken : List Taken
  /-- The latest first. -/
  told : List Notice

/-- What may happen next: the source gives a poll its answer, or a poll goes on by a step. -/
inductive Event
  | register
  | begin
  | answer (poll : Nat) (outcome : Except ReadError Marker)
  | proceed (poll : Nat)

namespace Chronicle

def new (pacing : Pacing) : Chronicle := ⟨.new pacing, 0, [], [], []⟩

def put (c : Chronicle) (i : Nat) (p : Progress) : Chronicle :=
  { c with polls := c.polls.set i p }

/-- Poll `i` takes its answer in, under the lock. -/
def take (c : Chronicle) (i : Nat) (latest : Marker) : Chronicle :=
  { c.put i (.judged latest (c.tracker.update latest).1) with
    tracker := (c.tracker.update latest).2
    taken := ⟨i, latest, (c.tracker.update latest).1, c.registered⟩ :: c.taken }

def tally (c : Chronicle) (i : Nat) (a : Advance) : Chronicle :=
  { c.put i (.counted a) with tracker := c.tracker.count }

/-- Poll `i` calls observer `o`, with those in `left` still to come. -/
def tell (c : Chronicle) (i : Nat) (a : Advance) (o : Nat) (left : List Nat) : Chronicle :=
  { c.put i (.telling a left) with told := ⟨i, o, a⟩ :: c.told }

def answer (c : Chronicle) (i : Nat) : Except ReadError Marker → Chronicle
  | .ok latest => c.put i (.answered latest)
  | .error e => { c.put i (.done (.error e) ⟨false, none⟩) with tracker := c.tracker.miss }

def proceed (c : Chronicle) (i : Nat) : Progress → Chronicle
  | .answered latest => c.take i latest
  | .advanced a => c.tally i a
  | .counted a => c.put i (.telling a (.range c.registered))
  | .telling a (o :: left) => c.tell i a o left
  | .telling a [] => c.put i (.done (.ok a.current) ⟨true, some a.current⟩)
  | .fetching | .done _ _ => c

def step (c : Chronicle) : Event → Chronicle
  | .register => { c with registered := c.registered + 1 }
  | .begin => { c with polls := c.polls ++ [.fetching] }
  | .answer i outcome =>
    match c.polls[i]? with
    | some .fetching => c.answer i outcome
    | _ => c
  | .proceed i => (c.polls[i]?.map (c.proceed i)).getD c

def run (c : Chronicle) (events : List Event) : Chronicle := events.foldl step c

/-- A property of chronicles that every step keeps holds after every run. -/
theorem run_keeps {P : Chronicle → Prop} {c : Chronicle} (hstep : ∀ c e, P c → P (c.step e)) (hc : P c)
    (events : List Event) : P (c.run events) := by
  induction events generalizing c with
  | nil => exact hc
  | cons e events ih => exact ih (hstep c e hc)

/-- What a step can do. -/
inductive Move (c : Chronicle) : Chronicle → Prop
  | idle : Move c c
  | register : Move c { c with registered := c.registered + 1 }
  | begin : Move c { c with polls := c.polls ++ [.fetching] }
  | answer {i latest} (hp : c.polls[i]? = some .fetching) : Move c (c.put i (.answered latest))
  | fail {i e} (hp : c.polls[i]? = some .fetching) :
    Move c { c.put i (.done (.error e) ⟨false, none⟩) with tracker := c.tracker.miss }
  | take {i latest} (hp : c.polls[i]? = some (.answered latest)) : Move c (c.take i latest)
  | tally {i a} (hp : c.polls[i]? = some (.advanced a)) : Move c (c.tally i a)
  | list {i a} (hp : c.polls[i]? = some (.counted a)) :
    Move c (c.put i (.telling a (.range c.registered)))
  | tell {i a o left} (hp : c.polls[i]? = some (.telling a (o :: left))) :
    Move c (c.tell i a o left)
  | finish {i a} (hp : c.polls[i]? = some (.telling a [])) :
    Move c (c.put i (.done (.ok a.current) ⟨true, some a.current⟩))

theorem step_move (c : Chronicle) (e : Event) : c.Move (c.step e) := by
  cases e with
  | register => exact .register
  | begin => exact .begin
  | answer i outcome =>
    simp only [step]
    split
    · rename_i hp
      cases outcome with
      | ok latest => exact .answer hp
      | error e => exact .fail hp
    · exact .idle
  | proceed i =>
    simp only [step]
    cases hp : c.polls[i]? with
    | none => exact .idle
    | some p =>
      cases p with
      | fetching => exact .idle
      | answered latest => exact .take hp
      | advanced a => exact .tally hp
      | counted a => exact .list hp
      | telling a left =>
        cases left with
        | nil => exact .finish hp
        | cons o left => exact .tell hp
      | done outcome result => exact .idle

-- ---------------------------------------------------------------------------
-- Polls that nothing interrupts
-- ---------------------------------------------------------------------------

/-- Lets poll `i` go on by `n` steps. -/
def goOn (c : Chronicle) (i n : Nat) : Chronicle := c.run (.replicate n (.proceed i))

section
variable {c : Chronicle} {i m n : Nat} {p q : Progress} {a : Advance} {left : List Nat}

theorem goOn_succ (hp : c.polls[i]? = some p) : c.goOn i (n + 1) = (c.proceed i p).goOn i n := by
  simp [goOn, List.replicate_succ, run, step, hp]

theorem polls_set {polls : List Progress} (hp : polls[i]? = some p) :
    (polls.set i q)[i]? = some q := by
  obtain ⟨hi, -⟩ := List.getElem?_eq_some_iff.mp hp
  exact List.getElem?_set_self hi

/-- A poll that is telling tells the rest, in their order, and is done. -/
theorem goOn_telling (hp : c.polls[i]? = some (.telling a left)) :
    c.goOn i (left.length + 1) =
      { c.put i (.done (.ok a.current) ⟨true, some a.current⟩) with
        told := (left.map (⟨i, ·, a⟩)).reverse ++ c.told } := by
  induction left generalizing c with
  | nil => exact goOn_succ hp
  | cons o left ih =>
    rw [List.length_cons, goOn_succ hp, show c.proceed i (.telling a (o :: left)) =
      c.tell i a o left from rfl, ih (polls_set hp)]
    simp [tell, put]

/-- A poll that has counted its advance tells everyone and is done. -/
theorem goOn_counted (hp : c.polls[i]? = some (.counted a)) :
    c.goOn i (c.registered + 2) =
      { c.put i (.done (.ok a.current) ⟨true, some a.current⟩) with
        told := ((List.range c.registered).map (⟨i, ·, a⟩)).reverse ++ c.told } := by
  have hall := goOn_telling (c := c.put i (.telling a (.range c.registered))) (polls_set hp)
  rw [List.length_range] at hall
  rw [goOn_succ hp, show c.proceed i (.counted a) = c.put i (.telling a (.range c.registered))
    from rfl, hall]
  simp [put]

theorem goOn_advanced (hp : c.polls[i]? = some (.advanced a)) :
    c.goOn i (c.registered + 3) =
      { c.put i (.done (.ok a.current) ⟨true, some a.current⟩) with
        tracker := c.tracker.count
        told := ((List.range c.registered).map (⟨i, ·, a⟩)).reverse ++ c.told } := by
  have hcounted : (c.tally i a).polls[i]? = some (.counted a) := polls_set hp
  refine (goOn_succ hp).trans ((goOn_counted hcounted).trans ?_)
  simp [tally, put]

/-- What a poll whose answer is `latest` comes to when it goes on alone. -/
def conclude (c : Chronicle) (i : Nat) (latest : Marker) (found : Option Advance) : Chronicle :=
  { c.put i (.done (.ok latest) ⟨found.isSome, some latest⟩) with
    told := match found with
      | none => c.told
      | some a => ((List.range c.registered).map (⟨i, ·, a⟩)).reverse ++ c.told }

theorem goOn_answered {latest : Marker} (hp : c.polls[i]? = some (.answered latest)) :
    ∃ n, c.goOn i n =
      { c.conclude i latest (c.tracker.observe latest).1 with
        tracker := (c.tracker.observe latest).2
        taken := ⟨i, latest, (c.tracker.observe latest).1, c.registered⟩ :: c.taken } := by
  rw [c.tracker.observe_eq]
  cases ha : (c.tracker.update latest).1 with
  | none =>
    refine ⟨1, (goOn_succ hp).trans ?_⟩
    simp [goOn, run, proceed, take, conclude, put, Progress.judged, ha]
  | some a =>
    obtain rfl := Tracker.update_current ha
    have hadvanced : (c.take i a.current).polls[i]? = some (.advanced a) := by
      rw [take, ha]
      exact polls_set hp
    refine ⟨c.registered + 4, (goOn_succ hp).trans ((goOn_advanced hadvanced).trans ?_)⟩
    simp [take, conclude, put, ha]

/-- A poll that nothing interrupts does what the tracker does at once, and tells everyone of an
advance. -/
theorem poll_alone (hp : c.polls[i]? = some .fetching) (latest : Marker) :
    ∃ n, (c.step (.answer i (.ok latest))).goOn i n =
      { c.conclude i latest (c.tracker.poll (.ok latest)).2.1 with
        tracker := (c.tracker.poll (.ok latest)).2.2
        taken := ⟨i, latest, (c.tracker.poll (.ok latest)).2.1, c.registered⟩ :: c.taken } := by
  obtain ⟨n, hn⟩ := goOn_answered (c := c.put i (.answered latest)) (polls_set hp)
  refine ⟨n, ?_⟩
  rw [show c.step (.answer i (.ok latest)) = c.put i (.answered latest) by simp [step, hp, answer],
    hn]
  simp [conclude, put, Tracker.poll]

theorem poll_failed (hp : c.polls[i]? = some .fetching) (e : ReadError) :
    c.step (.answer i (.error e)) =
      { c.put i (.done (.error e) (c.tracker.poll (.error e)).1) with
        tracker := (c.tracker.poll (.error e)).2.2 } := by
  simp [step, hp, answer, Tracker.poll, Tracker.miss]

/-- Once it has its answer, a poll needs nothing but its own steps to be done. -/
theorem finishes (hp : c.polls[i]? = some p) (h : p ≠ .fetching) :
    ∃ n outcome result, (c.goOn i n).polls[i]? = some (.done outcome result) := by
  cases p with
  | fetching => exact absurd rfl h
  | answered latest =>
    obtain ⟨n, hn⟩ := goOn_answered hp
    exact ⟨n, _, _, by rw [hn]; exact polls_set hp⟩
  | advanced a => exact ⟨_, _, _, by rw [goOn_advanced hp]; exact polls_set hp⟩
  | counted a => exact ⟨_, _, _, by rw [goOn_counted hp]; exact polls_set hp⟩
  | telling a left => exact ⟨_, _, _, by rw [goOn_telling hp]; exact polls_set hp⟩
  | done outcome result => exact ⟨0, outcome, result, hp⟩

end

end Chronicle
end ChainGateway.Epoch
