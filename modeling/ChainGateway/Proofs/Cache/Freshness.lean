import ChainGateway.Gateway.Basic
import ChainGateway.Proofs.Cache.Transcript

/-!
# Freshness after an advance of the epoch

An advance empties the stores but not the hands of the reads underway: one that has called the
store before keeps its outcome after. So later reads are answered from calls made after the
advance just when no read underway at it will keep what it called for before, and every first
read calls the store just when no read underway will keep anything.
-/

namespace ChainGateway.Cache

variable {p : PolicyTable} {pool : Bool} {s : Session} {r : Registry} {log ds mid : List Deed}
  {id id' : Nat} {now t t' : Instant} {c c' : Call} {o : Outcome} {x : OpenRead}
  {m : Move} {rest : List Move}

-- ---------------------------------------------------------------------------
-- The clock
-- ---------------------------------------------------------------------------

/-- Readings of the clock in order, from `now` on. -/
def ClockFrom : Instant → List Move → Prop
  | _, [] => True
  | now, m :: rest =>
    match m.reading? with
    | some t => now.nanos ≤ t.nanos ∧ ClockFrom t rest
    | none => ClockFrom now rest

/-- Deeds, the latest first, with readings of the clock in order from `now` on. -/
structure Timed (now : Instant) (ds : List Deed) : Prop where
  since : ∀ d ∈ ds, ∀ t, d.reading? = some t → now.nanos ≤ t.nanos
  ordered : ds.Pairwise fun d e =>
    ∀ t t', d.reading? = some t → e.reading? = some t' → t'.nanos ≤ t.nanos

theorem Timed.append {now' : Instant} {late early : List Deed} (hle : now.nanos ≤ now'.nanos)
    (hl : Timed now' late) (he : Timed now early)
    (hb : ∀ d ∈ early, ∀ t, d.reading? = some t → t.nanos ≤ now'.nanos) :
    Timed now (late ++ early) where
  since d hd t ht := by
    rcases List.mem_append.mp hd with hd | hd
    · exact Nat.le_trans hle (hl.since d hd t ht)
    · exact he.since d hd t ht
  ordered := by
    refine List.pairwise_append.mpr ⟨hl.ordered, he.ordered, fun d hd e hm t t' ht ht' => ?_⟩
    exact Nat.le_trans (hb e hm t' ht') (hl.since d hd t ht)

theorem Session.run_log (h : ClockFrom now rest) :
    ∃ mid, (s.run rest).log = mid ++ s.log ∧ Timed now mid := by
  induction rest generalizing s now with
  | nil => exact ⟨[], rfl, by simp, .nil⟩
  | cons m rest ih =>
    obtain ⟨ds, hds, hr⟩ := s.step_log (m := m)
    unfold ClockFrom at h
    split at h
    · rename_i t ht
      obtain ⟨mid, hmid, htimed⟩ := ih (s := s.step m) h.2
      have heq : ∀ d ∈ ds, ∀ u, d.reading? = some u → u = t := fun d hd u hu =>
        Option.some.inj (((hr d hd).1 u hu).symm.trans ht)
      refine ⟨mid ++ ds, ?_, htimed.append h.1 ⟨?_, ?_⟩ ?_⟩
      · rw [List.append_assoc, ← hds]
        exact hmid
      · exact fun d hd u hu => heq d hd u hu ▸ h.1
      · refine List.pairwise_of_forall_mem_list fun d hd e he u u' hu hu' => ?_
        exact Nat.le_of_eq (by rw [heq d hd u hu, heq e he u' hu'])
      · exact fun d hd u hu => heq d hd u hu ▸ Nat.le_refl _
    · rename_i hn
      obtain ⟨mid, hmid, htimed⟩ := ih (s := s.step m) h
      have hnone : ∀ d ∈ ds, ∀ u, d.reading? ≠ some u := fun d hd u hu => by
        have := (hr d hd).1 u hu
        rw [hn] at this
        cases this
      refine ⟨mid ++ ds, ?_, htimed.append (Nat.le_refl _) ⟨?_, ?_⟩ ?_⟩
      · rw [List.append_assoc, ← hds]
        exact hmid
      · exact fun d hd u hu => absurd hu (hnone d hd u)
      · exact List.pairwise_of_forall_mem_list fun d hd e he u u' hu => absurd hu (hnone d hd u)
      · exact fun d hd u hu => absurd hu (hnone d hd u)

-- ---------------------------------------------------------------------------
-- Where an outcome comes from
-- ---------------------------------------------------------------------------

/-- Whether a deed ends a read. -/
def Deed.ends : Deed → Bool
  | .looked _ _ _ (some _) | .returned .. | .failed .. | .abandoned .. => true
  | _ => false

/-- Before it returned, a read that loaded has looked, called the store and not ended. -/
theorem Completed.before {later earlier : List Deed}
    (h : Completed pool id t c o (later ++ .returned id t c o :: earlier)) :
    .called id c ∈ earlier ∧ (∃ u, .looked id u c none ∈ earlier) ∧
      (∀ u c' f, .looked id u c' f ∈ earlier → c' = c) ∧ ∀ d ∈ earlier, d.ends = false := by
  generalize hl : later ++ .returned id t c o :: earlier = l at h
  cases later with
  | nil =>
    rw [List.nil_append] at hl
    subst hl
    cases h with
    | @fromStore t' hn =>
      refine ⟨by simp, ⟨t', by simp⟩, fun u c' f hm => ?_, by simp [Deed.ends]⟩
      simp at hm
      exact hm.2.1
    | @fromPool t' q e hn hq =>
      refine ⟨by simp, ⟨t', by simp⟩, fun u c' f hm => ?_, by simp [Deed.ends]⟩
      simp at hm
      exact hm.2.1
  | cons d later =>
    rw [List.cons_append] at hl
    have hm : .returned id t c o ∈ later ++ .returned id t c o :: earlier := by simp
    cases h with
    | fromStore =>
      rw [(List.cons.inj hl).2] at hm
      simp at hm
    | fromPool =>
      rw [(List.cons.inj hl).2] at hm
      simp at hm

/-- A read that has begun and not ended is underway. -/
theorem Life.underway {y : Option OpenRead} {l : List Deed} (h : Life pool id y l) (hl : l ≠ [])
    (hd : ∀ d ∈ l, d.ends = false) :
    ∃ x, y = some x ∧ (∃ u, .looked id u x.call none ∈ l) ∧
      ∀ c, .called id c ∈ l → x.phase ≠ .missed := by
  cases h with
  | unborn => exact absurd rfl hl
  | hit => exact absurd (hd _ List.mem_cons_self) (by simp [Deed.ends])
  | @missed t c => exact ⟨_, rfl, ⟨t, by simp⟩, by simp⟩
  | @loading t c => exact ⟨_, rfl, ⟨t, by simp⟩, by simp⟩
  | @asking t c => exact ⟨_, rfl, ⟨t, by simp⟩, by simp⟩
  | completed h => cases h <;> exact absurd (hd _ List.mem_cons_self) (by simp [Deed.ends])
  | failed => exact absurd (hd _ List.mem_cons_self) (by simp [Deed.ends])
  | abandoned => exact absurd (hd _ List.mem_cons_self) (by simp [Deed.ends])

/-- Whether what is kept at `now` under a policy can be found again. -/
def Keepable (p : Policy) (now : Instant) : Prop :=
  p.isBypass = false ∧ 0 < p.ttl.nanos ∧ ∃ e, now.after? p.ttl = some e

/-- The load whose outcome a read finds after the stores were emptied is after that, too. -/
theorem Lasting.after_empty {k : Key} {d e : Deed} (h : Lasting k d (mid ++ e :: log))
    (he : e.empties k.operation = true) (hd : d.empties k.operation = false) :
    ∃ since prior, mid = since ++ d :: prior ∧
      ∀ b ∈ since, b.fills k = false ∧ b.empties k.operation = false := by
  obtain ⟨since, prior, hsplit, hs⟩ := h
  rcases List.append_eq_append_iff.mp hsplit with ⟨l, hl, hr⟩ | ⟨l, hl, hr⟩
  · cases l with
    | nil =>
      rw [← (List.cons.inj hr).1, he] at hd
      cases hd
    | cons b l =>
      have hb := (hs b (by simp [hl])).2
      rw [← (List.cons.inj hr).1, he] at hb
      cases hb
  · cases l with
    | nil =>
      rw [(List.cons.inj hr).1, he] at hd
      cases hd
    | cons b l =>
      rw [← (List.cons.inj hr).1] at hl
      exact ⟨since, l, hl, hs⟩

/-- A read whose life before `s` is part of one that ended later was underway at `s`. -/
theorem Session.Orderly.underway_of_mem (hs : s.Orderly p pool) {d : Deed}
    (hd : d ∈ lifeOf id s.log) (hends : ∀ d ∈ lifeOf id s.log, d.ends = false)
    (hcall : ∀ u c' f, .looked id u c' f ∈ lifeOf id s.log → c' = c) :
    ∃ x ∈ s.reader.underway, x.call = c ∧
      (.called id c ∈ lifeOf id s.log → x.phase ≠ .missed) := by
  obtain ⟨x, hx, ⟨u, hu⟩, hphase⟩ :=
    (hs.reads.lives id).underway (List.ne_nil_of_mem hd) hends
  exact ⟨x, Reader.find?_mem hx, hcall u _ _ hu, hphase c⟩

/-- What a read finds after the advance with which `s` ends was loaded by a read that has
called the store since, or that was underway at the advance and had called it. The same goes
for that read's look. -/
theorem Session.Orderly.source {a : Epoch.Advance} (hs : s.Orderly p pool)
    (ha : s.log = .advanced a :: log) (hc : ClockFrom now rest)
    (hit : .looked id t c (some o) :: (mid ++ s.log) <:+ (s.run rest).log) :
    ∃ id' t' c', c'.Akin c ∧ LastLoad c id' t' o (mid ++ s.log) ∧
      (.called id' c' ∈ mid ∨ ∃ x ∈ s.reader.underway, x.phase ≠ .missed ∧
        Keepable (p.policy x.call.operation) now) ∧
      ((∃ u, .looked id' u c' none ∈ mid) ∨ ∃ x ∈ s.reader.underway,
        Keepable (p.policy x.call.operation) now) := by
  have hrun : (s.run rest).Orderly p pool := hs.run
  obtain ⟨hb, id', t', c', e, hk, he, hlt, hlast⟩ := hrun.replays id t c o _ hit
  have hmem : ∀ d ∈ mid ++ s.log, d ∈ (s.run rest).log := fun d hd =>
    hit.subset (List.mem_cons_of_mem _ hd)
  have hfits := (hrun.hit (hit.subset List.mem_cons_self)).1
  obtain ⟨hfits', hlife⟩ := hrun.completed (hmem _ hlast.mem)
  have hakin : c'.Akin c := (Key.ofCall_eq_iff hfits' hfits).mp hk
  have hload := hlast.lastLoad hk hfits fun i u d f hm => (hrun.completed (hmem _ hm)).1
  -- the load is after the advance, so all that its read did before lies in `prior` or before `s`
  rw [ha] at hlast
  obtain ⟨since, prior, rfl, -⟩ := hlast.after_empty rfl rfl
  obtain ⟨later, hlog⟩ := hit
  have hsplit : (s.run rest).log = (later ++ .looked id t c (some o) :: since) ++
      ([.returned id' t' c' o] ++ (prior ++ s.log)) := by
    rw [← hlog]
    simp
  rw [hsplit, lifeOf_append, lifeOf_of_own [_] (by simp [Deed.read?]),
    List.singleton_append] at hlife
  obtain ⟨hcalled, ⟨u, hlooked⟩, hsame, hends⟩ := Completed.before hlife
  rw [lifeOf_append] at hcalled hlooked hsame hends
  have hkeep : Keepable (p.policy c'.operation) now := by
    obtain ⟨mid', hmid', htimed⟩ := s.run_log hc
    have : mid' = (later ++ .looked id t c (some o) :: since) ++
        (.returned id' t' c' o :: prior) := by
      refine List.append_cancel_right (?_ : _ ++ s.log = _ ++ s.log)
      rw [← hmid', hsplit]
      simp
    subst this
    have hnow : now.nanos ≤ t'.nanos := htimed.since (.returned id' t' c' o) (by simp) t' rfl
    have hle : t'.nanos ≤ t.nanos :=
      (List.pairwise_append.mp htimed.ordered).2.2 (.looked id t c (some o)) (by simp)
        (.returned id' t' c' o) (by simp) t t' rfl rfl
    rw [hakin.1]
    refine ⟨hb, ?_, Instant.after?_mono hnow (Nat.le_refl _) he⟩
    rw [Instant.eq_of_after? he] at hlt
    dsimp only at hlt
    omega
  have hunder : ∀ d ∈ lifeOf id' s.log, ∃ x ∈ s.reader.underway, x.call = c' ∧
      (.called id' c' ∈ lifeOf id' s.log → x.phase ≠ .missed) := fun d hd =>
    hs.underway_of_mem hd (fun d hd => hends d (List.mem_append_right _ hd))
      fun u c' f hm => hsame u c' f (List.mem_append_right _ hm)
  refine ⟨id', t', c', hakin, hload, ?_, ?_⟩
  · rcases List.mem_append.mp hcalled with hm | hm
    · exact .inl (by simp [(mem_lifeOf.mp hm).1])
    · obtain ⟨x, hx, hxc, hphase⟩ := hunder _ hm
      exact .inr ⟨x, hx, hphase hm, hxc ▸ hkeep⟩
  · rcases List.mem_append.mp hlooked with hm | hm
    · exact .inl ⟨u, by simp [(mem_lifeOf.mp hm).1]⟩
    · obtain ⟨x, hx, hxc, -⟩ := hunder _ hm
      exact .inr ⟨x, hx, hxc ▸ hkeep⟩

-- ---------------------------------------------------------------------------
-- Where an outcome goes
-- ---------------------------------------------------------------------------

/-- An error that is kept is found by a read at the same moment. -/
theorem Holds.hit_of_finish {e : ReadError} (h : Holds p r log)
    (hk : Keepable (p.policy c.operation) now) :
    (r.finish now c (.error e)).1 = none ∧
      ((r.finish now c (.error e)).2.lookup now c).1 = .hit (.error e) := by
  obtain ⟨hb, hpos, u, hu⟩ := hk
  have hroom : (r.policies.policy c.operation).isBypass = false := h.policies ▸ hb
  have hcap := h.capacity_pos hb
  rw [← h.policy] at hu
  rw [Registry.finish_of_room hroom, Store.insert_of_after hcap hu]
  refine ⟨rfl, ?_⟩
  have hlive : now.nanos < u.nanos := by
    rw [Instant.eq_of_after? hu, h.policy]
    exact Nat.lt_add_of_pos_right hpos
  have hop : ((r.store c.operation).roomFor now (.ofCall c)).operation = c.operation := by
    have := Store.insert_operation (s := r.store c.operation) (t := now) (k := .ofCall c)
      (o := .error e)
    rw [Store.insert_of_after hcap hu, Registry.store_operation] at this
    exact this
  unfold Registry.lookup
  rw [if_neg (by simpa [Registry.put] using hroom)]
  dsimp only
  rw [Registry.store_put, if_pos hop, Store.get_of_live (a := ⟨.ofCall c, .error e, u⟩)
    (by simp [Store.find?]) (by simpa [Slot.live] using hlive)]

variable {d : Deed} {e : ReadError}

/-- A read that keeps an error answers the next read like it. -/
theorem Stocked.look_after_settle (h : Stocked p s)
    (hk : Keepable (p.policy x.call.operation) now) :
    let (q, r) := s.reader.settle now x (.error e)
    ((s.note r (q.deeds now x d)).look now x.call).log =
      .looked s.started now x.call (some (.error e)) ::
        ([.returned x.id now x.call (.error e), d] ++ s.log) := by
  obtain ⟨hn, hit⟩ := Holds.hit_of_finish (e := e) h hk
  rcases s.reader.settle_cases now x (.error e) with ⟨-, hs⟩ | ⟨f, hf, -⟩
  · rw [hs]
    dsimp only
    unfold Session.look
    rcases Reader.look_cases
      { s.reader.abandon x.id with
        registry := (s.reader.registry.finish now x.call (.error e)).2 }
      now s.started x.call with ⟨o, ho, hl⟩ | ⟨hno, -⟩
    · cases hit.symm.trans ho
      simp only [Session.note] at hl ⊢
      rw [hl]
      rfl
    · exact absurd hit (hno _)
  · rw [hn] at hf
    cases hf

/-- A continuation of `s` at `now` in which a read finds what a read underway at `s` kept. No
read but that one calls the store in it, and that one only if it had not called before. -/
def Session.Hands (s : Session) (now : Instant) (x : OpenRead) (moves : List Move) : Prop :=
  ClockFrom now moves ∧ ∃ id o mid,
    (s.run moves).log = .looked id now x.call (some o) :: (mid ++ s.log) ∧
    (∀ d ∈ mid, ∀ op, d.starts op = false) ∧
    (x.phase ≠ .missed → ∀ id c, .called id c ∉ mid)

theorem Session.Orderly.hands_loading (hs : s.Orderly p pool) {c : FittingCall}
    (hx : s.reader.find? id = some ⟨id, c, .loading⟩)
    (hk : Keepable (p.policy c.val.operation) now) (he : e.isNotFound = false) :
    s.Hands now ⟨id, c, .loading⟩ [.loaded now id (.error e), .look now c] := by
  have hpool : consultsPool c (.error e) = false := by simp [consultsPool, he]
  have hlog := Stocked.look_after_settle (x := ⟨id, c, .loading⟩) (d := .answered id (.error e))
    (e := e) hs.stocked hk
  refine ⟨⟨Nat.le_refl _, Nat.le_refl _, trivial⟩, s.started, .error e,
    [.returned id now c (.error e), .answered id (.error e)], ?_, by simp [Deed.starts], by simp⟩
  simp only [Session.run, List.foldl_cons, List.foldl_nil, Session.step, Session.loaded, hx,
    Reader.loaded_of_loading hx hpool]
  exact hlog

theorem Session.Orderly.hands_asking (hs : s.Orderly p pool) {c : FittingCall}
    (hx : s.reader.find? id = some ⟨id, c, .asking⟩)
    (hk : Keepable (p.policy c.val.operation) now) :
    s.Hands now ⟨id, c, .asking⟩ [.asked now id (.error e), .look now c] := by
  have hlog := Stocked.look_after_settle (x := ⟨id, c, .asking⟩) (d := .told id (.error e))
    (e := e) hs.stocked hk
  refine ⟨⟨Nat.le_refl _, Nat.le_refl _, trivial⟩, s.started, .error e,
    [.returned id now c (.error e), .told id (.error e)], ?_, by simp [Deed.starts], by simp⟩
  simp only [Session.run, List.foldl_cons, List.foldl_nil, Session.step, Session.asked, hx,
    Reader.asked_of_asking hx]
  exact hlog

theorem Session.Orderly.hands_missed (hs : s.Orderly p pool) {c : FittingCall}
    (hx : s.reader.find? id = some ⟨id, c, .missed⟩)
    (hk : Keepable (p.policy c.val.operation) now) (he : e.isNotFound = false) :
    s.Hands now ⟨id, c, .missed⟩ [.begin id, .loaded now id (.error e), .look now c] := by
  have hbegin : s.begin id = s.note (s.reader.setPhase id .loading) [.called id c] := by
    rw [Session.begin, Reader.begin_of_missed hx]
  have hfind : (s.begin id).reader.find? id = some ⟨id, c, .loading⟩ := by
    rw [hbegin, Session.note, Reader.find?_setPhase, if_pos rfl, hx]
    rfl
  have hstep : (s.begin id).Orderly p pool := hs.step (m := .begin id)
  obtain ⟨hclock, i, o, mid, hlog, hmid, -⟩ := hstep.hands_loading hfind hk he
  refine ⟨hclock, i, o, mid ++ [.called id c], ?_, ?_, fun h => absurd rfl h⟩
  · have : (s.begin id).log = .called id c :: s.log := by rw [hbegin]; rfl
    rw [this] at hlog
    simpa [Session.run, Session.step] using hlog
  · intro d hd op
    rcases List.mem_append.mp hd with hd | hd
    · exact hmid d hd op
    · rw [List.mem_singleton.mp hd]
      rfl

/-- Whatever is underway can be found by a later read, if it can be kept. -/
theorem Session.Orderly.hands (hs : s.Orderly p pool) (hx : x ∈ s.reader.underway)
    (hk : Keepable (p.policy x.call.operation) now) : ∃ moves, s.Hands now x moves := by
  have hfind := hs.reads.numbered.find?_of_mem hx
  have hfits := hs.reads.fits x hfind
  have he : (ReadError.storage (.connectionFailed "")).isNotFound = false := rfl
  obtain ⟨id, c, ph⟩ := x
  cases ph with
  | missed => exact ⟨_, hs.hands_missed (c := ⟨c, hfits⟩) hfind hk he⟩
  | loading => exact ⟨_, hs.hands_loading (c := ⟨c, hfits⟩) hfind hk he⟩
  | asking =>
    exact ⟨_, hs.hands_asking (c := ⟨c, hfits⟩) (e := .storage (.connectionFailed "")) hfind hk⟩

-- ---------------------------------------------------------------------------
-- Freshness
-- ---------------------------------------------------------------------------

/-- The gateway takes in a fetched marker as a session does. -/
theorem observe_eq_poll {g : Gateway} {latest : Except ReadError Epoch.Marker}
    (hr : g.reader = s.reader) (ht : g.tracker = s.tracker) :
    (g.observe latest).2.reader = (s.poll latest).reader ∧
      (g.observe latest).2.tracker = (s.poll latest).tracker := by
  unfold Gateway.observe Session.poll
  rw [ht]
  dsimp only
  cases (s.tracker.poll latest).2.1 with
  | none => exact ⟨hr, rfl⟩
  | some a => exact ⟨congrArg (·.clear.2) hr, rfl⟩

/-- Every read of `s'` that started after `s` and found something found the outcome of a read
that has called the store after `s`. -/
def Session.Fresh (s s' : Session) : Prop :=
  ∀ id t c o mid, .looked id t c (some o) :: (mid ++ s.log) <:+ s'.log →
    ∃ id' t' c', LastLoad c id' t' o (mid ++ s.log) ∧ .called id' c' ∈ mid

/-- The first read for a call that `s'` started after `s` found nothing. -/
def Session.Emptied (s s' : Session) : Prop :=
  ∀ id t c found mid, .looked id t c found :: (mid ++ s.log) <:+ s'.log →
    (∀ id' t' c' found', .looked id' t' c' found' ∈ mid → ¬c'.Akin c) → found = none

/-- After an advance of the epoch, all reads to come are answered from calls to come just when
no read that has called the store at the advance can keep what comes back; and all first reads
to come call the store just when no read underway at the advance can keep anything. -/
theorem Session.fresh_after_advance_iff (p : PolicyTable) (pool : Bool) (tracker : Epoch.Tracker)
    (moves : List Move) (latest : Except ReadError Epoch.Marker) (a : Epoch.Advance)
    (h : (((new p pool tracker).run moves).tracker.poll latest).2.1 = some a) (now : Instant) :
    let s := ((new p pool tracker).run moves).step (.poll latest)
    ((∀ rest, ClockFrom now rest → s.Fresh (s.run rest)) ↔
      ∀ x ∈ s.reader.underway, x.phase ≠ .missed → ¬Keepable (p.policy x.call.operation) now) ∧
    ((∀ rest, ClockFrom now rest → s.Emptied (s.run rest)) ↔
      ∀ x ∈ s.reader.underway, ¬Keepable (p.policy x.call.operation) now) := by
  intro s
  have hs : s.Orderly p pool := Orderly.new.run.step
  have ha : s.log = .advanced a :: ((new p pool tracker).run moves).log := by
    simp only [s, step, poll, h]
    rfl
  refine ⟨⟨fun hfresh x hx hphase hk => ?_, fun hnone rest hc => ?_⟩,
    ⟨fun hempty x hx hk => ?_, fun hnone rest hc => ?_⟩⟩
  · obtain ⟨moves, hclock, id, o, mid, hlog, -, hmid⟩ := hs.hands hx hk
    obtain ⟨id', t', c', -, hm⟩ :=
      hfresh moves hclock id now x.call o mid (hlog ▸ List.suffix_refl _)
    exact hmid hphase id' c' hm
  · intro id t c o mid hit
    obtain ⟨id', t', c', -, hload, hm | ⟨x, hx, hphase, hk⟩, -⟩ := hs.source ha hc hit
    · exact ⟨id', t', c', hload, hm⟩
    · exact absurd hk (hnone x hx hphase)
  · obtain ⟨moves, hclock, id, o, mid, hlog, hmid, -⟩ := hs.hands hx hk
    have := hempty moves hclock id now x.call (some o) mid (hlog ▸ List.suffix_refl _)
      fun id' t' c' found' hm _ => by simpa [Deed.starts] using hmid _ hm c'.operation
    cases this
  · intro id t c found mid hit hfirst
    cases found with
    | none => rfl
    | some o =>
      obtain ⟨id', t', c', hakin, -, -, ⟨u, hm⟩ | ⟨x, hx, hk⟩⟩ := hs.source ha hc hit
      · exact absurd hakin (hfirst id' u c' none hm)
      · exact absurd hk (hnone x hx)

/-- A read of the coins that has called the store when epoch 11 follows epoch 10 spoils the
freshness of reads to come. -/
theorem Session.stale_after_advance_of_coins :
    let moves : List Move := [.look ⟨0⟩ ⟨⟨.coins, []⟩, rfl⟩, .begin 0]
    let s := (new .standard false ⟨.standard, some ⟨10, .epoch⟩, 0, 0⟩).run moves
    (s.tracker.poll (.ok ⟨11, .epoch⟩)).2.1 = some ⟨⟨10, .epoch⟩, ⟨11, .epoch⟩⟩ ∧
      ¬∀ rest, ClockFrom ⟨0⟩ rest → (s.step (.poll (.ok ⟨11, .epoch⟩))).Fresh
        ((s.step (.poll (.ok ⟨11, .epoch⟩))).run rest) := by
  intro moves s
  have h : (s.tracker.poll (.ok ⟨11, .epoch⟩)).2.1 = some ⟨⟨10, .epoch⟩, ⟨11, .epoch⟩⟩ := rfl
  refine ⟨h, fun hfresh => ?_⟩
  have hiff := (fresh_after_advance_iff .standard false ⟨.standard, some ⟨10, .epoch⟩, 0, 0⟩ moves
    (.ok ⟨11, .epoch⟩) ⟨⟨10, .epoch⟩, ⟨11, .epoch⟩⟩ h ⟨0⟩).1
  refine hiff.mp hfresh ⟨0, ⟨.coins, []⟩, .loading⟩ List.mem_cons_self nofun ?_
  exact ⟨rfl, by decide, _, rfl⟩

end ChainGateway.Cache
