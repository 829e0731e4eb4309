import ChainGateway.Proofs.Cache.ReaderLaws
import ChainGateway.Proofs.Cache.Session

/-!
# Lives of reads

What one read does follows the phase it is in, step by step. A read that returned what it
had loaded called the store once, and the pool once after it if the store did not have the
transaction, and returned the answer that came last.
-/

namespace ChainGateway.Cache

variable {pool : Bool} {id id' : Nat} {t : Instant} {c : Call} {o : Outcome} {x : OpenRead}
  {l ds : List Deed} {s : Session}

/-- Whether the pool is to be asked after the store answered `o`: there is one, and a read of
one transaction found none. -/
def NeedsPool (pool : Bool) (c : Call) (o : Outcome) : Prop :=
  pool = true ∧ (c.operation = .transaction ∨ c.operation = .transactionRaw) ∧
    ∃ e, o = .error e ∧ e.isNotFound = true

theorem needsPool_iff : NeedsPool pool c o ↔ pool = true ∧ consultsPool c o = true := by
  unfold NeedsPool consultsPool
  cases o with
  | ok a => simp
  | error e => simp

/-- All that a read of `c` has done that loaded `o` and returned it at `t`, the latest first. -/
inductive Completed (pool : Bool) (id : Nat) (t : Instant) (c : Call) (o : Outcome) :
    List Deed → Prop
  | fromStore {t' : Instant} (h : ¬NeedsPool pool c o) :
    Completed pool id t c o
      [.returned id t c o, .answered id o, .called id c, .looked id t' c none]
  | fromPool {t' : Instant} {q : PendingQuery} {e : Outcome} (h : NeedsPool pool c e)
      (hq : PendingQuery.ofCall? c = some q) :
    Completed pool id t c o
      [.returned id t c o, .told id o, .consulted id q, .answered id e, .called id c,
        .looked id t' c none]

/-- What a read has done so far, the latest first, and where it stands if it is underway. -/
inductive Life (pool : Bool) (id : Nat) : Option OpenRead → List Deed → Prop
  | unborn : Life pool id none []
  | hit {t : Instant} {c : FittingCall} {o : Outcome} :
    Life pool id none [.looked id t c (some o)]
  | missed {t : Instant} {c : FittingCall} :
    Life pool id (some ⟨id, c, .missed⟩) [.looked id t c none]
  | loading {t : Instant} {c : FittingCall} :
    Life pool id (some ⟨id, c, .loading⟩) [.called id c, .looked id t c none]
  | asking {t : Instant} {c : FittingCall} {q : PendingQuery} {e : Outcome}
      (h : NeedsPool pool c e) (hq : PendingQuery.ofCall? c = some q) :
    Life pool id (some ⟨id, c, .asking⟩)
      [.consulted id q, .answered id e, .called id c, .looked id t c none]
  | completed {t : Instant} {c : FittingCall} {o : Outcome} {l : List Deed}
      (h : Completed pool id t c o l) : Life pool id none l
  | failed {x : OpenRead} {l : List Deed} {d : Deed} {f : Fault} (h : Life pool id (some x) l)
      (hd : ∃ o, d = .answered id o ∨ d = .told id o) : Life pool id none (.failed id f :: d :: l)
  | abandoned {x : OpenRead} {l : List Deed} (h : Life pool id (some x) l) :
    Life pool id none (.abandoned id :: l)

namespace Life

theorem fits (h : Life pool id (some x) l) : x.call.fits = true := by
  cases h with
  | @missed _ c => exact c.property
  | @loading _ c => exact c.property
  | @asking _ c => exact c.property

theorem ne_nil (h : Life pool id (some x) l) : l ≠ [] := by
  cases h <;> nofun

theorem of_missed (h : Life pool id (some ⟨id, c, .missed⟩) l) :
    ∃ t, l = [.looked id t c none] := by
  cases h
  exact ⟨_, rfl⟩

theorem of_loading (h : Life pool id (some ⟨id, c, .loading⟩) l) :
    ∃ t, l = [.called id c, .looked id t c none] := by
  cases h
  exact ⟨_, rfl⟩

theorem of_asking (h : Life pool id (some ⟨id, c, .asking⟩) l) :
    ∃ t q e, NeedsPool pool c e ∧ PendingQuery.ofCall? c = some q ∧
      l = [.consulted id q, .answered id e, .called id c, .looked id t c none] := by
  cases h with
  | asking hn hq => exact ⟨_, _, _, hn, hq, rfl⟩

/-- Only a read that returned at the very end of its life has returned what it loaded. -/
theorem completed_of_mem {y : Option OpenRead} (h : Life pool id y l)
    (hm : .returned id' t c o ∈ l) : id' = id ∧ c.fits = true ∧ Completed pool id t c o l := by
  induction h with
  | unborn | hit | missed | loading | asking => simp at hm
  | @completed t' c' o' l hl =>
    have : id' = id ∧ t = t' ∧ c = c' ∧ o = o' := by cases hl <;> simpa using hm
    obtain ⟨rfl, rfl, rfl, rfl⟩ := this
    exact ⟨rfl, c'.property, hl⟩
  | @failed x l d f hx hd ih =>
    obtain ⟨o', rfl | rfl⟩ := hd <;> simp at hm <;> cases hx <;> simp at hm
  | @abandoned x l hx ih => cases hx <;> simp at hm

/-- A read that found something did nothing else. -/
theorem hit_of_mem {y : Option OpenRead} (h : Life pool id y l)
    (hm : .looked id' t c (some o) ∈ l) :
    id' = id ∧ c.fits = true ∧ l = [.looked id t c (some o)] := by
  induction h with
  | unborn | missed | loading | asking => simp at hm
  | @hit t' c' o' =>
    have : id' = id ∧ t = t' ∧ c = c' ∧ o = o' := by simpa using hm
    obtain ⟨rfl, rfl, rfl, rfl⟩ := this
    exact ⟨rfl, c'.property, rfl⟩
  | completed hl => cases hl <;> simp at hm
  | @failed x l d f hx hd ih =>
    obtain ⟨o', rfl | rfl⟩ := hd <;> simp at hm <;> cases hx <;> simp at hm
  | @abandoned x l hx ih => cases hx <;> simp at hm

end Life

-- ---------------------------------------------------------------------------
-- All reads of a session
-- ---------------------------------------------------------------------------

structure Reads (pool : Bool) (s : Session) : Prop where
  hasPool : s.reader.hasPool = pool
  numbered : s.reader.Numbered
  unborn : ∀ id, s.started ≤ id → lifeOf id s.log = []
  lives : ∀ id, Life pool id (s.reader.find? id) (lifeOf id s.log)

namespace Reads

theorem new {p : PolicyTable} {tracker : Epoch.Tracker} : Reads pool (.new p pool tracker) where
  hasPool := rfl
  numbered := List.nodup_nil
  unborn _ _ := rfl
  lives _ := .unborn

theorem fits (h : Reads pool s) : ∀ x, s.reader.find? id = some x → x.call.fits = true :=
  fun _ hx => (hx ▸ h.lives id).fits

theorem started (h : Reads pool s) (hx : s.reader.find? id = some x) : id < s.started := by
  refine Nat.lt_of_not_le fun hle => ?_
  have hl := h.lives id
  rw [hx, h.unborn id hle] at hl
  exact hl.ne_nil rfl

/-- A step of the read `id` leaves the other reads alone. -/
theorem follow {r : Reader} (h : Reads pool s) (hid : id < s.started) (hp : r.hasPool = pool)
    (hn : r.Numbered) (ho : ∀ id', id' ≠ id → r.find? id' = s.reader.find? id')
    (hd : ∀ d ∈ ds, d.read? = some id)
    (hl : Life pool id (r.find? id) (ds ++ lifeOf id s.log)) : Reads pool (s.note r ds) := by
  have hother : ∀ id', id' ≠ id → lifeOf id' (ds ++ s.log) = lifeOf id' s.log := by
    intro id' hne
    refine lifeOf_of_others fun d hm => ?_
    rw [hd d hm]
    exact fun he => hne (Option.some.inj he).symm
  refine ⟨hp, hn, fun id' hle => ?_, fun id' => ?_⟩
  · have hle : s.started ≤ id' := hle
    exact (hother id' (by omega)).trans (h.unborn id' hle)
  · by_cases he : id' = id
    · rw [he]
      exact (lifeOf_of_own ds hd).symm ▸ hl
    · have := h.lives id'
      rw [← ho id' he, ← hother id' he] at this
      exact this

/-- A change of the stores concerns no read. -/
theorem rearrange (h : Reads pool s) (r : Registry) (ds : List Deed)
    (hd : ∀ d ∈ ds, d.read? = none) : Reads pool (s.rearrange r ds) := by
  have hlog : ∀ id, lifeOf id (ds ++ s.log) = lifeOf id s.log := by
    intro id
    refine lifeOf_of_others fun d hm => ?_
    rw [hd d hm]
    nofun
  refine ⟨h.hasPool, h.numbered, fun id hle => ?_, fun id => ?_⟩
  · exact (hlog id).trans (h.unborn id hle)
  · exact (hlog id).symm ▸ h.lives id

theorem look {c : FittingCall} (h : Reads pool s) : Reads pool (s.look t c) := by
  have hnew : lifeOf s.started s.log = [] := h.unborn _ (Nat.le_refl _)
  have hnone : s.reader.find? s.started = none := by
    cases hx : s.reader.find? s.started with
    | none => rfl
    | some x => exact absurd (h.started hx) (Nat.lt_irrefl _)
  have hother : ∀ {f : Option Outcome} {id : Nat}, id ≠ s.started →
      lifeOf id ([.looked s.started t c f] ++ s.log) = lifeOf id s.log := by
    intro f id hne
    refine lifeOf_of_others fun d hm => ?_
    obtain rfl := List.mem_singleton.mp hm
    exact fun he => hne (Option.some.inj he).symm
  have hown : ∀ f : Option Outcome, lifeOf s.started ([.looked s.started t c f] ++ s.log) =
      [.looked s.started t c f] := by
    intro f
    rw [lifeOf_of_own [_] (by simp [Deed.read?]), hnew, List.append_nil]
  unfold Session.look
  rcases s.reader.look_cases t s.started c.val with ⟨o, -, hl⟩ | ⟨-, hl⟩ <;>
    rw [hl]
  · refine ⟨h.hasPool, h.numbered, fun id hle => ?_, fun id => ?_⟩
    · have hle : s.started + 1 ≤ id := hle
      exact (hother (by omega)).trans (h.unborn id (by omega))
    · by_cases he : id = s.started
      · rw [he]
        have : Life pool s.started none [.looked s.started t c (some o)] := .hit
        rw [← hnone, ← hown] at this
        exact this
      · exact (hother he).symm ▸ h.lives id
  · refine ⟨h.hasPool, h.numbered.push hnone, fun id hle => ?_, fun id => ?_⟩
    · have hle : s.started + 1 ≤ id := hle
      exact (hother (by omega)).trans (h.unborn id (by omega))
    · have hfind := s.reader.find?_push (s.reader.registry.lookup t c.val).2
        ⟨s.started, c.val, .missed⟩ id
      by_cases he : id = s.started
      · subst he
        rw [hnone, Option.none_or, if_pos rfl] at hfind
        have : Life pool s.started (some ⟨s.started, c.val, .missed⟩)
            [.looked s.started t c none] := .missed
        rw [← hfind, ← hown] at this
        exact this
      · have hlife := h.lives id
        rw [if_neg (Ne.symm he), Option.or_none] at hfind
        rw [← hfind, ← hother he] at hlife
        exact hlife

theorem begin (h : Reads pool s) : Reads pool (s.begin id) := by
  unfold Session.begin
  rcases s.reader.begin_cases id with ⟨c, hx, hb⟩ | hb <;> rw [hb]
  · have hlife := h.lives id
    rw [hx] at hlife
    refine h.follow (h.started hx) h.hasPool h.numbered.setPhase ?_ (by simp [Deed.read?]) ?_
    · intro id' hne
      rw [Reader.find?_setPhase, if_neg hne]
    · rw [Reader.find?_setPhase, if_pos rfl, hx]
      obtain ⟨u, hlog⟩ := hlife.of_missed
      rw [hlog]
      exact .loading (c := ⟨c, hlife.fits⟩)
  · exact h

/-- The end of a read that has been answered last with `o`. -/
theorem settle {p : ReadPhase} {d : Deed} (h : Reads pool s)
    (hx : s.reader.find? id = some ⟨id, c, p⟩) (hd : d = .answered id o ∨ d = .told id o)
    (hl : Completed pool id t c o (.returned id t c o :: d :: lifeOf id s.log)) :
    let (q, r) := s.reader.settle t ⟨id, c, p⟩ o
    Reads pool (s.note r (q.deeds t ⟨id, c, p⟩ d)) := by
  have hlife := h.lives id
  rw [hx] at hlife
  have hread : d.read? = some id := by rcases hd with rfl | rfl <;> rfl
  have hgone : (s.reader.abandon id).find? id = none := by rw [Reader.find?_abandon, if_pos rfl]
  have hother : ∀ id', id' ≠ id → (s.reader.abandon id).find? id' = s.reader.find? id' := by
    intro id' hne
    rw [Reader.find?_abandon, if_neg hne]
  have hn : (s.reader.abandon id).Numbered := h.numbered.abandon
  have hreads : ∀ e : Deed, e.read? = some id → ∀ b ∈ [e, d], b.read? = some id := by
    intro e he b hb
    rcases List.mem_cons.mp hb with rfl | hb
    · exact he
    · exact List.mem_singleton.mp hb ▸ hread
  rcases s.reader.settle_cases t ⟨id, c, p⟩ o with ⟨-, hs⟩ | ⟨f, -, hs⟩ <;>
    rw [hs]
  · refine h.follow (h.started hx) h.hasPool hn hother (hreads _ rfl) ?_
    have : Life pool id none (.returned id t c o :: d :: lifeOf id s.log) :=
      .completed (c := ⟨c, hlife.fits⟩) hl
    rw [← hgone] at this
    exact this
  · refine h.follow (h.started hx) h.hasPool hn hother (hreads _ rfl) ?_
    have : Life pool id none (.failed id f :: d :: lifeOf id s.log) := .failed hlife ⟨o, hd⟩
    rw [← hgone] at this
    exact this

theorem loaded (h : Reads pool s) : Reads pool (s.loaded t id o) := by
  unfold Session.loaded
  cases hx : s.reader.find? id with
  | none => exact h
  | some x =>
    dsimp only
    have hlife := h.lives id
    rcases s.reader.loaded_cases t id o (fun x hx => h.fits x hx) with
      ⟨c, q, hx', hp, hc, hq, hs⟩ | ⟨c, hx', hp, hs⟩ | hs <;> rw [hs]
    · cases hx.symm.trans hx'
      have hneeds : NeedsPool pool c o := needsPool_iff.mpr ⟨h.hasPool ▸ hp, hc⟩
      refine h.follow (h.started hx) h.hasPool h.numbered.setPhase ?_
        (by simp [ReadProgress.deeds, Deed.read?]) ?_
      · intro id' hne
        rw [Reader.find?_setPhase, if_neg hne]
      · rw [hx] at hlife
        rw [Reader.find?_setPhase, if_pos rfl, hx]
        obtain ⟨u, hlog⟩ := hlife.of_loading
        rw [hlog]
        exact .asking (c := ⟨c, hlife.fits⟩) hneeds hq
    · cases hx.symm.trans hx'
      refine h.settle hx (.inl rfl) ?_
      rw [hx] at hlife
      obtain ⟨u, hlog⟩ := hlife.of_loading
      rw [hlog]
      exact .fromStore fun hn => hp (h.hasPool ▸ needsPool_iff.mp hn)
    · exact h.rearrange s.reader.registry [] (by simp)

theorem asked (h : Reads pool s) : Reads pool (s.asked t id o) := by
  unfold Session.asked
  cases hx : s.reader.find? id with
  | none => exact h
  | some x =>
    dsimp only
    have hlife := h.lives id
    rcases s.reader.asked_cases t id o with ⟨c, hx', hs⟩ | hs <;> rw [hs]
    · cases hx.symm.trans hx'
      refine h.settle hx (.inr rfl) ?_
      rw [hx] at hlife
      obtain ⟨u, q, e, hn, hq, hlog⟩ := hlife.of_asking
      rw [hlog]
      exact .fromPool hn hq
    · exact h.rearrange s.reader.registry [] (by simp)

theorem abandon (h : Reads pool s) : Reads pool (s.abandon id) := by
  unfold Session.abandon
  cases hx : s.reader.find? id with
  | none => exact h
  | some x =>
    have hlife := h.lives id
    rw [hx] at hlife
    refine h.follow (h.started hx) h.hasPool h.numbered.abandon ?_ (by simp [Deed.read?]) ?_
    · intro id' hne
      rw [Reader.find?_abandon, if_neg hne]
    · rw [Reader.find?_abandon, if_pos rfl]
      exact .abandoned hlife

theorem step {m : Move} (h : Reads pool s) : Reads pool (s.step m) := by
  cases m with
  | look t c => exact h.look
  | begin id => exact h.begin
  | loaded t id o => exact h.loaded
  | asked t id o => exact h.asked
  | abandon id => exact h.abandon
  | clear => exact h.rearrange _ [_] (by simp [Deed.read?])
  | clearOne op => exact h.rearrange _ [_] (by simp [Deed.read?])
  | purge t => exact h.rearrange _ [] (by simp)
  | purgeOne t op => exact h.rearrange _ [] (by simp)
  | poll o =>
    unfold Session.step Session.poll
    dsimp only
    split
    · rename_i a _
      have hclear := h.rearrange s.reader.registry.clear.2 [.advanced a]
        (by simp [Deed.read?])
      exact ⟨hclear.hasPool, hclear.numbered, hclear.unborn, hclear.lives⟩
    · exact ⟨h.hasPool, h.numbered, h.unborn, h.lives⟩

end Reads
end ChainGateway.Cache
