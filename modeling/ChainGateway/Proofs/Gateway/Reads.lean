import ChainGateway.Proofs.Cache.ReaderLaws
import ChainGateway.Proofs.Gateway.Visits

/-!
# Visits and reads

A read is underway only for a visit that works, by the call that its route asks for. It is over
when the visit is, and the store is called for nothing but reads underway.
-/

namespace ChainGateway

open Web Admission Cache Metrics

-- ---------------------------------------------------------------------------
-- Steps of a read
-- ---------------------------------------------------------------------------

namespace Cache

/-- Whether a read has come to its end. -/
def ReadProgress.IsOver : ReadProgress → Prop
  | .done _ | .failed _ => True
  | .missed | .load _ | .ask _ | .nothing => False

namespace Reader

variable {r : Reader} {id : Nat} {t : Instant} {c : Call} {o : Outcome} {x : OpenRead}
  {P : Call → Prop}

/-- A step of the read `id` leaves the other reads as they are. Its own is by a call such as `P`
says, and goes once it is over. -/
structure Serves (r : Reader) (id : Nat) (P : Call → Prop) (s : ReadProgress × Reader) : Prop where
  numbered : s.2.Numbered
  others : ∀ {i : Nat}, i ≠ id → s.2.find? i = r.find? i
  own : ∀ {x : OpenRead}, s.2.find? id = some x → P x.call
  ended : s.1.IsOver → s.2.find? id = none
  calls : ∀ {c : Call}, s.1 = .load c → s.2.find? id = some ⟨id, c, .loading⟩

theorem Numbered.serves_nothing (hn : r.Numbered) (h : ∀ x, r.find? id = some x → P x.call) :
    r.Serves id P (.nothing, r) where
  numbered := hn
  others _ := rfl
  own := h _
  ended := nofun
  calls := nofun

theorem Numbered.serves_end {r' : Reader} {p : ReadProgress} (hn : r'.Numbered) (hp : p.IsOver)
    (hgone : ∀ i, r'.find? i = if i = id then none else r.find? i) : r.Serves id P (p, r') := by
  have hnone : r'.find? id = none := (hgone id).trans (if_pos rfl)
  refine ⟨hn, fun hi => (hgone _).trans (if_neg hi), fun hx => ?_, fun _ => hnone, ?_⟩
  · cases hnone.symm.trans hx
  · rintro c rfl
    cases hp

theorem Numbered.serves_settle (hn : r.Numbered) (hx : x.id = id) :
    r.Serves id P (r.settle t x o) := by
  have hgone : ∀ i, (r.abandon x.id).find? i = if i = id then none else r.find? i := by
    intro i
    rw [find?_abandon, hx]
  rcases settle_cases r t x o with ⟨-, hs⟩ | ⟨f, -, hs⟩
  · rw [hs]
    exact Numbered.serves_end hn.abandon True.intro hgone
  · rw [hs]
    exact Numbered.serves_end hn.abandon True.intro hgone

/-- A read goes into another phase by the call it has. -/
theorem Numbered.serves_setPhase (hn : r.Numbered) {p : ReadProgress} {phase : ReadPhase}
    (hx : r.find? id = some x) (hP : P x.call) (hended : ¬p.IsOver)
    (hload : ∀ c, p = .load c → phase = .loading ∧ x.call = c) :
    r.Serves id P (p, r.setPhase id phase) := by
  have hown : (r.setPhase id phase).find? id = some { x with phase := phase } := by
    rw [find?_setPhase, if_pos rfl, hx]
    rfl
  refine ⟨hn.setPhase, fun hi => ?_, fun hy => ?_, fun h => absurd h hended, fun h => ?_⟩
  · exact find?_setPhase.trans (if_neg hi)
  · obtain rfl := Option.some.inj (hown.symm.trans hy)
    exact hP
  · obtain ⟨rfl, rfl⟩ := hload _ h
    rw [← find?_id hx]
    exact find?_id hx ▸ hown

theorem Numbered.serves_loaded (hn : r.Numbered) (h : ∀ x, r.find? id = some x → P x.call) :
    r.Serves id P (r.loaded t id o) := by
  unfold loaded
  split
  · rename_i id' c hx
    obtain rfl : id' = id := find?_id hx
    split
    · split
      · exact hn.serves_setPhase hx (h _ hx) (fun h => h) nofun
      · exact hn.serves_settle rfl
    · exact hn.serves_settle rfl
  · exact hn.serves_nothing h

theorem Numbered.serves_asked (hn : r.Numbered) (h : ∀ x, r.find? id = some x → P x.call) :
    r.Serves id P (r.asked t id o) := by
  rcases asked_cases r t id o with ⟨c, -, hs⟩ | hs
  · rw [hs]
    exact hn.serves_settle rfl
  · rw [hs]
    exact hn.serves_nothing h

/-- A read that starts has a number that no other read has. -/
theorem Numbered.serves_start (hn : r.Numbered) (hnew : r.find? id = none) (hP : P c) :
    r.Serves id P (r.start t id c) := by
  unfold start
  rcases look_cases r t id c with ⟨o, -, hs⟩ | ⟨-, hs⟩
  · rw [hs]
    refine Numbered.serves_end hn True.intro fun i => ?_
    split
    · rename_i hi
      exact hi ▸ hnew
    · rfl
  · rw [hs]
    -- the number is new, so the read that was missed is the one found by it
    have hpushed := find?_push r (r.registry.lookup t c).2 ⟨id, c, .missed⟩
    have hnum := hn.push (x := ⟨id, c, .missed⟩) hnew (g := (r.registry.lookup t c).2)
    generalize ({ r with
      registry := (r.registry.lookup t c).2
      underway := r.underway ++ [⟨id, c, .missed⟩] } : Reader) = r' at hpushed hnum ⊢
    have hx : r'.find? id = some ⟨id, c, .missed⟩ := by
      rw [hpushed, hnew, if_pos rfl]
      rfl
    have hserves : r'.Serves id P (.load c, r'.setPhase id .loading) :=
      hnum.serves_setPhase hx hP (fun h => h) fun _ h => ⟨rfl, ReadProgress.load.inj h⟩
    dsimp only
    rw [begin_of_missed hx]
    refine ⟨hserves.numbered, fun {i} hi => (hserves.others hi).trans ?_, hserves.own,
      hserves.ended, hserves.calls⟩
    rw [hpushed, if_neg (Ne.symm hi), Option.or_none]

end Reader
end Cache

-- ---------------------------------------------------------------------------
-- Reads and the visits they are for
-- ---------------------------------------------------------------------------

/-- What the route of a visit reads. -/
def Visit.Asks (v : Visit) (c : Call) : Prop :=
  ∃ clock, v.target.route.task clock v.target.values (v.request.target.query.getD "") =
    .ok (.read c)

namespace Gateway

variable {g g₀ : Gateway} {v : Visit} {lane : Lane} {now id : Nat} {m : Moment} {q : Request}
  {target : ApiMatch}

/-- Every read underway is for a visit that works. -/
structure Attended (g : Gateway) : Prop where
  numbered : g.reader.Numbered
  reads : ∀ {id : Nat} {x : OpenRead}, g.reader.find? id = some x →
    ∃ v, g.find? id = some v ∧ v.phase = .working ∧ v.Asks x.call

/-- The store is called for reads underway. -/
structure Tended (s : List Effect × Gateway) : Prop where
  attended : s.2.Attended
  calls : ∀ {id : Nat} {c : Call}, .load id c ∈ s.1 →
    s.2.reader.find? id = some ⟨id, c, .loading⟩

namespace Attended

theorem still (h : g.Attended) : Tended ([], g) := ⟨h, nofun⟩

/-- A visit that reads nothing may come, go or go on. -/
theorem putVisit (h : g.Attended) (hx : g.reader.find? v.id = none) : (g.putVisit v).Attended where
  numbered := h.numbered
  reads := by
    intro i x hi
    have hne : i ≠ v.id := by
      rintro rfl
      cases hx.symm.trans hi
    rw [find?_putVisit, if_neg hne]
    exact h.reads hi

theorem dropVisit (h : g.Attended) (hx : g.reader.find? id = none) : (g.dropVisit id).Attended where
  numbered := h.numbered
  reads := by
    intro i x hi
    have hne : i ≠ id := by
      rintro rfl
      cases hx.symm.trans hi
    rw [find?_dropVisit, if_neg hne]
    exact h.reads hi

theorem atGate {e : Admission.Event} (h : g.Attended) : (g.atGate now lane e).2.2.Attended :=
  ⟨h.numbered, h.reads⟩

/-- Nobody calls the store on being woken. -/
theorem not_mem_woken {e : Admission.Event} {i : Nat} {c : Call} :
    Effect.load i c ∉ (g.atGate now lane e).2.1 := by
  unfold Gateway.atGate
  simp

theorem leave (h : g.Attended) (now : Nat) (hx : g.reader.find? v.id = none) :
    Tended (g.leave now v) := by
  have hgate : (g.atGate now v.lane (.leave v.id)).2.2.Attended := h.atGate
  refine ⟨hgate.dropVisit hx, fun {i c} hcall => ?_⟩
  have hwoken : Effect.load i c ∈ (g.atGate now v.lane (.leave v.id)).2.1 := hcall
  exact absurd hwoken not_mem_woken

theorem send (h : g.Attended) (id : Nat) (q : Request) (r : Reply) : Tended (g.send id q r) where
  attended := ⟨h.numbered, h.reads⟩
  calls := by
    intro i c hcall
    unfold Gateway.send at hcall
    simp at hcall

theorem answer (h : g.Attended) (now : Nat) (hx : g.reader.find? v.id = none) (r : Reply) :
    Tended (g.answer now v r) := by
  have hleft := h.leave now hx
  have hsent := hleft.attended.send v.id v.request r
  refine ⟨hsent.attended, fun {i c} hcall => ?_⟩
  have hboth : Effect.load i c ∈ (g.leave now v).1 ++ ((g.leave now v).2.send v.id v.request r).1 :=
    hcall
  obtain hcall | hcall := List.mem_append.mp hboth
  · exact hleft.calls hcall
  · exact hsent.calls hcall

theorem follow {p : ReadProgress} (h : g.Attended) (now : Nat)
    (hended : p.IsOver → g.reader.find? v.id = none)
    (hload : ∀ c, p = .load c → g.reader.find? v.id = some ⟨v.id, c, .loading⟩) :
    Tended (g.follow now v p) := by
  cases p with
  | load c =>
    refine ⟨h, fun {i c'} hcall => ?_⟩
    obtain ⟨rfl, rfl⟩ := Effect.load.inj (List.mem_singleton.mp hcall)
    exact hload _ rfl
  | ask query => exact ⟨h, fun hcall => nomatch List.mem_singleton.mp hcall⟩
  | done o => exact h.answer now (hended True.intro) _
  | failed f =>
    have hleft := h.leave now (hended True.intro)
    refine ⟨hleft.attended, fun {i c} hcall => ?_⟩
    obtain hcall | hcall := List.mem_append.mp (show _ ∈ (g.leave now v).1 ++ _ from hcall)
    · exact hleft.calls hcall
    · cases List.mem_singleton.mp hcall
  | missed => exact h.still
  | nothing => exact h.still

/-- A visit that works goes on with its read. -/
theorem read {step : Reader → ReadProgress × Reader} (h : g.Attended) (now : Nat)
    (hv : g.find? v.id = some v) (hw : v.phase = .working)
    (hs : g.reader.Serves v.id v.Asks (step g.reader)) : Tended (g.read now v step) := by
  have hreader : { g with reader := (step g.reader).2 }.Attended := by
    refine ⟨hs.numbered, fun {i x} hx => ?_⟩
    by_cases hi : i = v.id
    · rw [hi] at hx ⊢
      exact ⟨v, hv, hw, hs.own hx⟩
    · exact h.reads ((hs.others hi).symm.trans hx)
  exact hreader.follow now hs.ended fun _ => hs.calls

theorem abandon (h : g.Attended) (id : Nat) :
    { g with reader := g.reader.abandon id }.Attended := by
  refine ⟨h.numbered.abandon, fun {i x} hx => ?_⟩
  have hx : (g.reader.abandon id).find? i = some x := hx
  rw [Reader.find?_abandon] at hx
  split at hx
  · cases hx
  · exact h.reads hx

/-- A visit that is let in begins its read. -/
theorem work (h : g.Attended) (hx : g.reader.find? v.id = none) : Tended (g.work m v) := by
  have hput : (g.putVisit { v with phase := .working }).Attended := h.putVisit hx
  have hv : (g.putVisit { v with phase := .working }).find? v.id =
      some { v with phase := .working } := by
    rw [find?_putVisit, if_pos rfl]
  unfold Gateway.work
  dsimp only
  split
  · exact hput.answer m.now hx _
  · split
    · exact hput.answer m.now hx _
    · rename_i c htask
      exact hput.read m.now hv rfl (h.numbered.serves_start hx ⟨m.clock, htask⟩)
    · split
      · exact ⟨hput, fun hcall => nomatch List.mem_singleton.mp hcall⟩
      · exact hput.answer m.now hx _

theorem decided {a : Answer} (h : g.Attended) (hx : g.reader.find? v.id = none) :
    Tended (g.decided m v a) := by
  cases a with
  | admitted lane waited => exact h.work hx
  | rejected d => exact (h.dropVisit hx).send _ _ _
  | failed f => exact ⟨h.dropVisit hx, fun hcall => nomatch List.mem_singleton.mp hcall⟩
  | waiting => exact h.still
  | left lane => exact h.still
  | nothing => exact h.still

theorem reads_none (h : g.Attended) (hid : ∀ v, g.find? id = some v → v.phase ≠ .working) :
    g.reader.find? id = none := by
  cases hx : g.reader.find? id with
  | none => rfl
  | some x =>
    obtain ⟨v, hv, hw, -⟩ := h.reads hx
    exact absurd hw (hid v hv)

/-- A visit that is queued reads nothing yet. -/
theorem reads_none_of_queued (h : g.Attended) (hv : g.find? v.id = some v)
    (hq : v.phase = .queued) : g.reader.find? v.id = none := by
  refine h.reads_none fun w hw => ?_
  obtain rfl := Option.some.inj (hv.symm.trans hw)
  rw [hq]
  nofun

theorem enter (h : g.Attended) (hid : g.find? id = none) : Tended (g.enter m id q target) := by
  have hx : g.reader.find? id = none := h.reads_none fun v hv => nomatch hid.symm.trans hv
  have hk : (g.atGate m.now (g.classifier.classify target.lanePath)
      (.enter id q.client (g.classifier.classify target.lanePath))).2.2.Attended := h.atGate
  obtain ⟨-, hs⟩ | ⟨-, hs⟩ := enter_cases g m id q target
  · rw [hs]
    exact ⟨hk.putVisit hx, fun hcall => nomatch List.mem_singleton.mp hcall⟩
  · rw [hs]
    exact hk.decided hx

theorem arrive (h : g.Attended) (hid : g.find? id = none) : Tended (g.arrive m id q) := by
  unfold Gateway.arrive
  dsimp only
  split
  · exact ⟨h, fun hcall => nomatch List.mem_singleton.mp hcall⟩
  · split
    · exact h.send _ _ _
    · exact h.send _ _ _
    · exact h.send _ _ _
    · exact h.enter hid

theorem look {expired : Bool} (h : g.Attended) (hv : g.find? v.id = some v)
    (hq : v.phase = .queued) : Tended (g.look m v expired) := by
  have hgate : (g.atGate m.now v.lane (.look v.id v.lane expired)).2.2.Attended := h.atGate
  exact hgate.decided (h.reads_none_of_queued hv hq)

theorem cancel (h : g.Attended) (now : Nat) (hv : g.find? v.id = some v) :
    Tended (g.cancel now v) := by
  unfold Gateway.cancel
  split
  · rename_i hq
    have hgate : (g.atGate now v.lane (.cancel v.id v.lane)).2.2.Attended := h.atGate
    refine ⟨hgate.dropVisit (h.reads_none_of_queued hv hq), fun {i c} hcall => ?_⟩
    have hwoken : Effect.load i c ∈ (g.atGate now v.lane (.cancel v.id v.lane)).2.1 := hcall
    exact absurd hwoken not_mem_woken
  · exact (h.abandon v.id).leave now (Reader.find?_abandon.trans (if_pos rfl))

/-- The read of a visit is by what its route asks for. -/
theorem asks (h : g.Attended) (hv : g.find? v.id = some v) :
    ∀ x, g.reader.find? v.id = some x → v.Asks x.call := by
  intro x hx
  obtain ⟨w, hw, -, hasks⟩ := h.reads hx
  obtain rfl := Option.some.inj (hv.symm.trans hw)
  exact hasks

theorem step {e : Event} (h : g.Attended) (hf : e.Fits g) : Tended (g.step m e) := by
  cases e with
  | arrive id q => exact h.arrive hf
  | look id expired =>
    refine visit_cases (P := Tended) h.still fun v _ hv => ?_
    split
    · rename_i hq
      exact h.look hv hq
    · exact h.still
  | loaded id o =>
    refine visit_cases (P := Tended) h.still fun v hid hv => ?_
    obtain rfl : v.id = id := find?_id hid
    exact h.read m.now hv (hf v hid) (h.numbered.serves_loaded (h.asks hv))
  | broken id f =>
    refine visit_cases (P := Tended) h.still fun v hid hv => ?_
    obtain rfl : v.id = id := find?_id hid
    exact (h.abandon v.id).follow m.now (fun _ => Reader.find?_abandon.trans (if_pos rfl)) nofun
  | asked id o =>
    refine visit_cases (P := Tended) h.still fun v hid hv => ?_
    obtain rfl : v.id = id := find?_id hid
    split
    · exact h.read m.now hv (hf v hid) (h.numbered.serves_asked (h.asks hv))
    · rename_i hnone
      exact h.answer m.now (Option.not_isSome_iff_eq_none.mp hnone) _
  | cancel id => exact visit_cases (P := Tended) h.still fun v _ hv => h.cancel m.now hv

theorem observe {o : Except ReadError Epoch.Marker} (h : g.Attended) :
    (g.observe o).2.Attended := by
  unfold Gateway.observe
  dsimp only
  split
  · exact ⟨h.numbered, h.reads⟩
  · exact ⟨h.numbered, h.reads⟩

theorem sweep {g' : Gateway} {n : Nat} (h : g.Attended) (hs : g.sweep now = .ok (n, g')) :
    g'.Attended := by
  obtain ⟨limiter, -, rfl⟩ := sweep_ok hs
  exact ⟨h.numbered, h.reads⟩

theorem new {settings : Settings} {hasPool : Bool} (h : Gateway.new settings hasPool = .ok g) :
    g.Attended := by
  obtain ⟨policies, classifier, gate, -, -, rfl⟩ := new_ok h
  exact ⟨List.nodup_nil, by rintro id x ⟨⟩⟩

end Attended

theorem Reached.attended (hr : Reached g₀ g) (h : g₀.Attended) : g.Attended := by
  induction hr with
  | start => exact h
  | step m _ hf ih => exact (ih.step hf).attended
  | observe o _ ih => exact ih.observe
  | report now _ ih => exact ⟨ih.numbered, ih.reads⟩
  | sweep _ hs ih => exact ih.sweep hs

end Gateway
end ChainGateway
