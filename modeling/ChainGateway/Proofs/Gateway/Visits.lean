import ChainGateway.Gateway.Step
import ChainGateway.Proofs.Admission.Standings
import ChainGateway.Proofs.Results

/-!
# Visits and tickets

A visit that works holds a ticket, one that is queued waits at the gate, and there is no
other ticket and no other waiter: a visit that ends, however it ends, leaves nothing behind
at the gate.
-/

namespace ChainGateway

open Web Admission Cache Metrics

def VisitPhase.standing : VisitPhase → Standing
  | .queued => .waiting
  | .working => .holding

theorem VisitPhase.standing_eq_waiting {p : VisitPhase} :
    p.standing = .waiting ↔ p = .queued := by
  cases p <;> decide

theorem VisitPhase.standing_eq_holding {p : VisitPhase} :
    p.standing = .holding ↔ p = .working := by
  cases p <;> decide

namespace Gateway

/-- How the visits underway stand at the gate. -/
def book (g : Gateway) : Book := fun id => (g.find? id).map fun v => ⟨v.lane, v.phase.standing⟩

variable {slots : Lane → Nat} {g g₀ : Gateway} {b b' : Book} {v : Visit} {l : Lane}
  {st y : Standing} {now id i : Nat} {m : Moment} {q : Request} {r : Reply}

-- ---------------------------------------------------------------------------
-- Visits
-- ---------------------------------------------------------------------------

theorem find?_putVisit : (g.putVisit v).find? i = if i = v.id then some v else g.find? i := by
  unfold find? putVisit
  dsimp only
  rw [List.find?_append, Labels.find?_without, List.find?_singleton]
  by_cases h : i = v.id
  · simp [h]
  · simp [h, Ne.symm h]

/-- The gateway when an admitted visit begins its work. -/
def begun (g : Gateway) (v : Visit) : Gateway := g.putVisit { v with phase := .working }

theorem find?_begun : (g.begun v).find? v.id = some { v with phase := .working } := by
  rw [begun, find?_putVisit, if_pos rfl]

theorem find?_dropVisit : (g.dropVisit id).find? i = if i = id then none else g.find? i :=
  Labels.find?_without

theorem find?_id (h : g.find? id = some v) : v.id = id := by
  simpa using List.find?_some h

theorem book_putVisit : (g.putVisit v).book = g.book.put v.id ⟨v.lane, v.phase.standing⟩ := by
  funext i
  unfold book Book.put
  rw [find?_putVisit]
  split <;> rfl

theorem book_find (hv : g.find? id = some v) : g.book id = some ⟨v.lane, v.phase.standing⟩ := by
  rw [book, hv, Option.map_some]

theorem stands_book {z : Standing} :
    Stands g.book z l id ↔ ∃ v, g.find? id = some v ∧ v.lane = l ∧ v.phase.standing = z := by
  unfold Stands book
  cases g.find? id <;> simp

-- ---------------------------------------------------------------------------
-- Steps
-- ---------------------------------------------------------------------------

/-- What happens to a visit that is not underway does nothing. -/
theorem visit_cases {P : List Effect × Gateway → Prop} {f : Visit → List Effect × Gateway}
    (still : P ([], g)) (hf : ∀ v, g.find? id = some v → g.find? v.id = some v → P (f v)) :
    P (match g.find? id with
      | some v => f v
      | none => ([], g)) := by
  split
  · rename_i v hv
    exact hf v hv (find?_id hv ▸ hv)
  · exact still

/-- A request that comes waits, or goes on as the gate decides. -/
theorem enter_cases (g : Gateway) (m : Moment) (id : Nat) (q : Request) (target : ApiMatch) :
    let lane := g.classifier.classify target.lanePath
    let v : Visit := ⟨id, q, target, lane, .queued⟩
    let answered := g.atGate m.now lane (.enter id q.client lane)
    (answered.1 = .waiting ∧ g.enter m id q target =
      ([.wait id (answered.2.2.gate.patience m.now)], answered.2.2.putVisit v)) ∨
    (answered.1 ≠ .waiting ∧ g.enter m id q target = answered.2.2.decided m v answered.1) := by
  unfold enter
  dsimp only
  generalize g.classifier.classify target.lanePath = lane
  generalize g.atGate m.now lane (.enter id q.client lane) = answered
  obtain ⟨a, woken, g'⟩ := answered
  cases a with
  | waiting => exact .inl ⟨rfl, rfl⟩
  | admitted lane waited => exact .inr ⟨nofun, rfl⟩
  | rejected d => exact .inr ⟨nofun, rfl⟩
  | failed f => exact .inr ⟨nofun, rfl⟩
  | left lane => exact .inr ⟨nofun, rfl⟩
  | nothing => exact .inr ⟨nofun, rfl⟩

/-- Sweeping is the limiter's affair. -/
theorem sweep_ok {g' : Gateway} {n : Nat} (h : g.sweep now = .ok (n, g')) :
    ∃ limiter, g.gate.limiter.sweep (.ofMillis now) = .ok (n, limiter) ∧
      g' = { g with
        gate := { g.gate with limiter := limiter }
        meters := g.meters.reportClients limiter.trackedClients } := by
  obtain ⟨⟨_, gate⟩, hgate, h⟩ := bind_ok.mp h
  cases h
  obtain ⟨⟨_, limiter⟩, hlimiter, h⟩ := bind_ok.mp hgate
  cases h
  exact ⟨limiter, hlimiter, rfl⟩

-- ---------------------------------------------------------------------------
-- The gate
-- ---------------------------------------------------------------------------

/-- Requests stand at the gate as in `b`, and the gauges show the tickets that are out. -/
structure Keeps (slots : Lane → Nat) (b : Book) (g : Gateway) : Prop where
  tracked : Tracked slots b g.gate
  metered : ∀ l, g.meters.inFlight l = g.gate.held l

def Sound (slots : Lane → Nat) (g : Gateway) : Prop := g.Keeps slots g.book

namespace Keeps

/-- A request that neither waits nor holds a ticket may be forgotten. -/
theorem forget (h : g.Keeps slots (b.put id ⟨l, st⟩)) (hw : st ≠ .waiting) (hh : st ≠ .holding)
    (hb : ∀ i, b' i = if i = id then none else b i) : g.Keeps slots b' := by
  have hput : ∀ z, z ≠ st → ∀ l' i, Stands b' z l' i ↔ Stands (b.put id ⟨l, st⟩) z l' i := by
    intro z hz l' i
    rw [stands_put_of_ne hz, Stands, Stands, hb]
    split
    · rename_i hi
      simp [hi]
    · rename_i hi
      simp [hi]
  exact ⟨h.tracked.congr (fun _ => rfl) rfl (hput _ hw.symm) (hput _ hh.symm), h.metered⟩

theorem gone (h : g.Keeps slots (g.book.put id ⟨l, st⟩)) (hw : st ≠ .waiting)
    (hh : st ≠ .holding) : (g.dropVisit id).Sound slots := by
  have hb : ∀ i, (g.dropVisit id).book i = if i = id then none else g.book i := by
    intro i
    rw [book, find?_dropVisit]
    split <;> rfl
  have hforget := h.forget hw hh hb
  exact ⟨hforget.tracked, hforget.metered⟩

/-- A visit is underway as soon as its request holds a ticket. -/
theorem begun (h : g.Keeps slots (g.book.put v.id ⟨v.lane, .holding⟩)) :
    (g.begun v).Sound slots := by
  unfold Sound Gateway.begun
  rw [book_putVisit]
  exact ⟨h.tracked, h.metered⟩

theorem atGate {e : Admission.Event} (h : g.Keeps slots b) (lane : Lane)
    (ha : Answered slots b id l st y g.gate (g.gate.step now e)) :
    (g.atGate now lane e).2.2.Keeps slots (b.put id ⟨l, y.after (g.atGate now lane e).1⟩) where
  tracked := ha.tracked
  metered l' := by
    have hnote : (g.meters.note lane (g.gate.step now e).1).inFlight l' = _ := inFlight_note
    rw [h.metered, ← ha.held l'] at hnote
    exact hnote

theorem send (h : g.Keeps slots b) (id : Nat) (q : Request) (r : Reply) :
    (g.send id q r).2.Keeps slots b where
  tracked := h.tracked
  metered l := by
    refine Eq.trans ?_ (h.metered l)
    cases l <;> rfl

end Keeps

-- ---------------------------------------------------------------------------
-- Ways out
-- ---------------------------------------------------------------------------

namespace Sound

theorem leave (h : g.Sound slots) (now : Nat) (hv : g.find? v.id = some v)
    (hw : v.phase = .working) : (g.leave now v).2.Sound slots := by
  have hx : g.book v.id = some ⟨v.lane, .holding⟩ := by
    rw [book_find hv, hw, VisitPhase.standing]
  have hleft := Keeps.atGate h v.lane (h.tracked.leave now hx)
  have hanswer : (g.atGate now v.lane (.leave v.id)).1 = .left v.lane :=
    h.tracked.leave_answer now hx
  rw [hanswer] at hleft
  exact Keeps.gone hleft (by simp [Standing.after]) (by simp [Standing.after])

theorem answer (h : g.Sound slots) (now : Nat) (hv : g.find? v.id = some v)
    (hw : v.phase = .working) : (g.answer now v r).2.Sound slots :=
  Keeps.send (h.leave now hv hw) v.id v.request r

theorem follow {p : ReadProgress} (h : g.Sound slots) (now : Nat) (hv : g.find? v.id = some v)
    (hw : v.phase = .working) : (g.follow now v p).2.Sound slots := by
  cases p with
  | load c => exact h
  | ask q => exact h
  | done o => exact h.answer now hv hw
  | failed f => exact h.leave now hv hw
  | missed => exact h
  | nothing => exact h

/-- The gate knows nothing of what is read. -/
theorem reader (h : g.Sound slots) (reader : Reader) : { g with reader := reader }.Sound slots :=
  ⟨h.tracked, h.metered⟩

theorem read {step : Reader → ReadProgress × Reader} (h : g.Sound slots) (now : Nat)
    (hv : g.find? v.id = some v) (hw : v.phase = .working) :
    (g.read now v step).2.Sound slots :=
  (h.reader _).follow now hv hw

theorem work (h : g.Keeps slots (g.book.put v.id ⟨v.lane, .holding⟩)) :
    (g.work m v).2.Sound slots := by
  have hv : (g.begun v).find? v.id = some { v with phase := .working } := find?_begun
  have hput : (g.begun v).Sound slots := h.begun
  unfold Gateway.work
  dsimp only
  split
  · exact hput.answer m.now hv rfl
  · split
    · exact hput.answer m.now hv rfl
    · exact hput.read m.now hv rfl
    · split
      · exact hput
      · exact hput.answer m.now hv rfl

-- ---------------------------------------------------------------------------
-- Ways in
-- ---------------------------------------------------------------------------

theorem rejected {d : Rejection} (h : g.Keeps slots (g.book.put id ⟨l, st.after (.rejected d)⟩)) :
    ((g.dropVisit id).send i q r).2.Sound slots := by
  refine Keeps.send ?_ i q r
  cases d <;> exact Keeps.gone h (by simp [Standing.after]) (by simp [Standing.after])

theorem entered (h : g.Sound slots) (hid : g.find? id = none) (now : Nat) (c : Client)
    (lane : Lane) : (g.atGate now lane (.enter id c lane)).2.2.Keeps slots
      (g.book.put id ⟨lane, Standing.arrived.after (g.atGate now lane (.enter id c lane)).1⟩) := by
  have hnew : g.book id = none := by
    rw [book, hid]
    rfl
  -- the request is in the book before the gate answers, its visit comes or does not come after
  have hx : g.book.put id ⟨lane, .arrived⟩ id = some ⟨lane, .arrived⟩ := if_pos rfl
  have htracked := h.tracked.arrive (l := lane) hnew
  have hk := Keeps.atGate ⟨htracked, h.metered⟩ lane (htracked.enter now c hx)
  rw [Book.put_put] at hk
  exact hk

theorem enter {target : ApiMatch} (h : g.Sound slots) (hid : g.find? id = none) :
    (g.enter m id q target).2.Sound slots := by
  have hnew : g.book id = none := by
    rw [book, hid]
    rfl
  unfold Gateway.enter
  dsimp only
  generalize g.classifier.classify target.lanePath = lane
  have hk := h.entered hid m.now q.client lane
  have hvisits : (g.atGate m.now lane (.enter id q.client lane)).2.2.book = g.book := rfl
  obtain ⟨a, woken, g', hgate⟩ :
      ∃ a woken g', g.atGate m.now lane (.enter id q.client lane) = (a, woken, g') :=
    ⟨_, _, _, rfl⟩
  rw [← hvisits] at hk hnew
  rw [hgate] at hk hnew ⊢
  have hgone : ∀ st, st ≠ .waiting → st ≠ .holding →
      g'.Keeps slots (g'.book.put id ⟨lane, st⟩) → g'.Sound slots := by
    intro st hw hh hk
    refine hk.forget hw hh fun i => ?_
    split
    · rename_i hi
      rw [hi, hnew]
    · rfl
  cases a with
  | waiting =>
    unfold Sound
    rw [book_putVisit]
    exact ⟨hk.tracked, hk.metered⟩
  | admitted => exact work hk
  | rejected d => exact rejected hk
  | failed f => exact Keeps.gone hk (by simp [Standing.after]) (by simp [Standing.after])
  | left => exact hgone _ (by simp [Standing.after]) (by simp [Standing.after]) hk
  | nothing => exact hgone _ (by simp [Standing.after]) (by simp [Standing.after]) hk

theorem arrive (h : g.Sound slots) (hid : g.find? id = none) :
    (g.arrive m id q).2.Sound slots := by
  unfold Gateway.arrive
  dsimp only
  split
  · exact h
  · split
    · exact Keeps.send h _ _ _
    · exact Keeps.send h _ _ _
    · exact Keeps.send h _ _ _
    · exact h.enter hid

theorem looked (h : g.Sound slots) (hv : g.find? v.id = some v) (hq : v.phase = .queued)
    (now : Nat) (expired : Bool) :
    (g.atGate now v.lane (.look v.id v.lane expired)).2.2.Keeps slots (g.book.put v.id
      ⟨v.lane, Standing.waiting.after (g.atGate now v.lane (.look v.id v.lane expired)).1⟩) := by
  have hx : g.book v.id = some ⟨v.lane, .waiting⟩ := by
    rw [book_find hv, hq, VisitPhase.standing]
  exact Keeps.atGate h v.lane (h.tracked.look now expired hx)

theorem look {expired : Bool} (h : g.Sound slots) (hv : g.find? v.id = some v)
    (hq : v.phase = .queued) : (g.look m v expired).2.Sound slots := by
  have hx : g.book v.id = some ⟨v.lane, .waiting⟩ := by
    rw [book_find hv, hq, VisitPhase.standing]
  have hmeets : Standing.waiting.Meets .waiting v.lane
      (g.atGate m.now v.lane (.look v.id v.lane expired)).1 :=
    (h.tracked.look m.now expired hx).meets
  have hk := h.looked hv hq m.now expired
  have hvisits : (g.atGate m.now v.lane (.look v.id v.lane expired)).2.2.book = g.book := rfl
  obtain ⟨a, woken, g', hgate⟩ :
      ∃ a woken g', g.atGate m.now v.lane (.look v.id v.lane expired) = (a, woken, g') :=
    ⟨_, _, _, rfl⟩
  unfold Gateway.look
  rw [← hvisits] at hk hx
  rw [hgate] at hk hx hmeets ⊢
  cases a with
  | waiting =>
    rw [Standing.after, Book.put_self hx] at hk
    exact hk
  | nothing =>
    rw [Standing.after, Book.put_self hx] at hk
    exact hk
  | admitted => exact work hk
  | rejected d => exact rejected hk
  | failed f => exact Keeps.gone hk (by simp [Standing.after]) (by simp [Standing.after])
  | left => exact absurd hmeets.2 (by decide)

theorem cancel (h : g.Sound slots) (now : Nat) (hv : g.find? v.id = some v) :
    (g.cancel now v).2.Sound slots := by
  unfold Gateway.cancel
  split
  · rename_i hq
    have hx : g.book v.id = some ⟨v.lane, .waiting⟩ := by
      rw [book_find hv, hq, VisitPhase.standing]
    have hk := Keeps.atGate h v.lane (h.tracked.cancel now hx)
    have hanswer : (g.atGate now v.lane (.cancel v.id v.lane)).1 = .nothing :=
      Gate.cancel_answer now
    rw [hanswer] at hk
    exact Keeps.gone hk (by simp [Standing.after]) (by simp [Standing.after])
  · rename_i hw
    exact (h.reader _).leave now hv hw

end Sound

-- ---------------------------------------------------------------------------
-- Runs
-- ---------------------------------------------------------------------------

/-- A request that comes has a new number, and only a visit that works is told of an outcome. -/
def Event.Fits (g : Gateway) : Event → Prop
  | .arrive id _ => g.find? id = none
  | .loaded id _ | .broken id _ | .asked id _ => ∀ v, g.find? id = some v → v.phase = .working
  | .look .. | .cancel _ => True

/-- What may become of the gateway `g₀`. -/
inductive Reached (g₀ : Gateway) : Gateway → Prop
  | start : Reached g₀ g₀
  | step {g : Gateway} {e : Event} (m : Moment) :
    Reached g₀ g → e.Fits g → Reached g₀ (g.step m e).2
  | observe {g : Gateway} (o : Except ReadError Epoch.Marker) :
    Reached g₀ g → Reached g₀ (g.observe o).2
  | report {g : Gateway} (now : Nat) : Reached g₀ g → Reached g₀ (g.report now).2
  | sweep {g g' : Gateway} {now n : Nat} :
    Reached g₀ g → g.sweep now = .ok (n, g') → Reached g₀ g'

theorem new_ok {settings : Settings} {hasPool : Bool} (h : Gateway.new settings hasPool = .ok g) :
    ∃ policies classifier gate, Classifier.ofPatterns settings.heavyPatterns = .ok classifier ∧
      Gate.new settings.limits = .ok gate ∧
      g = ⟨settings, classifier, gate, .new policies hasPool, .new settings.pacing, .start,
        []⟩ := by
  unfold Gateway.new at h
  cases hf : settings.fault? with
  | some e =>
    rw [hf] at h
    split at h <;> cases h
  | none =>
    cases hp : SetupFault.ofSetting settings.cachePolicies with
    | error e =>
      rw [hf, hp] at h
      split at h <;> cases h
    | ok policies =>
      cases hc : Classifier.ofPatterns settings.heavyPatterns with
      | error e =>
        rw [hf, hp, hc] at h
        split at h <;> cases h
      | ok classifier =>
        cases hg : Gate.new settings.limits with
        | error f =>
          rw [hf, hp, hc, hg] at h
          cases h
        | ok gate =>
          rw [hf, hp, hc, hg] at h
          cases h
          exact ⟨policies, classifier, gate, rfl, rfl, rfl⟩

/-- Settings that pass every check set a gateway up. -/
theorem new_of_ok {settings : Settings} {hasPool : Bool} {policies : PolicyTable}
    {classifier : Classifier} {gate : Gate} (hf : settings.fault? = none)
    (hp : settings.cachePolicies = .ok policies)
    (hc : Classifier.ofPatterns settings.heavyPatterns = .ok classifier)
    (hg : Gate.new settings.limits = .ok gate) :
    Gateway.new settings hasPool = .ok
      ⟨settings, classifier, gate, .new policies hasPool, .new settings.pacing, .start, []⟩ := by
  unfold Gateway.new
  rw [hf, hp, hc, hg]
  rfl

namespace Sound

theorem new {settings : Settings} {hasPool : Bool} (h : Gateway.new settings hasPool = .ok g) :
    g.Sound settings.limits.slots := by
  obtain ⟨policies, classifier, gate, -, hgate, rfl⟩ := new_ok h
  refine ⟨.new hgate fun _ => rfl, fun l => ?_⟩
  rw [Gate.held_new hgate]
  cases l <;> rfl

theorem step {e : Event} (h : g.Sound slots) (hf : e.Fits g) : (g.step m e).2.Sound slots := by
  cases e with
  | arrive id q => exact h.arrive hf
  | look id expired =>
    refine visit_cases (P := (·.2.Sound slots)) h fun v _ hv => ?_
    split
    · rename_i hq
      exact h.look hv hq
    · exact h
  | loaded id o =>
    exact visit_cases (P := (·.2.Sound slots)) h fun v hid hv => h.read m.now hv (hf v hid)
  | broken id f =>
    exact visit_cases (P := (·.2.Sound slots)) h fun v hid hv =>
      (h.reader _).follow m.now hv (hf v hid)
  | asked id o =>
    refine visit_cases (P := (·.2.Sound slots)) h fun v hid hv => ?_
    split
    · exact h.read m.now hv (hf v hid)
    · exact h.answer m.now hv (hf v hid)
  | cancel id => exact visit_cases (P := (·.2.Sound slots)) h fun v _ hv => h.cancel m.now hv

theorem observe {o : Except ReadError Epoch.Marker} (h : g.Sound slots) :
    (g.observe o).2.Sound slots := by
  unfold Gateway.observe
  dsimp only
  split
  · exact ⟨h.tracked, h.metered⟩
  · refine ⟨h.tracked, fun l => Eq.trans ?_ (h.metered l)⟩
    cases l <;> rfl

theorem report (h : g.Sound slots) : (g.report now).2.Sound slots := by
  refine ⟨h.tracked, fun l => Eq.trans ?_ (h.metered l)⟩
  cases l <;> rfl

theorem sweep {g' : Gateway} {n : Nat} (h : g.Sound slots) (hs : g.sweep now = .ok (n, g')) :
    g'.Sound slots := by
  obtain ⟨limiter, -, rfl⟩ := sweep_ok hs
  refine ⟨h.tracked.congr (fun l => ?_) rfl (fun _ _ => Iff.rfl) (fun _ _ => Iff.rfl),
    fun l => Eq.trans ?_ (h.metered l)⟩
  · cases l <;> rfl
  · cases l <;> rfl

/-- Just the visits that work hold tickets. -/
theorem ticket_iff (h : g.Sound slots) : (∃ t ∈ g.gate.tickets, t.id = id ∧ t.lane = l) ↔
    ∃ v, g.find? id = some v ∧ v.lane = l ∧ v.phase = .working := by
  rw [h.tracked.tickets, stands_book]
  simp only [VisitPhase.standing_eq_holding]

theorem slots_add (h : g.Sound slots) :
    (g.gate.lane l).free + (g.gate.lane l).handed.length + g.gate.held l = slots l := by
  rw [(h.tracked.lanes l).slots, h.tracked.capacity]

end Sound

namespace Reached

theorem sound (hr : Reached g₀ g) (h : g₀.Sound slots) : g.Sound slots := by
  induction hr with
  | start => exact h
  | step m _ hf ih => exact ih.step hf
  | observe o _ ih => exact ih.observe
  | report now _ ih => exact ih.report
  | sweep _ hs ih => exact ih.sweep hs

variable {settings : Settings} {hasPool : Bool}

/-- Just the visits that work hold tickets. -/
theorem ticket_iff (h : Gateway.new settings hasPool = .ok g₀) (hr : Reached g₀ g) :
    (∃ t ∈ g.gate.tickets, t.id = id ∧ t.lane = l) ↔
      ∃ v, g.find? id = some v ∧ v.lane = l ∧ v.phase = .working :=
  (hr.sound (.new h)).ticket_iff

/-- Just the visits that are queued wait for a slot, or have been handed one. -/
theorem waiter_iff (h : Gateway.new settings hasPool = .ok g₀) (hr : Reached g₀ g) :
    id ∈ (g.gate.lane l).ids ↔
      ∃ v, g.find? id = some v ∧ v.lane = l ∧ v.phase = .queued := by
  rw [((hr.sound (.new h)).tracked.lanes l).queued, stands_book]
  simp only [VisitPhase.standing_eq_waiting]

theorem slots_add (h : Gateway.new settings hasPool = .ok g₀) (hr : Reached g₀ g) :
    (g.gate.lane l).free + (g.gate.lane l).handed.length + g.gate.held l =
      settings.limits.slots l := (hr.sound (.new h)).slots_add

/-- The gauge of a lane shows its tickets. -/
theorem gauge (h : Gateway.new settings hasPool = .ok g₀) (hr : Reached g₀ g) :
    g.meters.inFlight l = g.gate.held l := (hr.sound (.new h)).metered l

end Reached
end Gateway
end ChainGateway
