import ChainGateway.Proofs.Cache.ReaderLaws
import ChainGateway.Proofs.Gateway.Visits

/-!
# What a step is made of

Whatever an event sets off, the gateway does it by few means: visits come and go, something
happens at the gate, a read takes a step, a request is counted. What each of them keeps, every
step keeps, and a request fails only where one of them does or the store has broken down. Only
the client of a request that arrives comes to the gate.
-/

namespace ChainGateway

open Web Admission Cache Metrics

/-- Nobody comes to the gate but clients that `comes` allows. -/
def Admission.Event.From (comes : Client → Prop) : Admission.Event → Prop
  | .enter _ c _ => comes c
  | .look .. | .leave _ | .cancel .. => True

namespace Gateway

/-- No request arrives but from clients that `comes` allows. -/
def Event.From (comes : Client → Prop) : Event → Prop
  | .arrive _ r => comes r.client
  | .look .. | .loaded .. | .broken .. | .asked .. | .cancel _ => True

variable {I : Gateway → Prop} {Q : Fault → Prop} {comes : Client → Prop} {g : Gateway} {v : Visit}
  {now : Nat} {m : Moment} {s : List Effect × Gateway}

-- ---------------------------------------------------------------------------
-- Effects
-- ---------------------------------------------------------------------------

/-- The gateway is as `I` says, and requests failed only as `Q` says. -/
structure Keeping (I : Gateway → Prop) (Q : Fault → Prop) (s : List Effect × Gateway) : Prop where
  holds : I s.2
  faults : ∀ {id : Nat} {f : Fault}, .fail id f ∈ s.1 → Q f

namespace Keeping

theorem still (h : I g) : Keeping I Q ([], g) := ⟨h, nofun⟩

/-- An effect other than a failure. -/
theorem quiet {e : Effect} (h : I g) (he : ∀ id f, e ≠ .fail id f) : Keeping I Q ([e], g) :=
  ⟨h, fun hf => absurd (List.mem_singleton.mp hf).symm (he _ _)⟩

theorem after {before : List Effect} (h : Keeping I Q s)
    (hb : ∀ {id f}, .fail id f ∈ before → Q f) : Keeping I Q (before ++ s.1, s.2) :=
  ⟨h.holds, fun hf => (List.mem_append.mp hf).elim hb h.faults⟩

end Keeping

/-- Nobody fails on being woken. -/
theorem not_fail_woken (g : Gateway) (now : Nat) (lane : Lane) (e : Admission.Event) {id : Nat}
    {f : Fault} : Effect.fail id f ∉ (g.atGate now lane e).2.1 := by
  unfold atGate
  simp

-- ---------------------------------------------------------------------------
-- Steps
-- ---------------------------------------------------------------------------

/-- The means of the gateway at the time `now` keep `I`, whichever of the clients that `comes`
allows come to the gate, and fail only as `Q` says. -/
structure Closed (now : Nat) (comes : Client → Prop) (I : Gateway → Prop) (Q : Fault → Prop) :
    Prop where
  visits : ∀ {g}, I g → ∀ visits, I { g with visits := visits }
  gate : ∀ {g}, I g → ∀ lane e, e.From comes → I (g.atGate now lane e).2.2
  refused : ∀ {g}, I g → ∀ lane e f, (g.atGate now lane e).1 = .failed f → Q f
  turn : ∀ {g}, I g → ∀ {reader fault},
    g.reader.registry.Turn (.ofMillis now) fault reader.registry →
      I { g with reader := reader } ∧ ∀ f, fault = some f → Q f
  count : ∀ {g}, I g → ∀ label, I { g with meters := g.meters.countRequest label }

namespace Closed

variable (hc : Closed now comes I Q)

include hc

theorem send (h : I g) (id : Nat) (q : Request) (r : Reply) : Keeping I Q (g.send id q r) :=
  .quiet (hc.count h _) nofun

theorem leave (h : I g) (v : Visit) : Keeping I Q (g.leave now v) :=
  ⟨hc.visits (hc.gate h v.lane (.leave v.id) trivial) _,
    fun hf => absurd hf (not_fail_woken g now v.lane (.leave v.id))⟩

theorem answer (h : I g) (v : Visit) (r : Reply) : Keeping I Q (g.answer now v r) :=
  have hleft := hc.leave h v
  (hc.send hleft.holds v.id v.request r).after hleft.faults

theorem follow {p : ReadProgress} (h : I g) (hp : ∀ f, p = .failed f → Q f) (v : Visit) :
    Keeping I Q (g.follow now v p) := by
  cases p with
  | load c => exact .quiet h nofun
  | ask q => exact .quiet h nofun
  | done o => exact hc.answer h v _
  | failed f =>
    have hleft := hc.leave h v
    refine ⟨hleft.holds, fun {id f'} hf => ?_⟩
    obtain hf | hf := List.mem_append.mp (show _ ∈ (g.leave now v).1 ++ [.fail v.id f] from hf)
    · exact hleft.faults hf
    · cases List.mem_singleton.mp hf
      exact hp f rfl
  | missed => exact .still h
  | nothing => exact .still h

theorem read {step : Reader → ReadProgress × Reader} (h : I g)
    (hs : g.reader.Turns (.ofMillis now) (step g.reader)) (v : Visit) :
    Keeping I Q (g.read now v step) := by
  obtain ⟨fault, hturn, hfault⟩ := hs
  obtain ⟨hholds, hQ⟩ := hc.turn h hturn
  exact hc.follow hholds (fun f hf => hQ f (hfault f hf)) v

theorem abandon (h : I g) (id : Nat) : I { g with reader := g.reader.abandon id } :=
  have hturn : g.reader.registry.Turn (.ofMillis now) none (g.reader.abandon id).registry := .still
  (hc.turn h hturn).1

theorem work (hm : m.now = now) (h : I g) (v : Visit) : Keeping I Q (g.work m v) := by
  subst hm
  have hput : I (g.putVisit { v with phase := .working }) := hc.visits h _
  unfold Gateway.work
  dsimp only
  split
  · exact hc.answer hput _ _
  · split
    · exact hc.answer hput _ _
    · exact hc.read hput (Reader.turns_start _) _
    · split
      · exact .quiet hput nofun
      · exact hc.answer hput _ _

theorem decided {a : Answer} (hm : m.now = now) (h : I g) (ha : ∀ f, a = .failed f → Q f)
    (v : Visit) : Keeping I Q (g.decided m v a) := by
  cases a with
  | admitted lane waited => exact hc.work hm h v
  | rejected d => exact hc.send (hc.visits h _) _ _ _
  | failed f =>
    refine ⟨hc.visits h _, fun {id f'} hf => ?_⟩
    cases List.mem_singleton.mp hf
    exact ha f rfl
  | waiting => exact .still h
  | left lane => exact .still h
  | nothing => exact .still h

theorem enter {q : Request} (hm : m.now = now) (h : I g) (hq : comes q.client) (id : Nat)
    (target : ApiMatch) : Keeping I Q (g.enter m id q target) := by
  subst hm
  obtain ⟨-, hs⟩ | ⟨-, hs⟩ := enter_cases g m id q target
  · rw [hs]
    exact .quiet (hc.visits (hc.gate h _ (.enter ..) hq) _) nofun
  · rw [hs]
    exact hc.decided rfl (hc.gate h _ (.enter ..) hq) (hc.refused h _ _) _

theorem arrive {q : Request} (hm : m.now = now) (h : I g) (hq : comes q.client) (id : Nat) :
    Keeping I Q (g.arrive m id q) := by
  have hlower : comes q.lowercasePath.client := hq
  unfold Gateway.arrive
  dsimp only
  split
  · exact .quiet h nofun
  · split
    · exact hc.send h _ _ _
    · exact hc.send h _ _ _
    · exact hc.send h _ _ _
    · exact hc.enter hm h hlower _ _

theorem look (hm : m.now = now) (h : I g) (v : Visit) (expired : Bool) :
    Keeping I Q (g.look m v expired) := by
  subst hm
  have hgate : I (g.atGate m.now v.lane (.look v.id v.lane expired)).2.2 :=
    hc.gate h _ _ trivial
  have hfault : ∀ f, (g.atGate m.now v.lane (.look v.id v.lane expired)).1 = .failed f → Q f :=
    hc.refused h _ _
  exact hc.decided rfl hgate hfault v

theorem cancel (h : I g) (v : Visit) : Keeping I Q (g.cancel now v) := by
  unfold Gateway.cancel
  split
  · exact ⟨hc.visits (hc.gate h v.lane (.cancel v.id v.lane) trivial) _,
      fun hf => absurd hf (not_fail_woken g now v.lane (.cancel v.id v.lane))⟩
  · exact hc.leave (hc.abandon h v.id) v

/-- What the means of the gateway keep, a step keeps. -/
theorem step {e : Event} (hm : m.now = now) (h : I g) (hfrom : e.From comes)
    (he : ∀ id f, e = .broken id f → Q f) : Keeping I Q (g.step m e) := by
  subst hm
  cases e with
  | arrive id q => exact hc.arrive rfl h hfrom id
  | look id expired =>
    refine visit_cases (P := Keeping I Q) (.still h) fun v _ _ => ?_
    split
    · exact hc.look rfl h v expired
    · exact .still h
  | loaded id o =>
    exact visit_cases (P := Keeping I Q) (.still h) fun v _ _ =>
      hc.read h (Reader.turns_loaded o) v
  | broken id f =>
    refine visit_cases (P := Keeping I Q) (.still h) fun v _ _ => hc.follow (hc.abandon h id) ?_ v
    rintro f' ⟨⟩
    exact he id f rfl
  | asked id o =>
    refine visit_cases (P := Keeping I Q) (.still h) fun v _ _ => ?_
    split
    · exact hc.read h (Reader.turns_asked o) v
    · exact hc.answer h v _
  | cancel id => exact visit_cases (P := Keeping I Q) (.still h) fun v _ _ => hc.cancel h v

end Closed

theorem Event.from_any (e : Event) : e.From fun _ => True := by
  cases e <;> trivial

end Gateway
end ChainGateway
