import ChainGateway.Proofs.Admission.StandardPattern
import ChainGateway.Proofs.Gateway.Visits
import ChainGateway.Proofs.Web.Routing

/-!
# Visits and their lanes

A visit stands in the lane of the text by which it is classified. That text is the path of its
request in lower case without the `/api` in front, so no pattern ever sees that part of a path: what
a pattern says of texts that start with `/api` makes no difference to the gateway.
-/

namespace ChainGateway

open Web Admission Cache Metrics Text

/-- The path of the visit leads to its route, and its lane is that of what is behind `/api`. -/
structure Visit.Filed (c : Classifier) (v : Visit) : Prop where
  leads : Destination.find? v.request.target.path = some (.api v.target)
  lane : v.lane = c.classify v.target.lanePath

namespace Gateway

variable {g g₀ : Gateway} {c c' : Classifier} {v : Visit} {lane : Lane} {now id : Nat} {m : Moment}
  {q : Request} {target : ApiMatch}

-- ---------------------------------------------------------------------------
-- What the visits underway keep
-- ---------------------------------------------------------------------------

structure Filed (c : Classifier) (g : Gateway) : Prop where
  classifier : g.classifier = c
  visits : ∀ {id : Nat} {v : Visit}, g.find? id = some v → v.Filed c

namespace Filed

theorem putVisit (h : g.Filed c) (hv : v.Filed c) : (g.putVisit v).Filed c where
  classifier := h.classifier
  visits := by
    intro i w hw
    rw [find?_putVisit] at hw
    split at hw
    · exact Option.some.inj hw ▸ hv
    · exact h.visits hw

theorem dropVisit (h : g.Filed c) : (g.dropVisit id).Filed c where
  classifier := h.classifier
  visits := by
    intro i w hw
    rw [find?_dropVisit] at hw
    split at hw
    · cases hw
    · exact h.visits hw

theorem atGate {e : Admission.Event} (h : g.Filed c) : (g.atGate now lane e).2.2.Filed c :=
  ⟨h.classifier, h.visits⟩

theorem reader (h : g.Filed c) (reader : Reader) : { g with reader := reader }.Filed c :=
  ⟨h.classifier, h.visits⟩

theorem send (h : g.Filed c) (id : Nat) (q : Request) (r : Reply) : (g.send id q r).2.Filed c :=
  ⟨h.classifier, h.visits⟩

theorem leave (h : g.Filed c) (now : Nat) : (g.leave now v).2.Filed c := by
  have hgate : (g.atGate now v.lane (.leave v.id)).2.2.Filed c := h.atGate
  exact hgate.dropVisit

theorem answer (h : g.Filed c) (now : Nat) (r : Reply) : (g.answer now v r).2.Filed c := by
  have hleft : (g.leave now v).2.Filed c := h.leave now
  exact hleft.send v.id v.request r

theorem follow {p : ReadProgress} (h : g.Filed c) (now : Nat) : (g.follow now v p).2.Filed c := by
  cases p with
  | load call => exact h
  | ask query => exact h
  | done o => exact h.answer now _
  | failed f => exact h.leave now
  | missed => exact h
  | nothing => exact h

theorem read {step : Reader → ReadProgress × Reader} (h : g.Filed c) (now : Nat) :
    (g.read now v step).2.Filed c := by
  have hreader : { g with reader := (step g.reader).2 }.Filed c := h.reader _
  exact hreader.follow now

theorem work (h : g.Filed c) (hv : v.Filed c) : (g.work m v).2.Filed c := by
  have hput : (g.putVisit { v with phase := .working }).Filed c := h.putVisit ⟨hv.leads, hv.lane⟩
  unfold Gateway.work
  dsimp only
  split
  · exact hput.answer m.now _
  · split
    · exact hput.answer m.now _
    · exact hput.read m.now
    · split
      · exact hput
      · exact hput.answer m.now _

theorem decided {a : Answer} (h : g.Filed c) (hv : v.Filed c) : (g.decided m v a).2.Filed c := by
  cases a with
  | admitted lane waited => exact h.work hv
  | rejected d => exact h.dropVisit.send _ _ _
  | failed f => exact h.dropVisit
  | waiting => exact h
  | left lane => exact h
  | nothing => exact h

theorem enter (h : g.Filed c) (hd : Destination.find? q.target.path = some (.api target)) :
    (g.enter m id q target).2.Filed c := by
  have hv : (Visit.mk id q target (g.classifier.classify target.lanePath) .queued).Filed c :=
    ⟨hd, by rw [h.classifier]⟩
  obtain ⟨-, hs⟩ | ⟨-, hs⟩ := enter_cases g m id q target
  · rw [hs]
    exact h.atGate.putVisit hv
  · rw [hs]
    exact h.atGate.decided hv

theorem arrive (h : g.Filed c) : (g.arrive m id q).2.Filed c := by
  unfold Gateway.arrive
  dsimp only
  split
  · exact h
  · split
    · exact h.send _ _ _
    · exact h.send _ _ _
    · exact h.send _ _ _
    · rename_i hd
      exact h.enter hd

theorem look {expired : Bool} (h : g.Filed c) (hv : v.Filed c) :
    (g.look m v expired).2.Filed c := by
  have hgate : (g.atGate m.now v.lane (.look v.id v.lane expired)).2.2.Filed c := h.atGate
  exact hgate.decided hv

theorem cancel (h : g.Filed c) : (g.cancel now v).2.Filed c := by
  unfold Gateway.cancel
  split
  · have hgate : (g.atGate now v.lane (.cancel v.id v.lane)).2.2.Filed c := h.atGate
    exact hgate.dropVisit
  · exact (h.reader _).leave now

theorem step {e : Event} (h : g.Filed c) : (g.step m e).2.Filed c := by
  cases e with
  | arrive id q => exact h.arrive
  | look id expired =>
    refine visit_cases (P := (·.2.Filed c)) h fun v hv _ => ?_
    split
    · exact h.look (h.visits hv)
    · exact h
  | loaded id o => exact visit_cases (P := (·.2.Filed c)) h fun v _ _ => h.read m.now
  | broken id f => exact visit_cases (P := (·.2.Filed c)) h fun v _ _ => (h.reader _).follow m.now
  | asked id o =>
    refine visit_cases (P := (·.2.Filed c)) h fun v _ _ => ?_
    split
    · exact h.read m.now
    · exact h.answer m.now _
  | cancel id => exact visit_cases (P := (·.2.Filed c)) h fun v _ _ => h.cancel

theorem observe {o : Except ReadError Epoch.Marker} (h : g.Filed c) : (g.observe o).2.Filed c := by
  unfold Gateway.observe
  dsimp only
  split
  · exact ⟨h.classifier, h.visits⟩
  · exact ⟨h.classifier, h.visits⟩

theorem sweep {g' : Gateway} {n : Nat} (h : g.Filed c) (hs : g.sweep now = .ok (n, g')) :
    g'.Filed c := by
  obtain ⟨limiter, -, rfl⟩ := sweep_ok hs
  exact ⟨h.classifier, h.visits⟩

end Filed

theorem Reached.filed (hr : Reached g₀ g) (h : g₀.Filed c) : g.Filed c := by
  induction hr with
  | start => exact h
  | step m _ _ ih => exact ih.step
  | observe o _ ih => exact ih.observe
  | report now _ ih => exact ⟨ih.classifier, ih.visits⟩
  | sweep _ hs ih => exact ih.sweep hs

/-- The classifier that was set is the one that visits are filed by. -/
theorem filed_of_new {settings : Settings} {hasPool : Bool}
    (h : Gateway.new settings hasPool = .ok g₀) :
    ∃ c, Classifier.ofPatterns settings.heavyPatterns = .ok c ∧ g₀.Filed c := by
  obtain ⟨policies, classifier, gate, hc, -, rfl⟩ := new_ok h
  exact ⟨classifier, hc, rfl, by rintro id v ⟨⟩⟩

-- ---------------------------------------------------------------------------
-- Another classifier
-- ---------------------------------------------------------------------------

/-- The same gateway, but for what counts as an expensive lookup. -/
def reclassify (g : Gateway) (c : Classifier) : Gateway := { g with classifier := c }

theorem follow_reclassify {p : ReadProgress} : (g.reclassify c).follow now v p =
    ((g.follow now v p).1, (g.follow now v p).2.reclassify c) := by
  cases p <;> rfl

theorem read_reclassify {step : Reader → ReadProgress × Reader} :
    (g.reclassify c).read now v step =
      ((g.read now v step).1, (g.read now v step).2.reclassify c) := by
  unfold read
  dsimp only
  exact follow_reclassify (g := { g with reader := (step g.reader).2 })

theorem work_reclassify :
    (g.reclassify c).work m v = ((g.work m v).1, (g.work m v).2.reclassify c) := by
  have hput : (g.reclassify c).putVisit { v with phase := .working } =
    (g.putVisit { v with phase := .working }).reclassify c := rfl
  unfold work
  dsimp only
  rw [hput]
  generalize g.putVisit { v with phase := .working } = g'
  have hpool : (g'.reclassify c).reader.hasPool = g'.reader.hasPool := rfl
  rw [hpool]
  cases !v.request.isRead with
  | true => rfl
  | false =>
    simp only [Bool.false_eq_true, if_false]
    cases v.target.route.task m.clock v.target.values (v.request.target.query.getD "") with
    | error r => rfl
    | ok t =>
      cases t with
      | read call => exact read_reclassify
      | pending query => cases g'.reader.hasPool <;> rfl

theorem decided_reclassify {a : Answer} : (g.reclassify c).decided m v a =
    ((g.decided m v a).1, (g.decided m v a).2.reclassify c) := by
  cases a with
  | admitted lane waited => exact work_reclassify
  | rejected d => rfl
  | failed f => rfl
  | waiting => rfl
  | left lane => rfl
  | nothing => rfl

/-- A request is classified once, by what is behind `/api`. -/
theorem enter_reclassify
    (hc : c.classify target.lanePath = g.classifier.classify target.lanePath) :
    (g.reclassify c).enter m id q target =
      ((g.enter m id q target).1, (g.enter m id q target).2.reclassify c) := by
  have hsame : (g.reclassify c).classifier.classify target.lanePath =
    g.classifier.classify target.lanePath := hc
  unfold enter
  dsimp only
  rw [hsame]
  generalize g.classifier.classify target.lanePath = lane
  have hgate : (g.reclassify c).atGate m.now lane (.enter id q.client lane) =
      ((g.atGate m.now lane (.enter id q.client lane)).1,
        (g.atGate m.now lane (.enter id q.client lane)).2.1,
        (g.atGate m.now lane (.enter id q.client lane)).2.2.reclassify c) := rfl
  rw [hgate]
  generalize g.atGate m.now lane (.enter id q.client lane) = answered
  obtain ⟨a, woken, g'⟩ := answered
  cases a with
  | waiting => rfl
  | admitted lane waited => exact decided_reclassify
  | rejected d => exact decided_reclassify
  | failed f => exact decided_reclassify
  | left lane => exact decided_reclassify
  | nothing => exact decided_reclassify

/-- What starts with `/api` is never classified. -/
theorem arrive_reclassify
    (hc : ∀ text : String, ¬StartsWithApi text →
      c.classify text = g.classifier.classify text) :
    (g.reclassify c).arrive m id q =
      ((g.arrive m id q).1, (g.arrive m id q).2.reclassify c) := by
  have hsettings : (g.reclassify c).settings = g.settings := rfl
  unfold arrive
  dsimp only
  rw [hsettings]
  split
  · rfl
  · cases hd : Destination.find? q.lowercasePath.target.path with
    | none => rfl
    | some d =>
      cases d with
      | health => rfl
      | metrics => rfl
      | api target =>
        obtain ⟨segments, hleads⟩ := find?_leads hd
        exact enter_reclassify (hc _ hleads.lanePath_apart)

theorem look_reclassify {expired : Bool} : (g.reclassify c).look m v expired =
    ((g.look m v expired).1, (g.look m v expired).2.reclassify c) := by
  unfold look
  dsimp only
  exact decided_reclassify
    (g := (g.atGate m.now v.lane (.look v.id v.lane expired)).2.2)

theorem visit_reclassify {f f' : Visit → List Effect × Gateway}
    (hf : ∀ v, f v = ((f' v).1, (f' v).2.reclassify c)) :
    (match (g.reclassify c).find? id with
      | some v => f v
      | none => ([], g.reclassify c)) =
      ((match g.find? id with
        | some v => f' v
        | none => ([], g)).1,
      (match g.find? id with
        | some v => f' v
        | none => ([], g)).2.reclassify c) := by
  have hfind : (g.reclassify c).find? id = g.find? id := rfl
  rw [hfind]
  cases g.find? id with
  | none => rfl
  | some v => exact hf v

theorem step_reclassify {e : Event}
    (hc : ∀ text : String, ¬StartsWithApi text →
      c.classify text = g.classifier.classify text) :
    (g.reclassify c).step m e = ((g.step m e).1, (g.step m e).2.reclassify c) := by
  cases e with
  | arrive id q => exact arrive_reclassify hc
  | look id expired =>
    refine visit_reclassify fun v => ?_
    split
    · exact look_reclassify
    · rfl
  | loaded id o => exact visit_reclassify fun v => read_reclassify
  | broken id f => exact visit_reclassify fun v => rfl
  | asked id o =>
    refine visit_reclassify fun v => ?_
    have hreader : (g.reclassify c).reader = g.reader := rfl
    rw [hreader]
    split
    · exact read_reclassify
    · rfl
  | cancel id =>
    refine visit_reclassify fun v => ?_
    unfold cancel
    split <;> rfl

-- ---------------------------------------------------------------------------
-- Patterns and paths
-- ---------------------------------------------------------------------------

/-- Every text that the pattern matches starts with `/api`. -/
def Anchored (p : Pattern) : Prop :=
  ∀ text : String, p.isMatch text = true → StartsWithApi text

variable {settings : Settings} {hasPool : Bool}

/-- The text by which a request is classified is its path in lower case without the `/api` in
front. A visit stands in the lane of that text, the gateway goes on in the same way whatever the
patterns say of texts that start with `/api`, and patterns that match only such texts make no visit
expensive. -/
theorem Reached.classified_behind_api (h : Gateway.new settings hasPool = .ok g₀)
    (hr : Reached g₀ g) :
    ∃ c, Classifier.ofPatterns settings.heavyPatterns = .ok c ∧
      (∀ (q : Request) (target : ApiMatch),
        Destination.find? q.lowercasePath.target.path = some (.api target) →
          lowercase q.target.path = "/api" ++ target.lanePath ∧
            ¬StartsWithApi target.lanePath) ∧
      (∀ id v, g.find? id = some v →
        lowercase v.request.target.path = "/api" ++ v.target.lanePath ∧
          v.lane = c.classify v.target.lanePath) ∧
      (∀ c' : Classifier, (∀ text : String, ¬StartsWithApi text →
          c'.classify text = c.classify text) → ∀ m e,
        (g.reclassify c').step m e = ((g.step m e).1, (g.step m e).2.reclassify c')) ∧
      ((∀ p ∈ c.heavy, Anchored p) → ∀ id v, g.find? id = some v → v.lane = .standard) := by
  obtain ⟨c, hc, hfiled⟩ := filed_of_new h
  have hg := hr.filed hfiled
  -- no route begins with the prefix itself, so no text behind the prefix starts with it again
  refine ⟨c, hc, fun q target hd => ?_, fun id v hv => ?_, fun c' hsame m e => ?_,
    fun hp id v hv => ?_⟩
  · obtain ⟨segments, hleads⟩ := find?_leads hd
    have hlower : lowercase q.lowercasePath.target.path = lowercase q.target.path :=
      lowercase_asciiLowercase _
    exact ⟨by rw [← hlower, hleads.lowercase_eq], hleads.lanePath_apart⟩
  · obtain ⟨segments, hleads⟩ := find?_leads (hg.visits hv).leads
    exact ⟨hleads.lowercase_eq, (hg.visits hv).lane⟩
  · exact step_reclassify fun text htext => by rw [hsame text htext, hg.classifier]
  · obtain ⟨segments, hleads⟩ := find?_leads (hg.visits hv).leads
    rw [(hg.visits hv).lane, Classifier.classify, if_neg]
    intro hany
    obtain ⟨p, hmem, hmatch⟩ := List.any_eq_true.mp hany
    exact hleads.lanePath_apart (hp p hmem _ hmatch)

/-- A pattern for the path of the search as callers send it, and a search that is no expensive
lookup by it. -/
theorem Reached.classified_behind_api_of_search :
    let settings : Settings := { Settings.standard with heavyPatterns := ["^/api/search"] }
    let q : Request := ⟨"GET", ⟨none, none, "/API/search", some "value=a"⟩, [], none⟩
    ∃ g₀ g v p, Gateway.new settings false = .ok g₀ ∧ Reached g₀ g ∧ g.find? 0 = some v ∧
      v.request = q.lowercasePath ∧ Classifier.ofPatterns settings.heavyPatterns = .ok ⟨[p]⟩ ∧
      Anchored p ∧ p.isMatch (lowercase q.target.path) = true ∧ v.target.lanePath = "/search" ∧
      v.lane = .standard := by
  intro settings q
  let p : Pattern := .seq (.anchor .start) (.text "/api/search".toList)
  have hc : Classifier.ofPatterns settings.heavyPatterns = .ok ⟨[p]⟩ :=
    Classifier.ofPatterns_single (by decide +kernel) (by decide +kernel)
  have hp : Anchored p := fun text hmatch =>
    List.IsPrefix.trans (by decide +kernel) (Pattern.isMatch_start_text.mp hmatch)
  let table : PolicyTable := .standardWith settings.cachePolicy settings.permanentTtl
  let gate : Gate := ⟨.ofSeconds 60, .new 0 (.ofSeconds 30), .new 50, .new 1, [], ⟨0, 0, 0⟩⟩
  let g₀ : Gateway :=
    ⟨settings, ⟨[p]⟩, gate, .new table false, .new settings.pacing, .start, []⟩
  have hnew : Gateway.new settings false = .ok g₀ := new_of_ok rfl rfl hc rfl
  have hr : Reached g₀ (g₀.step ⟨0, ⟨0, 0⟩⟩ (.arrive 0 q)).2 := .step _ .start rfl
  have hv : ((g₀.step ⟨0, ⟨0, 0⟩⟩ (.arrive 0 q)).2.find? 0).map
      (fun v => (v.request, v.target.lanePath)) = some (q.lowercasePath, "/search") := by
    decide +kernel
  obtain ⟨v, hv, hview⟩ := Option.map_eq_some_iff.mp hv
  obtain ⟨c, hc', -, -, -, hstandard⟩ := hr.classified_behind_api hnew
  obtain rfl : c = ⟨[p]⟩ := Except.ok.inj (hc'.symm.trans hc)
  have hlane : v.lane = .standard := hstandard (by simpa using hp) 0 v hv
  have hmatch : p.isMatch (lowercase q.target.path) = true := by decide +kernel
  exact ⟨g₀, _, v, p, hnew, hr, hv, congrArg Prod.fst hview, hc, hp, hmatch,
    congrArg Prod.snd hview, hlane⟩

end Gateway
end ChainGateway
