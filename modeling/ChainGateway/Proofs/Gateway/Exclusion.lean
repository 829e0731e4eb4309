import ChainGateway.Proofs.Gateway.Lanes
import ChainGateway.Proofs.Gateway.Reads
import ChainGateway.Proofs.Results

/-!
# Adjacent-flip lookups exclude one another

By the standard pattern every path that leads to an adjacent-flip lookup is one of an expensive
lookup, however its letters were written. Such a lookup holds the one slot of its lane for as long
as it works, so no two of them work at once.
-/

namespace ChainGateway

open Web Admission Cache

/-- Whether an operation looks for the flips next to one. -/
def Operation.isAdjacentFlips : Operation → Bool
  | .flipEpochAdjacentFlips | .flipAddressAdjacentFlips | .flipEpochIdentityAdjacentFlips => true
  | _ => false

def Web.Endpoint.isAdjacentFlips : Endpoint → Bool
  | .read op _ => op.isAdjacentFlips
  | _ => false

def Web.ApiMatch.isAdjacentFlips (t : ApiMatch) : Bool := t.route.endpoint.isAdjacentFlips

/-- An adjacent-flip lookup that works. -/
def Visit.LooksUp (v : Visit) : Prop :=
  v.target.isAdjacentFlips = true ∧ v.phase = .working

-- ---------------------------------------------------------------------------
-- Routes
-- ---------------------------------------------------------------------------

namespace Web

variable {path : String} {t : ApiMatch} {segments : List (List Char)}

theorem apiRoutes_adjacentFlips : ∀ r ∈ apiRoutes, r.endpoint.isAdjacentFlips = true →
    r.parts.getLast? = some (.literal "adjacentflips") := by decide

/-- Every path that leads to an adjacent-flip lookup counts as one of an expensive lookup. -/
theorem Leads.classify (h : Leads path t segments) (ht : t.isAdjacentFlips = true) :
    (Classifier.mk [Classifier.adjacentFlips]).classify t.lanePath = .heavyLookup := by
  have hlow : ∀ c ∈ "adjacentflips".toList, Text.IsLow c := Text.low_of_all (by decide)
  exact Classifier.classify_adjacentFlips
    (h.lanePath_suffix (apiRoutes_adjacentFlips t.route h.route ht) hlow)

/-- Only the routes of adjacent-flip lookups ask the store for them. -/
theorem Endpoint.isAdjacentFlips_of_task {e : Endpoint} {clock : Timestamp}
    {arguments : List Argument} {q : Query} {c : Call}
    (h : e.task clock arguments q = .ok (.read c)) (hc : c.operation.isAdjacentFlips = true) :
    e.isAdjacentFlips = true := by
  unfold task at h
  split at h
  · rename_i arguments op query
    obtain ⟨more, -, hmore⟩ := bind_ok.mp h
    cases hmore
    exact hc
  · cases h
    cases hc
  · rename_i name
    cases hname : BlockName.ofText name with
    | height n =>
      rw [hname] at h
      cases h
      cases hc
    | hash s =>
      rw [hname] at h
      cases h
      cases hc
  · obtain ⟨size, -, hsize⟩ := bind_ok.mp h
    cases hsize
  · obtain ⟨size, -, hsize⟩ := bind_ok.mp h
    cases hsize
  · cases h
  · cases h
  · cases h

theorem Route.isAdjacentFlips_of_task {r : Route} {clock : Timestamp}
    {values : List (List Char)} {query : String} {c : Call}
    (h : r.task clock values query = .ok (.read c)) (hc : c.operation.isAdjacentFlips = true) :
    r.endpoint.isAdjacentFlips = true := by
  unfold task at h
  split at h
  · cases h
  · split at h
    · cases h
    · split at h
      · cases h
      · rename_i htask
        obtain rfl := Except.ok.inj h
        exact Endpoint.isAdjacentFlips_of_task htask hc

end Web

-- ---------------------------------------------------------------------------
-- The slot
-- ---------------------------------------------------------------------------

namespace Gateway

variable {slots : Lane → Nat} {settings : Settings} {hasPool : Bool} {g g₀ g' : Gateway}
  {id : Nat} {v : Visit} {m : Moment} {e : Event}

/-- The visit `id` holds the one slot for expensive lookups. -/
structure HoldsSlot (g : Gateway) (id : Nat) : Prop where
  ticket : ∃ t ∈ g.gate.tickets, t.id = id ∧ t.lane = .heavyLookup
  alone : ∀ t ∈ g.gate.tickets, t.lane = .heavyLookup → t.id = id
  free : (g.gate.lane .heavyLookup).free = 0
  handed : (g.gate.lane .heavyLookup).handed = []

theorem Sound.holdsSlot (h : g.Sound slots) (hone : slots .heavyLookup = 1)
    (hv : g.find? id = some v) (hl : v.lane = .heavyLookup) (hw : v.phase = .working) :
    g.HoldsSlot id := by
  obtain ⟨t, ht, rfl, htl⟩ := h.ticket_iff.mpr ⟨v, hv, hl, hw⟩
  have hslots := h.slots_add (l := .heavyLookup)
  have hheld : g.gate.held .heavyLookup =
    (g.gate.tickets.filter (·.lane = .heavyLookup)).length := List.countP_eq_length_filter
  have hmem : ∀ t' ∈ g.gate.tickets, t'.lane = .heavyLookup →
      t' ∈ g.gate.tickets.filter (·.lane = .heavyLookup) := fun t' ht' hl' =>
    List.mem_filter.mpr ⟨ht', decide_eq_true hl'⟩
  -- the ticket takes up the one slot, so none is free or handed over
  have hpos := List.length_pos_of_mem (hmem t ht htl)
  have hlength : (g.gate.tickets.filter (·.lane = .heavyLookup)).length = 1 := by omega
  obtain ⟨t₀, ht₀⟩ := List.length_eq_one_iff.mp hlength
  have heq : ∀ t' ∈ g.gate.tickets, t'.lane = .heavyLookup → t' = t₀ := by
    intro t' ht' hl'
    simpa [ht₀] using hmem t' ht' hl'
  refine ⟨⟨t, ht, rfl, htl⟩, fun t' ht' hl' => ?_, by omega, ?_⟩
  · rw [heq t' ht' hl', heq t ht htl]
  · exact List.eq_nil_of_length_eq_zero (by omega)

-- ---------------------------------------------------------------------------
-- Exclusion
-- ---------------------------------------------------------------------------

/-- Adjacent-flip lookups are expensive, no two of them work, the one that does holds the slot of
its lane, and no other visit reads adjacent flips. -/
structure Exclusive (g : Gateway) : Prop where
  /-- Whatever leads to such a lookup is classified as one, in whatever letters it was sent. -/
  dispatched : ∀ {q : Request} {t : ApiMatch},
    Destination.find? q.lowercasePath.target.path = some (.api t) → t.isAdjacentFlips = true →
      g.classifier.classify t.lanePath = .heavyLookup
  filed : ∀ {id : Nat} {v : Visit}, g.find? id = some v → v.target.isAdjacentFlips = true →
    v.lane = .heavyLookup
  holds : ∀ {id : Nat} {v : Visit}, g.find? id = some v → v.LooksUp → g.HoldsSlot id
  single : ∀ {i j : Nat} {v w : Visit}, g.find? i = some v → g.find? j = some w →
    v.LooksUp → w.LooksUp → i = j
  /-- The store is asked for adjacent flips for a lookup that works. -/
  reads : ∀ x ∈ g.reader.underway, x.call.operation.isAdjacentFlips = true →
    ∃ v, g.find? x.id = some v ∧ v.LooksUp
  oneRead : ∀ x ∈ g.reader.underway, ∀ y ∈ g.reader.underway,
    x.call.operation.isAdjacentFlips = true → y.call.operation.isAdjacentFlips = true → x = y

/-- A visit that reads adjacent flips is a lookup of them. -/
theorem looksUp_of_asks {c : Call} (hw : v.phase = .working) (ha : v.Asks c)
    (hc : c.operation.isAdjacentFlips = true) : v.LooksUp := by
  obtain ⟨clock, htask⟩ := ha
  exact ⟨Route.isAdjacentFlips_of_task htask hc, hw⟩

theorem Exclusive.of_filed (h : g.Sound slots) (hone : slots .heavyLookup = 1)
    (hg : g.Filed ⟨[Classifier.adjacentFlips]⟩) (ha : g.Attended) : g.Exclusive := by
  have hfiled : ∀ {id : Nat} {v : Visit}, g.find? id = some v → v.target.isAdjacentFlips = true →
      v.lane = .heavyLookup := by
    intro id v hv hadjacent
    obtain ⟨segments, hleads⟩ := find?_leads (hg.visits hv).leads
    rw [(hg.visits hv).lane, hleads.classify hadjacent]
  have hholds : ∀ {id : Nat} {v : Visit}, g.find? id = some v → v.LooksUp → g.HoldsSlot id :=
    fun hv hlooks => h.holdsSlot hone hv (hfiled hv hlooks.1) hlooks.2
  -- two lookups that work would each hold the one ticket of the lane
  have hsingle : ∀ {i j : Nat} {v w : Visit}, g.find? i = some v → g.find? j = some w →
      v.LooksUp → w.LooksUp → i = j := by
    intro i j v w hv hw hlooks hlooks'
    obtain ⟨t, ht, rfl, hl⟩ := (hholds hv hlooks).ticket
    exact (hholds hw hlooks').alone t ht hl
  have hreads : ∀ x ∈ g.reader.underway, x.call.operation.isAdjacentFlips = true →
      ∃ v, g.find? x.id = some v ∧ v.LooksUp := by
    intro x hx hc
    obtain ⟨v, hv, hw, hasks⟩ := ha.reads (ha.numbered.find?_of_mem hx)
    exact ⟨v, hv, looksUp_of_asks hw hasks hc⟩
  refine ⟨fun {q t} hd hadjacent => ?_, hfiled, hholds, hsingle, hreads, ?_⟩
  · obtain ⟨segments, hleads⟩ := find?_leads hd
    rw [hg.classifier, hleads.classify hadjacent]
  · intro x hx y hy hcx hcy
    obtain ⟨v, hv, hlooks⟩ := hreads x hx hcx
    obtain ⟨w, hw, hlooks'⟩ := hreads y hy hcy
    have hfind := ha.numbered.find?_of_mem hx
    rw [hsingle hv hw hlooks hlooks', ha.numbered.find?_of_mem hy] at hfind
    exact (Option.some.inj hfind).symm

-- ---------------------------------------------------------------------------
-- Being let in
-- ---------------------------------------------------------------------------

/-- The gate lets the visit `v` in at an event, and leaves the gateway as `g'`. -/
inductive Admits (g : Gateway) (m : Moment) : Event → Visit → Gateway → Prop
  | comer {id : Nat} {q : Request} {target : ApiMatch} {lane lane' : Lane} {waited : Nat}
      {effects : List Effect} {g' : Gateway} :
    ¬(g.settings.crossOrigin ∧ q.method = "OPTIONS") →
    Destination.find? q.lowercasePath.target.path = some (.api target) →
    lane = g.classifier.classify target.lanePath →
    g.atGate m.now lane (.enter id q.lowercasePath.client lane) =
      (.admitted lane' waited, effects, g') →
    Admits g m (.arrive id q) ⟨id, q.lowercasePath, target, lane, .queued⟩ g'
  | waiter {v : Visit} {expired : Bool} {lane : Lane} {waited : Nat} {effects : List Effect}
      {g' : Gateway} :
    g.find? v.id = some v → v.phase = .queued →
    g.atGate m.now v.lane (.look v.id v.lane expired) = (.admitted lane waited, effects, g') →
    Admits g m (.look v.id expired) v g'

namespace Admits

/-- What a visit does that is let in is its work. -/
theorem step_eq (h : g.Admits m e v g') : g.step m e = g'.work m v := by
  cases h with
  | @comer id q target _ _ _ _ _ hplain hd hlane hgate =>
    subst hlane
    have hplain : ¬(g.settings.crossOrigin ∧ q.lowercasePath.method = "OPTIONS") := hplain
    have henter : g.step m (.arrive id q) = g.enter m id q.lowercasePath target := by
      unfold step arrive
      dsimp only
      rw [if_neg hplain, hd]
    rw [henter]
    obtain ⟨hanswer, -⟩ | ⟨-, hs⟩ := enter_cases g m id q.lowercasePath target
    · rw [hgate] at hanswer
      cases hanswer
    · rw [hs, hgate]
      rfl
  | waiter hv hq hgate =>
    unfold step
    dsimp only
    rw [hv]
    dsimp only
    rw [if_pos hq, look, hgate]
    rfl

theorem sound (h : g.Admits m e v g') (hs : g.Sound slots) (hf : e.Fits g) :
    (g'.begun v).Sound slots := by
  cases h with
  | @comer id q target lane _ _ _ _ hplain hd hlane hgate =>
    have hk := hs.entered hf m.now q.lowercasePath.client lane
    have hbook : (g.atGate m.now lane (.enter id q.lowercasePath.client lane)).2.2.book = g.book :=
      rfl
    rw [← hbook, hgate] at hk
    exact hk.begun
  | @waiter _ expired _ _ _ _ hv hq hgate =>
    have hk := hs.looked hv hq m.now expired
    have hbook : (g.atGate m.now v.lane (.look v.id v.lane expired)).2.2.book = g.book := rfl
    rw [← hbook, hgate] at hk
    exact hk.begun

theorem filed {c : Classifier} (h : g.Admits m e v g') (hg : g.Filed c) :
    (g'.begun v).Filed c := by
  cases h with
  | @comer id q target lane _ _ _ _ hplain hd hlane hgate =>
    have hk : (g.atGate m.now lane (.enter id q.lowercasePath.client lane)).2.2.Filed c := hg.atGate
    rw [hgate] at hk
    exact hk.putVisit ⟨hd, by rw [hlane, hg.classifier]⟩
  | @waiter _ expired _ _ _ _ hv hq hgate =>
    have hk : (g.atGate m.now v.lane (.look v.id v.lane expired)).2.2.Filed c := hg.atGate
    rw [hgate] at hk
    exact hk.putVisit ⟨(hg.visits hv).leads, (hg.visits hv).lane⟩

theorem attended (h : g.Admits m e v g') (ha : g.Attended) (hf : e.Fits g) :
    (g'.begun v).Attended := by
  cases h with
  | @comer id q target lane _ _ _ _ hplain hd hlane hgate =>
    have hk : (g.atGate m.now lane (.enter id q.lowercasePath.client lane)).2.2.Attended :=
      ha.atGate
    have hx : g.reader.find? id = none := ha.reads_none fun v hv => nomatch hf.symm.trans hv
    have hreader : (g.atGate m.now lane (.enter id q.lowercasePath.client lane)).2.2.reader =
      g.reader := rfl
    rw [← hreader] at hx
    rw [hgate] at hk hx
    exact hk.putVisit hx
  | @waiter _ expired _ _ _ _ hv hq hgate =>
    have hk : (g.atGate m.now v.lane (.look v.id v.lane expired)).2.2.Attended := ha.atGate
    have hx : g.reader.find? v.id = none := ha.reads_none_of_queued hv hq
    have hreader : (g.atGate m.now v.lane (.look v.id v.lane expired)).2.2.reader = g.reader := rfl
    rw [← hreader] at hx
    rw [hgate] at hk hx
    exact hk.putVisit hx

end Admits

-- ---------------------------------------------------------------------------
-- Runs
-- ---------------------------------------------------------------------------

theorem Reached.filed_standard (hp : settings.heavyPatterns = [Classifier.standardPattern])
    (h : Gateway.new settings hasPool = .ok g₀) (hr : Reached g₀ g) :
    g.Filed ⟨[Classifier.adjacentFlips]⟩ := by
  obtain ⟨c, hc, hfiled⟩ := filed_of_new h
  rw [hp, Classifier.ofPatterns_standardPattern] at hc
  obtain rfl := Except.ok.inj hc
  exact hr.filed hfiled

/-- By the standard pattern at most one adjacent-flip lookup works at any moment, and it has the one
slot of its lane: between steps, when a visit that is let in begins its work in the course of a
step, and whenever the store is asked for adjacent flips. -/
theorem Reached.adjacentFlips_exclusive
    (hp : settings.heavyPatterns = [Classifier.standardPattern])
    (h : Gateway.new settings hasPool = .ok g₀) (hr : Reached g₀ g) :
    g.Exclusive ∧ ∀ m e, e.Fits g →
      (∀ v g', g.Admits m e v g' → g.step m e = g'.work m v ∧ (g'.begun v).Exclusive) ∧
      ∀ id c, .load id c ∈ (g.step m e).1 → c.operation.isAdjacentFlips = true →
        ∃ v, (g.step m e).2.find? id = some v ∧ v.LooksUp ∧ (g.step m e).2.HoldsSlot id := by
  have hone : settings.limits.slots .heavyLookup = 1 := rfl
  have hs := hr.sound (.new h)
  have hg := hr.filed_standard hp h
  have ha := hr.attended (.new h)
  refine ⟨.of_filed hs hone hg ha, fun m e hf => ⟨fun v g' hadmits => ?_, fun id c hcall hc => ?_⟩⟩
  · exact ⟨hadmits.step_eq, .of_filed (hadmits.sound hs hf) hone (hadmits.filed hg)
      (hadmits.attended ha hf)⟩
  · have htended := ha.step hf (m := m)
    have hnext : (g.step m e).2.Exclusive := .of_filed (hs.step hf) hone hg.step htended.attended
    obtain ⟨v, hv, hw, hasks⟩ := htended.attended.reads (htended.calls hcall)
    have hlooks := looksUp_of_asks hw hasks hc
    exact ⟨v, hv, hlooks, hnext.holds hv hlooks⟩

/-- Of two lookups that come together one works and the other waits, however their paths are
written. -/
theorem Reached.adjacentFlips_exclusive_of_two :
    let q : String → Request := fun path => ⟨"GET", ⟨none, none, path, none⟩, [], none⟩
    ∃ g₀ g v w, Gateway.new Settings.standard false = .ok g₀ ∧ Reached g₀ g ∧
      g.find? 0 = some v ∧ v.request = (q "/API/Flip/Qm1/Epoch/AdjacentFlips").lowercasePath ∧
      v.LooksUp ∧ g.find? 1 = some w ∧ w.target.isAdjacentFlips = true ∧ w.phase = .queued ∧
      g.HoldsSlot 0 ∧ g.Exclusive := by
  intro q
  let table : PolicyTable := .standardWith .standard PolicyTable.standardPermanentTtl
  let gate : Gate := ⟨.ofSeconds 60, .new 0 (.ofSeconds 30), .new 50, .new 1, [], ⟨0, 0, 0⟩⟩
  let g₀ : Gateway := ⟨Settings.standard, ⟨[Classifier.adjacentFlips]⟩, gate, .new table false,
    .new Settings.standard.pacing, .start, []⟩
  have hnew : Gateway.new Settings.standard false = .ok g₀ :=
    new_of_ok rfl rfl Classifier.ofPatterns_standardPattern rfl
  let m : Moment := ⟨0, ⟨0, 0⟩⟩
  let g₁ : Gateway := (g₀.step m (.arrive 0 (q "/API/Flip/Qm1/Epoch/AdjacentFlips"))).2
  let g₂ : Gateway := (g₁.step m (.arrive 1 (q "/api/flip/qm2/address/adjacentflips"))).2
  have hfits : (g₁.find? 1).map (·.id) = none := by decide +kernel
  have hr : Reached g₀ g₂ := .step m (.step m .start rfl) (Option.map_eq_none_iff.mp hfits)
  have hfirst : (g₂.find? 0).map (fun v => (v.request, v.target.isAdjacentFlips, v.phase)) =
      some ((q "/API/Flip/Qm1/Epoch/AdjacentFlips").lowercasePath, true, .working) := by
    decide +kernel
  have hsecond : (g₂.find? 1).map (fun v => (v.target.isAdjacentFlips, v.phase)) =
      some (true, .queued) := by decide +kernel
  obtain ⟨v, hv, hview⟩ := Option.map_eq_some_iff.mp hfirst
  obtain ⟨w, hw, hview'⟩ := Option.map_eq_some_iff.mp hsecond
  obtain ⟨hrequest, hrest⟩ := Prod.mk.inj hview
  obtain ⟨hadjacent, hworking⟩ := Prod.mk.inj hrest
  obtain ⟨hadjacent', hqueued⟩ := Prod.mk.inj hview'
  have hexclusive : g₂.Exclusive := (hr.adjacentFlips_exclusive rfl hnew).1
  exact ⟨g₀, g₂, v, w, hnew, hr, hv, hrequest, ⟨hadjacent, hworking⟩, hw, hadjacent', hqueued,
    hexclusive.holds hv ⟨hadjacent, hworking⟩, hexclusive⟩

end Gateway
end ChainGateway
