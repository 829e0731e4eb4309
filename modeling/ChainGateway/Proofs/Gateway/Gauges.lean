import ChainGateway.Proofs.Admission.StandardPattern
import ChainGateway.Proofs.Epoch.Chronicle
import ChainGateway.Proofs.Gateway.Course

/-!
# What the epoch meters show

The meters hear of an epoch only when it is an advance: requests, reports and sweeps leave them
alone, and so does a poll that finds a baseline, the same epoch, a lower one or none. The clears
are counted with the advances, and the gauge shows the epoch that the last advance led to.
-/

namespace ChainGateway

open Web Admission Cache Metrics Epoch

-- ---------------------------------------------------------------------------
-- Clears
-- ---------------------------------------------------------------------------

/-- Reads do not clear the cache. -/
theorem Cache.Registry.Turn.clears {t : Instant} {r r' : Registry} {fault : Option Fault}
    (h : r.Turn t fault r') : r'.clears = r.clears := by
  cases h with
  | still => rfl
  | lookup c =>
    rcases r.lookup_cases t c with ⟨-, hl⟩ | ⟨-, hl, -⟩
    · rw [hl]
    · rw [hl]
      rfl
  | finish c o =>
    cases hb : (r.policies.policy c.operation).isBypass with
    | true => rw [Registry.finish_of_bypass hb]
    | false =>
      rw [Registry.finish_of_room hb]
      rfl

-- ---------------------------------------------------------------------------
-- Meters of the epoch
-- ---------------------------------------------------------------------------

namespace Metrics.Meters

/-- Both show the same of the epoch. -/
structure SameEpoch (m m' : Meters) : Prop where
  clears : m.epochClears = m'.epochClears
  epoch : m.currentEpoch = m'.currentEpoch

theorem sameEpoch_note (m : Meters) (lane : Lane) (a : Answer) : (m.note lane a).SameEpoch m := by
  cases a with
  | admitted lane waited => cases lane <;> exact ⟨rfl, rfl⟩
  | left lane => cases lane <;> exact ⟨rfl, rfl⟩
  | _ => exact ⟨rfl, rfl⟩

end Metrics.Meters

namespace Gateway

variable {g g₀ : Gateway} {m : Moment} {now : Nat}

/-- The clears and the meters of the epoch are those of the advances. -/
structure Told (g : Gateway) : Prop where
  cleared : g.reader.registry.clears = g.tracker.advances
  counted : g.meters.epochClears = g.tracker.advances
  before : g.tracker.advances = 0 → g.meters.currentEpoch = 0
  after : g.tracker.advances ≠ 0 →
    ∃ latest, g.tracker.current = some latest ∧ g.meters.currentEpoch = latest.epoch

namespace Told

/-- Who leaves the tracker, the clears and the meters of the epoch alone keeps them in step. -/
theorem congr {g' : Gateway} (h : g.Told) (ht : g'.tracker = g.tracker)
    (hr : g'.reader.registry.clears = g.reader.registry.clears)
    (hm : g'.meters.SameEpoch g.meters) : g'.Told where
  cleared := by rw [hr, ht, h.cleared]
  counted := by rw [hm.clears, ht, h.counted]
  before := by
    rw [hm.epoch, ht]
    exact h.before
  after := by
    rw [hm.epoch, ht]
    exact h.after

theorem closed (now : Nat) : Closed now (fun _ => True) Told fun _ => True where
  visits h _ := h.congr rfl rfl ⟨rfl, rfl⟩
  gate h _ _ _ := h.congr rfl rfl (Meters.sameEpoch_note ..)
  refused _ _ _ _ _ := trivial
  turn h _ _ hturn := ⟨h.congr rfl hturn.clears ⟨rfl, rfl⟩, fun _ _ => trivial⟩
  count h _ := h.congr rfl rfl ⟨rfl, rfl⟩

theorem step {e : Event} (h : g.Told) : (g.step m e).2.Told :=
  ((closed m.now).step rfl h e.from_any fun _ _ _ => trivial).holds

/-- A poll that is no advance tells the meters nothing; what it may do to the tracker is to put
another marker of the epoch in the place of the one held, or to set the first one. -/
theorem observe {o : Except ReadError Marker} (h : g.Told) : (g.observe o).2.Told := by
  cases o with
  | error e => exact ⟨h.cleared, h.counted, h.before, h.after⟩
  | ok latest =>
    have hobserve := g.tracker.observe_eq latest
    unfold Gateway.observe Tracker.poll
    dsimp only
    rw [hobserve]
    rcases g.tracker.update_cases latest with ⟨hc, hu⟩ | ⟨p, -, -, hu⟩ | ⟨p, hc, heq, hu⟩ |
      ⟨p, -, -, hu⟩ <;> rw [hu]
    · refine ⟨h.cleared, h.counted, h.before, fun ha => ?_⟩
      obtain ⟨n, hn, -⟩ := h.after ha
      cases hc.symm.trans hn
    · refine ⟨congrArg (· + 1) h.cleared, congrArg (· + 1) h.counted, fun ha => ?_, fun _ => ?_⟩
      · cases ha
      · exact ⟨latest, rfl, rfl⟩
    · refine ⟨h.cleared, h.counted, h.before, fun ha => ⟨latest, rfl, ?_⟩⟩
      obtain ⟨n, hn, hshown⟩ := h.after ha
      obtain rfl := Option.some.inj (hc.symm.trans hn)
      exact hshown.trans heq
    · exact ⟨h.cleared, h.counted, h.before, h.after⟩

theorem report (h : g.Told) (now : Nat) : (g.report now).2.Told := h.congr rfl rfl ⟨rfl, rfl⟩

theorem sweep {g' : Gateway} {n : Nat} (h : g.Told) (hs : g.sweep now = .ok (n, g')) :
    g'.Told := by
  obtain ⟨limiter, -, rfl⟩ := sweep_ok hs
  exact h.congr rfl rfl ⟨rfl, rfl⟩

theorem new {settings : Settings} {hasPool : Bool} (h : Gateway.new settings hasPool = .ok g) :
    g.Told := by
  obtain ⟨policies, classifier, gate, -, -, rfl⟩ := new_ok h
  exact ⟨rfl, rfl, fun _ => rfl, fun h => absurd rfl h⟩

/-- The gauge shows the epoch held as soon as there was an advance. -/
theorem shown (h : g.Told) {latest : Marker} (hc : g.tracker.current = some latest) :
    g.meters.currentEpoch = if g.tracker.advances = 0 then 0 else latest.epoch := by
  split
  · rename_i ha
    exact h.before ha
  · rename_i ha
    obtain ⟨n, hn, hshown⟩ := h.after ha
    obtain rfl := Option.some.inj (hc.symm.trans hn)
    exact hshown

end Told

namespace Reached

theorem told (hr : Reached g₀ g) (h : g₀.Told) : g.Told := by
  induction hr with
  | start => exact h
  | step m _ _ ih => exact ih.step
  | observe o _ ih => exact ih.observe
  | report now _ ih => exact ih.report now
  | sweep _ hs ih => exact ih.sweep hs

/-- The clears that are counted are the advances, and the gauge shows the epoch held just when
there was an advance: until the first one it shows zero. -/
theorem epoch_meters {settings : Settings} {hasPool : Bool} {latest : Marker}
    (h : Gateway.new settings hasPool = .ok g₀) (hr : Reached g₀ g)
    (hc : g.tracker.current = some latest) :
    g.meters.epochClears = g.tracker.advances ∧
      g.reader.registry.clears = g.tracker.advances ∧
      g.meters.currentEpoch = (if g.tracker.advances = 0 then 0 else latest.epoch) ∧
      (g.meters.currentEpoch = latest.epoch ↔ g.tracker.advances ≠ 0 ∨ latest.epoch = 0) := by
  have htold := hr.told (.new h)
  refine ⟨htold.counted, htold.cleared, htold.shown hc, ?_⟩
  rw [htold.shown hc]
  split
  · rename_i ha
    simp [ha, eq_comm]
  · rename_i ha
    simp [ha]

/-- A gateway that has found epoch 10 on its first poll knows it, and its gauge shows zero. -/
theorem epoch_meters_of_baseline :
    let marker : Marker := ⟨10, ⟨1577836800, 0⟩⟩
    ∃ g₀ g, Gateway.new Settings.standard false = .ok g₀ ∧ Reached g₀ g ∧
      g.tracker.current = some marker ∧ g.meters.epochClears = 0 ∧ g.meters.currentEpoch = 0 ∧
      g.meters.currentEpoch ≠ marker.epoch := by
  intro marker
  let table : PolicyTable := .standardWith .standard PolicyTable.standardPermanentTtl
  let gate : Gate := ⟨.ofSeconds 60, .new 0 (.ofSeconds 30), .new 50, .new 1, [], ⟨0, 0, 0⟩⟩
  let g₀ : Gateway := ⟨Settings.standard, ⟨[Classifier.adjacentFlips]⟩, gate, .new table false,
    .new Settings.standard.pacing, .start, []⟩
  have hnew : Gateway.new Settings.standard false = .ok g₀ :=
    new_of_ok rfl rfl Classifier.ofPatterns_standardPattern rfl
  have hr : Reached g₀ (g₀.observe (.ok marker)).2 := .observe _ .start
  have hc : (g₀.observe (.ok marker)).2.tracker.current = some marker := rfl
  obtain ⟨hcounted, -, hshown, hiff⟩ := hr.epoch_meters hnew hc
  refine ⟨g₀, _, hnew, hr, hc, hcounted, hshown, fun heq => ?_⟩
  rcases hiff.mp heq with ha | hz
  · exact ha rfl
  · exact absurd hz (by decide)

end Reached
end Gateway
end ChainGateway
