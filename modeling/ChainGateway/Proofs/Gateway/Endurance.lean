import ChainGateway.Proofs.Admission.RateRange
import ChainGateway.Proofs.Admission.StandardPattern
import ChainGateway.Proofs.Cache.Lifetimes
import ChainGateway.Proofs.Gateway.Course

/-!
# How long accepted settings last

Settings are accepted for what they are not: no lane without slots, no period of zero. How large
they may be shows later: a lane counts only so many slots, and the clock ends. `Moderate` says what
accepted settings have to be in addition for a gateway to run until some moment without a fault.
-/

namespace ChainGateway

open Web Admission Cache Metrics

-- ---------------------------------------------------------------------------
-- Parts of a gateway
-- ---------------------------------------------------------------------------

namespace Settings

variable {s : Settings} {p : PolicyTable} {last : Instant}

/-- The settings with the policies `p` are within what can be told until `last`. -/
structure Moderate (s : Settings) (p : PolicyTable) (last : Instant) : Prop where
  slots : s.maxRequests ≤ Gate.maxSlots
  rates : RateLimiter.InRange s.rateLimit s.rateWindow last
  lives : p.Lasts last

/-- The gate can be set up, no attempt and no sweep of a limiter fails until `last`, however it was
used before, and no read through the cache does. -/
structure Untroubled (s : Settings) (p : PolicyTable) (last : Instant) : Prop where
  gate : ∃ gate, Gate.new s.limits = .ok gate
  attempts : ∀ passages : List Passage, (∀ q ∈ passages, q.time.nanos ≤ last.nanos) →
    ∀ t c f, t.nanos ≤ last.nanos →
      (((Turnstile.new s.rateLimit s.rateWindow).run passages).limiter.check t c).1 ≠ .failed f
  sweeps : ∀ passages : List Passage, (∀ q ∈ passages, q.time.nanos ≤ last.nanos) →
    ∀ t, t.nanos ≤ last.nanos → ∃ n l,
      ((Turnstile.new s.rateLimit s.rateWindow).run passages).limiter.sweep t = .ok (n, l)
  reads : ∀ pool tracker moves, Session.Until last moves →
    ((Session.new p pool tracker).run moves).Smooth

theorem rateWindow_pos (h : s.fault? = none) : 0 < s.rateWindow.nanos := by
  refine Nat.pos_of_ne_zero fun hzero => ?_
  have hspan : s.rateWindow = .zero := congrArg Span.mk hzero
  unfold fault? periods at h
  split at h
  · cases h
  · simp [hspan] at h

theorem Moderate.gate (h : s.Moderate p last) : ∃ gate, Gate.new s.limits = .ok gate :=
  ⟨_, if_neg (Nat.not_lt.mpr h.slots)⟩

theorem Moderate.untroubled (h : s.Moderate p last) : s.Untroubled p last where
  gate := h.gate
  attempts passages hp t c f ht := by
    have hrun : (Turnstile.new s.rateLimit s.rateWindow).limiter.Until _ _ last := .new
    exact ((hrun.run h.rates hp).check h.rates ht c).1 f
  sweeps passages hp t _ := by
    have hrun : (Turnstile.new s.rateLimit s.rateWindow).limiter.Until _ _ last := .new
    obtain ⟨n, l, hs, -⟩ := (hrun.run h.rates hp).sweep h.rates t
    exact ⟨n, l, hs⟩
  reads pool tracker moves hm := by
    have hstart : (Session.new p pool tracker).Smooth := by
      intro id f
      exact List.not_mem_nil
    exact hstart.run .new h.lives hm

theorem Untroubled.moderate (hw : 0 < s.rateWindow.nanos) (h : s.Untroubled p last) :
    s.Moderate p last where
  slots := by
    obtain ⟨gate, hgate⟩ := h.gate
    refine Nat.le_of_not_lt fun hmany => ?_
    rw [Gate.new, if_pos (show Gate.maxSlots < s.limits.standardSlots from hmany)] at hgate
    cases hgate
  rates := by
    refine Classical.byContradiction fun hr => ?_
    obtain ⟨n, c, f, hf⟩ := RateLimiter.exists_failed hw hr
    refine h.attempts (.replicate n (.check last c)) (fun q hq => ?_) last c f (Nat.le_refl _) hf
    rw [List.eq_of_mem_replicate hq]
    exact Nat.le_refl _
  lives := by
    refine Classical.byContradiction fun hl => ?_
    obtain ⟨moves, hm, hnot⟩ := Session.exists_failed false (.new s.pacing) hl
    exact hnot (h.reads _ _ moves hm)

end Settings

-- ---------------------------------------------------------------------------
-- Whole gateways
-- ---------------------------------------------------------------------------

namespace Admission.Gate

variable {g : Gate} {now id : Nat} {l : Lane} {q : LaneQueue} {expired : Bool} {e : Event}
  {limit : Nat} {window : Span} {last : Instant}

theorem release_limiter : (g.release l).2.limiter = g.limiter := setLane_limiter

/-- What happens in a lane leaves the limiter alone and does not fail. -/
def Mild (g : Gate) (r : Answer × Gate) : Prop :=
  r.2.limiter = g.limiter ∧ ∀ f, r.1 ≠ .failed f

theorem mild_queue (g : Gate) (now id : Nat) (l : Lane) : g.Mild (g.queue now id l) := by
  unfold queue
  split
  · exact ⟨setLane_limiter, nofun⟩
  · split
    · exact ⟨rfl, nofun⟩
    · exact ⟨setLane_limiter, nofun⟩

theorem mild_look : g.Mild (g.look now id l expired) := by
  unfold look
  split
  · exact ⟨setLane_limiter, nofun⟩
  · split
    · split
      · exact ⟨setLane_limiter, nofun⟩
      · exact ⟨rfl, nofun⟩
    · exact ⟨rfl, nofun⟩

/-- Only a request that comes is counted against its client's budget. -/
theorem enter_limiter (g : Gate) (now id : Nat) (c : Client) (l : Lane) :
    (g.enter now id c l).2.limiter = (g.limiter.check (.ofMillis now) c).2 ∧
      ∀ f, (g.enter now id c l).1 = .failed f →
        (g.limiter.check (.ofMillis now) c).1 = .failed f := by
  unfold enter
  split <;> rename_i hcheck
  · rename_i limiter
    obtain ⟨hlimiter, hanswer⟩ := { g with limiter := limiter }.mild_queue now id l
    exact ⟨hlimiter.trans (congrArg Prod.snd hcheck).symm, fun f hf => absurd hf (hanswer f)⟩
  · exact ⟨(congrArg Prod.snd hcheck).symm, nofun⟩
  · refine ⟨(congrArg Prod.snd hcheck).symm, fun f hf => ?_⟩
    cases hf
    exact congrArg Prod.fst hcheck

theorem until_new {limits : Limits} (h : new limits = .ok g) :
    g.limiter.Until limits.rateLimit limits.rateWindow last := by
  unfold new at h
  split at h <;> cases h
  exact .new

/-- No event at a gate with a limiter in range fails, and the limiter goes on like this. -/
theorem step_until (hr : RateLimiter.InRange limit window last)
    (h : g.limiter.Until limit window last) (hn : (Instant.ofMillis now).nanos ≤ last.nanos) :
    (∀ f, (g.step now e).1 ≠ .failed f) ∧
      (g.step now e).2.2.limiter.Until limit window last := by
  have hmild : ∀ {r : Answer × Gate}, g.Mild r →
      (∀ f, r.1 ≠ .failed f) ∧ r.2.limiter.Until limit window last :=
    fun hm => ⟨hm.2, hm.1 ▸ h⟩
  cases e with
  | enter id c l =>
    obtain ⟨hverdict, hlimiter⟩ := h.check hr hn c
    obtain ⟨hstate, hanswer⟩ := g.enter_limiter now id c l
    exact ⟨fun f hf => hverdict f (hanswer f hf), hstate ▸ hlimiter⟩
  | look id l expired => exact hmild mild_look
  | leave id =>
    dsimp only [step]
    split
    · exact ⟨nofun, h⟩
    · refine ⟨nofun, ?_⟩
      rw [release_limiter]
      exact h
  | cancel id l =>
    dsimp only [step]
    split
    · refine ⟨nofun, ?_⟩
      rw [release_limiter, setLane_limiter]
      exact h
    · refine ⟨nofun, ?_⟩
      rw [setLane_limiter]
      exact h

end Admission.Gate

namespace Gateway

variable {g g₀ g' : Gateway} {s : Settings} {p : PolicyTable} {last : Instant} {Q : Fault → Prop}
  {m : Moment} {e : Event} {now horizon n : Nat}

/-- A gateway that was used until `last`. -/
structure Until (s : Settings) (p : PolicyTable) (last : Instant) (g : Gateway) : Prop where
  limiter : g.gate.limiter.Until s.rateLimit s.rateWindow last
  registry : g.reader.registry.Ruled p

namespace Until

/-- Nothing that the gateway does until `last` fails, whatever else `Q` lets fail. -/
theorem closed (h : s.Moderate p last) (hn : (Instant.ofMillis now).nanos ≤ last.nanos) :
    Closed now (fun _ => True) (Until s p last) Q where
  visits hg _ := ⟨hg.limiter, hg.registry⟩
  gate hg _ _ _ := ⟨(Gate.step_until h.rates hg.limiter hn).2, hg.registry⟩
  refused hg _ _ f hf := absurd hf ((Gate.step_until h.rates hg.limiter hn).1 f)
  turn hg _ _ hturn := by
    obtain ⟨hnone, hruled⟩ := hg.registry.turn h.lives hn hturn
    exact ⟨⟨hg.limiter, hruled⟩, fun f hf => nomatch hnone.symm.trans hf⟩
  count hg _ := ⟨hg.limiter, hg.registry⟩

/-- A request fails only where the store breaks down, and the gateway goes on like this. -/
theorem step (h : s.Moderate p last) (hg : g.Until s p last)
    (hn : (Instant.ofMillis m.now).nanos ≤ last.nanos) :
    Keeping (Until s p last) (fun f => ∃ id, e = .broken id f) (g.step m e) :=
  (closed h hn).step rfl hg e.from_any fun id _ he => ⟨id, he⟩

theorem observe (hg : g.Until s p last) (o : Except ReadError Epoch.Marker) :
    (g.observe o).2.Until s p last := by
  unfold Gateway.observe
  dsimp only
  split
  · exact ⟨hg.limiter, hg.registry⟩
  · exact ⟨hg.limiter, hg.registry.clear⟩

theorem report (hg : g.Until s p last) (now : Nat) : (g.report now).2.Until s p last :=
  ⟨hg.limiter, hg.registry.purge⟩

theorem sweep (h : s.Moderate p last) (hg : g.Until s p last) (now : Nat) :
    ∃ n g', g.sweep now = .ok (n, g') ∧ g'.Until s p last := by
  obtain ⟨n, l, hs, hl⟩ := hg.limiter.sweep h.rates (.ofMillis now)
  have hgate : g.gate.sweep now = .ok (n, { g.gate with limiter := l }) := by
    unfold Gate.sweep
    rw [hs]
    rfl
  unfold Gateway.sweep
  rw [hgate]
  exact ⟨n, _, rfl, hl, hg.registry⟩

end Until

/-- What may become of the gateway `g₀` until `horizon`, in milliseconds. -/
inductive ReachedBy (horizon : Nat) (g₀ : Gateway) : Gateway → Prop
  | start : ReachedBy horizon g₀ g₀
  | step {g : Gateway} {e : Event} {m : Moment} :
    ReachedBy horizon g₀ g → m.now ≤ horizon → ReachedBy horizon g₀ (g.step m e).2
  | observe {g : Gateway} (o : Except ReadError Epoch.Marker) :
    ReachedBy horizon g₀ g → ReachedBy horizon g₀ (g.observe o).2
  | report {g : Gateway} {now : Nat} :
    ReachedBy horizon g₀ g → now ≤ horizon → ReachedBy horizon g₀ (g.report now).2
  | sweep {g g' : Gateway} {now n : Nat} :
    ReachedBy horizon g₀ g → now ≤ horizon → g.sweep now = .ok (n, g') → ReachedBy horizon g₀ g'

theorem ReachedBy.until (h : s.Moderate p last) (hr : ReachedBy horizon g₀ g)
    (hlast : (Instant.ofMillis horizon).nanos ≤ last.nanos) (hg : g₀.Until s p last) :
    g.Until s p last := by
  induction hr with
  | start => exact hg
  | step _ hn ih =>
    exact (ih.step h (Nat.le_trans (Nat.mul_le_mul_right _ hn) hlast)).holds
  | observe o _ ih => exact ih.observe o
  | report _ _ ih => exact ih.report _
  | sweep _ _ hs ih =>
    obtain ⟨n, g', hok, hg'⟩ := ih.sweep h _
    cases hs.symm.trans hok
    exact hg'

end Gateway

-- ---------------------------------------------------------------------------
-- Accepted settings
-- ---------------------------------------------------------------------------

namespace Settings

variable {s : Settings} {p : PolicyTable}

/-- A gateway that is set up with moderate settings fails no request by itself until the horizon,
and none of its sweeps. -/
theorem Moderate.endures {horizon : Nat} {classifier : Classifier}
    (h : s.Moderate p (.ofMillis horizon)) (hf : s.fault? = none) (hp : s.cachePolicies = .ok p)
    (hc : Classifier.ofPatterns s.heavyPatterns = .ok classifier) (hasPool : Bool) :
    ∃ g₀, Gateway.new s hasPool = .ok g₀ ∧ ∀ g, g₀.ReachedBy horizon g →
      (∀ m e id f, m.now ≤ horizon → .fail id f ∈ (g.step m e).1 → ∃ i, e = .broken i f) ∧
        ∀ now, ∃ n g', g.sweep now = .ok (n, g') := by
  obtain ⟨gate, hgate⟩ := h.gate
  refine ⟨_, Gateway.new_of_ok hf hp hc hgate, fun g hr => ?_⟩
  have huntil := hr.until h (Nat.le_refl _) ⟨Gate.until_new hgate, .new⟩
  refine ⟨fun m e id f hn hfail => ?_, fun now => ?_⟩
  · exact (huntil.step h (Nat.mul_le_mul_right _ hn)).faults hfail
  · obtain ⟨n, g', hs, -⟩ := huntil.sweep h now
    exact ⟨n, g', hs⟩

/-- Of the settings that are accepted, just the moderate ones cause no trouble until the horizon,
and a gateway with them endures until then. -/
theorem untroubled_iff_moderate {horizon : Nat} (hf : s.fault? = none)
    (hp : s.cachePolicies = .ok p) :
    (s.Untroubled p (.ofMillis horizon) ↔ s.Moderate p (.ofMillis horizon)) ∧
      (s.Moderate p (.ofMillis horizon) → ∀ hasPool classifier,
        Classifier.ofPatterns s.heavyPatterns = .ok classifier →
        ∃ g₀, Gateway.new s hasPool = .ok g₀ ∧ ∀ g, g₀.ReachedBy horizon g →
          (∀ m e id f, m.now ≤ horizon → .fail id f ∈ (g.step m e).1 → ∃ i, e = .broken i f) ∧
            ∀ now, ∃ n g', g.sweep now = .ok (n, g')) :=
  ⟨⟨fun h => h.moderate (rateWindow_pos hf), Moderate.untroubled⟩,
    fun h hasPool _ hc => h.endures hf hp hc hasPool⟩

/-- The standard settings cause no trouble for a century; with one slot too many in the standard
lane, settings are accepted, and their gate cannot be set up. -/
theorem untroubled_iff_moderate_of_slots :
    let many : Settings := { Settings.standard with maxRequests := 2305843009213693952 }
    let p : PolicyTable := .standardWith .standard PolicyTable.standardPermanentTtl
    let century : Instant := .ofMillis (36525 * 86400 * 1000)
    Settings.standard.Untroubled p century ∧ many.fault? = none ∧ many.cachePolicies = .ok p ∧
      Gate.new many.limits = .error .tooManySlots ∧ ¬many.Untroubled p century := by
  intro many p century
  have hlives : ∀ op, (p.policy op).ttl.nanos ≤ PolicyTable.standardPermanentTtl.nanos := by
    intro op
    cases op <;> decide
  obtain ⟨e, he⟩ : ∃ e, century.after? PolicyTable.standardPermanentTtl = some e :=
    Option.isSome_iff_exists.mp (by decide)
  have hstandard : Settings.standard.Moderate p century :=
    ⟨by decide, fun h => absurd rfl h, fun op _ =>
      Instant.after?_mono (Nat.le_refl _) (hlives op) he⟩
  have hmany : ¬many.Moderate p century := fun h => absurd h.slots (by decide)
  refine ⟨(untroubled_iff_moderate rfl rfl).1.mpr hstandard, rfl, rfl, rfl, ?_⟩
  exact fun h => hmany ((untroubled_iff_moderate rfl rfl).1.mp h)

end Settings
end ChainGateway
