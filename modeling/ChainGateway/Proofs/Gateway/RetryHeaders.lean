import ChainGateway.Proofs.Admission.RetryHint
import ChainGateway.Proofs.Gateway.Endurance

/-!
# The seconds that a caller is told

The gate is one turnstile: clients pass it when their requests arrive, and sweeps do. So the wait
that a rejection tells is exact for the gateway as well. The caller hears it in whole seconds,
rounded up, and whoever waits for them is not turned away for coming too early.
-/

namespace ChainGateway

open Web Admission Cache Metrics

theorem Span.ofSeconds_le_ofMillis {seconds millis : Nat} (h : seconds * 1000 ≤ millis) :
    (ofSeconds seconds).nanos ≤ (ofMillis millis).nanos := by
  have hnanos : seconds * 1000 * 1000000 ≤ millis * 1000000 := Nat.mul_le_mul_right _ h
  rw [Nat.mul_assoc] at hnanos
  exact hnanos

-- ---------------------------------------------------------------------------
-- Replies
-- ---------------------------------------------------------------------------

namespace Web

/-- The reply tells, once, the least number of seconds that is no shorter than `delay`. -/
structure Reply.TellsToWait (r : Reply) (delay : Span) (seconds : Nat) : Prop where
  status : r.status = 429
  header : r.headers.filter (·.1 = "retry-after") = [("retry-after", toString seconds)]
  enough : delay.nanos ≤ (Span.ofSeconds seconds).nanos
  least : ∀ n, delay.nanos ≤ (Span.ofSeconds n).nanos → seconds ≤ n
  positive : 1 ≤ seconds

theorem Problem.toReply_tooManyRequests {seconds : Nat} (h : seconds ≤ Text.maxU64) :
    (tooManyRequests (some seconds)).toReply.status = 429 ∧
      (tooManyRequests (some seconds)).toReply.headers =
        [("content-type", "application/json"), ("retry-after", toString seconds)] := by
  have hretry : (tooManyRequests (some seconds)).retryAfter = some seconds := by
    have hmember : (Json.Value.ofMembers [(retryMember, .nat seconds)]).member? retryMember =
        some (.nat seconds) := by
      simp [Json.Value.ofMembers, Json.Value.putMember, Json.Value.member?]
    unfold retryAfter tooManyRequests withDetails
    dsimp only [Option.bind]
    rw [hmember]
    exact if_pos ⟨Int.natCast_nonneg _, Int.ofNat_le.mpr h⟩
  unfold toReply
  rw [hretry]
  exact ⟨rfl, rfl⟩

end Web

-- ---------------------------------------------------------------------------
-- The gate
-- ---------------------------------------------------------------------------

namespace Admission.Gate

variable {g : Gate} {now id : Nat} {c : Client} {l : Lane} {delay : Span}

theorem enter_of_retryAfter (h : (g.limiter.check (.ofMillis now) c).1 = .retryAfter delay) :
    g.enter now id c l = (.rejected (.rateLimited delay),
      { g with
        limiter := (g.limiter.check (.ofMillis now) c).2
        tally := { g.tally with rateLimited := g.tally.rateLimited + 1 } }) := by
  have hcheck : g.limiter.check (.ofMillis now) c =
      (.retryAfter delay, (g.limiter.check (.ofMillis now) c).2) := Prod.ext h rfl
  unfold enter
  rw [hcheck]

/-- A limiter changes only when a client comes. -/
theorem step_limiter (g : Gate) (now : Nat) (e : Admission.Event) :
    (g.step now e).2.2.limiter = g.limiter ∨ ∃ id c l, e = .enter id c l ∧
      (g.step now e).2.2.limiter = (g.limiter.check (.ofMillis now) c).2 := by
  cases e with
  | enter id c l => exact .inr ⟨id, c, l, rfl, (g.enter_limiter now id c l).1⟩
  | look id l expired => exact .inl mild_look.1
  | leave id =>
    dsimp only [step]
    split
    · exact .inl rfl
    · exact .inl release_limiter
  | cancel id l =>
    dsimp only [step]
    split
    · exact .inl (release_limiter.trans setLane_limiter)
    · exact .inl setLane_limiter

end Admission.Gate

-- ---------------------------------------------------------------------------
-- Rejections
-- ---------------------------------------------------------------------------

namespace Gateway

variable {g g₀ g' : Gateway} {m : Moment} {r : Request} {now now' start : Nat} {delay : Span}
  {comes : Client → Prop} {s : Turnstile} {settings : Settings} {hasPool : Bool}

/-- What is replied has the status that was meant, and says as much of a wait. -/
theorem send_reply (g : Gateway) (id : Nat) (q : Request) (r : Reply) :
    ∃ reply, (g.send id q r).1 = [.reply id reply] ∧ reply.status = r.status ∧
      reply.headers.filter (·.1 = "retry-after") = r.headers.filter (·.1 = "retry-after") := by
  refine ⟨_, rfl, ?_⟩
  have hhead : (if q.method = "HEAD" then r.head else r).status = r.status ∧
      (if q.method = "HEAD" then r.head else r).headers = r.headers := by
    split <;> exact ⟨rfl, rfl⟩
  split
  · refine ⟨hhead.1, ?_⟩
    simp [Reply.shared, Reply.addHeaders, Reply.anyOrigin, Reply.varyHeader, hhead.2]
  · exact ⟨hhead.1, by rw [hhead.2]⟩

/-- The request `r` is one for the gate, and its client comes too early for it. -/
structure TurnsAway (g : Gateway) (m : Moment) (r : Request) (delay : Span) : Prop where
  routed : ∃ target, Destination.find? r.lowercasePath.target.path = some (.api target)
  asked : ¬(g.settings.crossOrigin ∧ r.method = "OPTIONS")
  early : (g.gate.limiter.check m.instant r.client).1 = .retryAfter delay

namespace TurnsAway

/-- The gate answers the request, and counts the attempt. -/
theorem step_eq (h : g.TurnsAway m r delay) (id : Nat) : ∃ g' : Gateway,
    g'.gate.limiter = (g.gate.limiter.check m.instant r.client).2 ∧
      g.step m (.arrive id r) =
        g'.send id r.lowercasePath (Problem.ofRejection (.rateLimited delay)).toReply := by
  obtain ⟨target, hroute⟩ := h.routed
  have harrive : g.step m (.arrive id r) = g.enter m id r.lowercasePath target := by
    dsimp only [step, arrive]
    rw [if_neg (show ¬(g.settings.crossOrigin ∧ r.lowercasePath.method = "OPTIONS") from h.asked),
      hroute]
  rw [harrive]
  unfold enter atGate
  dsimp only [Gate.step]
  rw [Gate.enter_of_retryAfter (g := g.gate) (c := r.lowercasePath.client) h.early]
  exact ⟨_, rfl, rfl⟩

theorem limiter_step (h : g.TurnsAway m r delay) (id : Nat) :
    (g.step m (.arrive id r)).2.gate.limiter = (g.gate.limiter.check m.instant r.client).2 := by
  obtain ⟨g', hlimiter, hs⟩ := h.step_eq id
  rw [hs]
  exact hlimiter

theorem reply (h : g.TurnsAway m r delay) (hpos : 0 < delay.nanos) (id : Nat) :
    ∃ seconds reply, (g.step m (.arrive id r)).1 = [.reply id reply] ∧
      reply.TellsToWait delay seconds := by
  have hleast : ∀ n, delay.ceilSeconds ≤ n ↔ delay.nanos ≤ (Span.ofSeconds n).nanos :=
    fun _ => Span.ceilSeconds_le_iff
  have hone : 1 ≤ delay.ceilSeconds := by
    refine Nat.pos_of_ne_zero fun hzero => ?_
    have hnone : delay.nanos ≤ 0 * 1000000000 := (hleast 0).mp (Nat.le_of_eq hzero)
    omega
  obtain ⟨g', -, hs⟩ := h.step_eq id
  rw [hs]
  obtain ⟨reply, hsent, hstatus, hheader⟩ :=
    g'.send_reply id r.lowercasePath (Problem.ofRejection (.rateLimited delay)).toReply
  have hproblem : Problem.ofRejection (.rateLimited delay) =
      .tooManyRequests (some delay.ceilSeconds) :=
    congrArg (fun n => Problem.tooManyRequests (some n)) (Nat.max_eq_right hone)
  rw [hproblem] at hstatus hheader
  obtain ⟨hstatus', hheaders⟩ :=
    Problem.toReply_tooManyRequests (RateLimiter.ceilSeconds_le_of_retryAfter h.early)
  refine ⟨delay.ceilSeconds, reply, hsent, ?_⟩
  exact
    { status := hstatus.trans hstatus'
      header := by
        rw [hheader, hheaders]
        rfl
      enough := (hleast _).mp (Nat.le_refl _)
      least := fun n hn => (hleast n).mpr hn
      positive := hone }

end TurnsAway

-- ---------------------------------------------------------------------------
-- The gate as a turnstile
-- ---------------------------------------------------------------------------

/-- What may become of the gateway `g₀` from `start` until `now`, in milliseconds, when requests
arrive only from clients that `comes` allows. -/
inductive Meanwhile (comes : Client → Prop) (g₀ : Gateway) (start : Nat) : Gateway → Nat → Prop
  | start : Meanwhile comes g₀ start g₀ start
  | step {g : Gateway} {now : Nat} {m : Moment} {e : Event} : Meanwhile comes g₀ start g now →
    now ≤ m.now → e.From comes → Meanwhile comes g₀ start (g.step m e).2 m.now
  | observe {g : Gateway} {now : Nat} (o : Except ReadError Epoch.Marker) :
    Meanwhile comes g₀ start g now → Meanwhile comes g₀ start (g.observe o).2 now
  | report {g : Gateway} {now later : Nat} : Meanwhile comes g₀ start g now → now ≤ later →
    Meanwhile comes g₀ start (g.report later).2 later
  | sweep {g g' : Gateway} {now later n : Nat} : Meanwhile comes g₀ start g now → now ≤ later →
    g.sweep later = .ok (n, g') → Meanwhile comes g₀ start g' later

/-- The limiter of the gateway is what may have become of the turnstile `s`. -/
def Turns (comes : Client → Prop) (s : Turnstile) (start now : Nat) (g : Gateway) : Prop :=
  ∃ s', s.Meanwhile comes (.ofMillis start) s' (.ofMillis now) ∧ s'.limiter = g.gate.limiter

namespace Turns

theorem congr (h : g.Turns comes s start now) (hg : g'.gate.limiter = g.gate.limiter) :
    g'.Turns comes s start now := by
  obtain ⟨s', hm, hl⟩ := h
  exact ⟨s', hm, hl.trans hg.symm⟩

theorem later (h : g.Turns comes s start now) (hle : now ≤ now') :
    g.Turns comes s start now' := by
  obtain ⟨s', hm, hl⟩ := h
  exact ⟨s', hm.later (Nat.mul_le_mul_right _ hle), hl⟩

theorem closed (now : Nat) : Closed now comes (Turns comes s start now) fun _ => True where
  visits h _ := h
  gate {g} h lane e hfrom := by
    obtain hsame | ⟨id, c, l, rfl, hcheck⟩ := g.gate.step_limiter now e
    · exact h.congr hsame
    · obtain ⟨s', hm, hl⟩ := h
      refine ⟨s'.check (.ofMillis now) c, hm.check (Nat.le_refl _) hfrom, ?_⟩
      exact Eq.trans (by rw [← hl]; rfl) hcheck.symm
  refused _ _ _ _ _ := trivial
  turn h _ _ _ := ⟨h, fun _ _ => trivial⟩
  count h _ := h

theorem step {e : Event} (h : g.Turns comes s start now) (hle : now ≤ m.now)
    (hfrom : e.From comes) : (g.step m e).2.Turns comes s start m.now :=
  ((closed m.now).step rfl (h.later hle) hfrom fun _ _ _ => trivial).holds

theorem observe (h : g.Turns comes s start now) (o : Except ReadError Epoch.Marker) :
    (g.observe o).2.Turns comes s start now := by
  unfold Gateway.observe
  dsimp only
  split <;> exact h

theorem sweep {n : Nat} (h : g.Turns comes s start now) (hs : g.sweep now = .ok (n, g')) :
    g'.Turns comes s start now := by
  obtain ⟨s', hm, hl⟩ := h
  obtain ⟨limiter, hlimiter, rfl⟩ := sweep_ok hs
  refine ⟨s'.sweep (.ofMillis now), hm.sweep (Nat.le_refl _), ?_⟩
  unfold Turnstile.sweep
  rw [hl, hlimiter]

end Turns

theorem Meanwhile.turns (hm : Meanwhile comes g₀ start g now) (h : s.limiter = g₀.gate.limiter) :
    g.Turns comes s start now := by
  induction hm with
  | start => exact ⟨s, .start, h⟩
  | step _ hle hfrom ih => exact ih.step hle hfrom
  | observe o _ ih => exact ih.observe o
  | report _ hle ih => exact (ih.later hle).congr rfl
  | sweep _ hle hs ih => exact (ih.later hle).sweep hs

theorem new_limiter (h : Gateway.new settings hasPool = .ok g) :
    g.gate.limiter = .new settings.rateLimit settings.rateWindow ∧
      0 < settings.rateWindow.nanos := by
  have hfault : settings.fault? = none := by
    unfold Gateway.new at h
    cases hf : settings.fault? with
    | some e =>
      rw [hf] at h
      split at h <;> cases h
    | none => rfl
  obtain ⟨policies, classifier, gate, -, hgate, rfl⟩ := new_ok h
  refine ⟨?_, Settings.rateWindow_pos hfault⟩
  unfold Gate.new at hgate
  split at hgate <;> cases hgate
  rfl

/-- A client that was turned away at `m`, and does not come meanwhile, is accepted just when the
wait is over. -/
theorem TurnsAway.accepted_iff (hnew : Gateway.new settings hasPool = .ok g₀)
    (hm : Meanwhile (fun _ => True) g₀ start g now) (hle : now ≤ m.now)
    (h : g.TurnsAway m r delay) (id : Nat) :
    0 < delay.nanos ∧ ∀ (g' : Gateway) (now' : Nat) (m' : Moment),
      Meanwhile (· ≠ r.client) (g.step m (.arrive id r)).2 m.now g' now' → now' ≤ m'.now →
      ((g'.gate.limiter.check m'.instant r.client).1 = .accepted ↔
        delay.nanos ≤ (Span.ofMillis (m'.now - m.now)).nanos) := by
  obtain ⟨hlimiter, hl⟩ := new_limiter hnew
  -- the turnstile that the limiter of `g` belongs to
  have hstart : (Turnstile.new settings.rateLimit settings.rateWindow).limiter =
      g₀.gate.limiter := hlimiter.symm
  obtain ⟨s, hs, hsg⟩ := hm.turns hstart
  have hretry : (s.limiter.check m.instant r.client).1 = .retryAfter delay := hsg ▸ h.early
  obtain ⟨hlimit, both, hb⟩ := RateLimiter.enabled_of_retryAfter hretry
  rw [hs.limits.1] at hlimit
  rw [hs.limits.2] at hb
  have hkeeps : s.Keeps settings.rateLimit settings.rateWindow (.ofMillis now) :=
    ((Turnstile.Keeps.new hl).later (Nat.zero_le _)).meanwhile hlimit hl hb hs
  obtain ⟨⟨hpos, -⟩, hexact⟩ :=
    hkeeps.retry_exact hl (t := m.instant) (Nat.mul_le_mul_right _ hle) hretry
  refine ⟨hpos, fun g' now' m' hm' hle' => ?_⟩
  have hchecked : (s.check m.instant r.client).limiter =
      (g.step m (.arrive id r)).2.gate.limiter := by
    rw [h.limiter_step, ← hsg]
    rfl
  obtain ⟨s', hs', hsg'⟩ := hm'.turns hchecked
  have hiff := hexact s' _ m'.instant hs' (Nat.mul_le_mul_right _ hle')
  have hforward : m.now * 1000000 ≤ now' * 1000000 := hs'.forward
  rw [hsg'] at hiff
  rw [hiff]
  unfold Moment.instant Instant.ofMillis Span.ofMillis
  dsimp only
  omega

/-- The wait that is told to an attempt over the limit is exact: until it is over the next one is
over the limit too, and then it is not. A caller who is turned away is told the least number of
seconds that is no shorter, one at least, and if it waits for them it is accepted. -/
theorem retry_hint :
    (∀ limit length both start times now, 0 < limit → 0 < length.nanos →
      length.doubled? = some both →
      (start :: times ++ [now]).Pairwise (fun t u : Instant => t.nanos ≤ u.nanos) →
      ∃ v, (RateWindow.new start).recordAll length (times ++ [now]) = .ok v ∧
        (limit < v.total → v.Hint limit length now)) ∧
    ∀ settings hasPool (g₀ : Gateway) start (g : Gateway) now (m : Moment) r delay id,
      Gateway.new settings hasPool = .ok g₀ → Meanwhile (fun _ => True) g₀ start g now →
      now ≤ m.now → g.TurnsAway m r delay →
      ∃ seconds reply, (g.step m (.arrive id r)).1 = [.reply id reply] ∧
        reply.TellsToWait delay seconds ∧
        ∀ (g' : Gateway) now' (m' : Moment),
          Meanwhile (· ≠ r.client) (g.step m (.arrive id r)).2 m.now g' now' →
          now' ≤ m'.now →
          ((g'.gate.limiter.check m'.instant r.client).1 = .accepted ↔
            delay.nanos ≤ (Span.ofMillis (m'.now - m.now)).nanos) ∧
          (seconds * 1000 ≤ m'.now - m.now →
            (g'.gate.limiter.check m'.instant r.client).1 = .accepted) := by
  refine ⟨fun limit length both start times now hlimit hl hb ho =>
    RateWindow.recordAll_hint hl hb hlimit ho, ?_⟩
  intro settings hasPool g₀ start g now m r delay id hnew hm hle h
  obtain ⟨hpos, hexact⟩ := h.accepted_iff hnew hm hle id
  obtain ⟨seconds, reply, hreply, htells⟩ := h.reply hpos id
  refine ⟨seconds, reply, hreply, htells, fun g' now' m' hm' hle' => ?_⟩
  have hiff := hexact g' now' m' hm' hle'
  refine ⟨hiff, fun hwaited => hiff.mpr ?_⟩
  exact Nat.le_trans htells.enough (Span.ofSeconds_le_ofMillis hwaited)

/-- With one request allowed in two windows of half a minute, a caller that comes again after ten
seconds is told to wait for fifty, which is exact to the millisecond. -/
theorem retry_hint_of_two :
    let settings : Settings :=
      { Settings.standard with rateLimit := 1, heavyPatterns := [] }
    let q : Request := ⟨"GET", ⟨none, none, "/api/epoch/last", none⟩, [], none⟩
    let moment : Nat → Moment := fun millis => ⟨millis, ⟨0, 0⟩⟩
    ∃ g₀ g g' v reply, Gateway.new settings false = .ok g₀ ∧
      g = (g₀.step (moment 0) (.arrive 0 q)).2 ∧ g.TurnsAway (moment 10000) q (.ofSeconds 50) ∧
      g.step (moment 10000) (.arrive 1 q) = ([.reply 1 reply], g') ∧
      reply.TellsToWait (.ofSeconds 50) 50 ∧
      (g'.gate.limiter.check (moment 59999).instant q.client).1 ≠ .accepted ∧
      (g'.gate.limiter.check (moment 60000).instant q.client).1 = .accepted ∧
      (RateWindow.new (.ofMillis 0)).recordAll (.ofSeconds 30) [.ofMillis 0, .ofMillis 10000] =
        .ok v ∧ v.total = 2 ∧ v.Hint 1 (.ofSeconds 30) (.ofMillis 10000) := by
  intro settings q moment
  let table : PolicyTable := .standardWith settings.cachePolicy settings.permanentTtl
  let gate : Gate := ⟨.ofSeconds 60, .new 1 (.ofSeconds 30), .new 50, .new 1, [], ⟨0, 0, 0⟩⟩
  let g₀ : Gateway := ⟨settings, ⟨[]⟩, gate, .new table false, .new settings.pacing, .start, []⟩
  have hnew : Gateway.new settings false = .ok g₀ := new_of_ok rfl rfl rfl rfl
  let g : Gateway := (g₀.step (moment 0) (.arrive 0 q)).2
  let g' : Gateway := (g.step (moment 10000) (.arrive 1 q)).2
  have hm : Meanwhile (fun _ => True) g₀ 0 g 0 := .step .start (Nat.le_refl _) trivial
  have hroute : Destination.find? q.lowercasePath.target.path =
      some (.api ⟨⟨[.literal "epoch", .literal "last"], .read .lastEpoch [], []⟩, [],
        "/epoch/last"⟩) := by
    decide +kernel
  have haway : g.TurnsAway (moment 10000) q (.ofSeconds 50) :=
    ⟨⟨_, hroute⟩, by decide, by decide +kernel⟩
  obtain ⟨hwindow, htold⟩ := retry_hint
  obtain ⟨seconds, reply, hreply, htells, hexact⟩ :=
    htold settings false g₀ 0 g 0 (moment 10000) q (.ofSeconds 50) 1 hnew hm (Nat.zero_le _) haway
  have henough : 50 * 1000000000 ≤ seconds * 1000000000 := htells.enough
  have hleast : seconds ≤ 50 := htells.least 50 (Nat.le_refl _)
  obtain rfl : seconds = 50 := by omega
  obtain ⟨v, hv, hhint⟩ := hwindow 1 (.ofSeconds 30) (.ofSeconds 60) (.ofMillis 0) [.ofMillis 0]
    (.ofMillis 10000) (by decide) (by decide) (by decide) (by decide)
  have htotal : v.total = 2 := by
    obtain rfl := Except.ok.inj hv
    decide
  have hearly : (g'.gate.limiter.check (moment 59999).instant q.client).1 ≠ .accepted := fun h =>
    absurd ((hexact g' 10000 (moment 59999) .start (by decide)).1.mp h) (by decide)
  have hlate : (g'.gate.limiter.check (moment 60000).instant q.client).1 = .accepted :=
    (hexact g' 10000 (moment 60000) .start (by decide)).2 (by decide)
  exact ⟨g₀, g, g', v, reply, hnew, rfl, haway, Prod.ext hreply rfl, htells, hearly, hlate, hv,
    htotal, hhint (by rw [htotal]; decide)⟩

end Gateway
end ChainGateway
