import ChainGateway.Proofs.Gateway.Exclusion
import ChainGateway.Proofs.Web.Paging

/-!
# What reaches the store and the pool of a page

A visit that is let in does its task or is turned away with a reply. The pages that the store or
the pool is asked for, in whatever step, are those that the queries of such visits ask for.
-/

namespace ChainGateway

open Web Admission Cache Metrics

variable {id id' : Nat} {t : Task}

-- ---------------------------------------------------------------------------
-- Where reads lead
-- ---------------------------------------------------------------------------

namespace Cache.Reader

variable {r : Reader} {now : Instant} {c : Call} {o : Outcome}

/-- A read that starts ends at once or calls the store for what it reads. -/
theorem start_progress (hn : r.Numbered) (hnew : r.find? id = none) (now : Instant) (c : Call) :
    (∃ o, (r.start now id c).1 = .done o) ∨ (r.start now id c).1 = .load c := by
  have hserves : r.Serves id (· = c) (r.start now id c) := hn.serves_start hnew rfl
  unfold start at hserves ⊢
  obtain ⟨o, -, hs⟩ | ⟨-, hs⟩ := look_cases r now id c
  · rw [hs]
    exact .inl ⟨o, rfl⟩
  · rw [hs] at hserves ⊢
    dsimp only at hserves ⊢
    have hpushed := find?_push r (r.registry.lookup now c).2 ⟨id, c, .missed⟩ id
    rw [hnew, if_pos rfl, Option.none_or] at hpushed
    rw [begin_of_missed hpushed]
    exact .inr rfl

theorem settle_progress (r : Reader) (now : Instant) (x : OpenRead) (o : Outcome) :
    (∀ c, (r.settle now x o).1 ≠ .load c) ∧ ∀ q, (r.settle now x o).1 ≠ .ask q := by
  obtain ⟨-, hs⟩ | ⟨f, -, hs⟩ := settle_cases r now x o
  · rw [hs]
    exact ⟨nofun, nofun⟩
  · rw [hs]
    exact ⟨nofun, nofun⟩

/-- The store is called no more for a read that it has answered. The pool may be asked, for one
transaction. -/
theorem loaded_progress (r : Reader) (now : Instant) (id : Nat) (o : Outcome) :
    (∀ c, (r.loaded now id o).1 ≠ .load c) ∧
      ∀ q, (r.loaded now id o).1 = .ask q → Task.isPaged (.pending q) = false := by
  unfold loaded
  split
  · rename_i id' c hfind
    have hsettled := settle_progress r now ⟨id, c, .loading⟩ o
    cases hq : PendingQuery.ofCall? c with
    | none => exact ⟨hsettled.1, fun q h => absurd h (hsettled.2 q)⟩
    | some q =>
      dsimp only
      split
      · refine ⟨nofun, fun q' h => ?_⟩
        obtain rfl := ReadProgress.ask.inj h
        unfold PendingQuery.ofCall? at hq
        split at hq
        · obtain rfl := Option.some.inj hq
          rfl
        · obtain rfl := Option.some.inj hq
          rfl
        · cases hq
      · exact ⟨hsettled.1, fun q h => absurd h (hsettled.2 q)⟩
  · exact ⟨nofun, nofun⟩

theorem asked_progress (r : Reader) (now : Instant) (id : Nat) (o : Outcome) :
    (∀ c, (r.asked now id o).1 ≠ .load c) ∧ ∀ q, (r.asked now id o).1 ≠ .ask q := by
  obtain ⟨c, -, hs⟩ | hs := asked_cases r now id o
  · rw [hs]
    exact settle_progress r now _ o
  · rw [hs]
    exact ⟨nofun, nofun⟩

end Cache.Reader

-- ---------------------------------------------------------------------------
-- Effects
-- ---------------------------------------------------------------------------

/-- What a visit says behind its path. -/
def Visit.query (v : Visit) : String := v.request.target.query.getD ""

namespace Gateway

/-- By this effect the task of a visit reaches the store or the pool. -/
inductive Effect.Reaches (id : Nat) : Task → Effect → Prop
  | load {c : Call} : Reaches id (.read c) (.load id c)
  | ask {q : PendingQuery} : Reaches id (.pending q) (.ask id q)

variable {settings : Settings} {hasPool : Bool} {g g₀ g' : Gateway} {m : Moment} {e : Event}
  {v : Visit} {now : Nat} {r : Reply} {x : Effect} {effects : List Effect}

/-- No effect asks for a page. -/
def NoPage (effects : List Effect) : Prop :=
  ∀ x ∈ effects, ∀ id t, x.Reaches id t → t.isPaged = false

/-- The visit is over with a reply. Nothing was looked up in the cache or kept there, and neither the
store nor the pool was asked. -/
structure TurnedAway (g : Gateway) (id status : Nat) (s : List Effect × Gateway) : Prop where
  replied : ∃ woken r, s.1 = woken ++ [.reply id r] ∧ (∀ x ∈ woken, ∃ i, x = .wake i) ∧
    r.status = status
  reader : s.2.reader = g.reader

/-- Does the task of a visit that is let in. -/
def perform (g : Gateway) (m : Moment) (v : Visit) : Task → List Effect × Gateway
  | .read c => g.read m.now v (·.start m.instant v.id c)
  | .pending q =>
    if g.reader.hasPool then ([.ask v.id q], g) else g.answer m.now v noPool.toReply

theorem woken_wakes (g : Gateway) (now : Nat) (lane : Lane) (e : Admission.Event) :
    ∀ x ∈ (g.atGate now lane e).2.1, ∃ i, x = .wake i := by
  intro x hx
  unfold atGate at hx
  obtain ⟨i, -, hi⟩ := Option.map_eq_some_iff.mp (Option.mem_toList.mp hx)
  exact ⟨i, hi.symm⟩

/-- A reply is sent with the status it has. -/
theorem send_replies (g : Gateway) (id : Nat) (q : Request) (r : Reply) :
    ∃ r', (g.send id q r).1 = [.reply id r'] ∧ r'.status = r.status := by
  have hhead : (if q.method = "HEAD" then r.head else r).status = r.status := by
    split <;> rfl
  refine ⟨_, rfl, ?_⟩
  split
  · exact hhead
  · exact hhead

theorem turnedAway_answer (g : Gateway) (now : Nat) (v : Visit) (r : Reply) :
    TurnedAway g v.id r.status (g.answer now v r) where
  replied := by
    obtain ⟨r', hsent, hstatus⟩ := (g.leave now v).2.send_replies v.id v.request r
    exact ⟨(g.leave now v).1, r', congrArg ((g.leave now v).1 ++ ·) hsent,
      woken_wakes g now v.lane (.leave v.id), hstatus⟩
  reader := rfl

theorem TurnedAway.unique {s : List Effect × Gateway} {a b : Nat} (h : TurnedAway g id a s)
    (h' : TurnedAway g id b s) : a = b := by
  obtain ⟨woken, r, hs, -, rfl⟩ := h.replied
  obtain ⟨woken', r', hs', -, rfl⟩ := h'.replied
  have hlast := congrArg List.getLast? (hs.symm.trans hs')
  rw [List.getLast?_append, List.getLast?_append] at hlast
  cases hlast
  rfl

theorem TurnedAway.not_reaches {s : List Effect × Gateway} {status : Nat}
    (h : TurnedAway g id' status s) (hx : x ∈ s.1) : ¬x.Reaches id t := by
  obtain ⟨woken, r, hs, hwoken, -⟩ := h.replied
  rw [hs] at hx
  intro hreaches
  obtain hx | hx := List.mem_append.mp hx
  · obtain ⟨i, rfl⟩ := hwoken x hx
    cases hreaches
  · obtain rfl := List.mem_singleton.mp hx
    cases hreaches

-- ---------------------------------------------------------------------------
-- Effects that ask for a page
-- ---------------------------------------------------------------------------

namespace NoPage

theorem nil : NoPage [] := nofun

theorem of_not_reaches (h : ∀ x ∈ effects, ∀ id t, ¬x.Reaches id t) : NoPage effects :=
  fun x hx id t ht => absurd ht (h x hx id t)

theorem single (h : ∀ id t, ¬x.Reaches id t) : NoPage [x] :=
  of_not_reaches fun y hy => by
    obtain rfl := List.mem_singleton.mp hy
    exact h

theorem append {more : List Effect} (h : NoPage effects) (hmore : NoPage more) :
    NoPage (effects ++ more) :=
  fun x hx => (List.mem_append.mp hx).elim (h x) (hmore x)

theorem woken (g : Gateway) (now : Nat) (lane : Lane) (e : Admission.Event) :
    NoPage (g.atGate now lane e).2.1 :=
  of_not_reaches fun x hx id t ht => by
    obtain ⟨i, rfl⟩ := woken_wakes g now lane e x hx
    cases ht

theorem answer (g : Gateway) (now : Nat) (v : Visit) (r : Reply) : NoPage (g.answer now v r).1 :=
  of_not_reaches fun _ hx _ _ => (turnedAway_answer g now v r).not_reaches hx

theorem send {q : Request} : NoPage (g.send id q r).1 := single nofun

theorem follow {p : ReadProgress} (hload : ∀ c, p ≠ .load c)
    (hask : ∀ q, p = .ask q → Task.isPaged (.pending q) = false) : NoPage (g.follow now v p).1 := by
  cases p with
  | load c => exact absurd rfl (hload c)
  | ask q =>
    intro x hx id t ht
    obtain rfl := List.mem_singleton.mp hx
    cases ht
    exact hask q rfl
  | done o => exact answer g now v (outcomeReply o)
  | failed f => exact (woken g now v.lane (.leave v.id)).append (single nofun)
  | missed => exact nil
  | nothing => exact nil

end NoPage

-- ---------------------------------------------------------------------------
-- Steps
-- ---------------------------------------------------------------------------

/-- What a visit does that is let in: it is turned away by its method or by what is wrong with its
path or its query, or does its task. -/
theorem work_cases (g : Gateway) (m : Moment) (v : Visit) :
    (v.request.isRead = false ∧ TurnedAway g v.id 405 (g.work m v)) ∨
    (v.request.isRead = true ∧
      ((∃ r, v.target.route.task m.clock v.target.values v.query = .error r ∧
          TurnedAway g v.id r.status (g.work m v)) ∨
        ∃ t, v.target.route.task m.clock v.target.values v.query = .ok t ∧
          g.work m v = (g.begun v).perform m { v with phase := .working } t)) := by
  have haway : ∀ r, TurnedAway g v.id r.status
      ((g.begun v).answer m.now { v with phase := .working } r) := fun r =>
    have h := turnedAway_answer (g.begun v) m.now { v with phase := .working } r
    ⟨h.replied, h.reader⟩
  unfold work
  dsimp only
  split
  · rename_i hread
    exact .inl ⟨by simpa using hread, haway .methodNotAllowed⟩
  · rename_i hread
    refine .inr ⟨by simpa using hread, ?_⟩
    unfold Visit.query
    split
    · rename_i r htask
      exact .inl ⟨r, htask, haway r⟩
    · rename_i c htask
      exact .inr ⟨.read c, htask, rfl⟩
    · rename_i q htask
      exact .inr ⟨.pending q, htask, rfl⟩

/-- Of a task that is done just that reaches the store or the pool. -/
theorem reaches_of_perform {t' : Task} (hn : g.reader.Numbered)
    (hnew : g.reader.find? v.id = none) (hx : x ∈ (g.perform m v t').1) (ht : x.Reaches id t) :
    v.id = id ∧ t' = t := by
  cases t' with
  | read c =>
    unfold perform Gateway.read at hx
    dsimp only at hx
    obtain ⟨o, ho⟩ | hload := Reader.start_progress hn hnew m.instant c
    · rw [ho] at hx
      exact absurd ht ((turnedAway_answer _ m.now v _).not_reaches hx)
    · rw [hload] at hx
      obtain rfl := List.mem_singleton.mp hx
      cases ht
      exact ⟨rfl, rfl⟩
  | pending q =>
    unfold perform at hx
    dsimp only at hx
    split at hx
    · obtain rfl := List.mem_singleton.mp hx
      cases ht
      exact ⟨rfl, rfl⟩
    · exact absurd ht ((turnedAway_answer _ m.now v _).not_reaches hx)

theorem reaches_of_work (hn : g.reader.Numbered) (hnew : g.reader.find? v.id = none)
    (hx : x ∈ (g.work m v).1) (ht : x.Reaches id t) :
    v.id = id ∧ v.request.isRead = true ∧
      v.target.route.task m.clock v.target.values v.query = .ok t := by
  obtain ⟨-, haway⟩ | ⟨hread, ⟨r, -, haway⟩ | ⟨t', htask, hwork⟩⟩ := work_cases g m v
  · exact absurd ht (haway.not_reaches hx)
  · exact absurd ht (haway.not_reaches hx)
  · rw [hwork] at hx
    obtain ⟨hid, rfl⟩ := reaches_of_perform (g := g.begun v) hn hnew hx ht
    exact ⟨hid, hread, htask⟩

theorem Admits.of_enter (g : Gateway) (m : Moment) (id : Nat) (q : Request) {target : ApiMatch}
    (lane : Lane) (waited : Nat) (hplain : ¬(g.settings.crossOrigin ∧ q.method = "OPTIONS"))
    (hd : Destination.find? q.lowercasePath.target.path = some (.api target)) :
    let lane' := g.classifier.classify target.lanePath
    let entered := g.atGate m.now lane' (.enter id q.lowercasePath.client lane')
    entered.1 = .admitted lane waited →
      g.Admits m (.arrive id q) ⟨id, q.lowercasePath, target, lane', .queued⟩ entered.2.2 :=
  fun ha => .comer hplain hd rfl (Prod.ext ha (Prod.eta _).symm)

/-- A visit that is not let in asks for no page. -/
theorem noPage_decided {a : Answer} (h : ∀ lane waited, a ≠ .admitted lane waited) :
    NoPage (g.decided m v a).1 := by
  cases a with
  | admitted lane waited => exact absurd rfl (h lane waited)
  | rejected d => exact .send
  | failed f => exact .single nofun
  | waiting => exact .nil
  | left lane => exact .nil
  | nothing => exact .nil

/-- Just a visit that is let in asks for a page. -/
theorem NoPage.of_step (h : ∀ v g', ¬g.Admits m e v g') : NoPage (g.step m e).1 := by
  cases e with
  | arrive id q =>
    unfold step arrive
    dsimp only
    split
    · exact .single nofun
    · rename_i hplain
      split
      · exact .send
      · exact .send
      · exact .send
      · rename_i target hd
        obtain ⟨-, hs⟩ | ⟨-, hs⟩ := enter_cases g m id q.lowercasePath target
        · rw [hs]
          exact .single nofun
        · rw [hs]
          exact noPage_decided fun lane waited ha => h _ _ (.of_enter g m id q lane waited hplain hd ha)
  | look id expired =>
    refine visit_cases (P := fun s => NoPage s.1) .nil fun v hid hv => ?_
    obtain rfl : v.id = id := find?_id hid
    split
    · rename_i hq
      unfold look
      dsimp only
      refine noPage_decided fun lane waited ha => ?_
      exact h _ _ (@Admits.waiter g m v expired lane waited _ _ hv hq (Prod.ext ha (Prod.eta _).symm))
    · exact .nil
  | loaded id o =>
    refine visit_cases (P := fun s => NoPage s.1) .nil fun v _ _ => ?_
    obtain ⟨hload, hask⟩ := Reader.loaded_progress g.reader m.instant id o
    exact .follow hload hask
  | broken id f =>
    refine visit_cases (P := fun s => NoPage s.1) .nil fun v _ _ => ?_
    exact .follow nofun nofun
  | asked id o =>
    refine visit_cases (P := fun s => NoPage s.1) .nil fun v _ _ => ?_
    obtain ⟨hload, hask⟩ := Reader.asked_progress g.reader m.instant id o
    split
    · exact .follow hload fun q hq => absurd hq (hask q)
    · exact .answer g m.now v (outcomeReply o)
  | cancel id =>
    refine visit_cases (P := fun s => NoPage s.1) .nil fun v _ _ => ?_
    unfold cancel
    split
    · exact .woken g m.now v.lane (.cancel v.id v.lane)
    · exact .woken { g with reader := g.reader.abandon v.id } m.now v.lane (.leave v.id)

-- ---------------------------------------------------------------------------
-- Visits that are let in
-- ---------------------------------------------------------------------------

namespace Admits

/-- Nothing is read for a visit before it is let in, nor in the course of that. -/
theorem reader_eq (h : g.Admits m e v g') : g'.reader = g.reader := by
  cases h with
  | @comer id q target lane _ _ _ _ hplain hd hlane hgate =>
    have hkept : (g.atGate m.now lane (.enter id q.lowercasePath.client lane)).2.2.reader =
      g.reader := rfl
    rwa [hgate] at hkept
  | @waiter _ expired _ _ _ _ hv hq hgate =>
    have hkept : (g.atGate m.now v.lane (.look v.id v.lane expired)).2.2.reader = g.reader := rfl
    rwa [hgate] at hkept

theorem unread (h : g.Admits m e v g') (ha : g.Attended) (hf : e.Fits g) :
    g'.reader.Numbered ∧ g'.reader.find? v.id = none := by
  rw [h.reader_eq]
  refine ⟨ha.numbered, ?_⟩
  cases h with
  | comer => exact ha.reads_none fun v hv => nomatch hf.symm.trans hv
  | waiter hv hq => exact ha.reads_none_of_queued hv hq

theorem leads {c : Classifier} (h : g.Admits m e v g') (hg : g.Filed c) :
    ∃ segments, Leads v.request.target.path v.target segments :=
  find?_leads ((h.filed hg).visits find?_begun).leads

end Admits

/-- A visit that is turned away once it is let in is turned away by the whole step. -/
theorem Admits.turnedAway {status : Nat} (h : g.Admits m e v g')
    (haway : TurnedAway g' v.id status (g'.work m v)) : TurnedAway g v.id status (g.step m e) := by
  rw [h.step_eq]
  exact ⟨haway.replied, haway.reader.trans h.reader_eq⟩

theorem Admits.asks {q : PendingQuery} (h : g.Admits m e v g') (hread : v.request.isRead = true)
    (htask : v.target.route.task m.clock v.target.values v.query = .ok (.pending q))
    (hpool : g.reader.hasPool = true) : (g.step m e).1 = [.ask v.id q] := by
  rw [h.step_eq]
  obtain ⟨hmethod, -⟩ | ⟨-, ⟨r, hr, -⟩ | ⟨t, ht, hwork⟩⟩ := work_cases g' m v
  · cases hmethod.symm.trans hread
  · cases htask.symm.trans hr
  · obtain rfl := Except.ok.inj (htask.symm.trans ht)
    have hpool : (g'.begun v).reader.hasPool = true := by
      rw [← h.reader_eq] at hpool
      exact hpool
    rw [hwork, perform, if_pos hpool]

/-- What reaches the store or the pool of a page, in a step, is asked for by a visit that is let in,
for the page that its query asks for. -/
theorem pages_of_reaches {c : Classifier} (ha : g.Attended) (hg : g.Filed c) (hf : e.Fits g)
    (hx : x ∈ (g.step m e).1) (ht : x.Reaches id t) (hp : t.isPaged = true) :
    ∃ v g' n, g.Admits m e v g' ∧ v.id = id ∧ v.request.isRead = true ∧ AsksSize v.query n ∧
      1 ≤ n ∧ n ≤ 100 ∧ t.Pages n (tokenGiven v.query) := by
  by_cases hadmits : ∃ v g', g.Admits m e v g'
  · obtain ⟨v, g', h⟩ := hadmits
    obtain ⟨hn, hnew⟩ := h.unread ha hf
    rw [h.step_eq] at hx
    obtain ⟨hid, hread, htask⟩ := reaches_of_work hn hnew hx ht
    obtain ⟨segments, hleads⟩ := h.leads hg
    obtain ⟨n, hsize, hpages⟩ := Route.pages_of_task hleads.route hleads.parts htask hp
    exact ⟨v, g', n, h, hid, hread, hsize, hsize.mem.1, hsize.mem.2, hpages⟩
  · have hnone := NoPage.of_step fun v g' h => hadmits ⟨v, g', h⟩
    cases hp.symm.trans (hnone x hx id t ht)

/-- A visit that is let in by a route with a page, and whose path can be read, asks for the page
that its query asks for. A query that asks for no size, or that cannot be read, is turned away, and
so is a request that is not to read. Nothing else reaches the store or the pool of a page. -/
theorem Reached.pages_bounded (h : Gateway.new settings hasPool = .ok g₀) (hr : Reached g₀ g)
    (hf : e.Fits g) :
    (∀ v g', g.Admits m e v g' → v.target.route.endpoint.isPaged = true →
      (∃ arguments, v.target.route.pathArguments v.target.values = .ok arguments) →
      (v.request.isRead = false → TurnedAway g v.id 405 (g.step m e)) ∧
      (v.request.isRead = true →
        (¬∃ n, AsksSize v.query n) ∨ ¬v.target.route.Readable v.query →
        TurnedAway g v.id 400 (g.step m e)) ∧
      (v.request.isRead = true → ∀ n, AsksSize v.query n → v.target.route.Readable v.query →
        ∃ t, t.Pages n (tokenGiven v.query) ∧
          g.step m e = (g'.begun v).perform m { v with phase := .working } t)) ∧
    ∀ x ∈ (g.step m e).1, ∀ id t, x.Reaches id t → t.isPaged = true →
      ∃ v g' n, g.Admits m e v g' ∧ v.id = id ∧ v.request.isRead = true ∧ AsksSize v.query n ∧
        1 ≤ n ∧ n ≤ 100 ∧ t.Pages n (tokenGiven v.query) := by
  obtain ⟨c, -, hfiled⟩ := filed_of_new h
  have hg := hr.filed hfiled
  have ha := hr.attended (.new h)
  refine ⟨fun v g' hadmits hp ⟨arguments, hpath⟩ => ?_, fun x hx id t ht hp =>
    pages_of_reaches ha hg hf hx ht hp⟩
  obtain ⟨segments, hleads⟩ := hadmits.leads hg
  have htask := Route.task_paged hleads.route hp hleads.parts hpath m.clock v.query
  obtain ⟨hmethod, h405⟩ | ⟨hread, hwork⟩ := work_cases g' m v
  · refine ⟨fun _ => hadmits.turnedAway h405, fun hread => ?_, fun hread => ?_⟩
    · cases hmethod.symm.trans hread
    · cases hmethod.symm.trans hread
  · refine ⟨fun hmethod => ?_, fun _ hbad => ?_, fun _ n hn hreadable => ?_⟩
    · cases hmethod.symm.trans hread
    · obtain ⟨n, t, hn, hreadable, -, -⟩ | ⟨-, reply, hreply, hstatus⟩ := htask
      · exact absurd hbad (not_or.mpr ⟨not_not.mpr ⟨n, hn⟩, not_not.mpr hreadable⟩)
      · obtain ⟨r, hr, hturned⟩ | ⟨t, ht, -⟩ := hwork
        · obtain rfl := Except.error.inj (hreply.symm.trans hr)
          exact hstatus ▸ hadmits.turnedAway hturned
        · cases hreply.symm.trans ht
    · obtain ⟨n', t, hn', -, ht, hpages⟩ | ⟨hbad, -⟩ := htask
      · obtain rfl := hn'.unique hn
        obtain ⟨r, hr, -⟩ | ⟨t', ht', hstep⟩ := hwork
        · cases ht.symm.trans hr
        · obtain rfl := Except.ok.inj (ht.symm.trans ht')
          exact ⟨t, hpages, hadmits.step_eq.trans hstep⟩
      · exact absurd hbad (not_or.mpr ⟨not_not.mpr ⟨n, hn⟩, not_not.mpr hreadable⟩)

/-- A gateway with the standard settings that has just been set up. -/
def idle (hasPool : Bool) : Gateway :=
  ⟨Settings.standard, ⟨[Classifier.adjacentFlips]⟩,
    ⟨.ofSeconds 60, .new 0 (.ofSeconds 30), .new 50, .new 1, [], ⟨0, 0, 0⟩⟩,
    .new (.standardWith .standard PolicyTable.standardPermanentTtl) hasPool,
    .new Settings.standard.pacing, .start, []⟩

theorem new_standard (hasPool : Bool) : Gateway.new Settings.standard hasPool = .ok (idle hasPool) :=
  new_of_ok rfl rfl Classifier.ofPatterns_standardPattern rfl

theorem find?_epochs : Destination.find? (Text.asciiLowercase "/api/epochs") =
    some (.api ⟨plain ["epochs"] .epochs paged, [], "/epochs"⟩) := by
  decide +kernel

theorem not_asksSize_zero : ¬∃ n, AsksSize "limit=0" n := by
  rintro ⟨n, hn⟩
  have hvalue : QueryArgument.limitField.values "limit=0" = ["0"] := by decide +kernel
  obtain ⟨hread, hlow, -⟩ := (asksSize_of_once hvalue).mp hn
  cases hread
  exact absurd hlow (by decide)

/-- A page of five from the start, asked for with an empty token, and a page of none. -/
theorem Reached.pages_bounded_of_five :
    let q : String → Request := fun query => ⟨"GET", ⟨none, none, "/api/epochs", some query⟩, [], none⟩
    let m : Moment := ⟨0, ⟨0, 0⟩⟩
    ∃ g₀ v g' w g'', Gateway.new Settings.standard false = .ok g₀ ∧
      g₀.Admits m (.arrive 0 (q "count=5&continuationToken=")) v g' ∧
      (∃ t, t.Pages 5 (some "") ∧ g₀.step m (.arrive 0 (q "count=5&continuationToken=")) =
        (g'.begun v).perform m { v with phase := .working } t) ∧
      g₀.Admits m (.arrive 0 (q "limit=0")) w g'' ∧
      TurnedAway g₀ 0 400 (g₀.step m (.arrive 0 (q "limit=0"))) := by
  intro q m
  let target : ApiMatch := ⟨plain ["epochs"] .epochs paged, [], "/epochs"⟩
  have hpath : ∃ arguments, target.route.pathArguments target.values = .ok arguments := ⟨[], rfl⟩
  have hfive := Admits.of_enter (idle false) m 0 (q "count=5&continuationToken=") .standard 0
    (by decide) find?_epochs (by decide +kernel)
  have hnone := Admits.of_enter (idle false) m 0 (q "limit=0") .standard 0 (by decide) find?_epochs
    (by decide +kernel)
  have hlimit : QueryArgument.limitField.values "count=5&continuationToken=" = ["5"] := by
    decide +kernel
  have htoken : QueryArgument.tokenField.values "count=5&continuationToken=" = [""] := by
    decide +kernel
  have hsize : AsksSize "count=5&continuationToken=" 5 :=
    .given hlimit (Text.readNatural_eq_ok.mp (by decide)) (by decide) (by decide)
  have hreadable : target.route.Readable "count=5&continuationToken=" := by
    have hfields : target.route.endpoint.fields ++ target.route.unused =
      [QueryArgument.limitField, QueryArgument.tokenField] := rfl
    rw [Route.Readable, hfields]
    intro f hf
    obtain rfl | rfl : f = QueryArgument.limitField ∨ f = QueryArgument.tokenField := by
      simpa using hf
    · exact ⟨some (.number 5), hlimit ▸ .once rfl⟩
    · exact ⟨some (.text ""), htoken ▸ .once rfl⟩
  have hstart : Reached (idle false) (idle false) := .start
  have htold := hstart.pages_bounded (new_standard false) (m := m)
    (e := .arrive 0 (q "count=5&continuationToken=")) rfl
  have hturned := hstart.pages_bounded (new_standard false) (m := m)
    (e := .arrive 0 (q "limit=0")) rfl
  obtain ⟨t, hpages, hstep⟩ := (htold.1 _ _ hfive rfl hpath).2.2 rfl 5 hsize hreadable
  have hpages : t.Pages 5 (tokenGiven "count=5&continuationToken=") := hpages
  rw [tokenGiven, htoken] at hpages
  exact ⟨idle false, _, _, _, _, new_standard false, hfive, ⟨t, hpages, hstep⟩, hnone,
    (hturned.1 _ _ hnone rfl hpath).2.1 rfl (.inl not_asksSize_zero)⟩

/-- A request that is not to read is turned away by its method, whatever size it asks for, and the
pool is listed alike whatever token a query gives. -/
theorem page_unread_of_post :
    let m : Moment := ⟨0, ⟨0, 0⟩⟩
    let post : Request := ⟨"POST", ⟨none, none, "/api/epochs", some "limit=0"⟩, [], none⟩
    let list : String → Request := fun query =>
      ⟨"GET", ⟨none, none, "/api/mempool/txs", some query⟩, [], none⟩
    Gateway.new Settings.standard true = .ok (idle true) ∧
      (∃ v g', (idle true).Admits m (.arrive 0 post) v g' ∧
        v.target.route.endpoint.isPaged = true ∧
        (∃ arguments, v.target.route.pathArguments v.target.values = .ok arguments) ∧
        (¬∃ n, AsksSize v.query n) ∧
        TurnedAway (idle true) 0 405 ((idle true).step m (.arrive 0 post)) ∧
        ¬TurnedAway (idle true) 0 400 ((idle true).step m (.arrive 0 post))) ∧
      tokenGiven "continuationToken=a" = some "a" ∧
      ((idle true).step m (.arrive 0 (list "continuationToken=a"))).1 = [.ask 0 (.all 30)] ∧
      tokenGiven "" = none ∧
      ((idle true).step m (.arrive 0 (list ""))).1 = [.ask 0 (.all 30)] := by
  intro m post list
  have hadmits := Admits.of_enter (idle true) m 0 post .standard 0 (by decide) find?_epochs
    (by decide +kernel)
  have hlisting : Destination.find? (Text.asciiLowercase "/api/mempool/txs") =
      some (.api ⟨⟨[.literal "mempool", .literal "txs"], .pending .all, []⟩, [], "/mempool/txs"⟩) := by
    decide +kernel
  have htoken := Admits.of_enter (idle true) m 0 (list "continuationToken=a") .standard 0 (by decide)
    hlisting (by decide +kernel)
  have hnone := Admits.of_enter (idle true) m 0 (list "") .standard 0 (by decide) hlisting
    (by decide +kernel)
  have hread : Query.read ((Endpoint.pending .all).fields ++ []) "continuationToken=a" =
      .ok ⟨[("continuationToken", .text "a")]⟩ := by decide +kernel
  have htask : Route.task ⟨[.literal "mempool", .literal "txs"], .pending .all, []⟩ m.clock []
      "continuationToken=a" = .ok (.pending (.all 30)) := by
    unfold Route.task
    rw [hread]
    rfl
  have haway : TurnedAway (idle true) 0 405 ((idle true).step m (.arrive 0 post)) := by
    obtain ⟨-, haway⟩ | ⟨hread, -⟩ := work_cases _ m _
    · exact hadmits.turnedAway haway
    · cases hread
  refine ⟨new_standard true, ⟨_, _, hadmits, rfl, ⟨[], rfl⟩, not_asksSize_zero, haway, fun h => ?_⟩,
    by decide +kernel, htoken.asks rfl htask rfl, rfl, hnone.asks rfl rfl rfl⟩
  exact absurd (haway.unique h) (by decide)

end Gateway
end ChainGateway
