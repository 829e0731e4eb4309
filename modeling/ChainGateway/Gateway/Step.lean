import ChainGateway.Gateway.Basic
import ChainGateway.Metrics.PathLabel
import ChainGateway.Web.CrossOrigin
import ChainGateway.Web.Envelope

/-!
# How requests are served

A request for a route below `/api` has to be admitted before anything is read for it,
and gives its ticket back on every way out. Everything that takes time is an effect:
waiting for a slot, calling the store, asking the pool. What comes of it is an event.
-/

namespace ChainGateway.Gateway

open Web Admission Cache Metrics

inductive Event
  | arrive (id : Nat) (r : Request)
  /-- A queued visit looks whether it was handed a slot; `expired` when its time is up. -/
  | look (id : Nat) (expired : Bool)
  /-- The store has answered. -/
  | loaded (id : Nat) (o : Outcome)
  /-- The store broke down over a call. -/
  | broken (id : Nat) (f : Fault)
  /-- The pool has answered. -/
  | asked (id : Nat) (o : Outcome)
  /-- The caller has gone. -/
  | cancel (id : Nat)

inductive Effect
  | reply (id : Nat) (r : Reply)
  /-- The request ends without a reply. -/
  | fail (id : Nat) (f : Fault)
  /-- The visit looks again when this time is up. -/
  | wait (id millis : Nat)
  /-- The visit was handed a slot. -/
  | wake (id : Nat)
  | load (id : Nat) (c : Call)
  | ask (id : Nat) (q : PendingQuery)

/-! ## Replies -/

/-- Replies to a request, and counts it. -/
def send (g : Gateway) (id : Nat) (q : Request) (r : Reply) : List Effect × Gateway :=
  let r := if q.method = "HEAD" then r.head else r
  let label := ⟨q.method, PathLabel.ofPath q.target.path, r.status⟩
  ([.reply id (if g.settings.crossOrigin then r.shared else r)],
    { g with meters := g.meters.countRequest label })

def outcomeReply : Outcome → Reply
  | .ok a => .json 200 (Envelope.ofAnswer a)
  | .error e => (Problem.ofReadError e).toReply

def noPool : Problem := .new .serviceUnavailable "Mempool source is not configured"

/-! ## Admission -/

/-- Lets something happen at the gate, and counts it. -/
def atGate (g : Gateway) (now : Nat) (lane : Lane) (e : Admission.Event) :
    Answer × List Effect × Gateway :=
  let (answer, woken, gate) := g.gate.step now e
  (answer, (woken.map Effect.wake).toList,
    { g with gate := gate, meters := g.meters.note lane answer })

/-- Closes a visit that holds a ticket. -/
def leave (g : Gateway) (now : Nat) (v : Visit) : List Effect × Gateway :=
  let (_, woken, g) := g.atGate now v.lane (.leave v.id)
  (woken, g.dropVisit v.id)

/-- Closes a visit that holds a ticket, with a reply. -/
def answer (g : Gateway) (now : Nat) (v : Visit) (r : Reply) : List Effect × Gateway :=
  let (woken, g) := g.leave now v
  let (sent, g) := g.send v.id v.request r
  (woken ++ sent, g)

/-! ## Work -/

/-- Goes on with the read of a visit. -/
def follow (g : Gateway) (now : Nat) (v : Visit) (p : ReadProgress) : List Effect × Gateway :=
  match p with
  | .load c => ([.load v.id c], g)
  | .ask q => ([.ask v.id q], g)
  | .done o => g.answer now v (outcomeReply o)
  | .failed f =>
    let (woken, g) := g.leave now v
    (woken ++ [.fail v.id f], g)
  | .missed | .nothing => ([], g)

/-- Takes a step of the read of a visit. -/
def read (g : Gateway) (now : Nat) (v : Visit) (step : Reader → ReadProgress × Reader) :
    List Effect × Gateway :=
  let (progress, reader) := step g.reader
  { g with reader := reader }.follow now v progress

/-- Does what an admitted visit asks for. -/
def work (g : Gateway) (m : Moment) (v : Visit) : List Effect × Gateway :=
  let v := { v with phase := .working }
  let g := g.putVisit v
  if !v.request.isRead then g.answer m.now v .methodNotAllowed
  else
    match v.target.route.task m.clock v.target.values (v.request.target.query.getD "") with
    | .error r => g.answer m.now v r
    | .ok (.read c) => g.read m.now v (·.start m.instant v.id c)
    | .ok (.pending q) =>
      if g.reader.hasPool then ([.ask v.id q], g) else g.answer m.now v noPool.toReply

/-! ## Events -/

/-- Goes on with a visit after the gate's answer. -/
def decided (g : Gateway) (m : Moment) (v : Visit) : Answer → List Effect × Gateway
  | .admitted .. => g.work m v
  | .rejected r => (g.dropVisit v.id).send v.id v.request (Problem.ofRejection r).toReply
  | .failed f => ([.fail v.id f], g.dropVisit v.id)
  | .waiting | .left _ | .nothing => ([], g)

/-- A request for a route below `/api` comes to the gate. -/
def enter (g : Gateway) (m : Moment) (id : Nat) (r : Request) (target : ApiMatch) :
    List Effect × Gateway :=
  let lane := g.classifier.classify target.lanePath
  let v : Visit := ⟨id, r, target, lane, .queued⟩
  let (answer, _, g) := g.atGate m.now lane (.enter id r.client lane)
  match answer with
  | .waiting => ([.wait id (g.gate.patience m.now)], g.putVisit v)
  | answer => g.decided m v answer

def arrive (g : Gateway) (m : Moment) (id : Nat) (r : Request) : List Effect × Gateway :=
  let r := r.lowercasePath
  let destination := Destination.find? r.target.path
  if g.settings.crossOrigin ∧ r.method = "OPTIONS" then
    ([.reply id (.preflight destination.isSome)], g)
  else
    match destination with
    | none => g.send id r (.empty 404)
    | some .health => g.send id r (if r.isRead then g.healthReply m.now else .methodNotAllowed)
    | some .metrics => g.send id r (if r.isRead then g.metricsReply else .methodNotAllowed)
    | some (.api target) => g.enter m id r target

def look (g : Gateway) (m : Moment) (v : Visit) (expired : Bool) : List Effect × Gateway :=
  let (answer, _, g) := g.atGate m.now v.lane (.look v.id v.lane expired)
  g.decided m v answer

def cancel (g : Gateway) (now : Nat) (v : Visit) : List Effect × Gateway :=
  match v.phase with
  | .queued =>
    let (_, woken, g) := g.atGate now v.lane (.cancel v.id v.lane)
    (woken, g.dropVisit v.id)
  | .working => { g with reader := g.reader.abandon v.id }.leave now v

/-- The effects of an event and the gateway after it. -/
def step (g : Gateway) (m : Moment) : Event → List Effect × Gateway
  | .arrive id r => g.arrive m id r
  | .look id expired =>
    match g.find? id with
    | some v => if v.phase = .queued then g.look m v expired else ([], g)
    | none => ([], g)
  | .loaded id o =>
    match g.find? id with
    | some v => g.read m.now v (·.loaded m.instant id o)
    | none => ([], g)
  | .broken id f =>
    match g.find? id with
    | some v => { g with reader := g.reader.abandon id }.follow m.now v (.failed f)
    | none => ([], g)
  | .asked id o =>
    match g.find? id with
    | some v =>
      if (g.reader.find? id).isSome then g.read m.now v (·.asked m.instant id o)
      else g.answer m.now v (outcomeReply o)
    | none => ([], g)
  | .cancel id =>
    match g.find? id with
    | some v => g.cancel m.now v
    | none => ([], g)

end ChainGateway.Gateway
