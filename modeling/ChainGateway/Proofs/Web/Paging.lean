import ChainGateway.Proofs.Results
import ChainGateway.Proofs.Text.NumeralLaws
import ChainGateway.Proofs.Web.QueryLaws
import ChainGateway.Proofs.Web.Routing

/-!
# Pages

What size of a page a query asks for, and where the page starts, is stated on the values that the
query gives. A route whose answer is a page or a listing of the pool has its task just when the
query can be read and asks for a size, and the task is for a page of that size.
-/

namespace ChainGateway

open Web Text

/-- Whether an operation answers with a page. -/
def Operation.isPaged (op : Operation) : Bool :=
  match op.result with
  | .page _ => true
  | _ => false

namespace Web

variable {query : String} {n : Nat} {token : Option String} {r : Route} {t : Task} {q : Query}
  {clock : Timestamp} {values : List (List Char)} {arguments : List Argument}

/-- Whether a route answers with a page or a listing of the pool. -/
def Endpoint.isPaged : Endpoint → Bool
  | .read op _ => op.isPaged
  | .pending .all | .pending .ofAddress => true
  | _ => false

/-- Whether a task is to read a page or to list what is in the pool. -/
def Task.isPaged : Task → Bool
  | .read c => c.operation.isPaged
  | .pending (.all _) | .pending (.ofAddress ..) => true
  | .pending _ => false

/-- The size of a page that a query asks for: thirty unless it gives one, and it may give one from
one to a hundred. -/
inductive AsksSize (query : String) : Nat → Prop
  | standard : QueryArgument.limitField.values query = [] → AsksSize query 30
  | given {value : String} {n : Nat} : QueryArgument.limitField.values query = [value] →
    Spells maxU64 value.toList n → 1 ≤ n → n ≤ 100 → AsksSize query n

/-- Where the page starts that a query asks for, if it says so. -/
def tokenGiven (query : String) : Option String :=
  (QueryArgument.tokenField.values query).head?

/-- A task for a page of `n` items that starts at `token`. The pool is listed from its start. -/
inductive Task.Pages (n : Nat) (token : Option String) : Task → Prop
  | read {op : Operation} {before : List Argument} : op.isPaged = true →
    Pages n token (.read ⟨op, before ++ [.number n, .optionalText token]⟩)
  | all : Pages n token (.pending (.all n))
  | ofAddress {address : String} : Pages n token (.pending (.ofAddress address n))

/-- Every field that a route takes from a query can be read from it. -/
def Route.Readable (r : Route) (query : String) : Prop :=
  ∀ f ∈ r.endpoint.fields ++ r.unused, ∃ o, f.Reads (f.values query) o

-- ---------------------------------------------------------------------------
-- Sizes and tokens
-- ---------------------------------------------------------------------------

theorem asksSize_of_absent (h : QueryArgument.limitField.values query = []) :
    AsksSize query n ↔ n = 30 := by
  constructor
  · intro hn
    cases hn with
    | standard => rfl
    | given hvalue => cases h.symm.trans hvalue
  · rintro rfl
    exact .standard h

theorem asksSize_of_once {value : String} (h : QueryArgument.limitField.values query = [value]) :
    AsksSize query n ↔ readU64 value = .ok n ∧ 1 ≤ n ∧ n ≤ 100 := by
  constructor
  · intro hn
    cases hn with
    | standard hnone => cases hnone.symm.trans h
    | given hvalue hspells hlow hhigh =>
      cases h.symm.trans hvalue
      exact ⟨readNatural_eq_ok.mpr hspells, hlow, hhigh⟩
  · rintro ⟨hread, hlow, hhigh⟩
    exact .given h (readNatural_eq_ok.mp hread) hlow hhigh

theorem AsksSize.mem (h : AsksSize query n) : 1 ≤ n ∧ n ≤ 100 := by
  cases h with
  | standard => decide
  | given hvalue hspells hlow hhigh => exact ⟨hlow, hhigh⟩

theorem AsksSize.unique {k : Nat} (h : AsksSize query n) (h' : AsksSize query k) : n = k := by
  cases h with
  | standard hnone => exact ((asksSize_of_absent hnone).mp h').symm
  | given hvalue hspells =>
    have hk := ((asksSize_of_once hvalue).mp h').1
    exact Except.ok.inj ((readNatural_eq_ok.mpr hspells).symm.trans hk)

theorem pageSize_some {k : Nat} : pageSize (some k) = .ok n ↔ k = n ∧ 1 ≤ n ∧ n ≤ 100 := by
  unfold pageSize maxPageSize
  dsimp only
  constructor
  · intro h
    split at h
    · rename_i hrange
      obtain rfl := Except.ok.inj h
      exact ⟨rfl, hrange⟩
    · cases h
  · rintro ⟨rfl, hrange⟩
    exact if_pos hrange

/-- Of a size that was read, the page has that size just when the query asks for it. -/
theorem pageSize_eq_ok (h : QueryArgument.limitField.Reads
    (QueryArgument.limitField.values query) (q.value? QueryArgument.limitField)) :
    pageSize (q.number? QueryArgument.limitField) = .ok n ↔ AsksSize query n := by
  unfold Query.number?
  generalize hvalues : QueryArgument.limitField.values query = given at h
  generalize q.value? QueryArgument.limitField = o at h ⊢
  cases h with
  | absent =>
    rw [asksSize_of_absent hvalues]
    exact ⟨fun h => (Except.ok.inj h).symm, fun h => congrArg Except.ok h.symm⟩
  | @once value x hread =>
    rw [asksSize_of_once hvalues]
    cases hnat : readU64 value with
    | error fault => simp [QueryField.read, QueryArgument.limitField, hnat] at hread
    | ok k =>
      obtain rfl : .number k = x := by
        simpa [QueryField.read, QueryArgument.limitField, hnat] using hread
      rw [Except.ok.injEq]
      exact pageSize_some

theorem pageSize_error {limit : Option Nat} {p : Problem} (h : pageSize limit = .error p) :
    p.toReply.status = 400 := by
  unfold pageSize at h
  split at h
  · cases h
  · split at h
    · cases h
    · cases h
      rfl

theorem text?_tokenField (h : QueryArgument.tokenField.Reads
    (QueryArgument.tokenField.values query) (q.value? QueryArgument.tokenField)) :
    q.text? QueryArgument.tokenField = tokenGiven query := by
  unfold Query.text? tokenGiven
  generalize QueryArgument.tokenField.values query = given at h
  generalize q.value? QueryArgument.tokenField = o at h
  cases h with
  | absent => rfl
  | once hread =>
    cases hread
    rfl

-- ---------------------------------------------------------------------------
-- Routes
-- ---------------------------------------------------------------------------

/-- An argument that every query that can be read gives. -/
def QueryArgument.isFree : QueryArgument → Bool
  | .optional _ | .values _ | .switch _ => true
  | _ => false

/-- A route takes the page last, and nothing else that a query could fail to give. -/
def Route.takesPage (r : Route) : Bool :=
  match r.endpoint with
  | .read _ query =>
    query == query.take (query.length - 2) ++ paged &&
      (query.take (query.length - 2)).all QueryArgument.isFree
  | .pending .all => true
  | .pending .ofAddress => r.parameters == [.text "address"]
  | _ => false

theorem apiRoutes_takesPage : ∀ r ∈ apiRoutes, r.endpoint.isPaged = true → r.takesPage = true := by
  decide +kernel

theorem apiRoutes_fields_apart : ∀ r ∈ apiRoutes, Apart (r.endpoint.fields ++ r.unused) := by
  decide +kernel

theorem mapM_free {free : List QueryArgument} (h : free.all QueryArgument.isFree = true)
    (q : Query) : ∃ before, free.mapM (fun x => x.argument q) = .ok before := by
  induction free with
  | nil => exact ⟨[], rfl⟩
  | cons x free ih =>
    rw [List.all_cons, Bool.and_eq_true] at h
    obtain ⟨before, hbefore⟩ := ih h.2
    obtain ⟨a, ha⟩ : ∃ a, x.argument q = .ok a := by
      cases x with
      | optional | values | switch => exact ⟨_, rfl⟩
      | pageSize | pageToken | required | requiredNumber => cases h.1
    refine ⟨a :: before, ?_⟩
    rw [List.mapM_cons, ha, hbefore]
    rfl

/-- The page of a route is the last that it takes from a query. -/
theorem mapM_paged {free : List QueryArgument} (h : free.all QueryArgument.isFree = true)
    (q : Query) : ∃ before, (free ++ paged).mapM (fun x => x.argument q) =
      (pageSize (q.number? QueryArgument.limitField)).map fun n =>
        before ++ [.number n, .optionalText (q.text? QueryArgument.tokenField)] := by
  obtain ⟨before, hbefore⟩ := mapM_free h q
  refine ⟨before, ?_⟩
  rw [List.mapM_append, hbefore, paged, List.mapM_cons]
  unfold QueryArgument.argument
  cases pageSize (q.number? QueryArgument.limitField) <;> rfl

theorem matchParts_values_length {parts : List PathPart} {segments : List (List Char)}
    (h : matchParts parts segments = some values) :
    values.length = (parts.filter PathPart.isParameter).length := by
  induction parts generalizing segments values with
  | nil =>
    cases segments with
    | nil =>
      obtain rfl := Option.some.inj h
      rfl
    | cons segment segments => simp [matchParts] at h
  | cons p parts ih =>
    cases segments with
    | nil => cases p <;> simp [matchParts] at h
    | cons segment segments =>
      cases p with
      | literal word =>
        rw [matchParts] at h
        split at h
        · rw [ih h]
          rfl
        · cases h
      | number name | text name =>
        rw [matchParts] at h
        split at h
        · cases h
        · obtain ⟨values', hv, rfl⟩ := Option.map_eq_some_iff.mp h
          rw [List.length_cons, ih hv]
          rfl

/-- A route with one parameter, which is a text, has one argument from its path. -/
theorem pathArguments_text {name : String} (hp : r.parameters = [.text name])
    (hlength : values.length = 1) (ha : r.pathArguments values = .ok arguments) :
    ∃ s, arguments = [.text s] := by
  obtain ⟨segment, rfl⟩ := List.length_eq_one_iff.mp hlength
  unfold Route.pathArguments at ha
  rw [hp] at ha
  obtain ⟨decoded, hdecoded, hread⟩ := bind_ok.mp ha
  rw [List.zip_cons_cons, List.zip_nil_right, List.mapM_cons] at hdecoded
  obtain ⟨value, hvalue, hrest⟩ := bind_ok.mp hdecoded
  obtain ⟨s, -, hs⟩ := bind_ok.mp hvalue
  obtain rfl := Except.ok.inj hs
  obtain rfl := Except.ok.inj hrest
  obtain rfl := Except.ok.inj hread
  exact ⟨s, rfl⟩

/-- A route that answers with a page takes its size and where it starts. -/
theorem Route.mem_fields (h : r.takesPage = true) : QueryArgument.limitField ∈ r.endpoint.fields ∧
    QueryArgument.tokenField ∈ r.endpoint.fields := by
  unfold takesPage at h
  split at h
  · rename_i op query he
    rw [Bool.and_eq_true, beq_iff_eq] at h
    rw [he, Endpoint.fields, h.1, List.map_append]
    exact ⟨List.mem_append_right _ (by simp [paged, QueryArgument.field]),
      List.mem_append_right _ (by simp [paged, QueryArgument.field])⟩
  · rename_i he
    rw [he]
    exact ⟨.head _, .tail _ (.head _)⟩
  · rename_i he
    rw [he]
    exact ⟨.head _, .tail _ (.head _)⟩
  · cases h

/-- What a route with a page is for, once its path and its query are read: for the page of the size
that is asked for. -/
theorem Route.endpoint_task {segments : List (List Char)} (h : r.takesPage = true)
    (hp : r.endpoint.isPaged = true) (hm : matchParts r.parts segments = some values)
    (ha : r.pathArguments values = .ok arguments) (clock : Timestamp) (q : Query) :
    ∃ f : Nat → Task, r.endpoint.task clock arguments q =
        (pageSize (q.number? QueryArgument.limitField)).map f ∧
      ∀ n, (f n).Pages n (q.text? QueryArgument.tokenField) := by
  unfold takesPage at h
  split at h
  · rename_i op query he
    rw [Bool.and_eq_true, beq_iff_eq] at h
    obtain ⟨before, hbefore⟩ := mapM_paged h.2 q
    rw [← h.1] at hbefore
    rw [he] at hp ⊢
    refine ⟨fun n => .read ⟨op, (arguments ++ before) ++
      [.number n, .optionalText (q.text? QueryArgument.tokenField)]⟩, ?_, fun n => .read hp⟩
    unfold Endpoint.task
    dsimp only
    rw [hbefore]
    cases pageSize (q.number? QueryArgument.limitField) with
    | ok n => exact congrArg (fun as => Except.ok (Task.read ⟨op, as⟩)) (List.append_assoc ..).symm
    | error problem => rfl
  · rename_i he
    rw [he]
    refine ⟨fun n => .pending (.all n), ?_, fun n => .all⟩
    unfold Endpoint.task
    cases pageSize (q.number? QueryArgument.limitField) <;> rfl
  · rename_i he
    have hparameters : r.parameters = [.text "address"] := by simpa using h
    have hlength : values.length = 1 := by
      rw [matchParts_values_length hm]
      exact congrArg List.length hparameters
    obtain ⟨s, rfl⟩ := pathArguments_text hparameters hlength ha
    rw [he]
    refine ⟨fun n => .pending (.ofAddress s n), ?_, fun n => .ofAddress⟩
    unfold Endpoint.task
    cases pageSize (q.number? QueryArgument.limitField) <;> rfl
  · cases h

/-- A route with a page whose path can be read is for the page that its query asks for, or turns it
away. -/
theorem Route.task_paged {segments : List (List Char)} (hr : r ∈ apiRoutes)
    (hp : r.endpoint.isPaged = true) (hm : matchParts r.parts segments = some values)
    (ha : r.pathArguments values = .ok arguments) (clock : Timestamp) (query : String) :
    (∃ n t, AsksSize query n ∧ r.Readable query ∧ r.task clock values query = .ok t ∧
      t.Pages n (tokenGiven query)) ∨
    ((¬∃ n, AsksSize query n) ∨ ¬r.Readable query) ∧
      ∃ reply, r.task clock values query = .error reply ∧ reply.status = 400 := by
  have htakes := apiRoutes_takesPage r hr hp
  obtain ⟨hlimit, htoken⟩ := Route.mem_fields htakes
  unfold Route.task
  rw [ha]
  dsimp only
  obtain ⟨q, hq, hreads⟩ | ⟨fault, hfault, f, hf, hnot⟩ :=
    Query.read_cases (apiRoutes_fields_apart r hr) query
  · rw [hq]
    dsimp only
    have hsize := fun n => pageSize_eq_ok (n := n) (hreads _ (List.mem_append_left _ hlimit))
    have htext := text?_tokenField (hreads _ (List.mem_append_left _ htoken))
    obtain ⟨f, htask, hpages⟩ := Route.endpoint_task htakes hp hm ha clock q
    rw [htask]
    cases hpage : pageSize (q.number? QueryArgument.limitField) with
    | ok n =>
      exact .inl ⟨n, f n, (hsize n).mp hpage, fun f hf => ⟨_, hreads f hf⟩, rfl, htext ▸ hpages n⟩
    | error p =>
      refine .inr ⟨.inl ?_, p.toReply, rfl, pageSize_error hpage⟩
      rintro ⟨n, hn⟩
      cases hpage.symm.trans ((hsize n).mpr hn)
  · rw [hfault]
    refine .inr ⟨.inr fun hreadable => ?_, fault.toReply, rfl, rfl⟩
    obtain ⟨o, ho⟩ := hreadable f hf
    exact hnot o ho

/-- Only routes with a page are for pages. -/
theorem Endpoint.isPaged_of_task {e : Endpoint} (h : e.task clock arguments q = .ok t)
    (ht : t.isPaged = true) : e.isPaged = true := by
  unfold task at h
  split at h
  · obtain ⟨more, -, hmore⟩ := bind_ok.mp h
    cases hmore
    exact ht
  · cases h
    cases ht
  · rename_i name
    cases hname : BlockName.ofText name with
    | height n =>
      rw [hname] at h
      cases h
      cases ht
    | hash s =>
      rw [hname] at h
      cases h
      cases ht
  · rfl
  · rfl
  · cases h
    cases ht
  · cases h
    cases ht
  · cases h

/-- A task for a page is for the one that the query asks for. -/
theorem Route.pages_of_task {segments : List (List Char)} (hr : r ∈ apiRoutes)
    (hm : matchParts r.parts segments = some values) (h : r.task clock values query = .ok t)
    (ht : t.isPaged = true) : ∃ n, AsksSize query n ∧ t.Pages n (tokenGiven query) := by
  have hpaged : r.endpoint.isPaged = true ∧ ∃ arguments, r.pathArguments values = .ok arguments := by
    unfold task at h
    split at h
    · cases h
    · rename_i arguments ha
      split at h
      · cases h
      · split at h
        · cases h
        · rename_i htask
          obtain rfl := Except.ok.inj h
          exact ⟨Endpoint.isPaged_of_task htask ht, arguments, ha⟩
  obtain ⟨hp, arguments, ha⟩ := hpaged
  obtain ⟨n, t', hsize, -, ht', hpages⟩ | ⟨-, reply, hreply, -⟩ :=
    Route.task_paged hr hp hm ha clock query
  · obtain rfl := Except.ok.inj (ht'.symm.trans h)
    exact ⟨n, hsize, hpages⟩
  · cases hreply.symm.trans h

end Web
end ChainGateway
