import ChainGateway.Proofs.Text.LowerLaws
import ChainGateway.Proofs.Text.PieceLaws
import ChainGateway.Web.Site

/-!
# Where paths lead

A path that leads to a route below `/api` is `/api` with a path behind it whose segments are those
of the route. The text by which it is classified is what is behind `/api`, in lower case; it starts
and ends as the route does.
-/

namespace ChainGateway

open Text

namespace Web

variable {parts : List PathPart} {segments values : List (List Char)} {word path : String}
  {t : ApiMatch}

-- ---------------------------------------------------------------------------
-- Segments
-- ---------------------------------------------------------------------------

/-- A route that begins with a word matches what begins with it. -/
theorem matchParts_head (h : matchParts parts segments = some values)
    (hp : parts.head? = some (.literal word)) : ∃ more, segments = word.toList :: more := by
  cases parts with
  | nil => cases hp
  | cons p parts =>
    obtain rfl := Option.some.inj hp
    cases segments with
    | nil => simp [matchParts] at h
    | cons segment segments =>
      rw [matchParts] at h
      split at h
      · rename_i hs
        exact ⟨segments, congrArg (· :: segments) hs⟩
      · cases h

/-- Every part of a route takes a segment. -/
theorem matchParts_cons {p : PathPart} {segment : List Char}
    (h : matchParts (p :: parts) (segment :: segments) = some values) :
    ∃ values, matchParts parts segments = some values := by
  cases p with
  | literal word =>
    rw [matchParts] at h
    split at h
    · exact ⟨values, h⟩
    · cases h
  | number name | text name =>
    rw [matchParts] at h
    split at h
    · cases h
    · obtain ⟨values, hv, -⟩ := Option.map_eq_some_iff.mp h
      exact ⟨values, hv⟩

theorem matchParts_length (h : matchParts parts segments = some values) :
    parts.length = segments.length := by
  induction parts generalizing segments values with
  | nil =>
    cases segments with
    | nil => rfl
    | cons segment segments => simp [matchParts] at h
  | cons p parts ih =>
    cases segments with
    | nil => cases p <;> simp [matchParts] at h
    | cons segment segments =>
      obtain ⟨values, hv⟩ := matchParts_cons h
      rw [List.length_cons, List.length_cons, ih hv]

/-- A route that ends with a word matches what ends with it. -/
theorem matchParts_last (h : matchParts parts segments = some values)
    (hp : parts.getLast? = some (.literal word)) : segments.getLast? = some word.toList := by
  induction parts generalizing segments values with
  | nil => cases hp
  | cons p parts ih =>
    cases segments with
    | nil => cases p <;> simp [matchParts] at h
    | cons segment segments =>
      cases parts with
      | nil =>
        obtain ⟨more, hs⟩ := matchParts_head h hp
        have hlength := matchParts_length h
        obtain rfl : segments = [] := List.eq_nil_of_length_eq_zero (by simpa using hlength.symm)
        rw [(List.cons_eq_cons.mp hs).1]
        rfl
      | cons r parts =>
        obtain ⟨values, hv⟩ := matchParts_cons h
        have hlast := ih hv (by rw [← hp, List.getLast?_cons_cons])
        cases segments with
        | nil => cases hlast
        | cons segment' segments => rw [List.getLast?_cons_cons, hlast]

-- ---------------------------------------------------------------------------
-- Paths
-- ---------------------------------------------------------------------------

/-- A path that leads to a route. -/
structure Leads (path : String) (t : ApiMatch) (segments : List (List Char)) : Prop where
  route : t.route ∈ apiRoutes
  parts : matchParts t.route.parts segments = some t.values
  split : path.toList = ['/', 'a', 'p', 'i'] ++ t.path.toList
  behind : t.path.toList = '/' :: joined ['/'] segments

theorem find?_leads (h : Destination.find? path = some (.api t)) :
    ∃ segments, Leads path t segments := by
  unfold Destination.find? at h
  split at h
  · split at h
    · cases h
    · split at h <;> cases h
  · rename_i segment segments hne hsegments
    split at h
    · rename_i hapi
      obtain ⟨r, hr, hmatch⟩ := List.exists_of_findSome?_eq_some h
      obtain ⟨values, hv, ht⟩ := Option.map_eq_some_iff.mp hmatch
      cases ht
      have hpieces : pieces '/' path.toList = [] :: segment :: segments := by
        unfold pathSegments? at hsegments
        split at hsegments
        · rename_i hp
          rw [hp, Option.some.inj hsegments]
        · cases hsegments
      have hapi : segment = ['a', 'p', 'i'] := hapi.trans String.toList_ofList
      have hpath : path.toList = ['/', 'a', 'p', 'i'] ++ '/' :: joined ['/'] segments := by
        have hjoined : joined ['/'] (pieces '/' path.toList) = path.toList := joined_pieces
        rw [hpieces, joined_cons (List.cons_ne_nil _ _), joined_cons hne, hapi] at hjoined
        rw [← hjoined]
        rfl
      have hdrop : path.toList.drop "/api".length = '/' :: joined ['/'] segments := by
        rw [hpath]
        rfl
      have hbehind : (String.ofList (path.toList.drop "/api".length)).toList =
          '/' :: joined ['/'] segments := by rw [String.toList_ofList, hdrop]
      refine ⟨segments, hr, hv, ?_, hbehind⟩
      rw [hbehind, hpath]
    · cases h
  · cases h

-- ---------------------------------------------------------------------------
-- Classification
-- ---------------------------------------------------------------------------

def StartsWithApi (text : String) : Prop := ['/', 'a', 'p', 'i'] <+: text.toList

/-- Whether a route begins with a word in lower case that does not begin with `api` itself. -/
def Route.isApart (r : Route) : Bool :=
  match r.parts with
  | .literal word :: _ =>
    word.toList.all (IsLow ·) && 3 ≤ word.toList.length &&
      !(['a', 'p', 'i'].isPrefixOf word.toList)
  | _ => false

theorem apiRoutes_apart : ∀ r ∈ apiRoutes, r.isApart = true := by decide +kernel

namespace Leads

/-- Requests are classified by their path in lower case, without the `/api` in front. -/
theorem lowercase_eq (h : Leads path t segments) : lowercase path = "/api" ++ t.lanePath := by
  have hlow : ∀ c ∈ ['/', 'a', 'p', 'i'], IsLow c := low_of_all (by decide)
  have hpath : lowerFrom [] path.toList = ['/', 'a', 'p', 'i'] ++ lowerFrom [] t.path.toList := by
    rw [h.split, lowerFrom_low hlow, h.behind, lowerFrom_slash]
  rw [lowercase, hpath, String.ofList_append]
  rfl

/-- A route that ends with a low word ends so for the classifier. -/
theorem lanePath_suffix (h : Leads path t segments)
    (hp : t.route.parts.getLast? = some (.literal word)) (hlow : ∀ c ∈ word.toList, IsLow c) :
    '/' :: word.toList <:+ t.lanePath.toList := by
  have hend : '/' :: word.toList <:+ t.path.toList := by
    rw [h.behind]
    exact last_suffix (matchParts_last h.parts hp)
  rw [ApiMatch.lanePath, lowercase, String.toList_ofList]
  refine lowerFrom_suffix (fun c hc => ?_) hend
  obtain rfl | hc := List.mem_cons.mp hc
  · decide
  · exact hlow c hc

/-- No text that is classified starts with `/api`. -/
theorem lanePath_apart (h : Leads path t segments) : ¬StartsWithApi t.lanePath := by
  have hapart := apiRoutes_apart t.route h.route
  unfold Route.isApart at hapart
  split at hapart
  · rename_i word parts hparts
    simp only [Bool.and_eq_true, List.all_eq_true, decide_eq_true_eq, Bool.not_eq_true'] at hapart
    obtain ⟨⟨hlow, hlength⟩, hword⟩ := hapart
    obtain ⟨more, hsegments⟩ := matchParts_head h.parts (by rw [hparts]; rfl)
    have hstart : ∃ rest, t.path.toList = ('/' :: word.toList) ++ rest := by
      rw [h.behind, hsegments]
      cases more with
      | nil => exact ⟨[], by simp [joined]⟩
      | cons q more => exact ⟨_, by rw [joined_cons (List.cons_ne_nil q more)]; rfl⟩
    obtain ⟨rest, hstart⟩ := hstart
    have hslash : ∀ c ∈ '/' :: word.toList, IsLow c := by
      intro c hc
      obtain rfl | hc := List.mem_cons.mp hc
      · decide
      · exact hlow c hc
    rw [StartsWithApi, ApiMatch.lanePath, lowercase, String.toList_ofList, hstart,
      lowerFrom_low hslash]
    intro hapi
    have hshort : ['/', 'a', 'p', 'i'] <+: '/' :: word.toList :=
      List.prefix_of_prefix_length_le hapi (List.prefix_append _ _) (by simpa using hlength)
    have hword' : ['a', 'p', 'i'] <+: word.toList := (List.cons_prefix_cons.mp hshort).2
    rw [← List.isPrefixOf_iff_prefix, hword] at hword'
    cases hword'
  · cases hapart

end Leads
end Web
end ChainGateway
