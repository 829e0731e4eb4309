import ChainGateway.Proofs.Admission.RateLaws
import ChainGateway.Proofs.Net.CanonicalTexts
import ChainGateway.Proofs.Text.BlankLaws
import ChainGateway.Proofs.Text.PieceLaws
import ChainGateway.Web.Request

/-!
# Who calls

A request comes from the first address that was forwarded, else from the one that is reported as
real, else from its peer, and a header is passed over when it is no legible text or spells no
address. Since an address has one canonical text, and that is never the name for unknown callers,
requests share a client, and with it a rate budget, just when they come from the same address or
both from none.
-/

namespace ChainGateway

open Text Net

-- ---------------------------------------------------------------------------
-- Windows of a client
-- ---------------------------------------------------------------------------

namespace Admission.RateLimiter

variable {l : RateLimiter} {c d : Client}

theorem length_putWindow {w : RateWindow} {ws : List (Client × RateWindow)}
    (h : c ∈ ws.map (·.1)) : (putWindow c w ws).length = ws.length := by
  induction ws with
  | nil => cases h
  | cons x ws ih =>
    obtain ⟨e, v⟩ := x
    rw [putWindow]
    split
    · rfl
    · rename_i he
      have hrest : c ∈ ws.map (·.1) := by
        rcases List.mem_cons.mp h with h | h
        · exact absurd h.symm he
        · exact h
      rw [List.length_cons, List.length_cons, ih hrest]

/-- A client that has come before gets no second window. -/
theorem trackedClients_check (l : RateLimiter) (t u : Instant) (c : Client) :
    ((l.check t c).2.check u c).2.trackedClients = (l.check t c).2.trackedClients := by
  by_cases he : l.limit = 0
  · rw [check_of_disabled he, check_of_disabled he]
  · obtain ⟨_, w, hput⟩ := l.check_put t c he
    rw [hput l rfl rfl rfl]
    obtain ⟨_, _, hagain⟩ := (l.put c w).check_put u c he
    rw [hagain _ rfl rfl rfl]
    exact length_putWindow (mem_clients_putWindow.mpr (.inl rfl))

/-- Attempts of others leave the window of a client alone. -/
theorem find?_check (l : RateLimiter) (t : Instant) (h : c ≠ d) :
    (l.check t c).2.find? d = l.find? d := by
  by_cases he : l.limit = 0
  · rw [check_of_disabled he]
  · obtain ⟨_, w, hput⟩ := l.check_put t c he
    rw [hput l rfl rfl rfl, find?_put, if_neg h]

end Admission.RateLimiter

-- ---------------------------------------------------------------------------
-- Addresses in headers
-- ---------------------------------------------------------------------------

/-- Apart from blanks around it, the text spells the address. -/
def Names (cs : List Char) (a : Address) : Prop :=
  ∃ text, Padded text cs ∧ Address.Spells a text

theorem isBlank_of_isAddressChar {c : Char} (h : Address.IsAddressChar c) : isBlank c = false := by
  rcases h with h | rfl | rfl
  · have hrange := toNat_of_isHexDigit h
    exact isBlank_of_graphic (by omega) (by omega)
  · decide
  · decide

theorem parse?_trimList {cs : List Char} {a : Address} :
    Address.parse? (trimList cs) = some a ↔ Names cs a := by
  rw [Address.parse?_eq_some]
  constructor
  · intro h
    exact ⟨trimList cs, padded_trimList cs, h⟩
  · rintro ⟨text, hp, hs⟩
    rw [trimList_of_padded (.of_visible fun c hc => isBlank_of_isAddressChar (hs.mem c hc)) hp]
    exact hs

namespace Web.Request

variable {r s : Request} {name value : String} {a : Address} {counts : String → Prop}

/-- The request has a header of the name, and that value stands first. -/
def Has (r : Request) (name value : String) : Prop :=
  ∃ before after, r.headers = before ++ (name, value) :: after ∧ ∀ h ∈ before, h.1 ≠ name

/-- Nothing but visible ASCII characters, spaces and tabs. -/
def Legible (value : String) : Prop :=
  ∀ c ∈ value.toList, c = '\t' ∨ (32 ≤ c.toNat ∧ c.toNat < 127)

theorem find?_header : r.headers.find? (fun h => h.1 = name) = some (name, value) ↔
    r.Has name value := by
  rw [List.find?_eq_some_iff_append]
  simp [Has]

theorem header?_eq_some : r.header? name = some value ↔ r.Has name value ∧ Legible value := by
  rw [← find?_header, header?]
  cases hfound : r.headers.find? fun h => h.1 = name with
  | none => simp
  | some h =>
    obtain ⟨n, v⟩ := h
    obtain rfl : n = name := by simpa using List.find?_some hfound
    have hlegible : (v.toList.all fun c => c = '\t' || (32 ≤ c.toNat && c.toNat < 127)) = true ↔
        Legible v := by simp [Legible]
    simp only [Option.bind_eq_bind, Option.bind_some, hlegible, Option.some.injEq, Prod.mk.injEq,
      true_and, Option.ite_none_right_eq_some]
    exact ⟨fun ⟨hv, he⟩ => ⟨he, he ▸ hv⟩, fun ⟨he, hv⟩ => ⟨he ▸ hv, he⟩⟩

-- ---------------------------------------------------------------------------
-- Where a request comes from
-- ---------------------------------------------------------------------------

/-- A header that counts has forwarded the request for the address, the first one it lists. -/
def ForwardedFor (counts : String → Prop) (r : Request) (a : Address) : Prop :=
  ∃ value, r.Has "x-forwarded-for" value ∧ counts value ∧
    ∃ first more, pieces ',' value.toList = first :: more ∧ Names first a

/-- A header that counts reports the address as real. -/
def Reports (counts : String → Prop) (r : Request) (a : Address) : Prop :=
  ∃ value, r.Has "x-real-ip" value ∧ counts value ∧ Names value.toList a

/-- The address that a request comes from, or none, as far as headers count. -/
inductive Origin (counts : String → Prop) (r : Request) : Option Address → Prop
  | forwarded {a : Address} : r.ForwardedFor counts a → Origin counts r (some a)
  | real {a : Address} : (∀ b, ¬r.ForwardedFor counts b) → r.Reports counts a →
    Origin counts r (some a)
  | peer : (∀ b, ¬r.ForwardedFor counts b) → (∀ b, ¬r.Reports counts b) → Origin counts r r.peer

theorem forwardedAddress?_eq_some :
    r.forwardedAddress? = some a ↔ r.ForwardedFor Legible a := by
  simp only [forwardedAddress?, Option.bind_eq_bind, Option.bind_eq_some_iff, header?_eq_some,
    parse?_trimList, ForwardedFor, and_assoc]
  refine exists_congr fun value => and_congr_right' (and_congr_right' ?_)
  obtain ⟨more, hpieces⟩ := pieces_eq_cons ',' value.toList
  rw [hpieces]
  simp

theorem realAddress?_eq_some : r.realAddress? = some a ↔ r.Reports Legible a := by
  simp only [realAddress?, Option.bind_eq_bind, Option.bind_eq_some_iff, header?_eq_some,
    parse?_trimList, Reports, and_assoc]

/-- Legible headers count, and each request has one origin. -/
theorem origin_iff {x : Option Address} : r.Origin Legible x ↔ r.address? = x := by
  have hforwarded : (∀ b, ¬r.ForwardedFor Legible b) ↔ r.forwardedAddress? = none := by
    simp only [← forwardedAddress?_eq_some, Option.eq_none_iff_forall_ne_some, ne_eq]
  have hreal : (∀ b, ¬r.Reports Legible b) ↔ r.realAddress? = none := by
    simp only [← realAddress?_eq_some, Option.eq_none_iff_forall_ne_some, ne_eq]
  unfold address?
  constructor
  · intro h
    cases h with
    | forwarded hf => rw [forwardedAddress?_eq_some.mpr hf]; rfl
    | real hf hr => rw [hforwarded.mp hf, realAddress?_eq_some.mpr hr]; rfl
    | peer hf hr => rw [hforwarded.mp hf, hreal.mp hr]; rfl
  · rintro rfl
    cases hf : r.forwardedAddress? with
    | some a => exact .forwarded (forwardedAddress?_eq_some.mp hf)
    | none =>
      cases hr : r.realAddress? with
      | some a => exact .real (hforwarded.mpr hf) (realAddress?_eq_some.mp hr)
      | none => exact .peer (hforwarded.mpr hf) (hreal.mpr hr)

-- ---------------------------------------------------------------------------
-- Clients
-- ---------------------------------------------------------------------------

/-- The client of callers from an address, or from nowhere that is known. -/
def clientOf : Option Address → Admission.Client
  | some a => ⟨.ofList a.print⟩
  | none => .unknown

theorem client_eq (r : Request) : r.client = clientOf r.address? := by
  unfold client clientOf
  cases r.address? <;> rfl

/-- No address is written like the name for unknown callers. -/
theorem print_ne_unknown (a : Address) : (String.ofList a.print) ≠ "unknown" := by
  intro h
  have hread := Address.parse?_print a
  rw [← String.toList_ofList (l := a.print), h] at hread
  have hnone : Address.parse? "unknown".toList = none := by decide
  rw [hnone] at hread
  cases hread

theorem clientOf_inj {x y : Option Address} (h : clientOf x = clientOf y) : x = y := by
  cases x with
  | none =>
    cases y with
    | none => rfl
    | some b => exact absurd (congrArg Admission.Client.id h).symm (print_ne_unknown b)
  | some a =>
    cases y with
    | none => exact absurd (congrArg Admission.Client.id h) (print_ne_unknown a)
    | some b =>
      have hprint : a.print = b.print := String.ofList_injective (congrArg Admission.Client.id h)
      rw [Address.print_inj hprint]

/-- Every request has one origin, and requests share a client just when they share their origin. So
those from one address have one rate window between them, however it is spelled, and those from
different addresses leave each other's alone. -/
theorem client_eq_iff_origin (r s : Request) :
    ∃ x y, (∀ z, r.Origin Legible z ↔ z = x) ∧ (∀ z, s.Origin Legible z ↔ z = y) ∧
      (r.client = s.client ↔ x = y) ∧ (r.client = .unknown ↔ x = none) ∧
      (x = y → ∀ (l : Admission.RateLimiter) t u,
        ((l.check t r.client).2.check u s.client).2.trackedClients =
          (l.check t r.client).2.trackedClients) ∧
      (x ≠ y → ∀ (l : Admission.RateLimiter) t,
        (l.check t r.client).2.find? s.client = l.find? s.client) := by
  refine ⟨r.address?, s.address?, fun z => origin_iff.trans eq_comm,
    fun z => origin_iff.trans eq_comm, ?_⟩
  have hshared : r.client = s.client ↔ r.address? = s.address? := by
    rw [client_eq, client_eq]
    exact ⟨clientOf_inj, congrArg clientOf⟩
  refine ⟨hshared, ?_, fun h l t u => ?_, fun h l t => ?_⟩
  · rw [client_eq]
    exact ⟨fun h => clientOf_inj (y := none) h, fun h => by rw [h]; rfl⟩
  · rw [hshared.mpr h]
    exact l.trackedClients_check t u s.client
  · exact l.find?_check t fun hclient => h (hshared.mp hclient)

/-- With an illegible character behind the comma a header is passed over, although the first address
that it lists can be read: were such headers to count, these two requests would have one origin. -/
theorem clients_apart_of_illegible :
    let r : Request :=
      ⟨"GET", ⟨none, none, "/", none⟩, [("x-forwarded-for", "203.0.113.9, é")], none⟩
    let s : Request :=
      ⟨"GET", ⟨none, none, "/", none⟩, [("x-forwarded-for", "203.0.113.9")], none⟩
    let a : Address := .v4 203 0 113 9
    build? "GET" "/" [("x-forwarded-for", "203.0.113.9, é")] none = some r ∧
      r.Origin (fun _ => True) (some a) ∧ s.Origin (fun _ => True) (some a) ∧
      r.client = .unknown ∧ s.client = ⟨"203.0.113.9"⟩ ∧ r.client ≠ s.client := by
  intro r s a
  have hspells : Names "203.0.113.9".toList a :=
    ⟨_, .refl _, Address.parse?_eq_some.mp (by decide)⟩
  have hr : r.ForwardedFor (fun _ => True) a :=
    ⟨_, ⟨[], [], rfl, nofun⟩, trivial, "203.0.113.9".toList, _, rfl, hspells⟩
  have hs : s.ForwardedFor (fun _ => True) a :=
    ⟨_, ⟨[], [], rfl, nofun⟩, trivial, "203.0.113.9".toList, _, rfl, hspells⟩
  exact ⟨by decide +kernel, .forwarded hr, .forwarded hs, by decide +kernel, by decide +kernel,
    by decide +kernel⟩

end Web.Request
end ChainGateway
