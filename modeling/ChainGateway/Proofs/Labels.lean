/-!
# Labels

Lists of things that are told apart by a label, such as a number or an operation: finding the
one with a label, leaving it out, and putting another in its place.
-/

namespace ChainGateway.Labels

variable {α κ : Type} [DecidableEq κ] {f : α → κ} {l : List α} {x : α} {n i : κ}
  {p : α → Bool}

theorem find?_of_nodup (h : (l.map f).Nodup) (hx : x ∈ l) : l.find? (f · = f x) = some x := by
  induction l with
  | nil => cases hx
  | cons y l ih =>
    rw [List.map_cons, List.nodup_cons] at h
    rcases List.mem_cons.mp hx with rfl | hx
    · simp
    · have hne : f y ≠ f x := fun he => h.1 (he ▸ List.mem_map_of_mem hx)
      rw [List.find?_cons_of_neg (by simpa using hne)]
      exact ih h.2 hx

theorem find?_without :
    (l.filter (f · ≠ n)).find? (f · = i) = if i = n then none else l.find? (f · = i) := by
  rw [List.find?_filter]
  split
  · rename_i h
    simp [h]
  · rename_i h
    congr 1
    funext x
    by_cases hx : f x = i <;> simp [hx, h]

/-- Leaving out the one thing with a label leaves out nothing else. -/
theorem countP_without (h : (l.map f).Nodup) (hx : x ∈ l) :
    (l.filter (f · ≠ f x)).countP p + (if p x then 1 else 0) = l.countP p := by
  induction l with
  | nil => cases hx
  | cons y l ih =>
    rw [List.map_cons, List.nodup_cons] at h
    rcases List.mem_cons.mp hx with rfl | hx
    · have hall : l.filter (f · ≠ f x) = l := by
        refine List.filter_eq_self.mpr fun z hz => ?_
        have hne : f z ≠ f x := fun he => h.1 (he ▸ List.mem_map_of_mem hz)
        simpa using hne
      rw [List.filter_cons_of_neg (by simp), hall, List.countP_cons]
    · have hne : f y ≠ f x := fun he => h.1 (he ▸ List.mem_map_of_mem hx)
      rw [List.filter_cons_of_pos (by simpa using hne), List.countP_cons, List.countP_cons,
        ← ih h.2 hx]
      omega

theorem length_without (h : (l.map f).Nodup) (hx : x ∈ l) :
    (l.filter (f · ≠ f x)).length + 1 = l.length := by
  have := countP_without (p := fun _ => true) h hx
  simpa using this

/-- Another thing in the place of one changes a count by the two of them. -/
theorem countP_set_add {i : Nat} {y : α} (hx : l[i]? = some x) :
    (l.set i y).countP p + (if p x then 1 else 0) = l.countP p + (if p y then 1 else 0) := by
  obtain ⟨hlt, rfl⟩ := List.getElem?_eq_some_iff.mp hx
  rw [List.countP_set hlt]
  have hpos : p l[i] = true → 0 < l.countP p := fun h =>
    List.countP_pos_iff.mpr ⟨_, List.getElem_mem hlt, h⟩
  by_cases h : p l[i] = true
  · have := hpos h
    simp only [h, if_true]
    omega
  · simp [h]

theorem mem_map_without : i ∈ (l.filter (f · ≠ n)).map f ↔ i ∈ l.map f ∧ i ≠ n := by
  simp only [List.mem_map, List.mem_filter, decide_eq_true_eq]
  constructor
  · rintro ⟨y, ⟨hy, hn⟩, rfl⟩
    exact ⟨⟨y, hy, rfl⟩, hn⟩
  · rintro ⟨⟨y, hy, rfl⟩, hn⟩
    exact ⟨y, ⟨hy, hn⟩, rfl⟩

end ChainGateway.Labels
