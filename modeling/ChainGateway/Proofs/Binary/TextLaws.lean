import ChainGateway.Binary.Text
import ChainGateway.Proofs.Text.NumeralLaws

/-!
# What texts of numbers consist of

The text of a finite number consists of digits, signs, a point and the letter of an exponent.
-/

namespace ChainGateway.Binary

variable {f : Format} {x : Number f} {d : Decimal} {ch : Char} {cs ds : List Char}

def IsNumeralPart (ch : Char) : Prop := ch.isDigit = true ∨ ch ∈ ['-', '+', '.', 'e']

/-- A text of digits, signs, points and the letter of exponents. -/
def Numeric (cs : List Char) : Prop := ∀ ch ∈ cs, IsNumeralPart ch

namespace Numeric

theorem nil : Numeric [] := nofun

theorem cons (h : IsNumeralPart ch) (hcs : Numeric cs) : Numeric (ch :: cs) :=
  List.forall_mem_cons.mpr ⟨h, hcs⟩

theorem append (h : Numeric cs) (hd : Numeric ds) : Numeric (cs ++ ds) :=
  List.forall_mem_append.mpr ⟨h, hd⟩

theorem digits (h : ∀ ch ∈ cs, ch.isDigit = true) : Numeric cs := fun ch hch => .inl (h ch hch)

theorem natural (n : Nat) : Numeric (Text.natural n) := digits Text.isDigit_of_mem_natural

theorem zeros (n : Int) : Numeric (Binary.zeros n) := by
  intro ch hch
  rw [List.eq_of_mem_replicate hch]
  exact .inl (by decide)

theorem positional (hd : Numeric d.digits) : Numeric (d.positional ['.', '0']) := by
  have hdot : IsNumeralPart '.' := .inr (by decide)
  have hzero : IsNumeralPart '0' := .inl (by decide)
  unfold Decimal.positional
  dsimp only
  split
  · exact (cons hzero (cons hdot (zeros _))).append hd
  · split
    · exact (hd.append (zeros _)).append (cons hdot (cons hzero nil))
    · have htake : Numeric (d.digits.take d.point.toNat) :=
        fun ch hch => hd ch (List.mem_of_mem_take hch)
      have hdrop : Numeric (d.digits.drop d.point.toNat) :=
        fun ch hch => hd ch (List.mem_of_mem_drop hch)
      exact htake.append (cons hdot hdrop)

theorem scientific (hd : Numeric d.digits) : Numeric d.scientific := by
  have hletter : IsNumeralPart 'e' := .inr (by decide)
  have hdot : IsNumeralPart '.' := .inr (by decide)
  unfold Decimal.scientific
  dsimp only
  refine append ?_ (cons hletter ?_)
  · split
    · exact nil
    · rename_i hdigits
      rwa [hdigits] at hd
    · rename_i ch rest hdigits
      rw [hdigits] at hd
      obtain ⟨hch, hrest⟩ := List.forall_mem_cons.mp hd
      exact cons hch (cons hdot hrest)
  · split
    · exact cons (.inr (by decide)) (natural _)
    · exact cons (.inr (by decide)) (natural _)

theorem shortest (f : Format) (m : Nat) (e : Int) : Numeric (shortest f m e).digits := by
  refine digits fun ch hch => ?_
  have hmem := (List.dropWhile_suffix _).subset (List.mem_reverse.mp hch)
  exact Text.isDigit_of_mem_natural ch (List.mem_reverse.mp hmem)

theorem wire (h : x.wire? = some cs) : Numeric cs := by
  have hsign : ∀ s : Bool, Numeric (if s then ['-'] else []) := by
    intro s
    cases s with
    | false => exact nil
    | true => exact cons (.inr (by decide)) nil
  unfold Number.wire? at h
  split at h
  · cases h
  · obtain rfl := Option.some.inj h
    refine (hsign _).append (cons (.inl (by decide)) (cons (.inr (by decide)) (cons (.inl ?_) nil)))
    decide
  · rename_i s m e hm
    obtain rfl := Option.some.inj h
    refine (hsign s).append ?_
    split
    · exact positional (shortest f m e)
    · exact scientific (shortest f m e)

end Numeric
end ChainGateway.Binary
