import ChainGateway.Admission.Classifier
import ChainGateway.Proofs.Pattern.Matching
import ChainGateway.Proofs.Pattern.Room
import Mathlib.Data.List.Forall2

/-!
# The standard pattern

The pattern that is set by default is read as a pattern of either case of its letters at the end of
a text. Every text that ends with the word in lower case is an expensive lookup by it.
-/

namespace ChainGateway.Admission.Classifier

open Pattern Text

/-- The letters of the word that the standard pattern looks for, of either case; the last may be
a long s as well. -/
def letters : List CharSet :=
  [⟨[(65, 65), (97, 97)]⟩, ⟨[(68, 68), (100, 100)]⟩, ⟨[(74, 74), (106, 106)]⟩,
    ⟨[(65, 65), (97, 97)]⟩, ⟨[(67, 67), (99, 99)]⟩, ⟨[(69, 69), (101, 101)]⟩,
    ⟨[(78, 78), (110, 110)]⟩, ⟨[(84, 84), (116, 116)]⟩, ⟨[(70, 70), (102, 102)]⟩,
    ⟨[(76, 76), (108, 108)]⟩, ⟨[(73, 73), (105, 105)]⟩, ⟨[(80, 80), (112, 112)]⟩,
    ⟨[(83, 83), (115, 115), (383, 383)]⟩]

def adjacentFlipsParts : List Pattern := .text ['/'] :: letters.map .oneOf ++ [.anchor .stop]

def adjacentFlips : Pattern := .ofParts adjacentFlipsParts

theorem parse_standardPattern : Pattern.parse? standardPattern = some adjacentFlips := by
  decide +kernel

theorem fits_adjacentFlips : adjacentFlips.fits = true := by
  have hletters : ∀ s ∈ letters, 2 + s.byteRanges.flatten.length ≤ 6 ∧
      Layout.byteLink * (s.ranges.length + s.byteRanges.length + s.byteRanges.flatten.length) ≤
        80 := by decide
  have hparts : ∀ back, ∀ p ∈ adjacentFlipsParts, Takes (p.layOut back .only) 6 80 := by
    intro back p hp
    simp only [adjacentFlipsParts, List.cons_append, List.mem_cons, List.mem_append, List.mem_map,
      List.not_mem_nil, or_false] at hp
    obtain rfl | ⟨s, hs, rfl⟩ | rfl := hp
    · exact (takes_text ['/']).mono (by decide) (by decide)
    · exact (takes_oneOf s).mono (hletters s hs).1 (hletters s hs).2
    · exact (takes_anchor .stop).mono (by decide) (by decide)
  exact fits_of_takes (fun back => takes_ofParts (List.cons_ne_nil _ _) (hparts back)) (by decide)

theorem ofPatterns_single {text : String} {p : Pattern} (hp : Pattern.parse? text = some p)
    (hfits : p.fits = true) : ofPatterns [text] = .ok ⟨[p]⟩ := by
  have hread : Pattern.read text = .ok p := by
    rw [Pattern.read, hp]
    exact if_pos hfits
  simp [ofPatterns, hread, bind, Except.bind, pure, Except.pure]

/-- The default passes its own check. -/
theorem ofPatterns_standardPattern : ofPatterns [standardPattern] = .ok ⟨[adjacentFlips]⟩ :=
  ofPatterns_single parse_standardPattern fits_adjacentFlips

-- ---------------------------------------------------------------------------
-- Matches
-- ---------------------------------------------------------------------------

/-- Sets in a row are met by characters of theirs. -/
theorem spans_letters {sets : List CharSet} {cs : List Char} {tail : Marked} {k : Place}
    (h : List.Forall₂ (fun s c => s.contains c = true) sets cs) (before : List Char)
    (ht : tail.Spans ⟨cs.reverse ++ before, []⟩ k) :
    (sets.foldr (fun s rest => Marked.seq (.char s false) rest) tail).Spans ⟨before, cs⟩ k := by
  induction h generalizing before with
  | nil => exact ht
  | @cons s c sets cs hc _ ih =>
    refine ⟨⟨c :: before, cs⟩, ⟨c, hc, rfl, rfl⟩, ih (c :: before) ?_⟩
    simpa using ht

/-- A path that ends in the word, in lower case, is an expensive lookup. -/
theorem classify_adjacentFlips {path : String} (h : '/' :: "adjacentflips".toList <:+ path.toList) :
    (Classifier.mk [adjacentFlips]).classify path = .heavyLookup := by
  obtain ⟨front, hpath⟩ := h
  have hletters : List.Forall₂ (fun s c => s.contains c = true) letters "adjacentflips".toList := by
    have hword : "adjacentflips".toList =
        ['a', 'd', 'j', 'a', 'c', 'e', 'n', 't', 'f', 'l', 'i', 'p', 's'] := String.toList_ofList
    rw [hword]
    decide
  have hmarked : ∀ bound, adjacentFlips.marked bound =
      .seq (.seq (.char (.single '/') false) .empty)
        (letters.foldr (fun s rest => .seq (.char s false) rest) (.anchor .stop)) := fun _ => rfl
  have hslash : (Marked.seq (.char (.single '/') false) .empty).Spans
      ⟨front.reverse ++ [], '/' :: "adjacentflips".toList⟩
      ⟨'/' :: front.reverse, "adjacentflips".toList⟩ :=
    ⟨_, ⟨'/', contains_single.mpr rfl, rfl, by simp⟩, rfl⟩
  have hword := spans_letters hletters ('/' :: front.reverse)
    (show (Marked.anchor .stop).Spans _ _ from ⟨rfl, rfl⟩)
  have hmatch : adjacentFlips.isMatch path = true := by
    rw [isMatch_iff, hmarked, ← hpath]
    exact ⟨_, _, Place.reaches_append [] front _, _, hslash, hword⟩
  rw [classify, List.any_cons, hmatch]
  rfl

end ChainGateway.Admission.Classifier
