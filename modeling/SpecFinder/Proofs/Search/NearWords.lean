import SpecFinder.Proofs.Search.FuzzyWords
import SpecFinder.Proofs.Text.EditScripts
import SpecFinder.Proofs.Text.Order

/-!
# Words within a distance

A term nearly occurs in a text when it occurs there or one of the words is within a limit
of edits from it, and the words close to a term are those within the limit, in ascending
order.  Both look at distances only through a measure, which may stop counting once it is
above the limit.
-/

namespace SpecFinder

open Text

/-- Whether a term is in a text, or within some edits from one of its words, when case is
ignored. -/
def IsNear (limit : Int) (term text : Text) : Prop :=
  lower term <:+: lower text ∨
    ∃ word ∈ words (lower text), (editDistance (lower term) word : Int) ≤ limit

/-- Whether a list holds the words within some edits from a term, each as often as it is
among the words, in the order of their code points. -/
structure AreCloseWords (limit : Int) (term : Text) (offered close : List Text) : Prop where
  perm : close.Perm (offered.filter fun word => (editDistance term word : Int) ≤ limit)
  ascending : close.Pairwise fun left right => left.map Char.toNat ≤ right.map Char.toNat

/-- What is relied on about a measure at a limit: it takes the limit, and its distances are those
of the edits as far as the limit goes. -/
structure Measure.IsExactAt (measure : Measure) (limit : Int) : Prop where
  takes : measure.takes limit = true
  within {source target : Text} :
    (editDistance source target : Int) ≤ limit →
      measure.distance limit source target = editDistance source target
  beyond {source target : Text} :
    limit < editDistance source target → limit < measure.distance limit source target

/-- Whether a measure is exact at every limit that is not negative. -/
def Measure.IsExact (measure : Measure) : Prop :=
  ∀ limit : Int, 0 ≤ limit → measure.IsExactAt limit

section

variable {limit : Int} {term text : Text} {offered others : List Text} {measure : Measure}

namespace Measure

namespace IsExactAt

/-- Stopping above the limit does not change what is within it. -/
theorem isWithin_eq (exact : measure.IsExactAt limit) (source : Text) :
    measure.isWithin limit source = withinDistance limit source := by
  funext target
  rw [isWithin, withinDistance]
  by_cases close : (editDistance source target : Int) ≤ limit
  · rw [exact.within close]
  · have above := exact.beyond (Int.not_le.mp close)
    rw [decide_eq_false close, decide_eq_false (Int.not_le.mpr above)]

theorem nearlyOccurs?_eq (exact : measure.IsExactAt limit) :
    nearlyOccurs? term text limit measure = some (nearlyOccurs term text limit) := by
  rw [nearlyOccurs?, nearlyOccurs, exact.takes, exact.isWithin_eq]
  split
  next occurs => rw [occurs, Bool.true_or]
  next absent =>
    rw [Bool.not_eq_true] at absent
    rw [absent, Bool.false_or]
    split
    next empty => rw [List.isEmpty_iff.mp empty, List.any_nil]
    next => rfl

theorem closeWords?_eq (exact : measure.IsExactAt limit) :
    closeWords? term offered limit measure = some (closeWords term offered limit) := by
  rw [closeWords?, exact.takes, exact.isWithin_eq]
  rfl

end IsExactAt

/-- Counting all edits is exact at all limits that fit into sixty-four bits. -/
theorem isExactAt_counting (nonneg : 0 ≤ limit) (fits : limit.toNat < Nat.pow 2 64) :
    counting.IsExactAt limit where
  takes := by
    rw [counting, Bool.and_eq_true, decide_eq_true_eq, decide_eq_true_eq]
    exact ⟨nonneg, fits⟩
  within _ := rfl
  beyond far := far

end Measure

/-! ## Near terms -/

theorem nearlyOccurs_iff_isNear : nearlyOccurs term text limit = true ↔ IsNear limit term text := by
  simp only [nearlyOccurs_iff, IsNear, occursIn_iff_isInfix, withinDistance, decide_eq_true_eq]

/-! ## Close words -/

theorem areCloseWords_closeWords (limit : Int) (term : Text) (offered : List Text) :
    AreCloseWords limit term offered (closeWords term offered limit) where
  perm := List.mergeSort_perm _ _
  ascending := by
    have sorted := List.pairwise_mergeSort isAtMost_trans isAtMost_total
      (offered.filter (withinDistance limit term))
    exact sorted.imp isAtMost_iff_codePoints.mp

/-- The order that the words come in does not matter. -/
theorem closeWords_perm (term : Text) (limit : Int) (perm : offered.Perm others) :
    closeWords term others limit = closeWords term offered limit :=
  mergeSort_eq_of_perm (perm.symm.filter _)

end

/-! ## Limits -/

/-- The edit distance is the length of a shortest script of edits.  By an exact measure, a term
nearly occurs in a text exactly when it is near, and the close words of a list are those within
the limit, whatever order the list has: for every limit that is not negative. -/
theorem nearness_of_limit {measure : Measure} (exact : measure.IsExact) {limit : Int}
    (nonneg : 0 ≤ limit) :
    MeasuresEdits editDistance ∧
    (∀ term text,
      nearlyOccurs? term text limit measure = some (nearlyOccurs term text limit) ∧
      (nearlyOccurs term text limit = true ↔ IsNear limit term text)) ∧
    ∀ term offered,
      AreCloseWords limit term offered (closeWords term offered limit) ∧
      ∀ others, offered.Perm others →
        closeWords? term others limit measure = some (closeWords term offered limit) := by
  refine ⟨measuresEdits_editDistance, ?_, ?_⟩
  · intro term text
    exact ⟨(exact limit nonneg).nearlyOccurs?_eq, nearlyOccurs_iff_isNear⟩
  · intro term offered
    refine ⟨areCloseWords_closeWords limit term offered, fun others perm => ?_⟩
    rw [(exact limit nonneg).closeWords?_eq, closeWords_perm term limit perm]

/-- Stops counting edits once there are more than the limit allows. -/
def Measure.stopping : Measure where
  takes limit := 0 ≤ limit
  distance limit source target := min (editDistance source target) (limit.toNat + 1)

theorem Measure.isExact_stopping : Measure.stopping.IsExact := fun limit nonneg => by
  constructor
  case takes => exact decide_eq_true nonneg
  all_goals
    intro source target
    simp only [stopping]
    omega

/-- A term and a text that it is two edits away from. -/
def swappedTerm : Text := "tokne".toList

def tokenText : Text := "the Token".toList

/-- Two edits are allowed, so a term with two letters swapped is near, and of the words offered
one is close.  Of the edits to the other word no more than three are counted. -/
theorem nearness_swappedTerm :
    Measure.stopping.IsExact ∧ (0 : Int) ≤ 2 ∧
      nearlyOccurs? swappedTerm tokenText 2 .stopping = some true ∧
      IsNear 2 swappedTerm tokenText ∧
      editDistance swappedTerm "index".toList = 5 ∧
      Measure.stopping.distance 2 swappedTerm "index".toList = 3 ∧
      ∃ close, closeWords? swappedTerm ["token".toList, "index".toList] 2 .stopping = some close ∧
        close.Perm ["token".toList] := by
  have nonneg : (0 : Int) ≤ 2 := by decide
  have answers : nearlyOccurs? swappedTerm tokenText 2 .stopping = some true := by decide
  rcases nearness_of_limit Measure.isExact_stopping nonneg with ⟨_, near, close⟩
  rcases near swappedTerm tokenText with ⟨answered, isNear⟩
  have occurs : nearlyOccurs swappedTerm tokenText 2 = true :=
    Option.some.inj (answered.symm.trans answers)
  rcases close swappedTerm ["token".toList, "index".toList] with ⟨areClose, found⟩
  have only : ["token".toList, "index".toList].filter
      (fun word => (editDistance swappedTerm word : Int) ≤ 2) = ["token".toList] := rfl
  exact ⟨Measure.isExact_stopping, nonneg, answers, isNear.mp occurs, by decide, by decide,
    _, found _ (.refl _), only ▸ areClose.perm⟩

end SpecFinder
