import SpecFinder.Match.Collect
import SpecFinder.Match.FloatScore
import SpecFinder.Proofs.Match.Limits
import SpecFinder.Proofs.Number.DoubleOrder

/-!
# The scores of collected matches

Matches are collected field by field, in the order of the fields.  Each has a computed score,
which is zero or above zero whatever the numbers are that it is computed with.  With doubles it is
therefore never what is no number, and never the negative zero, so that the scores are in a total
order although not all doubles are.
-/

namespace SpecFinder.Match

open ScoreNumber

/-! ## Scores in order -/

/-- Whether the scores of some matches are in a total order and none is below zero. -/
structure AreOrdered {σ : Type} [ScoreNumber σ] (found : List (Match σ)) : Prop
    extends AreComparable found where
  antisymm : ∀ left ∈ found, ∀ right ∈ found, ¬ left.score < right.score →
    ¬ right.score < left.score → left.score = right.score
  nonneg : ∀ each ∈ found, each.score = ofCount 0 ∨ ofCount 0 < each.score

theorem AreOrdered.of_subset {σ : Type} [ScoreNumber σ] {found others : List (Match σ)}
    (ordered : AreOrdered found) (subset : others ⊆ found) : AreOrdered others where
  toAreComparable := ordered.toAreComparable.of_subset subset
  antisymm := fun left listed right alsoListed =>
    ordered.antisymm left (subset listed) right (subset alsoListed)
  nonneg := fun each listed => ordered.nonneg each (subset listed)

/-- Doubles can be compared when each is a number. -/
theorem areComparable_of_isNaN_eq_false {found : List (Match Float)}
    (numbers : ∀ each ∈ found, each.score.isNaN = false) : AreComparable found where
  asymm := fun _ _ _ _ => Double.asymm
  cotrans := fun _ _ middle listed _ _ => Double.cotrans (numbers middle listed)
  equal_iff := fun left listed right alsoListed =>
    Double.beq_iff_not_lt (numbers left listed) (numbers right alsoListed)

/-- Doubles are ordered when each is zero or above it. -/
theorem areOrdered_of_nonneg {found : List (Match Float)}
    (nonneg : ∀ each ∈ found, each.score = ofCount 0 ∨ ofCount 0 < each.score) :
    AreOrdered found where
  toAreComparable := by
    apply areComparable_of_isNaN_eq_false
    intro each listed
    rcases nonneg each listed with isZero | positive
    · rw [isZero]
      decide
    · exact (Double.lt_iff.mp positive).2.1
  antisymm := by
    intro left leftListed right rightListed notBelow notAbove
    rcases nonneg left leftListed with leftZero | leftPositive
    · rcases nonneg right rightListed with rightZero | rightPositive
      · rw [leftZero, rightZero]
      · rw [leftZero] at notBelow
        exact (notBelow rightPositive).elim
    · rcases nonneg right rightListed with rightZero | rightPositive
      · rw [rightZero] at notAbove
        exact (notAbove leftPositive).elim
      · exact Double.eq_of_not_lt leftPositive rightPositive notBelow notAbove
  nonneg := nonneg

/-! ## Collecting by field -/

section

variable {σ : Type} [Scoring σ] {field : Text}

/-- Whether a match is in a field and its score is not below zero. -/
structure IsScoredIn (field : Text) (found : Match σ) : Prop where
  field : found.field = field
  nonneg : found.score = ofCount 0 ∨ ofCount 0 < found.score

theorem larger_zero (value : σ) :
    larger (ofCount 0) value = ofCount 0 ∨ ofCount 0 < larger (ofCount 0) value := by
  rw [larger]
  split
  next positive => exact .inr positive
  next notPositive => exact .inl rfl

theorem isScoredIn_ofField? (field text : Text) (terms : List Text) (total position : Nat) :
    ∀ each ∈ (ofField? field text terms total position : Option (Match σ)).toList,
      IsScoredIn field each := by
  intro each member
  rw [ofField?] at member
  split at member
  · cases List.mem_singleton.mp member
    exact ⟨rfl, larger_zero _⟩
  · cases member

theorem isScoredIn_tags (tags : List Text) (terms : List Text) :
    ∀ each ∈ tags.zipIdx.filterMap (fun (tag, index) =>
        (ofField? field tag terms tags.length index : Option (Match σ))),
      IsScoredIn field each := by
  intro each member
  rcases List.mem_filterMap.mp member with ⟨_, _, made⟩
  exact isScoredIn_ofField? _ _ _ _ _ each (Option.mem_toList.mpr made)

theorem isScoredIn_ofContent (content : Text) (terms : List Text) (reach : Int) :
    ∀ each ∈ (ofContent content terms reach : List (Match σ)), IsScoredIn contentField each := by
  intro each member
  rcases List.mem_map.mp member with ⟨row, _, rfl⟩
  exact ⟨rfl, larger_zero _⟩

/-- Whether matches stand in the order of their fields, none of which is behind a rank, and no
score is below zero. -/
structure AreScoredUpTo (rank : Nat) (found : List (Match σ)) : Prop where
  bounded : ∀ each ∈ found, fieldRank each.field ≤ rank
  ranked : found.Pairwise fun left right => fieldRank left.field ≤ fieldRank right.field
  nonneg : ∀ each ∈ found, each.score = ofCount 0 ∨ ofCount 0 < each.score

theorem areScoredUpTo_of_isScoredIn {found : List (Match σ)}
    (scored : ∀ each ∈ found, IsScoredIn field each) : AreScoredUpTo (fieldRank field) found where
  bounded := fun each listed => Nat.le_of_eq (congrArg fieldRank (scored each listed).field)
  ranked := by
    apply List.pairwise_of_forall_mem_list
    intro left leftListed right rightListed
    rw [(scored left leftListed).field, (scored right rightListed).field]
  nonneg := fun each listed => (scored each listed).nonneg

/-- Matches of a field that is not in front of the others may follow them. -/
theorem AreScoredUpTo.append {rank : Nat} {front back : List (Match σ)}
    (upTo : AreScoredUpTo rank front) (behind : rank ≤ fieldRank field)
    (scored : ∀ each ∈ back, IsScoredIn field each) :
    AreScoredUpTo (fieldRank field) (front ++ back) where
  bounded := by
    intro each listed
    rcases List.mem_append.mp listed with inFront | inBack
    · exact Nat.le_trans (upTo.bounded each inFront) behind
    · exact (areScoredUpTo_of_isScoredIn scored).bounded each inBack
  ranked := by
    rw [List.pairwise_append]
    refine ⟨upTo.ranked, (areScoredUpTo_of_isScoredIn scored).ranked, ?_⟩
    intro left leftListed right rightListed
    rw [(scored right rightListed).field]
    exact Nat.le_trans (upTo.bounded left leftListed) behind
  nonneg := by
    intro each listed
    rcases List.mem_append.mp listed with inFront | inBack
    · exact upTo.nonneg each inFront
    · exact (scored each inBack).nonneg

variable (spec : Spec) (terms : List Text) (reach : Int)

/-- Matches are collected in the order of the fields, and their scores are not below zero. -/
theorem areScoredUpTo_collect :
    AreScoredUpTo (fieldRank contentField) (collect spec terms reach : List (Match σ)) :=
  ((((areScoredUpTo_of_isScoredIn (isScoredIn_ofField? _ _ _ _ _)).append (by decide)
    (isScoredIn_ofField? _ _ _ _ _)).append (by decide)
    (isScoredIn_tags _ _)).append (by decide)
    (isScoredIn_ofField? _ _ _ _ _)).append (by decide)
    (isScoredIn_ofContent _ _ _)

theorem known_collect : ∀ each ∈ (collect spec terms reach : List (Match σ)),
    each.field ∈ fieldOrder := by
  intro each listed
  have bounded := (areScoredUpTo_collect spec terms reach).bounded each listed
  rw [fieldRank_contentField] at bounded
  exact mem_fieldOrder_iff.mpr bounded

/-- Doubles that are computed as scores are in order. -/
theorem areOrdered_collect : AreOrdered (collect spec terms reach : List (Match Float)) :=
  areOrdered_of_nonneg (areScoredUpTo_collect spec terms reach).nonneg

end

end SpecFinder.Match
