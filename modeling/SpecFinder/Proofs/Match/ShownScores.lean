import SpecFinder.Proofs.Match.BestScores
import SpecFinder.Proofs.Match.CollectedScores

/-!
# The score of the matches that are shown

A match is left out only when one that is at least as good is kept in the same field: selecting
keeps a near match for each one that it drops, and a limit with room for some of the content leaves
the best of it.  So the best score of every field stays, and since the matches are in the order of
their fields before and after, the score of the spec is computed from the same numbers in the same
order.  Without room for the content it is computed from the other fields alone.
-/

namespace SpecFinder.Match

open ScoreNumber

variable {σ : Type}

/-! ## The best match of a field -/

section

variable [ScoreNumber σ] {found kept : List (Match σ)} {field : Text}

theorem AreComparable.not_lt_self (comparable : AreComparable found) {each : Match σ}
    (listed : each ∈ found) : ¬ each.score < each.score := by
  intro below
  exact comparable.asymm each listed each listed below below

/-- Going through matches for the greatest score finds that of one of them, which none is
above. -/
theorem AreComparable.foldl_larger {first : Match σ} {rest : List (Match σ)}
    (comparable : AreComparable (first :: rest)) :
    ∃ best ∈ first :: rest,
      rest.foldl (fun held each => larger held each.score) first.score = best.score ∧
        ∀ other ∈ first :: rest, ¬ best.score < other.score := by
  induction rest generalizing first with
  | nil =>
      refine ⟨first, List.mem_singleton_self _, rfl, fun other listed => ?_⟩
      rw [List.mem_singleton.mp listed]
      exact comparable.not_lt_self (List.mem_singleton_self _)
  | cons next rest ih =>
      have nextListed : next ∈ first :: next :: rest := by simp
      rw [List.foldl_cons, larger]
      by_cases below : first.score < next.score
      · have later : next :: rest ⊆ first :: next :: rest := List.subset_cons_self _ _
        rcases ih (comparable.of_subset later) with ⟨best, listed, isBest, above⟩
        rw [if_pos below]
        refine ⟨best, later listed, isBest, List.forall_mem_cons.mpr ⟨?_, above⟩⟩
        exact comparable.not_lt_trans (later listed) nextListed List.mem_cons_self
          (above next List.mem_cons_self)
          (comparable.asymm first List.mem_cons_self next nextListed below)
      · have others : first :: rest ⊆ first :: next :: rest :=
          List.cons_subset_cons _ (List.subset_cons_self _ _)
        rcases ih (comparable.of_subset others) with ⟨best, listed, isBest, above⟩
        rw [if_neg below]
        refine ⟨best, others listed, isBest, List.forall_mem_cons.mpr
          ⟨above first List.mem_cons_self, List.forall_mem_cons.mpr
            ⟨?_, (List.forall_mem_cons.mp above).2⟩⟩⟩
        exact comparable.not_lt_trans (others listed) List.mem_cons_self nextListed
          (above first List.mem_cons_self) below

namespace AreOrdered

/-- The best score of a field is that of a match in it. -/
theorem exists_best (ordered : AreOrdered found) (known : field ∈ fieldsOf found) :
    ∃ best ∈ found, best.field = field ∧ bestOf found field = best.score ∧
      ∀ other ∈ found, other.field = field → ¬ best.score < other.score := by
  have inField {each : Match σ} : each ∈ found.filter (·.field == field) ↔
      each ∈ found ∧ each.field = field := by
    rw [List.mem_filter, beq_iff_eq]
  have subset : found.filter (·.field == field) ⊆ found := List.filter_subset_self _
  rw [bestOf]
  cases isField : found.filter (·.field == field) with
  | nil =>
      rcases mem_fieldsOf.mp known with ⟨each, listed, same⟩
      have listed := inField.mpr ⟨listed, same⟩
      rw [isField] at listed
      cases listed
  | cons first rest =>
      rw [isField] at subset
      have fromFirst : larger (ofCount 0) first.score = first.score := by
        rcases ordered.nonneg first (subset List.mem_cons_self) with isZero | positive
        · rw [isZero, larger, ite_self]
        · rw [larger, if_pos positive]
      rcases (ordered.of_subset subset).toAreComparable.foldl_larger with
        ⟨best, listed, isBest, above⟩
      rw [← isField, inField] at listed
      refine ⟨best, listed.1, listed.2, ?_, fun other otherListed same => above other ?_⟩
      · rw [List.foldl_cons, fromFirst, isBest]
      · rw [← isField]
        exact inField.mpr ⟨otherListed, same⟩

/-- Of the matches in a field one may leave out all but one that is as good as any. -/
theorem bestOf_eq (ordered : AreOrdered found) (subset : kept ⊆ found)
    (known : field ∈ fieldsOf kept)
    (replaced : ∀ each ∈ found, each.field = field →
      ∃ other ∈ kept, other.field = field ∧ ¬ other.score < each.score) :
    bestOf kept field = bestOf found field := by
  rcases (ordered.of_subset subset).exists_best known with ⟨best, listed, inField, isBest, above⟩
  have alsoKnown : field ∈ fieldsOf found := mem_fieldsOf.mpr ⟨best, subset listed, inField⟩
  rcases ordered.exists_best alsoKnown with ⟨greatest, greatestListed, alsoInField, isGreatest,
    atLeast⟩
  rcases replaced greatest greatestListed alsoInField with ⟨other, otherKept, same, asGood⟩
  rw [isBest, isGreatest]
  apply ordered.antisymm best (subset listed) greatest greatestListed
  · exact ordered.not_lt_trans (subset listed) (subset otherKept) greatestListed
      (above other otherKept same) asGood
  · exact atLeast best (subset listed) inField

end AreOrdered

end

/-! ## The fields of matches in order -/

/-- Matches in the order of their fields, with the same known fields, meet them in the same
order. -/
theorem fieldsOf_eq_of_ranked {found kept : List (Match σ)}
    (known : ∀ each ∈ found, each.field ∈ fieldOrder)
    (foundRanked : found.Pairwise fun left right => fieldRank left.field ≤ fieldRank right.field)
    (keptRanked : kept.Pairwise fun left right => fieldRank left.field ≤ fieldRank right.field)
    (same : ∀ field, field ∈ fieldsOf kept ↔ field ∈ fieldsOf found) :
    fieldsOf kept = fieldsOf found := by
  have fieldsRanked {some : List (Match σ)} (ranked : some.Pairwise fun left right =>
      fieldRank left.field ≤ fieldRank right.field) :
      (fieldsOf some).Pairwise fun left right => fieldRank left ≤ fieldRank right :=
    (List.pairwise_map.mpr ranked).sublist (fieldsOf_sublist some)
  have perm := (List.perm_ext_iff_of_nodup (nodup_fieldsOf kept) (nodup_fieldsOf found)).mpr same
  apply List.Perm.eq_of_pairwise _ (fieldsRanked keptRanked) (fieldsRanked foundRanked) perm
  intro left right _ rightListed before after
  rcases mem_fieldsOf.mp rightListed with ⟨each, listed, rfl⟩
  exact (fieldRank_injective (known each listed) (Nat.le_antisymm after before)).symm

/-- Matches in the order of their fields give a spec the same score without those that can be
replaced by another one. -/
theorem AreOrdered.specScore_eq [ScoreNumber σ] {found kept : List (Match σ)}
    (ordered : AreOrdered found) (known : ∀ each ∈ found, each.field ∈ fieldOrder)
    (foundRanked : found.Pairwise fun left right => fieldRank left.field ≤ fieldRank right.field)
    (keptRanked : kept.Pairwise fun left right => fieldRank left.field ≤ fieldRank right.field)
    (subset : kept ⊆ found)
    (replaced : ∀ each ∈ found, ∃ other ∈ kept, other.field = each.field ∧
      ¬ other.score < each.score) : specScore kept = specScore found := by
  apply specScore_congr
  · apply fieldsOf_eq_of_ranked known foundRanked keptRanked
    intro field
    rw [mem_fieldsOf, mem_fieldsOf]
    constructor
    · rintro ⟨each, listed, same⟩
      exact ⟨each, subset listed, same⟩
    · rintro ⟨each, listed, rfl⟩
      rcases replaced each listed with ⟨other, otherKept, same, _⟩
      exact ⟨other, otherKept, same⟩
  · intro field isField
    apply ordered.bestOf_eq subset isField
    rintro each listed rfl
    exact replaced each listed

/-! ## Selecting and cutting -/

section

variable [Scoring σ] {found : List (Match σ)}

theorem AreComparable.outside_deduplicate_perm (comparable : AreComparable found) (distance : Int) :
    (outside (deduplicate found distance)).Perm (outside found) := by
  rcases comparable.exists_perm_deduplicate distance with ⟨others, perm, reasons⟩
  have noneOutside : outside others = [] := by
    rw [outside, List.filter_eq_nil_iff]
    intro other member
    simp [(reasons other member).1]
  have parts := perm.filter fun each => !each.isContent
  rw [List.filter_append] at parts
  change (outside found).Perm (outside (deduplicate found distance) ++ outside others) at parts
  rw [noneOutside, List.append_nil] at parts
  exact parts.symm

/-- For each match there is one that is selected in its field and is at least as good. -/
theorem AreComparable.exists_selected (comparable : AreComparable found) (distance : Int)
    {each : Match σ} (listed : each ∈ found) :
    ∃ kept ∈ deduplicate found distance, kept.field = each.field ∧ ¬ kept.score < each.score := by
  rcases comparable.exists_perm_deduplicate distance with ⟨others, perm, reasons⟩
  rcases List.mem_append.mp (perm.mem_iff.mp listed) with isKept | leftOut
  · exact ⟨each, isKept, rfl, comparable.not_lt_self listed⟩
  · rcases reasons each leftOut with ⟨isContent, kept, isKept, standsFor⟩
    refine ⟨kept, isKept, ?_, ?_⟩
    · rw [isContent_iff.mp isContent, isContent_iff.mp standsFor.isContent]
    · rcases standsFor.better with higher | ⟨_, same, _⟩
      · exact comparable.asymm each listed kept
          (deduplicate_subset sortRuns_keepsRuns found distance isKept) higher
      · exact same

/-- In the content, comparable scores go down. -/
theorem AreShown.inside_ordered {shown : List (Match σ)} (areShown : AreShown shown)
    (comparable : AreComparable shown) :
    (inside shown).Pairwise fun left right => ¬ left.score < right.score := by
  have ordered := comparable.orders_shownBefore.isRun_iff_pairwise.mp areShown.isRun
  refine (ordered.filter _).imp_of_mem ?_
  intro left right leftListed rightListed before
  have leftContent := isContent_iff.mp (List.mem_filter.mp leftListed).2
  have rightContent := isContent_iff.mp (List.mem_filter.mp rightListed).2
  rw [shownBefore_iff, leftContent, rightContent] at before
  rcases before with earlier | ⟨_, atLeast⟩
  · exact (Nat.lt_irrefl _ earlier).elim
  · exact atLeast

/-- With room for some of the content, a limit leaves one that is at least as good for each match
in its field. -/
theorem AreShown.exists_limitTo {shown : List (Match σ)} (areShown : AreShown shown)
    (comparable : AreComparable shown) {limit : Int} {each : Match σ} (listed : each ∈ shown)
    (room : each.isContent = true → (outside shown).length < limit) :
    ∃ kept ∈ limitTo shown limit, kept.field = each.field ∧ ¬ kept.score < each.score := by
  rw [areShown.limitTo_eq_append sortRuns_keepsRuns]
  cases isContent : each.isContent with
  | false =>
      have isOutside : each ∈ outside shown := List.mem_filter.mpr ⟨listed, by simp [isContent]⟩
      exact ⟨each, List.mem_append_left _ isOutside, rfl, comparable.not_lt_self listed⟩
  | true =>
      have isInside : each ∈ inside shown := List.mem_filter.mpr ⟨listed, isContent⟩
      have ordered := areShown.inside_ordered comparable
      have subset : inside shown ⊆ shown := List.filter_subset_self _
      cases content : inside shown with
      | nil =>
          rw [content] at isInside
          cases isInside
      | cons first rest =>
          rw [content] at isInside ordered subset
          have firstContent : first ∈ inside shown := by simp [content]
          refine ⟨first, List.mem_append_right _ ?_, ?_, ?_⟩
          · have some := room isContent
            rw [List.take_cons (by omega)]
            exact List.mem_cons_self
          · rw [isContent_iff.mp isContent, isContent_iff.mp (List.mem_filter.mp firstContent).2]
          · rcases List.mem_cons.mp isInside with rfl | later
            · exact comparable.not_lt_self listed
            · exact (List.pairwise_cons.mp ordered).1 each later

/-- Ordered matches in the order of their known fields give a spec the same score when they are
selected and cut to a limit, if there is room for some of the content or there is no content.  With
no room the score is that of what lies outside the content. -/
theorem AreOrdered.specScore_limitTo (ordered : AreOrdered found)
    (known : ∀ each ∈ found, each.field ∈ fieldOrder)
    (ranked : found.Pairwise fun left right => fieldRank left.field ≤ fieldRank right.field)
    (distance limit : Int) :
    ((outside found).length < limit ∨ inside found = [] →
      specScore (limitTo (deduplicate found distance) limit) = specScore found) ∧
    (limit ≤ (outside found).length →
      specScore (limitTo (deduplicate found distance) limit) = specScore (outside found)) := by
  have comparable := ordered.toAreComparable
  have areShown := areShown_deduplicate sortRuns_keepsRuns comparable.asymm known distance
  have selected := deduplicate_subset sortRuns_keepsRuns found distance
  have sameOutside := comparable.outside_deduplicate_perm distance
  constructor
  · intro someRoom
    have room {each : Match σ} (listed : each ∈ found) (isContent : each.isContent = true) :
        (outside (deduplicate found distance)).length < limit := by
      rw [sameOutside.length_eq]
      refine someRoom.resolve_right fun nothing => ?_
      exact List.filter_eq_nil_iff.mp nothing each listed isContent
    have cut : (limitTo (deduplicate found distance) limit).Sublist
        (deduplicate found distance) := by
      rw [areShown.limitTo_eq_take sortRuns_keepsRuns]
      exact List.take_sublist _ _
    apply ordered.specScore_eq known ranked (areShown.ranked.sublist cut)
      (fun each kept => selected (cut.subset kept))
    intro each listed
    rcases comparable.exists_selected distance listed with ⟨best, isSelected, inField, asGood⟩
    rcases areShown.exists_limitTo (comparable.of_subset selected) isSelected
      (room (selected isSelected)) with ⟨kept, isKept, alsoInField, atLeast⟩
    refine ⟨kept, isKept, alsoInField.trans inField, ?_⟩
    exact comparable.not_lt_trans (selected (cut.subset isKept)) (selected isSelected) listed
      atLeast asGood
  · intro noRoom
    have nothingInside : limitTo (deduplicate found distance) limit =
        outside (deduplicate found distance) := by
      have none : (limit - (outside (deduplicate found distance)).length).toNat = 0 := by
        rw [sameOutside.length_eq]
        omega
      rw [areShown.limitTo_eq_append sortRuns_keepsRuns, none, List.take_zero, List.append_nil]
    have within : outside found ⊆ found := List.filter_subset_self _
    rw [nothingInside]
    apply (ordered.of_subset within).specScore_eq (fun each listed => known each (within listed))
      (ranked.filter _) (areShown.ranked.filter _) sameOutside.subset
    intro each listed
    exact ⟨each, sameOutside.mem_iff.mpr listed, rfl, comparable.not_lt_self (within listed)⟩

end

/-- The score of a spec by the matches that are shown is the score by all that were collected,
unless the limit has no room for any of those in the content.  Then it is the score by those
outside the content.  This holds of all scores that are in order, and computed doubles are. -/
theorem specScore_shown :
    (∀ (σ : Type) [Scoring σ] (spec : Spec) (terms : List Text) (reach distance limit : Int)
        (found : List (Match σ)), found = collect spec terms reach → AreOrdered found →
      ((outside found).length < limit ∨ inside found = [] →
        specScore (limitTo (deduplicate found distance) limit) = specScore found) ∧
      (limit ≤ (outside found).length →
        specScore (limitTo (deduplicate found distance) limit) = specScore (outside found))) ∧
    ∀ (spec : Spec) (terms : List Text) (reach : Int),
      AreOrdered (collect spec terms reach : List (Match Float)) := by
  constructor
  · rintro σ _ spec terms reach distance limit _ rfl ordered
    exact ordered.specScore_limitTo (known_collect spec terms reach)
      (areScoredUpTo_collect spec terms reach).ranked distance limit
  · exact areOrdered_collect

/-- A spec with a match in its name and two in its content. -/
def repeatedSpec : Spec :=
  { path := [], name := "api".toList, content := some "api\n\n\n\n\nthe api".toList }

/-- The matches of a term in that spec, with scores in doubles. -/
def repeatedMatches : List (Match Float) := collect repeatedSpec ["api".toList] 80

/-- A limit of two has room for one of the lines, and a limit of one has room for none. -/
theorem specScore_repeatedMatches :
    AreOrdered repeatedMatches ∧ (outside repeatedMatches).length = 1 ∧
    specScore (limitTo (deduplicate repeatedMatches 3) 2) = specScore repeatedMatches ∧
    specScore (limitTo (deduplicate repeatedMatches 3) 1) =
      specScore (outside repeatedMatches) := by
  have single : (outside repeatedMatches).length = 1 := by decide +kernel
  have ordered := specScore_shown.2 repeatedSpec ["api".toList] 80
  have shown (limit : Int) :=
    specScore_shown.1 Float repeatedSpec ["api".toList] 80 3 limit repeatedMatches rfl ordered
  refine ⟨ordered, single, (shown 2).1 (.inl ?_), (shown 1).2 ?_⟩ <;> rw [single] <;> decide

end SpecFinder.Match
