import Mathlib.Order.Lattice
import SpecFinder.Proofs.Match.Sorting

/-!
# Matches that are kept apart

Of the matches in the content, taken from the best one on, each is kept unless a kept one is in
a near line.  So the kept ones are apart from each other, and each other one is near to a kept
one that was taken before it, which is at least as good.  Matches outside the content are all
kept.

The matches are taken in one order and shown in another one.  Both sorts are stable, so that
matches with the same field and score are shown in the order of their lines.  This is why
nothing changes when matches that have been kept are selected once more.
-/

namespace SpecFinder.Match

variable {σ : Type}

/-! ## Keeping apart -/

section

variable {found : List (Match σ)} {distance : Int} {used : List Int}

/-- How many lines there are from one match to another. -/
def linesBetween (left right : Match σ) : Int := (left.lineOrZero - right.lineOrZero).natAbs

theorem linesBetween_comm (left right : Match σ) :
    linesBetween left right = linesBetween right left := by
  rw [linesBetween, linesBetween]
  omega

/-- Whether any two of the matches in the content are more than a distance apart. -/
def AreApart (distance : Int) (found : List (Match σ)) : Prop :=
  (found.filter (·.isContent)).Pairwise fun left right => distance < linesBetween left right

theorem AreApart.perm {others : List (Match σ)} (apart : AreApart distance found)
    (perm : found.Perm others) : AreApart distance others := by
  refine (List.Perm.pairwise_iff ?_ (perm.filter _)).mp apart
  intro left right between
  rwa [linesBetween_comm]

/-- The matches that are kept are apart from each other and from the lines used before. -/
theorem areApart_keepApart (distance : Int) (used : List Int) (found : List (Match σ)) :
    AreApart distance (keepApart distance used found) ∧
      ∀ kept ∈ keepApart distance used found, kept.isContent = true → ∀ line ∈ used,
        distance < (kept.lineOrZero - line).natAbs := by
  fun_induction keepApart distance used found with
  | case1 used => simp [AreApart]
  | case2 used first rest outside ih =>
      rw [Bool.not_eq_true'] at outside
      constructor
      · rw [AreApart, List.filter_cons_of_neg (by simp [outside])]
        exact ih.1
      · refine List.forall_mem_cons.mpr ⟨fun inside => ?_, ih.2⟩
        rw [outside] at inside
        cases inside
  | case3 used first rest inside near ih => exact ih
  | case4 used first rest inside clear ih =>
      rw [Bool.not_eq_true', Bool.not_eq_false] at inside
      constructor
      · rw [AreApart, List.filter_cons_of_pos inside]
        refine .cons (fun kept isKept => ?_) ih.1
        rw [List.mem_filter] at isKept
        rw [linesBetween_comm]
        exact ih.2 kept isKept.1 isKept.2 _ List.mem_cons_self
      · refine List.forall_mem_cons.mpr ⟨fun _ line isUsed => ?_, fun kept isKept isContent line
          isUsed => ih.2 kept isKept isContent line (List.mem_cons_of_mem _ isUsed)⟩
        by_contra near
        apply clear
        exact List.any_eq_true.mpr ⟨line, isUsed, by simpa using near⟩

/-- Matches that are apart already are all kept. -/
theorem keepApart_eq_self (apart : AreApart distance found)
    (clear : ∀ each ∈ found, each.isContent = true → ∀ line ∈ used,
      distance < (each.lineOrZero - line).natAbs) : keepApart distance used found = found := by
  fun_induction keepApart distance used found with
  | case1 used => rfl
  | case2 used first rest outside ih =>
      rw [Bool.not_eq_true'] at outside
      rw [AreApart, List.filter_cons_of_neg (by simp [outside])] at apart
      rw [ih apart (List.forall_mem_cons.mp clear).2]
  | case3 used first rest inside near ih =>
      rw [Bool.not_eq_true', Bool.not_eq_false] at inside
      rcases List.any_eq_true.mp near with ⟨line, isUsed, isNear⟩
      have isApart := (List.forall_mem_cons.mp clear).1 inside line isUsed
      rw [decide_eq_true_eq] at isNear
      omega
  | case4 used first rest inside _ ih =>
      rw [Bool.not_eq_true', Bool.not_eq_false] at inside
      rw [AreApart, List.filter_cons_of_pos inside, List.pairwise_cons] at apart
      rw [ih apart.2]
      intro each listed isContent line isUsed
      rcases List.mem_cons.mp isUsed with rfl | earlier
      · have between := apart.1 each (List.mem_filter.mpr ⟨listed, isContent⟩)
        rwa [linesBetween_comm] at between
      · exact clear each (List.mem_cons_of_mem first listed) isContent line earlier

theorem keepApart_sublist (distance : Int) (used : List Int) (found : List (Match σ)) :
    (keepApart distance used found).Sublist found := by
  fun_induction keepApart distance used found with
  | case1 used => exact .slnil
  | case2 used first rest outside ih => exact ih.cons_cons first
  | case3 used first rest inside near ih => exact ih.cons first
  | case4 used first rest inside clear ih => exact ih.cons_cons first

theorem AreApart.keepApart_eq (apart : AreApart distance found) :
    keepApart distance [] found = found :=
  keepApart_eq_self apart (by simp)

end

/-! ## Comparable scores -/

section

variable [BEq σ] [LT σ]

/-- Whether the scores of some matches can be compared: of two scores one is not both above and
below the other, what is below a score is below all that is not, and scores neither of which is
below the other are equal.  Numbers can, as long as each of them is one. -/
structure AreComparable (found : List (Match σ)) : Prop where
  asymm : ∀ left ∈ found, ∀ right ∈ found, left.score < right.score →
    ¬ right.score < left.score
  cotrans : ∀ left ∈ found, ∀ middle ∈ found, ∀ right ∈ found, left.score < right.score →
    left.score < middle.score ∨ middle.score < right.score
  equal_iff : ∀ left ∈ found, ∀ right ∈ found, (left.score == right.score) = true ↔
    ¬ left.score < right.score ∧ ¬ right.score < left.score

namespace AreComparable

variable {found others : List (Match σ)} {first second third : Match σ}

theorem of_subset (comparable : AreComparable found) (subset : others ⊆ found) :
    AreComparable others where
  asymm := fun left listed right alsoListed =>
    comparable.asymm left (subset listed) right (subset alsoListed)
  cotrans := fun left listed middle middleListed right alsoListed =>
    comparable.cotrans left (subset listed) middle (subset middleListed) right
      (subset alsoListed)
  equal_iff := fun left listed right alsoListed =>
    comparable.equal_iff left (subset listed) right (subset alsoListed)

theorem not_lt_trans (comparable : AreComparable found) (firstListed : first ∈ found)
    (secondListed : second ∈ found) (thirdListed : third ∈ found)
    (atLeast : ¬ first.score < second.score) (further : ¬ second.score < third.score) :
    ¬ first.score < third.score := by
  intro below
  rcases comparable.cotrans first firstListed second secondListed third thirdListed below with
    before | after
  · exact atLeast before
  · exact further after

theorem lt_of_lt_of_not_lt (comparable : AreComparable found) (firstListed : first ∈ found)
    (secondListed : second ∈ found) (thirdListed : third ∈ found)
    (below : first.score < second.score) (atMost : ¬ third.score < second.score) :
    first.score < third.score :=
  (comparable.cotrans first firstListed third thirdListed second secondListed below).resolve_right
    atMost

theorem lt_of_not_lt_of_lt (comparable : AreComparable found) (firstListed : first ∈ found)
    (secondListed : second ∈ found) (thirdListed : third ∈ found)
    (atMost : ¬ second.score < first.score) (below : second.score < third.score) :
    first.score < third.score :=
  (comparable.cotrans second secondListed first firstListed third thirdListed below).resolve_left
    atMost

end AreComparable

/-- Scores in a linear order can be compared. -/
theorem areComparable_of_linearOrder {τ : Type} [BEq τ] [LawfulBEq τ] [LinearOrder τ]
    (found : List (Match τ)) : AreComparable found where
  asymm := fun _ _ _ _ below => lt_asymm below
  cotrans := fun left _ middle _ _ _ below =>
    (lt_or_ge left.score middle.score).imp_right fun atMost => lt_of_le_of_lt atMost below
  equal_iff := fun _ _ _ _ => by
    rw [beq_iff_eq, not_lt, not_lt, and_comm, le_antisymm_iff]

/-! ## The orders -/

variable [∀ left right : σ, Decidable (left < right)]
variable {found : List (Match σ)} {left right : Match σ}

/-- Whether a match has a higher score than another one, or one that is not lower and a line
that is not behind. -/
def IsAhead (left right : Match σ) : Prop :=
  right.score < left.score ∨ ¬ left.score < right.score ∧ left.lineOrZero ≤ right.lineOrZero

theorem AreComparable.selectedBefore_iff (comparable : AreComparable found)
    (leftListed : left ∈ found) (rightListed : right ∈ found) :
    selectedBefore left right = true ↔ IsAhead left right := by
  rw [selectedBefore, IsAhead]
  split
  next equal =>
    have notApart := (comparable.equal_iff left leftListed right rightListed).mp equal
    simp [notApart]
  next unequal =>
    rw [comparable.equal_iff left leftListed right rightListed, not_and_or, not_not,
      not_not] at unequal
    simp only [Bool.not_eq_true', decide_eq_false_iff_not]
    rcases unequal with below | above
    · simp [below, comparable.asymm left leftListed right rightListed below]
    · simp [above, comparable.asymm right rightListed left leftListed above]

omit [BEq σ] in
theorem shownBefore_iff : shownBefore left right = true ↔
    fieldRank left.field < fieldRank right.field ∨
      fieldRank left.field = fieldRank right.field ∧ ¬ left.score < right.score := by
  simp [shownBefore]

omit [BEq σ] in
theorem shownBefore_total (asymm : left.score < right.score → ¬ right.score < left.score) :
    shownBefore left right = true ∨ shownBefore right left = true := by
  rw [shownBefore_iff, shownBefore_iff]
  rcases Nat.lt_trichotomy (fieldRank left.field) (fieldRank right.field) with
    before | same | after
  · exact .inl (.inl before)
  · by_cases below : left.score < right.score
    · exact .inr (.inr ⟨same.symm, asymm below⟩)
    · exact .inl (.inr ⟨same, below⟩)
  · exact .inr (.inl after)

theorem AreComparable.orders_selectedBefore (comparable : AreComparable found) :
    Orders selectedBefore found where
  total := by
    intro left leftListed right rightListed
    rw [comparable.selectedBefore_iff leftListed rightListed,
      comparable.selectedBefore_iff rightListed leftListed]
    by_cases below : left.score < right.score
    · exact .inr (.inl below)
    · by_cases above : right.score < left.score
      · exact .inl (.inl above)
      · rcases Int.le_total left.lineOrZero right.lineOrZero with before | after
        · exact .inl (.inr ⟨below, before⟩)
        · exact .inr (.inr ⟨above, after⟩)
  trans := by
    intro first firstListed second secondListed third thirdListed before after
    rw [comparable.selectedBefore_iff firstListed secondListed] at before
    rw [comparable.selectedBefore_iff secondListed thirdListed] at after
    rw [comparable.selectedBefore_iff firstListed thirdListed]
    rcases before with higher | ⟨atLeast, earlier⟩
    · left
      rcases after with further | ⟨further, _⟩
      · exact comparable.lt_of_lt_of_not_lt thirdListed secondListed firstListed further
          (comparable.asymm second secondListed first firstListed higher)
      · exact comparable.lt_of_not_lt_of_lt thirdListed secondListed firstListed further higher
    · rcases after with further | ⟨further, later⟩
      · exact .inl (comparable.lt_of_lt_of_not_lt thirdListed secondListed firstListed further
          atLeast)
      · right
        exact ⟨comparable.not_lt_trans firstListed secondListed thirdListed atLeast further,
          Int.le_trans earlier later⟩

theorem AreComparable.orders_shownBefore (comparable : AreComparable found) :
    Orders shownBefore found where
  total := fun left leftListed right rightListed =>
    shownBefore_total (comparable.asymm left leftListed right rightListed)
  trans := by
    intro first firstListed second secondListed third thirdListed before after
    rw [shownBefore_iff] at before after ⊢
    rcases before with earlier | ⟨same, atLeast⟩
    · left
      omega
    · rcases after with later | ⟨alsoSame, further⟩
      · left
        omega
      · exact .inr ⟨same.trans alsoSame,
          comparable.not_lt_trans firstListed secondListed thirdListed atLeast further⟩

/-! ## Selecting -/

/-- Whether a match in the content stands for another one: it is near to it, and it has a
higher score, or the same score and a line that is not behind. -/
structure StandsFor (distance : Int) (kept other : Match σ) : Prop where
  isContent : kept.isContent = true
  near : linesBetween other kept ≤ distance
  better : other.score < kept.score ∨
    ¬ other.score < kept.score ∧ ¬ kept.score < other.score ∧ kept.lineOrZero ≤ other.lineOrZero

variable {distance : Int} {used : List Int}

omit [BEq σ] in
/-- The matches that are left out are in the content, and near to a line that was used before or
to a match that is kept. -/
theorem exists_perm_keepApart (ranked : found.Pairwise IsAhead) :
    ∃ others, found.Perm (keepApart distance used found ++ others) ∧
      ∀ other ∈ others, other.isContent = true ∧
        ((∃ line ∈ used, (other.lineOrZero - line).natAbs ≤ distance) ∨
          ∃ kept ∈ keepApart distance used found, StandsFor distance kept other) := by
  fun_induction keepApart distance used found with
  | case1 used => exact ⟨[], .nil, by simp⟩
  | case2 used first rest outside ih =>
      rcases ih (List.pairwise_cons.mp ranked).2 with ⟨others, perm, reasons⟩
      refine ⟨others, perm.cons first, fun other member => ?_⟩
      rcases reasons other member with ⟨isContent, near | ⟨kept, isKept, standsFor⟩⟩
      · exact ⟨isContent, .inl near⟩
      · exact ⟨isContent, .inr ⟨kept, List.mem_cons_of_mem first isKept, standsFor⟩⟩
  | case3 used first rest inside near ih =>
      rcases ih (List.pairwise_cons.mp ranked).2 with ⟨others, perm, reasons⟩
      refine ⟨first :: others, (perm.cons first).trans List.perm_middle.symm, ?_⟩
      refine List.forall_mem_cons.mpr ⟨⟨by simpa using inside, .inl ?_⟩, reasons⟩
      simpa using near
  | case4 used first rest inside clear ih =>
      rcases List.pairwise_cons.mp ranked with ⟨before, ranked⟩
      rcases ih ranked with ⟨others, perm, reasons⟩
      refine ⟨others, perm.cons first, fun other member => ?_⟩
      rcases reasons other member with ⟨isContent, ⟨line, isUsed, near⟩ | ⟨kept, isKept, standsFor⟩⟩
      · refine ⟨isContent, ?_⟩
        rcases List.mem_cons.mp isUsed with rfl | earlier
        · -- It is near to the match that has just been taken, which comes before it.
          have listed : other ∈ rest := perm.mem_iff.mpr (List.mem_append_right _ member)
          right
          refine ⟨first, List.mem_cons_self, by simpa using inside, near, ?_⟩
          rcases before other listed with higher | ⟨atLeast, inFront⟩
          · exact .inl higher
          · by_cases higher : other.score < first.score
            · exact .inl higher
            · exact .inr ⟨higher, atLeast, inFront⟩
        · exact .inl ⟨line, earlier, near⟩
      · exact ⟨isContent, .inr ⟨kept, List.mem_cons_of_mem first isKept, standsFor⟩⟩

section

variable {sort : Sorter (Match σ)} (keepsRuns : sort.KeepsRuns)

include keepsRuns

/-- What is kept is among what was found. -/
theorem selected_subset (found : List (Match σ)) (distance : Int) :
    keepApart distance [] (sort selectedBefore found) ⊆ found := by
  intro each kept
  exact (keepsRuns.perm selectedBefore found).mem_iff.mp ((keepApart_sublist _ _ _).subset kept)

theorem deduplicate_subset (found : List (Match σ)) (distance : Int) :
    deduplicate found distance sort ⊆ found := by
  intro each shown
  exact selected_subset keepsRuns found distance ((keepsRuns.perm _ _).mem_iff.mp shown)

end

/-- The matches that are selected, in the order of selection. -/
def selected (found : List (Match σ)) (distance : Int) : List (Match σ) :=
  keepApart distance [] (sortRuns selectedBefore found)

theorem deduplicate_perm (found : List (Match σ)) (distance : Int) :
    (deduplicate found distance).Perm (selected found distance) :=
  sortRuns_keepsRuns.perm _ _

theorem areApart_deduplicate (found : List (Match σ)) (distance : Int) :
    AreApart distance (deduplicate found distance) :=
  (areApart_keepApart distance [] _).1.perm (deduplicate_perm found distance).symm

namespace AreComparable

/-- The matches are taken from the best one on. -/
theorem pairwise_isAhead (comparable : AreComparable found) :
    (sortRuns selectedBefore found).Pairwise IsAhead := by
  have perm := sortRuns_keepsRuns.perm selectedBefore found
  have ordered := comparable.orders_selectedBefore.pairwise_mergeSort
  rw [← comparable.orders_selectedBefore.sortRuns_eq_mergeSort] at ordered
  refine ordered.imp_of_mem ?_
  intro left right leftListed rightListed
  exact (comparable.selectedBefore_iff (perm.mem_iff.mp leftListed)
    (perm.mem_iff.mp rightListed)).mp

/-- Every match is selected or there is one that stands for it. -/
theorem exists_perm_deduplicate (comparable : AreComparable found) (distance : Int) :
    ∃ others, found.Perm (deduplicate found distance ++ others) ∧
      ∀ other ∈ others, other.isContent = true ∧
        ∃ kept ∈ deduplicate found distance, StandsFor distance kept other := by
  rcases exists_perm_keepApart comparable.pairwise_isAhead with ⟨others, perm, reasons⟩
  have shown := deduplicate_perm found distance
  refine ⟨others, (sortRuns_keepsRuns.perm _ _).symm.trans (perm.trans (shown.symm.append_right _)),
    fun other member => ?_⟩
  rcases reasons other member with ⟨isContent, ⟨_, isUsed, _⟩ | ⟨kept, isKept, standsFor⟩⟩
  · cases isUsed
  · exact ⟨isContent, kept, shown.mem_iff.mpr isKept, standsFor⟩

theorem orders_selected (comparable : AreComparable found) (distance : Int) :
    Orders shownBefore (selected found distance) :=
  comparable.orders_shownBefore.of_subset (selected_subset sortRuns_keepsRuns found distance)

theorem deduplicate_eq_mergeSort (comparable : AreComparable found) (distance : Int) :
    deduplicate found distance = (selected found distance).mergeSort shownBefore :=
  (comparable.orders_selected distance).sortRuns_eq_mergeSort

end AreComparable

/-- What is selected stays selected. -/
theorem AreComparable.deduplicate_deduplicate (comparable : AreComparable found) (distance : Int) :
    deduplicate (deduplicate found distance) distance = deduplicate found distance := by
  have kept := comparable.of_subset (deduplicate_subset sortRuns_keepsRuns found distance)
  have orders := comparable.orders_selected distance
  have ranked : (selected found distance).Pairwise fun left right =>
      selectedBefore left right = true := by
    rw [selected, comparable.orders_selectedBefore.sortRuns_eq_mergeSort]
    exact comparable.orders_selectedBefore.pairwise_mergeSort.sublist (keepApart_sublist _ _ _)
  have apart := (areApart_deduplicate found distance).perm
    (List.mergeSort_perm _ selectedBefore).symm
  calc deduplicate (deduplicate found distance) distance
      = ((deduplicate found distance).mergeSort selectedBefore).mergeSort shownBefore := by
        rw [kept.deduplicate_eq_mergeSort, selected,
          kept.orders_selectedBefore.sortRuns_eq_mergeSort, apart.keepApart_eq]
    _ = deduplicate found distance := by
        apply kept.orders_shownBefore.mergeSort_mergeSort_eq kept.orders_selectedBefore
        · rw [comparable.deduplicate_eq_mergeSort]
          exact orders.pairwise_mergeSort
        · rw [comparable.deduplicate_eq_mergeSort]
          exact orders.ties_mergeSort ranked

/-- Selecting matches leaves out only matches in the content, for each of which a near match that
is kept stands.  The matches in the content that are kept are apart from each other.  All are
shown by field and then by score, and selecting them once more changes nothing. -/
theorem deduplicate_selects (comparable : AreComparable found) (distance : Int) :
    (∃ others, found.Perm (deduplicate found distance ++ others) ∧
      ∀ other ∈ others, other.isContent = true ∧
        ∃ kept ∈ deduplicate found distance, StandsFor distance kept other) ∧
    AreApart distance (deduplicate found distance) ∧
    (deduplicate found distance).Pairwise (fun left right =>
      fieldRank left.field < fieldRank right.field ∨
        fieldRank left.field = fieldRank right.field ∧ ¬ left.score < right.score) ∧
    deduplicate (deduplicate found distance) distance = deduplicate found distance := by
  refine ⟨comparable.exists_perm_deduplicate distance, areApart_deduplicate found distance, ?_,
    comparable.deduplicate_deduplicate distance⟩
  rw [comparable.deduplicate_eq_mergeSort]
  exact (comparable.orders_selected distance).pairwise_mergeSort.imp shownBefore_iff.mp

end

/-- A title and matches in the content, of which two have the same score. -/
def crowdedMatches : List (Match Nat) :=
  [{ field := "title".toList, text := "a".toList, score := 90 },
    { field := contentField, text := "b".toList, score := 30, line := some 7 },
    { field := contentField, text := "c".toList, score := 20, line := some 2 },
    { field := contentField, text := "d".toList, score := 20, line := some 4 },
    { field := contentField, text := "e".toList, score := 5, line := some 11 }]

/-- The last but one is three lines from a better match and two from one as good in front
of it. -/
theorem deduplicate_crowdedMatches : AreComparable crowdedMatches ∧
    (deduplicate crowdedMatches 3).map (·.text) = ["a".toList, "b".toList, "c".toList, "e".toList] ∧
    AreApart 3 (deduplicate crowdedMatches 3) ∧
    deduplicate (deduplicate crowdedMatches 3) 3 = deduplicate crowdedMatches 3 := by
  have comparable := areComparable_of_linearOrder crowdedMatches
  have selects := deduplicate_selects comparable 3
  refine ⟨comparable, ?_, selects.2.1, selects.2.2.2⟩
  decide

end SpecFinder.Match
