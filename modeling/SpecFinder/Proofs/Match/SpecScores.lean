import Mathlib.Algebra.BigOperators.Field
import Mathlib.Algebra.Order.BigOperators.Group.Finset
import Mathlib.Algebra.Order.Floor.Ring
import Mathlib.Data.Finset.Lattice.Fold
import Mathlib.Data.List.Fold
import Mathlib.Data.Rat.Floor
import SpecFinder.Proofs.Match.BestScores

/-!
# The score of a spec

In exact numbers the score of a spec is the mean of the best scores of its fields, weighted by
field, and then rounded.  A greater weight or a better match in one field therefore never lowers
it, the order and the number of the matches do not count, and it lies between what the worst and
the best field alone would give.
-/

namespace SpecFinder.Match

open ScoreNumber

/-- Scores as exact fractions. -/
instance : ScoreNumber ℚ where
  ofCount count := count
  half := 1 / 2
  floor value := ⌊value⌋
  decideLt := inferInstance

/-! ## The mean -/

/-- The mean of values of fields, weighted by field. -/
def meanOver (fields : Finset Text) (values : Text → ℚ) : ℚ :=
  (∑ field ∈ fields, values field * fieldWeight field) / ∑ field ∈ fields, (fieldWeight field : ℚ)

theorem fieldWeight_pos (field : Text) : 0 < fieldWeight field := by
  rw [fieldWeight]
  split_ifs <;> decide

section

variable {fields : Finset Text} {values others : Text → ℚ} {bound : ℚ}

theorem totalWeight_pos (nonempty : fields.Nonempty) :
    0 < ∑ field ∈ fields, (fieldWeight field : ℚ) :=
  Finset.sum_pos (fun field _ => Nat.cast_pos.mpr (fieldWeight_pos field)) nonempty

theorem meanOver_mono (atMost : ∀ field ∈ fields, values field ≤ others field) :
    meanOver fields values ≤ meanOver fields others := by
  apply div_le_div_of_nonneg_right
  · apply Finset.sum_le_sum
    intro field listed
    exact mul_le_mul_of_nonneg_right (atMost field listed) (Nat.cast_nonneg _)
  · exact Finset.sum_nonneg fun field _ => Nat.cast_nonneg _

/-- The mean of a single value. -/
theorem meanOver_const (nonempty : fields.Nonempty) (value : ℚ) :
    meanOver fields (fun _ => value) = value := by
  rw [meanOver, ← Finset.mul_sum]
  exact mul_div_cancel_right₀ value (totalWeight_pos nonempty).ne'

theorem le_meanOver (nonempty : fields.Nonempty)
    (atLeast : ∀ field ∈ fields, bound ≤ values field) : bound ≤ meanOver fields values :=
  calc bound = meanOver fields fun _ => bound := (meanOver_const nonempty bound).symm
    _ ≤ meanOver fields values := meanOver_mono atLeast

theorem meanOver_le (nonempty : fields.Nonempty)
    (atMost : ∀ field ∈ fields, values field ≤ bound) : meanOver fields values ≤ bound :=
  calc meanOver fields values ≤ meanOver fields fun _ => bound := meanOver_mono atMost
    _ = bound := meanOver_const nonempty bound

end

/-! ## The best score of a field -/

/-- The fields of matches. -/
def fieldSet (found : List (Match ℚ)) : Finset Text := (found.map (·.field)).toFinset

theorem mem_fieldSet {found : List (Match ℚ)} {field : Text} :
    field ∈ fieldSet found ↔ ∃ each ∈ found, each.field = field := by
  rw [fieldSet, List.mem_toFinset, List.mem_map]

/-- The greatest score among the matches in a field, which is at least zero. -/
def fieldMaximum (found : List (Match ℚ)) (field : Text) : ℚ :=
  ((found.filter (·.field == field)).map (·.score)).foldr max 0

theorem foldr_max_le_iff {values : List ℚ} {bound : ℚ} :
    values.foldr max 0 ≤ bound ↔ 0 ≤ bound ∧ ∀ value ∈ values, value ≤ bound := by
  induction values with
  | nil => simp
  | cons first rest ih =>
      rw [List.foldr_cons, max_le_iff, ih, List.forall_mem_cons]
      tauto

theorem fieldMaximum_le_iff {found : List (Match ℚ)} {field : Text} {bound : ℚ} :
    fieldMaximum found field ≤ bound ↔
      0 ≤ bound ∧ ∀ each ∈ found, each.field = field → each.score ≤ bound := by
  rw [fieldMaximum, foldr_max_le_iff, List.forall_mem_map, List.forall_mem_filter]
  simp only [beq_iff_eq]

theorem fieldMaximum_nonneg (found : List (Match ℚ)) (field : Text) :
    0 ≤ fieldMaximum found field :=
  (fieldMaximum_le_iff.mp le_rfl).1

theorem le_fieldMaximum {found : List (Match ℚ)} {each : Match ℚ} (listed : each ∈ found) :
    each.score ≤ fieldMaximum found each.field :=
  (fieldMaximum_le_iff.mp le_rfl).2 each listed rfl

theorem larger_eq_max (left right : ℚ) : larger left right = max left right :=
  (max_def_lt left right).symm

theorem bestOf_eq_fieldMaximum (found : List (Match ℚ)) (field : Text) :
    bestOf found field = fieldMaximum found field := by
  rw [bestOf, fieldMaximum, ← List.foldl_eq_foldr, List.foldl_map]
  simp only [larger_eq_max]
  rfl

theorem toFinset_fieldsOf (found : List (Match ℚ)) :
    (fieldsOf found).toFinset = fieldSet found := by
  ext field
  rw [List.mem_toFinset, mem_fieldsOf, mem_fieldSet]

/-- The scores that are kept have the mean of the fields' best ones. -/
theorem weightedMean_bestScores (found : List (Match ℚ)) :
    weightedMean (bestScores found) = meanOver (fieldSet found) (fieldMaximum found) := by
  have total : ((bestScores found).foldl
      (fun total (field, score) => total + score * ofCount (fieldWeight field)) (ofCount 0)) =
      ∑ field ∈ fieldSet found, fieldMaximum found field * fieldWeight field := by
    rw [bestScores_eq, List.foldl_map, ← toFinset_fieldsOf,
      List.sum_toFinset _ (nodup_fieldsOf found)]
    simp only [bestOf_eq_fieldMaximum]
    rw [List.sum_eq_foldl, List.foldl_map]
    rfl
  have weight : ((bestScores found).foldl
      (fun total (field, _) => total + fieldWeight field) 0 : ℕ) =
      ∑ field ∈ fieldSet found, fieldWeight field := by
    rw [bestScores_eq, List.foldl_map, ← toFinset_fieldsOf,
      List.sum_toFinset _ (nodup_fieldsOf found), List.sum_eq_foldl, List.foldl_map]
  rw [weightedMean, total, weight, meanOver]
  congr 1
  exact Nat.cast_sum _ _

/-! ## Rounding -/

/-- A number rounded to a score: to the nearest integer, a half upwards, and to what lies between
zero and a hundred. -/
def rounded (value : ℚ) : ℤ := max 0 (min 100 ⌊value + 1 / 2⌋)

theorem rounded_mono {low high : ℚ} (atMost : low ≤ high) : rounded low ≤ rounded high := by
  have floors : ⌊low + 1 / 2⌋ ≤ ⌊high + 1 / 2⌋ := Int.floor_le_floor (by linarith)
  rw [rounded, rounded]
  omega

theorem specScore_eq_rounded {found : List (Match ℚ)} (nonempty : found ≠ []) :
    (specScore found : ℤ) = rounded (meanOver (fieldSet found) (fieldMaximum found)) := by
  have floored : ScoreNumber.floor (weightedMean (bestScores found) + half) =
      ⌊meanOver (fieldSet found) (fieldMaximum found) + 1 / 2⌋ := by
    rw [weightedMean_bestScores]
    rfl
  rw [specScore, if_neg (by simpa using nonempty), floored, rounded, maxScore]
  omega

theorem fieldSet_nonempty_iff {found : List (Match ℚ)} :
    (fieldSet found).Nonempty ↔ found ≠ [] := by
  rw [fieldSet, List.toFinset_nonempty_iff, ne_eq, List.map_eq_nil_iff]

/-- The score does not go down when the best scores of the same fields do not. -/
theorem specScore_le {found others : List (Match ℚ)} (fields : fieldSet found = fieldSet others)
    (atMost : ∀ field ∈ fieldSet found, fieldMaximum found field ≤ fieldMaximum others field) :
    specScore found ≤ specScore others := by
  by_cases empty : found = []
  · rw [empty]
    exact Nat.zero_le _
  · have otherNonempty : others ≠ [] := by
      rw [← fieldSet_nonempty_iff, ← fields]
      exact fieldSet_nonempty_iff.mpr empty
    have scores := rounded_mono (meanOver_mono atMost)
    rw [← specScore_eq_rounded empty, fields, ← specScore_eq_rounded otherNonempty] at scores
    exact_mod_cast scores

/-- Matches of the same fields, each of which another list has a match for that is at least as
good, give no higher score. -/
theorem specScore_le_of_covers {found others : List (Match ℚ)}
    (fields : fieldSet found = fieldSet others)
    (covers : ∀ each ∈ found, ∃ other ∈ others, other.field = each.field ∧
      each.score ≤ other.score) : specScore found ≤ specScore others := by
  apply specScore_le fields
  intro field _
  apply fieldMaximum_le_iff.mpr ⟨fieldMaximum_nonneg others field, ?_⟩
  rintro each listed rfl
  rcases covers each listed with ⟨other, alsoListed, same, atMost⟩
  rw [← same]
  exact atMost.trans (le_fieldMaximum alsoListed)

/-- Leaving out matches for each of which another is kept that is at least as good changes
nothing. -/
theorem specScore_eq_of_subset {found kept : List (Match ℚ)} (subset : kept ⊆ found)
    (covers : ∀ each ∈ found, ∃ other ∈ kept, other.field = each.field ∧
      each.score ≤ other.score) : specScore found = specScore kept := by
  have fields : fieldSet found = fieldSet kept := by
    ext field
    rw [mem_fieldSet, mem_fieldSet]
    constructor
    · rintro ⟨each, listed, rfl⟩
      rcases covers each listed with ⟨other, isKept, same, _⟩
      exact ⟨other, isKept, same⟩
    · rintro ⟨each, isKept, rfl⟩
      exact ⟨each, subset isKept, rfl⟩
  apply le_antisymm
  · exact specScore_le_of_covers fields covers
  · exact specScore_le_of_covers fields.symm fun each isKept =>
      ⟨each, subset isKept, rfl, le_rfl⟩

/-- The order and the number of the matches do not count. -/
theorem specScore_eq_of_mem_iff {found others : List (Match ℚ)}
    (same : ∀ each, each ∈ found ↔ each ∈ others) : specScore found = specScore others := by
  apply specScore_eq_of_subset fun each => (same each).mpr
  intro each listed
  exact ⟨each, (same each).mp listed, rfl, le_rfl⟩

section

variable {front back : List (Match ℚ)}

/-- A match does not count when another one in its field is at least as good. -/
theorem specScore_of_weaker {weaker stronger : Match ℚ} (listed : stronger ∈ front ++ back)
    (sameField : stronger.field = weaker.field) (weak : weaker.score ≤ stronger.score) :
    specScore (front ++ weaker :: back) = specScore (front ++ back) := by
  have moved : List.Perm (front ++ weaker :: back) (weaker :: (front ++ back)) :=
    List.perm_middle
  apply specScore_eq_of_subset fun each kept => moved.mem_iff.mpr (List.mem_cons_of_mem _ kept)
  intro each held
  rcases List.mem_cons.mp (moved.mem_iff.mp held) with rfl | kept
  · exact ⟨stronger, listed, sameField, weak⟩
  · exact ⟨each, kept, rfl, le_rfl⟩

theorem specScore_le_of_raised {each : Match ℚ} {score : ℚ} (raised : each.score ≤ score) :
    specScore (front ++ each :: back) ≤ specScore (front ++ { each with score } :: back) := by
  have fields : fieldSet (front ++ each :: back) =
      fieldSet (front ++ { each with score } :: back) := by
    rw [fieldSet, fieldSet, List.map_append, List.map_append, List.map_cons, List.map_cons]
  apply specScore_le_of_covers fields
  intro other held
  rcases List.mem_cons.mp (List.perm_middle.mem_iff.mp held) with rfl | kept
  · exact ⟨{ other with score }, List.mem_append_right front List.mem_cons_self, rfl, raised⟩
  · exact ⟨other, List.perm_middle.mem_iff.mpr (List.mem_cons_of_mem _ kept), rfl, le_rfl⟩

end

/-- The score of a spec with matches is the rounded mean of the best scores of its fields, weighted
by field.  It stays the same when matches are put in another order or repeated, and when one is
taken away for which there is another in its field that is at least as good.  It does not go down
when the score of a match is raised, and it lies between the rounded least and greatest of the
best scores. -/
theorem specScore_mean :
    (∀ found : List (Match ℚ), found ≠ [] →
      (specScore found : ℤ) = rounded (meanOver (fieldSet found) (fieldMaximum found))) ∧
    (∀ found others : List (Match ℚ), (∀ each, each ∈ found ↔ each ∈ others) →
      specScore found = specScore others) ∧
    (∀ (front back : List (Match ℚ)) (weaker stronger : Match ℚ), stronger ∈ front ++ back →
      stronger.field = weaker.field → weaker.score ≤ stronger.score →
      specScore (front ++ weaker :: back) = specScore (front ++ back)) ∧
    (∀ (front back : List (Match ℚ)) (each : Match ℚ) (score : ℚ), each.score ≤ score →
      specScore (front ++ each :: back) ≤ specScore (front ++ { each with score } :: back)) ∧
    ∀ (found : List (Match ℚ)) (nonempty : (fieldSet found).Nonempty),
      rounded ((fieldSet found).inf' nonempty (fieldMaximum found)) ≤ specScore found ∧
      specScore found ≤ rounded ((fieldSet found).sup' nonempty (fieldMaximum found)) := by
  refine ⟨fun _ => specScore_eq_rounded, ?_, ?_, ?_, ?_⟩
  · intro found others same
    exact specScore_eq_of_mem_iff same
  · intro front back weaker stronger listed sameField weak
    exact specScore_of_weaker listed sameField weak
  · intro front back each score raised
    exact specScore_le_of_raised raised
  · intro found nonempty
    rw [specScore_eq_rounded (fieldSet_nonempty_iff.mp nonempty)]
    constructor
    · apply rounded_mono
      exact le_meanOver nonempty fun field listed => Finset.inf'_le _ listed
    · apply rounded_mono
      exact meanOver_le nonempty fun field listed => Finset.le_sup' _ listed

/-- A match in the title, a weaker one there, and one in the content. -/
def titleTwice : List (Match ℚ) :=
  [{ field := "title".toList, text := "api".toList, score := 100 },
    { field := "title".toList, text := "api".toList, score := 40 },
    { field := contentField, text := "the api".toList, score := 50 }]

/-- The weaker match in the title does not count, also when it is raised to ninety. -/
theorem specScore_titleTwice :
    (specScore titleTwice : ℤ) =
      rounded (meanOver (fieldSet titleTwice) (fieldMaximum titleTwice)) ∧
    specScore titleTwice.reverse = specScore titleTwice ∧
    specScore titleTwice = specScore (titleTwice.eraseIdx 1) ∧
    specScore titleTwice ≤ specScore (titleTwice.modify 1 fun each => { each with score := 90 }) ∧
    ∃ nonempty : (fieldSet titleTwice).Nonempty,
      rounded ((fieldSet titleTwice).inf' nonempty (fieldMaximum titleTwice)) ≤
        specScore titleTwice ∧
      specScore titleTwice ≤
        rounded ((fieldSet titleTwice).sup' nonempty (fieldMaximum titleTwice)) := by
  rcases specScore_mean with ⟨mean, sameMatches, weakerAway, raised, between⟩
  have listed : titleTwice ≠ [] := by decide
  have nonempty := fieldSet_nonempty_iff.mpr listed
  refine ⟨mean titleTwice listed, sameMatches _ _ fun each => List.mem_reverse, ?_, ?_,
    nonempty, between titleTwice nonempty⟩
  · exact weakerAway [titleTwice[0]] [titleTwice[2]] titleTwice[1] titleTwice[0]
      List.mem_cons_self rfl (by decide)
  · exact raised [titleTwice[0]] [titleTwice[2]] titleTwice[1] 90 (by decide)

example : specScore titleTwice = 95 := by decide +kernel

end SpecFinder.Match
