import Mathlib.Data.List.Induction
import Mathlib.Data.List.Nodup
import SpecFinder.Match.Score

/-!
# The best scores of the fields

Going through matches keeps one score for each field, in the order in which the fields are first
met.  What is kept can be read off the matches at once: `fieldsOf` are the fields, and `bestOf` is
the score of a field.  The score of a spec depends on these alone.
-/

namespace SpecFinder.Match

open ScoreNumber

section

variable {σ : Type}

/-- The fields of matches, each once, in the order in which they are first met. -/
def fieldsOf (found : List (Match σ)) : List Text := (found.map (·.field)).eraseDups

theorem mem_fieldsOf {found : List (Match σ)} {field : Text} :
    field ∈ fieldsOf found ↔ ∃ each ∈ found, each.field = field := by
  rw [fieldsOf, List.mem_eraseDups, List.mem_map]

theorem fieldsOf_concat (found : List (Match σ)) (last : Match σ) :
    fieldsOf (found ++ [last]) =
      if last.field ∈ fieldsOf found then fieldsOf found else fieldsOf found ++ [last.field] := by
  have same : last.field ∈ fieldsOf found ↔ last.field ∈ found.map (·.field) := List.mem_eraseDups
  rw [fieldsOf, List.map_append, List.map_singleton, List.eraseDups_append, ← fieldsOf,
    List.removeAll]
  split
  next known =>
    rw [same] at known
    rw [List.filter_cons_of_neg (by simpa using known), List.filter_nil, List.eraseDups_nil,
      List.append_nil]
  next unknown =>
    rw [same] at unknown
    rw [List.filter_cons_of_pos (by simpa using unknown), List.filter_nil]
    rfl

theorem nodup_fieldsOf (found : List (Match σ)) : (fieldsOf found).Nodup := by
  induction found using List.reverseRecOn with
  | nil => exact List.nodup_nil
  | append_singleton found last ih =>
      rw [fieldsOf_concat]
      split
      next known => exact ih
      next unknown =>
        rw [← List.concat_eq_append]
        exact List.Nodup.concat unknown ih

theorem fieldsOf_sublist (found : List (Match σ)) :
    (fieldsOf found).Sublist (found.map (·.field)) := by
  induction found using List.reverseRecOn with
  | nil => exact .slnil
  | append_singleton found last ih =>
      rw [fieldsOf_concat, List.map_append]
      split
      next known => exact ih.trans (List.sublist_append_left _ _)
      next unknown => exact ih.append (.refl _)

end

variable {σ : Type} [ScoreNumber σ]

/-- The greatest of zero and the scores of the matches in a field. -/
def bestOf (found : List (Match σ)) (field : Text) : σ :=
  (found.filter (·.field == field)).foldl (fun held each => larger held each.score) (ofCount 0)

theorem bestOf_concat (found : List (Match σ)) (last : Match σ) (field : Text) :
    bestOf (found ++ [last]) field =
      if field = last.field then larger (bestOf found field) last.score
      else bestOf found field := by
  rw [bestOf, List.filter_append, List.foldl_append]
  by_cases same : field = last.field
  · simp [same, bestOf]
  · simp [same, bestOf, Ne.symm same]

theorem bestOf_of_not_mem {found : List (Match σ)} {field : Text}
    (unknown : field ∉ fieldsOf found) : bestOf found field = ofCount 0 := by
  have none : found.filter (·.field == field) = [] := by
    rw [List.filter_eq_nil_iff]
    intro each listed same
    exact unknown (mem_fieldsOf.mpr ⟨each, listed, beq_iff_eq.mp same⟩)
  rw [bestOf, none, List.foldl_nil]

/-- A score is kept for its field, which is put last when it is a new one. -/
theorem insertBest_map {fields : List Text} (nodup : fields.Nodup) (best : Text → σ)
    (field : Text) (score : σ) :
    insertBest (fields.map fun each => (each, best each)) field score =
      if field ∈ fields then
        fields.map fun each => (each, if each = field then larger (best each) score else best each)
      else
        fields.map (fun each => (each, best each)) ++ [(field, larger (ofCount 0) score)] := by
  induction fields with
  | nil => rfl
  | cons first rest ih =>
      rcases List.nodup_cons.mp nodup with ⟨fresh, nodup⟩
      rw [List.map_cons, insertBest]
      by_cases same : first = field
      · have others : rest.map (fun each => (each, best each)) =
            rest.map fun each =>
              (each, if each = field then larger (best each) score else best each) := by
          apply List.map_congr_left
          intro each listed
          rw [if_neg]
          rintro rfl
          exact fresh (same ▸ listed)
        simp [same, others]
      · rw [if_neg same, ih nodup]
        simp only [List.mem_cons, Ne.symm same, false_or]
        split
        next known => simp [same]
        next unknown => rfl

/-- Each field is kept with its best score. -/
theorem bestScores_eq (found : List (Match σ)) :
    bestScores found = (fieldsOf found).map fun field => (field, bestOf found field) := by
  induction found using List.reverseRecOn with
  | nil => rfl
  | append_singleton found last ih =>
      have step : bestScores (found ++ [last]) =
          insertBest (bestScores found) last.field last.score := by
        rw [bestScores, List.foldl_append]
        rfl
      rw [step, ih, insertBest_map (nodup_fieldsOf found), fieldsOf_concat]
      simp only [bestOf_concat]
      split
      next known => rfl
      next unknown =>
        rw [List.map_append, List.map_singleton, if_pos rfl, bestOf_of_not_mem unknown]
        congr 1
        apply List.map_congr_left
        intro field listed
        rw [if_neg]
        rintro rfl
        exact unknown listed

theorem bestScores_eq_nil_iff {found : List (Match σ)} : bestScores found = [] ↔ found = [] := by
  rw [bestScores_eq, List.map_eq_nil_iff, List.eq_nil_iff_forall_not_mem,
    List.eq_nil_iff_forall_not_mem]
  constructor
  · intro noField each listed
    exact noField each.field (mem_fieldsOf.mpr ⟨each, listed, rfl⟩)
  · intro nothing field known
    rcases mem_fieldsOf.mp known with ⟨each, listed, _⟩
    exact nothing each listed

/-- Matches with the same fields, first met in the same order, and with the same best scores give a
spec the same score. -/
theorem specScore_congr {found others : List (Match σ)} (fields : fieldsOf found = fieldsOf others)
    (best : ∀ field ∈ fieldsOf found, bestOf found field = bestOf others field) :
    specScore found = specScore others := by
  have same : bestScores found = bestScores others := by
    rw [bestScores_eq, bestScores_eq, ← fields]
    apply List.map_congr_left
    intro field known
    rw [best field known]
  have empty : found.isEmpty = others.isEmpty := by
    rw [Bool.eq_iff_iff, List.isEmpty_iff, List.isEmpty_iff, ← bestScores_eq_nil_iff, same,
      bestScores_eq_nil_iff]
  rw [specScore, specScore, same, empty]

end SpecFinder.Match
