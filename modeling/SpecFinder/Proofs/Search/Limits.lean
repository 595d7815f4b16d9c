import SpecFinder.Proofs.Match.CollectedScores
import SpecFinder.Proofs.Search.Ranking
import SpecFinder.Proofs.Search.Scores

/-!
# Results under a limit

The limit to the number of matches decides how many of a spec's selected matches a result shows,
and nothing else about them: with a higher limit the same matches are shown, and others behind
them.  A query of bare words drops a spec of which nothing is shown, so a higher limit may find
more specs, but never fewer.
-/

namespace SpecFinder.Search

section

variable {σ : Type} [Scoring σ]

/-- A result is that of one of the specs. -/
theorem mem_results_advanced {text : Text} {specs : List Spec} {options : SearchOptions}
    {result : Result σ} : result ∈ (advanced text specs options).results ↔
      ∃ spec ∈ specs, result? text options spec = some result := by
  rw [advanced_eq, respond, List.mem_mergeSort, List.mem_filterMap]

/-- How a query finds a spec does not depend on the options: not at all, by filters alone, or
ranked by some terms.  A ranked spec of which nothing is shown may be dropped. -/
theorem result?_cases (σ : Type) [Scoring σ] (text : Text) (spec : Spec) :
    (∀ options, (result? text options spec : Option (Result σ)) = none) ∨
    (∀ options, (result? text options spec : Option (Result σ)) = some (filtered spec)) ∨
    ∃ (terms : List Text) (drops : Bool), ∀ options,
      (result? text options spec : Option (Result σ)) =
        if drops && (rank terms options spec : Result σ).shown.isEmpty then none
        else some (rank terms options spec) := by
  simp only [result?]
  split
  next isAdvanced =>
    simp only [treeResult?_eq, resultFor]
    split
    next holds =>
      right
      split
      next byFilters => exact .inl fun _ => rfl
      next ranked => exact .inr ⟨_, false, fun _ => rfl⟩
    next fails => exact .inl fun _ => rfl
  next isPlain =>
    simp only [plainResult?]
    split
    next contains => exact .inr (.inr ⟨_, true, fun _ => rfl⟩)
    next lacks => exact .inl fun _ => rfl

/-- A result counts the matches that were collected, and shows no more of them. -/
theorem length_shown_le {text : Text} {options : SearchOptions} {spec : Spec} {result : Result σ}
    (found : result? text options spec = some result) :
    result.shown.length ≤ result.totalMatches := by
  rcases result?_cases σ text spec with never | byFilters | ⟨terms, drops, ranked⟩
  · rw [never] at found
    cases found
  · rw [byFilters] at found
    cases found
    exact Nat.le_refl _
  · rw [ranked] at found
    split at found
    · cases found
    · cases found
      exact Match.length_limitTo_deduplicate_le sortRuns_keepsRuns _ _ _

end

/-- Whether a result is another one with more matches at the end. -/
structure Extends {σ : Type} (result extended : Result σ) : Prop where
  spec : extended.spec = result.spec
  totalMatches : extended.totalMatches = result.totalMatches
  shown : result.shown <+: extended.shown

section

variable {options : SearchOptions} {limit : Int} (raised : options.maxMatches ≤ limit)

include raised

theorem extends_rank (terms : List Text) (spec : Spec) :
    Extends (rank terms options spec : Result Float)
      (rank terms { options with maxMatches := limit } spec) where
  spec := rfl
  totalMatches := rfl
  shown := by
    have areShown := Match.areShown_deduplicate sortRuns_keepsRuns
      (fun _ _ _ _ => Double.asymm) (Match.known_collect (σ := Float) spec terms options.reach) 3
    exact areShown.limitTo_isPrefix sortRuns_keepsRuns raised

/-- A spec that is found is found with a higher limit too, with the same matches in front. -/
theorem exists_extends {text : Text} {spec : Spec} {result : Result Float}
    (found : result? text options spec = some result) :
    ∃ extended, result? text { options with maxMatches := limit } spec = some extended ∧
      Extends result extended := by
  rcases result?_cases Float text spec with never | byFilters | ⟨terms, drops, ranked⟩
  · rw [never] at found
    cases found
  · rw [byFilters] at found
    cases found
    exact ⟨_, byFilters _, rfl, rfl, List.prefix_refl _⟩
  · have extension := extends_rank raised terms spec
    rw [ranked] at found
    split at found
    next => cases found
    next shows =>
      cases found
      refine ⟨_, ?_, extension⟩
      rw [ranked]
      apply if_neg
      rw [Bool.and_eq_true, List.isEmpty_iff] at shows ⊢
      rintro ⟨isDropped, nothing⟩
      have front := extension.shown
      rw [nothing, List.prefix_nil] at front
      exact shows ⟨isDropped, front⟩

end

/-- Of selected matches in known fields, a limit leaves a front part, which is as long as the
limit or as what lies outside the content, whichever is longer.  This holds of all scores, also of
those that are no numbers, and with every sort that keeps runs.  So a result shows no more matches
than it counts, and with a higher limit it shows the same ones and more of them at the end. -/
theorem limits_leave_fronts :
    (∀ sort : Sorter (Match Float), sort.KeepsRuns →
      ∀ (found : List (Match Float)) (distance limit : Int),
        (∀ each ∈ found, each.field ∈ Match.fieldOrder) →
        Match.limitTo (Match.deduplicate found distance sort) limit sort =
          (Match.deduplicate found distance sort).take
            (max limit ((Match.deduplicate found distance sort).countP (!·.isContent))).toNat) ∧
    ∀ (text : Text) (specs : List Spec) (options : SearchOptions),
      ∀ result ∈ (advanced text specs options : Response Float).results,
        result.shown.length ≤ result.totalMatches ∧
        ∀ limit : Int, options.maxMatches ≤ limit →
          ∃ extended ∈ (advanced text specs { options with maxMatches := limit } :
            Response Float).results, Extends result extended := by
  constructor
  · intro sort keepsRuns found distance limit known
    have areShown := Match.areShown_deduplicate keepsRuns
      (fun _ _ _ _ => Double.asymm) known distance
    rw [areShown.limitTo_eq_take keepsRuns, List.countP_eq_length_filter]
    rfl
  · intro text specs options result listed
    rcases mem_results_advanced.mp listed with ⟨spec, isSpec, found⟩
    refine ⟨length_shown_le found, fun limit raised => ?_⟩
    rcases exists_extends raised found with ⟨extended, alsoFound, extension⟩
    exact ⟨extended, mem_results_advanced.mpr ⟨spec, isSpec, alsoFound⟩, extension⟩

/-- A title and matches in the content, of which two are near to each other and one has a score
that is no number. -/
def scoredLines : List (Match Float) :=
  [{ field := "title".toList, text := "a".toList, score := 90 },
    { field := Match.contentField, text := "b".toList, score := 30, line := some 7 },
    { field := Match.contentField, text := "c".toList, score := 20, line := some 5 },
    { field := Match.contentField, text := "d".toList, score := 0 / 0, line := some 11 },
    { field := Match.contentField, text := "e".toList, score := 60, line := some 20 }]

/-- A spec that is found by its name. -/
def namedToDo : Spec := { path := [], name := toDo }

theorem exists_result_namedToDo :
    ∃ result, result ∈ (advanced toDo [namedToDo] {} : Response Float).results := by
  have isPlain : ¬ (Query.read toDo).isAdvanced = true := by
    change ¬ (Query.tokens toDo).any _ = true
    rw [tokens_toDo]
    decide
  have contains : namedToDo.containsAll (Text.words (Text.lower toDo)) = true := by decide +kernel
  have found := (@plain_perm Float _ toDo [namedToDo] {} (by decide)).symm.mem_iff.mp
    (List.mem_filter.mpr ⟨List.mem_singleton_self _, contains⟩)
  rcases List.mem_map.mp found with ⟨result, listed, _⟩
  exact ⟨result, by rwa [advanced, withQuery, if_neg isPlain]⟩

/-- A limit of two leaves the title and the line behind it, and one below zero leaves the title.
The line with the highest score stays behind the one without a number, which it is not before. -/
theorem limits_scoredLines :
    ((sortRuns : Sorter (Match Float)).KeepsRuns ∧
      (∀ each ∈ scoredLines, each.field ∈ Match.fieldOrder) ∧
      ∃ each ∈ scoredLines, each.score.isNaN = true) ∧
    (Match.limitTo (Match.deduplicate scoredLines 3) 4).map (·.text) =
      ["a".toList, "b".toList, "d".toList, "e".toList] ∧
    (Match.limitTo (Match.deduplicate scoredLines 3) 2).map (·.text) = ["a".toList, "b".toList] ∧
    (Match.limitTo (Match.deduplicate scoredLines 3) (-1)).map (·.text) = ["a".toList] ∧
    ∃ result ∈ (advanced toDo [namedToDo] {} : Response Float).results,
      result.shown.length ≤ result.totalMatches ∧ ({} : SearchOptions).maxMatches ≤ 9 ∧
      ∃ extended ∈ (advanced toDo [namedToDo] { maxMatches := 9 } : Response Float).results,
        Extends result extended := by
  have known : ∀ each ∈ scoredLines, each.field ∈ Match.fieldOrder := by decide
  have noNumber : ∃ each ∈ scoredLines, each.score.isNaN = true := by decide
  have selected : (Match.deduplicate scoredLines 3).map (·.text) =
      ["a".toList, "b".toList, "d".toList, "e".toList] := by decide
  have outside : (Match.deduplicate scoredLines 3).countP (!·.isContent) = 1 := by decide
  have limited (limit : Int) : (Match.limitTo (Match.deduplicate scoredLines 3) limit).map
      (·.text) = ["a".toList, "b".toList, "d".toList, "e".toList].take (max limit 1).toNat := by
    rw [limits_leave_fronts.1 sortRuns sortRuns_keepsRuns scoredLines 3 limit known,
      List.map_take, selected, outside]
    rfl
  rcases exists_result_namedToDo with ⟨result, listed⟩
  have shown := limits_leave_fronts.2 toDo [namedToDo] {} result listed
  refine ⟨⟨sortRuns_keepsRuns, known, noNumber⟩, limited 4, limited 2, limited (-1), result, listed,
    shown.1, by decide, shown.2 9 (by decide)⟩

end SpecFinder.Search
