import SpecFinder.Match.FloatScore
import SpecFinder.Proofs.Query.Printing
import SpecFinder.Proofs.Search.ResultSet

/-!
# How results are scored

A spec that a query finds by filters alone has the greatest score and no matches; any
other spec that it finds has the score of the matches that are shown, which is zero when
there are none.  Whether a query asks for filters alone is decided for each spec anew, by
the words that are searched for in it.  A term is always searched for, but a fuzzy term
only as the words of the spec that are near to it.  So `resultByRule`, which decides by
the query, is what a spec gets unless the query has fuzzy terms only and none of them is
near to the spec.
-/

namespace SpecFinder

namespace Spec

/-- The words of a spec that are compared with fuzzy terms. -/
def searchWords (spec : Spec) : List Text :=
  Text.runs (fun char => Text.isWordCharacter char || char == '-') spec.searchText

/-- Whether a fuzzy term occurs in a spec or is near to one of its words. -/
def holdsNear (spec : Spec) (term : Text) : Bool :=
  Text.occursIn term spec.searchText ||
    spec.searchWords.any (withinDistance (allowedEdits term) term)

end Spec

theorem eraseDups_eq_nil_iff {texts : List Text} : texts.eraseDups = [] ↔ texts = [] := by
  cases texts with
  | nil => simp
  | cons => simp [List.eraseDups_cons]

theorem closeWords_eq_nil_iff {term : Text} {words : List Text} {limit : Int} :
    closeWords term words limit = [] ↔ words.any (withinDistance limit term) = false := by
  rw [closeWords, ← List.length_eq_zero_iff, List.length_mergeSort, List.length_eq_zero_iff,
    List.filter_eq_nil_iff, List.any_eq_false]

/-- Fuzzy terms stand for no words of a spec when none of them is near to it. -/
theorem Spec.fuzzyWords_eq_nil_iff {spec : Spec} {fuzzyTerms : List Text} :
    spec.fuzzyWords fuzzyTerms = [] ↔ ∀ term ∈ fuzzyTerms, spec.holdsNear term = false := by
  rw [Spec.fuzzyWords, List.flatMap_eq_nil_iff]
  refine forall₂_congr fun term _ => ?_
  rw [Spec.holdsNear, Bool.or_eq_false_iff]
  by_cases occurs : Text.occursIn term spec.searchText = true
  · simp [occurs]
  · rw [if_neg occurs, eraseDups_eq_nil_iff, closeWords_eq_nil_iff]
    simp [occurs, Spec.searchWords]

namespace Match

variable {σ : Type} [Scoring σ]

/-! ## No terms, no matches -/

theorem containsAnyTerm_nil (text : Text) : containsAnyTerm text [] = false := by
  simp [containsAnyTerm]

theorem collect_nil (spec : Spec) (reach : Int) :
    (collect spec [] reach : List (Match σ)) = [] := by
  have noLine : (ofContent (spec.content.getD []) [] reach : List (Match σ)) = [] := by
    simp [ofContent, containsAnyTerm_nil]
  simp [collect, ofField?, containsAnyTerm_nil, noLine]

theorem deduplicate_nil (distance : Int) : deduplicate ([] : List (Match σ)) distance = [] := rfl

theorem limitTo_nil (limit : Int) : limitTo ([] : List (Match σ)) limit = [] := by
  rw [limitTo]
  split
  · rfl
  · simp [sortRuns, isRun]

end Match

namespace Search

open Query

variable {σ : Type} [Scoring σ]

/-- The result of a spec that is found by filters alone. -/
def filtered (spec : Spec) : Result σ :=
  { spec, score := Match.maxScore, totalMatches := 0, shown := [] }

/-- The result that a spec should have: it is found by filters alone when the query has no
terms, fuzzy or not. -/
def resultByRule (query : Query) (options : SearchOptions) (spec : Spec) : Result σ :=
  if query.terms = [] ∧ query.fuzzyTerms = [] then filtered spec
  else rank (query.terms ++ spec.fuzzyWords query.fuzzyTerms) options spec

/-- Whether a spec is found by filters alone: the query has no terms, and none of its fuzzy
terms is near to the spec. -/
def ByFiltersAlone (query : Query) (spec : Spec) : Prop :=
  query.terms = [] ∧ ∀ term ∈ query.fuzzyTerms, spec.holdsNear term = false

instance (query : Query) (spec : Spec) : Decidable (ByFiltersAlone query spec) :=
  inferInstanceAs (Decidable (_ ∧ _))

/-- The result that a spec has. -/
def resultFor (query : Query) (options : SearchOptions) (spec : Spec) : Result σ :=
  if ByFiltersAlone query spec then filtered spec
  else rank (query.terms ++ spec.fuzzyWords query.fuzzyTerms) options spec

/-- Without terms there is nothing to show, and the score is zero. -/
theorem rank_nil (options : SearchOptions) (spec : Spec) :
    (rank [] options spec : Result σ) = { spec, score := 0, totalMatches := 0, shown := [] } := by
  simp [rank, Match.collect_nil, Match.deduplicate_nil, Match.limitTo_nil, Match.specScore]

/-- A score without matches is zero. -/
theorem score_rank_of_shown_nil {terms : List Text} {options : SearchOptions} {spec : Spec}
    (nothing : (rank terms options spec : Result σ).shown = []) :
    (rank terms options spec : Result σ).score = 0 := by
  change Match.specScore (rank terms options spec : Result σ).shown = 0
  rw [nothing]
  rfl

/-! ## The results of a search -/

theorem treeResult?_eq (query : Query) (options : SearchOptions) (spec : Spec) :
    (treeResult? query options spec : Option (Result σ)) =
      if passes query spec then some (resultFor query options spec) else none := by
  have nothingSought : (query.terms ++ spec.fuzzyWords query.fuzzyTerms).isEmpty = true ↔
      ByFiltersAlone query spec := by
    rw [List.isEmpty_iff, List.append_eq_nil_iff, Spec.fuzzyWords_eq_nil_iff, ByFiltersAlone]
  simp only [treeResult?, nothingSought, resultFor, filtered]
  by_cases byFilters : ByFiltersAlone query spec <;> simp [byFilters]

/-- A search by a tree has one result for each spec in which the tree is true. -/
theorem results_byTree_perm (text : Text) (query : Query) (specs : List Spec)
    (options : SearchOptions) :
    ((byTree text query specs options : Response σ).results).Perm
      ((specs.filter (passes query)).map (resultFor query options)) := by
  have found : (specs.filter (passes query)).map (resultFor query options) =
      (specs.filterMap (treeResult? query options) : List (Result σ)) := by
    rw [← List.filterMap_eq_filter, List.map_filterMap]
    apply congrArg (List.filterMap · specs)
    funext spec
    rw [treeResult?_eq, Option.guard]
    by_cases holds : passes query spec = true <;> simp [holds]
  rw [found]
  exact List.mergeSort_perm _ _

/-- The rule holds of a query with a term, and of one without fuzzy terms. -/
theorem resultFor_eq_resultByRule {query : Query}
    (decided : query.terms ≠ [] ∨ query.fuzzyTerms = []) (options : SearchOptions) :
    (resultFor query options : Spec → Result σ) = resultByRule query options := by
  funext spec
  have same : ByFiltersAlone query spec ↔ query.terms = [] ∧ query.fuzzyTerms = [] := by
    rw [ByFiltersAlone]
    rcases decided with asks | noFuzzy
    · simp [asks]
    · simp [noFuzzy]
  exact if_congr same rfl rfl

/-- The rule ranks the specs of a query that has fuzzy terms only. -/
theorem resultByRule_of_fuzzy {query : Query} (noTerms : query.terms = [])
    (asks : query.fuzzyTerms ≠ []) (options : SearchOptions) (spec : Spec) :
    (resultByRule query options spec : Result σ) =
      rank (spec.fuzzyWords query.fuzzyTerms) options spec := by
  simp [resultByRule, noTerms, asks]

/-- Of a query that has fuzzy terms only, the rule holds in a spec to which one is near. -/
theorem resultFor_of_fuzzy {query : Query} (noTerms : query.terms = [])
    (asks : query.fuzzyTerms ≠ []) (options : SearchOptions) (spec : Spec) :
    (resultFor query options spec : Result σ) =
      if ∃ term ∈ query.fuzzyTerms, spec.holdsNear term = true then
        resultByRule query options spec
      else filtered spec := by
  have near : (∃ term ∈ query.fuzzyTerms, spec.holdsNear term = true) ↔
      ¬ ByFiltersAlone query spec := by
    simp [ByFiltersAlone, noTerms]
  rw [resultByRule_of_fuzzy noTerms asks, resultFor, noTerms, List.nil_append]
  by_cases byFilters : ByFiltersAlone query spec
  · rw [if_pos byFilters, if_neg (by rw [near]; exact not_not_intro byFilters)]
  · rw [if_neg byFilters, if_pos (near.mpr byFilters)]

/-- The results of a query with advanced syntax are those of the rule, unless the query has
fuzzy terms only. Then a spec to which none of them is near has the greatest score, where
the rule gives it zero. Any other result has the score of the matches that are shown, which
is zero when there are none. -/
theorem results_advanced_perm {text : Text}
    (isAdvanced : (Query.read text).isAdvanced = true) (specs : List Spec)
    (options : SearchOptions) :
    ((Query.read text).terms ≠ [] ∨ (Query.read text).fuzzyTerms = [] →
      ((advanced text specs options : Response σ).results).Perm
        ((specs.filter (passes (Query.read text))).map
          (resultByRule (Query.read text) options))) ∧
    ((Query.read text).terms = [] → (Query.read text).fuzzyTerms ≠ [] →
      ((advanced text specs options : Response σ).results).Perm
        ((specs.filter (passes (Query.read text))).map fun spec =>
          if ∃ term ∈ (Query.read text).fuzzyTerms, spec.holdsNear term = true then
            resultByRule (Query.read text) options spec
          else filtered spec) ∧
      ∀ spec : Spec, (∀ term ∈ (Query.read text).fuzzyTerms, spec.holdsNear term = false) →
        (resultByRule (Query.read text) options spec : Result σ) =
          { spec, score := 0, totalMatches := 0, shown := [] }) ∧
    ∀ result ∈ (advanced text specs options : Response σ).results,
      (ByFiltersAlone (Query.read text) result.spec →
        result.score = Match.maxScore ∧ result.totalMatches = 0 ∧ result.shown = []) ∧
      (¬ ByFiltersAlone (Query.read text) result.spec →
        result.score = Match.specScore result.shown ∧
          (result.shown = [] → result.score = 0)) := by
  have found : ((advanced text specs options : Response σ).results).Perm
      ((specs.filter (passes (Query.read text))).map (resultFor (Query.read text) options)) := by
    rw [advanced, withQuery, if_pos isAdvanced]
    exact results_byTree_perm text (Query.read text) specs options
  refine ⟨?_, ?_, ?_⟩
  · intro decided
    rw [← resultFor_eq_resultByRule decided]
    exact found
  · intro noTerms asks
    constructor
    · simp only [← resultFor_of_fuzzy noTerms asks]
      exact found
    · intro spec far
      rw [resultByRule_of_fuzzy noTerms asks, Spec.fuzzyWords_eq_nil_iff.mpr far, rank_nil]
  · intro result listed
    rcases List.mem_map.mp (found.mem_iff.mp listed) with ⟨spec, _, rfl⟩
    have own : (resultFor (Query.read text) options spec : Result σ).spec = spec := by
      rw [resultFor]
      split <;> rfl
    rw [own, resultFor]
    constructor
    · intro byFilters
      rw [if_pos byFilters]
      exact ⟨rfl, rfl, rfl⟩
    · intro ranked
      rw [if_neg ranked]
      exact ⟨rfl, score_rank_of_shown_nil⟩

/-- The query `NOT dashbord~`. -/
def notDashbord : Text := "NOT dashbord~".toList

theorem tokens_notDashbord :
    ∃ next, tokens notDashbord = [⟨.not, 0⟩, ⟨.fuzzy "dashbord".toList, next⟩] := by
  rcases tokensFrom_word_blank isBareWord_not 0 "dashbord~".toList with ⟨next, first⟩
  have isWord : IsBareWord "dashbord~".toList := by decide +kernel
  rcases tokensFrom_word isWord next [] (by simp) with ⟨atEnd, second⟩
  rw [List.append_nil, tokensFrom_nil] at second
  have inTwo : notDashbord = "NOT".toList ++ ' ' :: "dashbord~".toList := by decide
  have isNot : Lexeme.ofWord "NOT".toList = .not := by decide
  have isFuzzy : Lexeme.ofWord "dashbord~".toList = .fuzzy "dashbord".toList := by
    decide +kernel
  exact ⟨next, by rw [tokens, inTwo, first, second, isNot, isFuzzy]⟩

theorem tree_notDashbord :
    (Query.read notDashbord).tree = some (.not (.operand (.fuzzy "dashbord".toList))) := by
  rcases tokens_notDashbord with ⟨next, read⟩
  have derivation : Derives .disjunction nestingLimit (tokens notDashbord)
      (.not (.operand (.fuzzy "dashbord".toList))) := by
    rw [read]
    exact .conjunction (.negation (.not rfl (.atom (.leaf rfl))))
  have noBlank : NoBlankPhrase (tokens notDashbord) := by
    rw [read]
    simp [NoBlankPhrase, Lexeme.isBlankPhrase]
  change (readTokens (tokens notDashbord)).tree = _
  rw [readTokens_of_derives derivation noBlank]
  rfl

theorem toCriteria_notDashbord :
    (Query.read notDashbord).toCriteria = { fuzzyTerms := ["dashbord".toList] } := by
  rcases tokens_notDashbord with ⟨next, read⟩
  have sought : written (tokens notDashbord) = [.fuzzy "dashbord".toList] := by
    rw [read]
    rfl
  change (readTokens (tokens notDashbord)).criteria = _
  rw [(readTokens_keeps (tokens notDashbord)).2, sought]
  decide +kernel

/-- A spec without a word that is near to `dashbord` has the greatest score for
`NOT dashbord~`, where the rule gives it zero. -/
theorem results_notDashbord :
    (Query.read notDashbord).isAdvanced = true ∧
    (advanced notDashbord [{ path := ['a'], name := ['b'] }] {} : Response Float).results =
      [{ spec := { path := ['a'], name := ['b'] }, score := 100, totalMatches := 0, shown := [] }] ∧
    (resultByRule (Query.read notDashbord) {} { path := ['a'], name := ['b'] } :
      Result Float).score = 0 := by
  have isAdvanced : (Query.read notDashbord).isAdvanced = true := by
    rcases tokens_notDashbord with ⟨next, read⟩
    change (tokens notDashbord).any _ = true
    rw [read]
    rfl
  have noTerms : (Query.read notDashbord).terms = [] := by
    rw [toCriteria_notDashbord]
  have fuzzy : (Query.read notDashbord).fuzzyTerms = ["dashbord".toList] := by
    rw [toCriteria_notDashbord]
  have far : ({ path := ['a'], name := ['b'] } : Spec).holdsNear "dashbord".toList = false := by
    decide +kernel
  have holds : passes (Query.read notDashbord) { path := ['a'], name := ['b'] } = true := by
    rw [passes_eq_any, tree_notDashbord, Option.any_some, Expr.evaluate_eq_meaning]
    decide +kernel
  have rule := @results_advanced_perm Float _ _ isAdvanced [{ path := ['a'], name := ['b'] }] {}
  have scored := rule.2.1 noTerms (by simp [fuzzy])
  refine ⟨isAdvanced, ?_, by rw [scored.2 _ (by simpa [fuzzy] using far)]⟩
  have single := scored.1
  simp only [List.filter_cons_of_pos holds, List.filter_nil, List.map_cons, List.map_nil,
    List.perm_singleton, fuzzy, List.mem_singleton, exists_eq_left, far, Bool.false_eq_true,
    if_false] at single
  exact single

end Search

end SpecFinder
