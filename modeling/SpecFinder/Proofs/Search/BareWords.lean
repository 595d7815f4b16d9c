import SpecFinder.Match.FloatScore
import SpecFinder.Proofs.Match.Presence
import SpecFinder.Proofs.Query.BareWords

/-!
# Searching for bare words

A query whose tokens are all terms needs no tree: searching for its words gives the
answer that its tree would give.  Both take the same words, since lower case respects
white space; both ask for a spec with each of the words, since a word lies within one
text; and such a spec has a match to show, since selecting matches keeps one.
-/

namespace SpecFinder.Search

open Query

variable {σ : Type} [Scoring σ]

/-- The truth of a query in a spec is the truth of its tree, if there is one. -/
theorem passes_eq_any (query : Query) (spec : Spec) :
    passes query spec = query.tree.any fun tree => tree.evaluate spec.satisfies := by
  simp only [passes]
  cases query.tree <;> rfl

/-! ## Searching for words -/

/-- With room for a match, every spec that contains the words has one to show. -/
theorem shown_rank_ne_nil {terms : List Text} {options : SearchOptions} {spec : Spec}
    (areWords : ∀ term ∈ terms, Text.IsWord term) (room : 1 ≤ options.maxMatches)
    (contains : spec.containsAll terms = true) :
    (rank terms options spec : Result σ).shown ≠ [] := by
  rcases (containsAll_iff areWords spec).mp contains with ⟨nonempty, everywhere⟩
  rcases List.exists_mem_of_ne_nil terms nonempty with ⟨term, listed⟩
  rcases everywhere term listed with ⟨text, isText, occurs⟩
  have found : (Match.collect spec terms options.reach : List (Match σ)) ≠ [] :=
    Match.collect_ne_nil options.reach areWords isText listed occurs
  exact Match.limitTo_ne_nil (Match.deduplicate_ne_nil found 3) room

theorem plainResult?_eq {terms : List Text} {options : SearchOptions}
    (areWords : ∀ term ∈ terms, Text.IsWord term) (room : 1 ≤ options.maxMatches) (spec : Spec) :
    (plainResult? terms options spec : Option (Result σ)) =
      if spec.containsAll terms then some (rank terms options spec) else none := by
  simp only [plainResult?]
  by_cases contains : spec.containsAll terms = true
  · have shown : (rank terms options spec : Result σ).shown ≠ [] :=
      shown_rank_ne_nil areWords room contains
    simp [contains, shown]
  · simp [contains]

/-- A spec contains the lower-case words of a text when each of its words occurs in one
of the texts. -/
theorem containsAll_words_lower (text : Text) (spec : Spec) :
    spec.containsAll (Text.words (Text.lower text)) =
      (!(Text.words text).isEmpty && (Text.words text).all fun word =>
        spec.satisfies (.term word)) := by
  rw [Bool.eq_iff_iff, containsAll_iff fun _ => Text.isWord_of_mem_words, Text.words_lower]
  simp [Spec.satisfies]

/-! ## Searching by the tree -/

section

variable {text : Text} (terms : ∀ token ∈ tokens text, ∃ word, token.lexeme = .term word)

include terms

theorem onlyJoins_of_terms : OnlyJoins (tokens text) := by
  intro token member
  rcases terms token member with ⟨word, isTerm⟩
  simp [isTerm]

/-- The tree of a query of terms asks for its words. -/
theorem passes_of_terms (spec : Spec) :
    passes (Query.read text) spec = spec.containsAll (Text.words (Text.lower text)) := by
  have truth := evaluate_readTokens (onlyJoins_of_terms terms) spec.satisfies
  rw [written_of_terms terms, List.isEmpty_map, List.all_map] at truth
  rw [passes_eq_any, containsAll_words_lower]
  exact truth

/-- The terms to score are the lower-case words. -/
theorem terms_read_of_terms :
    (Query.read text).terms = Text.words (Text.lower text) ∧
      (Query.read text).fuzzyTerms = [] := by
  have asked : (Query.read text).toCriteria = .ofOperands ((Text.words text).map .term) := by
    rw [← written_of_terms terms]
    exact (readTokens_keeps (tokens text)).2
  rw [asked, Criteria.terms_ofOperands, Criteria.fuzzyTerms_ofOperands, Text.words_lower]
  constructor
  · have sought : (fun leaf : Operand => leaf.searchText?) ∘ Operand.term =
        some ∘ Text.lower := by
      funext word
      rfl
    rw [List.filterMap_map, sought, List.filterMap_eq_map]
  · rw [List.filterMap_map, List.filterMap_eq_nil_iff]
    intro word _
    rfl

/-- The tree ranks a spec as the words do. -/
theorem treeResult?_of_terms (options : SearchOptions) (spec : Spec) :
    (treeResult? { Query.read text with isAdvanced := true } options spec : Option (Result σ)) =
      if spec.containsAll (Text.words (Text.lower text)) then
        some (rank (Text.words (Text.lower text)) options spec)
      else none := by
  have samePasses : passes { Query.read text with isAdvanced := true } spec =
      spec.containsAll (Text.words (Text.lower text)) := passes_of_terms terms spec
  rcases terms_read_of_terms terms with ⟨scored, noFuzzy⟩
  simp only [treeResult?, samePasses]
  by_cases contains : spec.containsAll (Text.words (Text.lower text)) = true
  · have nonempty : Text.words (Text.lower text) ≠ [] :=
      ((containsAll_iff (fun _ => Text.isWord_of_mem_words) spec).mp contains).1
    have noNearWords : spec.fuzzyWords [] = [] := rfl
    simp [contains, scored, noFuzzy, noNearWords, nonempty]
  · simp [contains]

end

/-- A query of terms has the same answer whether it is searched for by its words or by
its tree: the same specs in the same order, with the same scores and matches. -/
theorem withQuery_of_terms (text : Text) (specs : List Spec) (options : SearchOptions)
    (terms : ∀ token ∈ tokens text, ∃ word, token.lexeme = .term word)
    (room : 1 ≤ options.maxMatches) :
    (withQuery text { Query.read text with isAdvanced := true } specs options : Response σ) =
      plain text specs options := by
  have areWords : ∀ term ∈ Text.words (Text.lower text), Text.IsWord term :=
    fun _ => Text.isWord_of_mem_words
  have sameResult : (treeResult? { Query.read text with isAdvanced := true } options :
      Spec → Option (Result σ)) = plainResult? (Text.words (Text.lower text)) options := by
    funext spec
    rw [treeResult?_of_terms terms, plainResult?_eq areWords room]
  rw [withQuery, if_pos rfl, byTree, sameResult, plain]

/-- The query `to do`. -/
def toDo : Text := ['t', 'o', ' ', 'd', 'o']

theorem tokens_toDo : tokens toDo = [⟨.term ['t', 'o'], 0⟩, ⟨.term ['d', 'o'], 3⟩] := by
  have atEnd : tokensFrom 5 [] = [] := tokensFrom_nil
  have atSecond : tokensFrom 3 ['d', 'o'] = ⟨.term ['d', 'o'], 3⟩ :: tokensFrom 5 [] := by
    rw [tokensFrom_of_isBare (by decide)]
    rfl
  have atBlank : tokensFrom 2 [' ', 'd', 'o'] = tokensFrom 3 ['d', 'o'] :=
    tokensFrom_of_isBlank (by decide)
  have atFirst : tokens toDo = ⟨.term ['t', 'o'], 0⟩ :: tokensFrom 2 [' ', 'd', 'o'] := by
    rw [tokens, toDo, tokensFrom_of_isBare (by decide)]
    rfl
  rw [atFirst, atBlank, atSecond, atEnd]

theorem withQuery_toDo :
    ((∀ token ∈ tokens toDo, ∃ word, token.lexeme = .term word) ∧
      1 ≤ ({} : SearchOptions).maxMatches) ∧
    (withQuery toDo { Query.read toDo with isAdvanced := true } [{ path := [], name := toDo }] {} :
      Response Float) = plain toDo [{ path := [], name := toDo }] {} := by
  have terms : ∀ token ∈ tokens toDo, ∃ word, token.lexeme = .term word := by
    simp [tokens_toDo]
  have room : 1 ≤ ({} : SearchOptions).maxMatches := by decide
  exact ⟨⟨terms, room⟩, withQuery_of_terms toDo _ {} terms room⟩

end SpecFinder.Search
