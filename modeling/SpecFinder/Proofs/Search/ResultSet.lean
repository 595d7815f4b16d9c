import Mathlib.Data.List.Infix
import SpecFinder.Proofs.Search.BareWords

/-!
# What a search finds

The specs that a search by a query's tree finds are those in which the tree is true, in
some order, and the specs that a search for words finds are those that contain them.
A query as it is written is searched for by its tree or by its words, and which of the
two is chosen depends on its tokens: the choice is without consequence exactly when no
closing parenthesis stands in a query that is otherwise made of terms.
-/

namespace SpecFinder.Search

open Query

variable {σ : Type}

/-- The specs of an answer are those of the results that it was made from. -/
theorem specs_respond_perm (text : Text) (specs : List Spec) (results : List (Result σ)) :
    ((respond text specs results).results.map (·.spec)).Perm (results.map (·.spec)) :=
  (List.mergeSort_perm results _).map _

/-- A search that gives a result to just the specs that it accepts finds just those. -/
theorem specs_filterMap {find : Spec → Option (Result σ)} {accepts : Spec → Bool}
    (finds : ∀ spec, (find spec).map (·.spec) = if accepts spec then some spec else none)
    (specs : List Spec) : (specs.filterMap find).map (·.spec) = specs.filter accepts := by
  have keeps : (fun spec => (find spec).map (·.spec)) = Option.guard fun spec => accepts spec := by
    funext spec
    rw [finds]
    rfl
  rw [List.map_filterMap, keeps, List.filterMap_eq_filter]

variable [Scoring σ]

/-- A spec in which a tree is true has a result of its own, and other specs have none. -/
theorem spec_treeResult? (query : Query) (options : SearchOptions) (spec : Spec) :
    (treeResult? query options spec : Option (Result σ)).map (·.spec) =
      if passes query spec then some spec else none := by
  simp only [treeResult?]
  by_cases holds : passes query spec = true
  · by_cases filtersOnly : (query.terms ++ spec.fuzzyWords query.fuzzyTerms).isEmpty = true <;>
      simp [holds, filtersOnly, rank]
  · simp [holds]

/-- A search by a tree finds the specs in which the tree is true. -/
theorem byTree_perm (text : Text) (query : Query) (specs : List Spec) (options : SearchOptions) :
    ((byTree text query specs options : Response σ).results.map (·.spec)).Perm
      (specs.filter (passes query)) := by
  have found := specs_respond_perm text specs
    (specs.filterMap (treeResult? query options : Spec → Option (Result σ)))
  rw [specs_filterMap (spec_treeResult? query options)] at found
  exact found

/-- A search for words finds the specs that contain them. -/
theorem plain_perm (text : Text) (specs : List Spec) {options : SearchOptions}
    (room : 1 ≤ options.maxMatches) :
    ((plain text specs options : Response σ).results.map (·.spec)).Perm
      (specs.filter (·.containsAll (Text.words (Text.lower text)))) := by
  have areWords : ∀ term ∈ Text.words (Text.lower text), Text.IsWord term :=
    fun _ => Text.isWord_of_mem_words
  have finds (spec : Spec) :
      (plainResult? (Text.words (Text.lower text)) options spec : Option (Result σ)).map (·.spec) =
        if spec.containsAll (Text.words (Text.lower text)) then some spec else none := by
    rw [plainResult?_eq areWords room]
    by_cases contains : spec.containsAll (Text.words (Text.lower text)) = true <;>
      simp [contains, rank]
  have found := specs_respond_perm text specs
    (specs.filterMap (plainResult? (Text.words (Text.lower text)) options :
      Spec → Option (Result σ)))
  rw [specs_filterMap finds] at found
  exact found

/-! ## Closing parentheses among terms -/

section

variable {text : Text} (isPlain : (Query.read text).isAdvanced = false)

include isPlain

theorem term_or_closing : ∀ token ∈ tokens text,
    (∃ word, token.lexeme = .term word) ∨ token.lexeme = .closing := by
  intro token member
  have notAdvanced := List.any_eq_false.mp isPlain token member
  cases lexeme : token.lexeme with
  | term word => exact .inl ⟨word, rfl⟩
  | closing => exact .inr rfl
  | phrase | field | fuzzy | and | or | not | opening =>
      simp [lexeme, Lexeme.isAdvanced] at notAdvanced

theorem onlyJoins_of_isPlain : OnlyJoins (tokens text) := by
  intro token member
  rcases term_or_closing isPlain token member with ⟨word, isTerm⟩ | closes
  · simp [isTerm]
  · simp [closes]

/-- The operands of a query without advanced tokens are its terms, which are bare words. -/
theorem bare_of_mem_written {leaf : Operand} (listed : leaf ∈ written (tokens text)) :
    ∃ word, leaf = .term word ∧ Text.IsWord word ∧ ')' ∉ word := by
  rcases List.mem_filterMap.mp listed with ⟨token, member, writes⟩
  rcases term_or_closing isPlain token member with ⟨word, isTerm⟩ | closes
  · rw [isTerm] at writes
    cases writes
    have spelled := spelled_of_mem member
    rw [isTerm] at spelled
    rcases spelled.bare_of_term with ⟨nonempty, bare⟩
    refine ⟨word, rfl, ⟨nonempty, ?_⟩, ?_⟩
    · intro char isPart
      exact isBlank_eq_false_of_isBare (bare char isPart)
    · intro closes
      exact absurd (bare ')' closes) (by decide)
  · rw [closes] at writes
    cases writes

end

theorem isCaseless_closing : Text.isCaseless ')' = true := by decide +kernel

/-- A spec that is named by some words. -/
def named (words : List Text) : Spec := { path := [], name := Text.join [' '] words }

/-- A word is found in a name when it lies within one of the words. -/
theorem exists_text_named_iff {word : Text} (isWord : Text.IsWord word) (words : List Text) :
    (∃ text ∈ (named words).texts, Text.occursIn (Text.lower word) (Text.lower text) = true) ↔
      ∃ other ∈ words, Text.lower word <:+: Text.lower other := by
  have absent : ' ' ∉ Text.lower word := isWord.lower.not_mem (by decide)
  have inName : Text.lower word <:+: Text.lower (named words).name ↔
      ∃ other ∈ words, Text.lower word <:+: Text.lower other := by
    rw [named, Text.lower_join, Text.infix_join_iff isWord.lower.nonempty absent]
    simp
  rw [← inName]
  simp [Text.occursIn_iff_isInfix, Spec.texts, named, isWord.nonempty]

/-- A spec that is named by words contains them. -/
theorem containsAll_named {words : List Text} (nonempty : words ≠ [])
    (areWords : ∀ word ∈ words, Text.IsWord word) : (named words).containsAll words = true := by
  refine (containsAll_iff areWords _).mpr ⟨nonempty, ?_⟩
  intro word listed
  exact (exists_text_named_iff (areWords word listed) words).mpr ⟨word, listed, List.infix_rfl⟩

/-- A spec that is named by what some operands look for satisfies the terms among them. -/
theorem satisfies_named {leaves : List Operand} {word : Text} (isWord : Text.IsWord word)
    (listed : .term word ∈ leaves) :
    (named (leaves.filterMap (·.searchText?))).satisfies (.term word) = true := by
  refine List.any_eq_true.mpr ((exists_text_named_iff isWord _).mpr ?_)
  refine ⟨Text.lower word, List.mem_filterMap.mpr ⟨.term word, listed, rfl⟩, ?_⟩
  rw [Text.lower_lower]

section

variable {text : Text} (isPlain : (Query.read text).isAdvanced = false)
  (closes : ∃ token ∈ tokens text, token.lexeme = .closing)

include isPlain in
/-- A query without advanced tokens is true in a spec when it has terms and the spec
satisfies them all. -/
theorem passes_of_isPlain (spec : Spec) : passes (Query.read text) spec =
    (!(written (tokens text)).isEmpty && (written (tokens text)).all spec.satisfies) := by
  rw [passes_eq_any]
  exact evaluate_readTokens (onlyJoins_of_isPlain isPlain) spec.satisfies

include closes in
/-- The words of a query with a closing parenthesis have one that holds it. -/
theorem exists_word_closing : ∃ word ∈ Text.words (Text.lower text), ')' ∈ word := by
  rcases closes with ⟨token, member, isClosing⟩
  have spelled := spelled_of_mem member
  rw [isClosing] at spelled
  have inLower := (Text.mem_lower_iff isCaseless_closing).mpr spelled.mem_of_closing
  exact Text.exists_word_of_mem inLower (by decide)

include isPlain closes in
/-- No term holds the closing parenthesis that a word holds. -/
theorem not_containsAll_named :
    (named ((written (tokens text)).filterMap (·.searchText?))).containsAll
      (Text.words (Text.lower text)) = false := by
  rw [← Bool.not_eq_true]
  intro contains
  rcases exists_word_closing closes with ⟨word, listed, closesWord⟩
  have isWord : Text.IsWord word := Text.isWord_of_mem_words listed
  have everywhere := (containsAll_iff (fun _ => Text.isWord_of_mem_words) _).mp contains
  have inName := (exists_text_named_iff isWord _).mp (everywhere.2 word listed)
  rcases inName with ⟨other, isName, within⟩
  rcases List.mem_filterMap.mp isName with ⟨leaf, written, sought⟩
  rcases bare_of_mem_written isPlain written with ⟨term, rfl, _, noClosing⟩
  cases sought
  have inTerm := within.subset ((Text.mem_lower_iff isCaseless_closing).mpr closesWord)
  rw [Text.lower_lower] at inTerm
  exact noClosing ((Text.mem_lower_iff isCaseless_closing).mp inTerm)

include isPlain closes in
/-- With a closing parenthesis among terms, some spec is found by the words but not by
the tree, or by the tree but not by the words. -/
theorem exists_spec_differs : ∃ spec, passes (Query.read text) spec ≠
    spec.containsAll (Text.words (Text.lower text)) := by
  by_cases noTerms : written (tokens text) = []
  · -- There is no tree, but a spec may be named by the words.
    rcases exists_word_closing closes with ⟨word, listed, _⟩
    refine ⟨named (Text.words (Text.lower text)), ?_⟩
    have contains := containsAll_named (List.ne_nil_of_mem listed)
      fun _ => Text.isWord_of_mem_words
    rw [passes_of_isPlain isPlain, noTerms, contains]
    simp
  · -- A spec that is named by the terms has no closing parenthesis.
    refine ⟨named ((written (tokens text)).filterMap (·.searchText?)), ?_⟩
    have satisfied : ∀ leaf ∈ written (tokens text),
        (named ((written (tokens text)).filterMap (·.searchText?))).satisfies leaf = true := by
      intro leaf listed
      rcases bare_of_mem_written isPlain listed with ⟨word, rfl, isWord, _⟩
      exact satisfies_named isWord listed
    rw [passes_of_isPlain isPlain, List.all_eq_true.mpr satisfied,
      not_containsAll_named isPlain closes]
    simp [noTerms]

end

/-- A query as it is written finds the specs in which its tree is true exactly when it has
advanced tokens or no closing parenthesis. Otherwise it finds the specs that contain its
words, and a word goes on through parentheses. -/
theorem advanced_perm_iff (text : Text) :
    ((∀ (specs : List Spec) (options : SearchOptions), 1 ≤ options.maxMatches →
        ((advanced text specs options : Response σ).results.map (·.spec)).Perm
          (specs.filter fun spec =>
            (Query.read text).tree.any fun tree => tree.evaluate spec.satisfies)) ↔
      (Query.read text).isAdvanced = true ∨ ∀ token ∈ tokens text, token.lexeme ≠ .closing) ∧
    ((Query.read text).isAdvanced = false →
      ∀ (specs : List Spec) (options : SearchOptions), 1 ≤ options.maxMatches →
        ((advanced text specs options : Response σ).results.map (·.spec)).Perm
          (specs.filter (·.containsAll (Text.words (Text.lower text))))) := by
  have byWords (isPlain : (Query.read text).isAdvanced = false) (specs : List Spec)
      (options : SearchOptions) (room : 1 ≤ options.maxMatches) :
      ((advanced text specs options : Response σ).results.map (·.spec)).Perm
        (specs.filter (·.containsAll (Text.words (Text.lower text)))) := by
    rw [advanced, withQuery, if_neg (by simp [isPlain])]
    exact plain_perm text specs room
  refine ⟨?_, byWords⟩
  simp only [← passes_eq_any]
  constructor
  · intro findsTree
    by_contra differs
    rw [not_or, Bool.not_eq_true] at differs
    rcases differs with ⟨isPlain, closes⟩
    rcases exists_spec_differs isPlain (by simpa using closes) with ⟨spec, disagree⟩
    have room : 1 ≤ ({} : SearchOptions).maxMatches := by decide
    have same := (findsTree [spec] {} room).symm.trans (byWords isPlain [spec] {} room)
    cases holds : passes (Query.read text) spec <;>
      cases contains : spec.containsAll (Text.words (Text.lower text)) <;>
        simp [holds, contains] at same disagree
  · intro agrees specs options room
    cases isAdvanced : (Query.read text).isAdvanced with
    | true =>
        rw [advanced, withQuery, if_pos isAdvanced]
        exact byTree_perm text (Query.read text) specs options
    | false =>
        have terms : ∀ token ∈ tokens text, ∃ word, token.lexeme = .term word := by
          intro token member
          have noClosing := agrees.resolve_left (by simp [isAdvanced]) token member
          exact (term_or_closing isAdvanced token member).resolve_right noClosing
        have sameTruth : passes (Query.read text) = fun spec : Spec =>
            spec.containsAll (Text.words (Text.lower text)) := by
          funext spec
          exact passes_of_terms terms spec
        rw [sameTruth]
        exact byWords isAdvanced specs options room

end SpecFinder.Search
