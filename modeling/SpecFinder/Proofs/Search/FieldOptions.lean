import SpecFinder.CommandLine.Request
import SpecFinder.Proofs.Query.Printing
import SpecFinder.Proofs.Search.BareWords

/-!
# Fields asked for by options

The fields that a command line asks for are checked before the search, those that a query
asks for within its tree.  The two are the same when the query has a tree: to select the
specs and to search them is to search all specs with the fields joined to the tree, since
a spec is ranked on its own.  A query without a tree finds nothing, whatever is selected,
while the fields alone would be a tree that finds all that have them.
-/

namespace SpecFinder

open CommandLine

namespace Query

/-- A tree with an operand more for each of some fields. -/
def joinFields (tree : Option Expr) (fields : List (Text × Text)) : Option Expr :=
  fields.foldl (fun tree field => joinParts tree (some (.operand (.field field.1 field.2)))) tree

/-- A query that asks for fields as well, each by an operand of its tree. -/
def withFields (query : Query) (fields : List (Text × Text)) : Query :=
  { query with tree := joinFields query.tree fields, isAdvanced := true }

/-- Whether a spec has all of some fields. -/
def hasFields (spec : Spec) (fields : List (Text × Text)) : Bool :=
  fields.all fun (name, value) => spec.satisfies (.field name value)

@[simp] theorem terms_withFields (query : Query) (fields : List (Text × Text)) :
    (query.withFields fields).terms = query.terms := rfl

@[simp] theorem fuzzyTerms_withFields (query : Query) (fields : List (Text × Text)) :
    (query.withFields fields).fuzzyTerms = query.fuzzyTerms := rfl

/-- A tree with fields joined to it is true where it is true itself and the fields are. -/
theorem any_joinFields (tree : Expr) (fields : List (Text × Text)) (spec : Spec) :
    ((joinFields (some tree) fields).any fun tree => tree.evaluate spec.satisfies) =
      (tree.evaluate spec.satisfies && hasFields spec fields) := by
  induction fields generalizing tree with
  | nil => simp [joinFields, hasFields]
  | cons field fields ih =>
      have next : joinFields (some tree) (field :: fields) =
          joinFields (some (.and tree (.operand (.field field.1 field.2)))) fields := rfl
      rw [next, ih]
      simp only [Expr.evaluate_eq_meaning, Expr.meaning, hasFields, List.all_cons, Bool.and_assoc]

end Query

namespace Search

open Query

variable {σ : Type} [Scoring σ]

/-- With fields to ask for, a query is always searched for by its tree. -/
theorem withQuery_withFields (text : Text) (query : Query) (fields : List (Text × Text))
    (specs : List Spec) (options : SearchOptions) :
    (withQuery text (query.withFields fields) specs options : Response σ) =
      byTree text (query.withFields fields) specs options := by
  have isAdvanced : (query.withFields fields).isAdvanced = true := rfl
  rw [withQuery, if_pos isAdvanced]

theorem passes_withFields {query : Query} (hasTree : query.tree ≠ none)
    (fields : List (Text × Text)) (spec : Spec) :
    passes (query.withFields fields) spec = (passes query spec && hasFields spec fields) := by
  rw [passes_eq_any, passes_eq_any]
  cases isTree : query.tree with
  | none => exact (hasTree isTree).elim
  | some tree =>
      have joined := any_joinFields tree fields spec
      simpa [withFields, isTree] using joined

/-- A spec has the result of the query alone if it has the fields, and none if not. -/
theorem treeResult?_withFields {query : Query} (hasTree : query.tree ≠ none)
    (fields : List (Text × Text)) (options : SearchOptions) (spec : Spec) :
    (treeResult? (query.withFields fields) options spec : Option (Result σ)) =
      if hasFields spec fields then treeResult? query options spec else none := by
  simp only [treeResult?, passes_withFields hasTree, terms_withFields, fuzzyTerms_withFields]
  by_cases has : hasFields spec fields = true
  · simp [has]
  · simp [has]

/-- To search the specs that have some fields is to search all with the fields in the
tree. -/
theorem results_byTree_withFields {query : Query} (hasTree : query.tree ≠ none) (text : Text)
    (fields : List (Text × Text)) (specs : List Spec) (options : SearchOptions) :
    (byTree text query (specs.filter (hasFields · fields)) options : Response σ).results =
      (byTree text (query.withFields fields) specs options : Response σ).results := by
  have sameFound : specs.filterMap (treeResult? (query.withFields fields) options) =
      ((specs.filter (hasFields · fields)).filterMap (treeResult? query options) :
        List (Result σ)) := by
    rw [List.filterMap_filter]
    apply congrArg (List.filterMap · specs)
    funext spec
    exact treeResult?_withFields hasTree fields options spec
  rw [byTree, byTree, respond, respond, sameFound]

/-- The results for the words of a query of terms are those of its tree. -/
theorem results_plain_of_terms {text : Text}
    (terms : ∀ token ∈ tokens text, ∃ word, token.lexeme = .term word) (specs : List Spec)
    {options : SearchOptions} (room : 1 ≤ options.maxMatches) :
    (plain text specs options : Response σ).results =
      (byTree text (Query.read text) specs options : Response σ).results := by
  have sameResult : (treeResult? (Query.read text) options : Spec → Option (Result σ)) =
      plainResult? (Text.words (Text.lower text)) options := by
    funext spec
    rw [plainResult?_eq (fun _ => Text.isWord_of_mem_words) room]
    exact treeResult?_of_terms terms options spec
  rw [plain, byTree, sameResult]

/-- A query without a tree finds nothing. -/
theorem results_byTree_of_no_tree {query : Query} (noTree : query.tree = none) (text : Text)
    (specs : List Spec) (options : SearchOptions) :
    (byTree text query specs options : Response σ).results = [] := by
  have nothing : (treeResult? query options : Spec → Option (Result σ)) = fun _ => none := by
    funext spec
    simp [treeResult?, passes, noTree]
  simp [byTree, respond, nothing]

end Search

namespace CommandLine.Filters

/-- The names of the fields that options ask for. -/
theorem name_of_mem_fields {filters : Filters} {name value : Text}
    (listed : (name, value) ∈ filters.fields) :
    name ∈ ["status".toList, "tag".toList, "priority".toList, "assignee".toList] := by
  simp only [fields, List.mem_append, Option.mem_toList, Option.map_eq_some_iff, List.mem_map,
    Prod.mk.injEq] at listed
  rcases listed with ((⟨_, _, rfl, _⟩ | ⟨_, _, rfl, _⟩) | ⟨_, _, rfl, _⟩) | ⟨_, _, rfl, _⟩
  all_goals simp

/-- The specs that options select have the fields as a query asks for them, in whatever
order: none of the fields is a date. -/
theorem select_eq_filter {filters : Filters} {asked : List (Text × Text)}
    (sameFields : asked.Perm filters.fields) (specs : List Spec) :
    filters.select specs = specs.filter (Query.hasFields · asked) := by
  rw [select]
  apply congrArg (List.filter · specs)
  funext spec
  rw [Query.hasFields, sameFields.all_eq, Bool.eq_iff_iff, List.all_eq_true, List.all_eq_true]
  refine forall₂_congr fun field listed => ?_
  have noDate : DateFilter.ofField? field.1 field.2 = none := by
    have isName := name_of_mem_fields listed
    have noDateName : field.1 ∉ DateFilter.fieldNames := by
      revert isName
      generalize field.1 = name
      simp only [List.mem_cons, List.not_mem_nil, or_false]
      rintro (rfl | rfl | rfl | rfl) <;> decide
    simp [DateFilter.ofField?, noDateName]
  simp [Spec.satisfies, noDate]

end CommandLine.Filters

namespace Search

open Query

variable {σ : Type} [Scoring σ]

/-- To search the specs that options select with a query that has a tree is to search all
specs with the selected fields joined to the tree, in any order: the results are the same
specs in the same order, with the same scores and matches.  It is also the same when no
field is selected.  A query without a tree has no results, whatever is selected. -/
theorem results_select (text : Text) (filters : Filters) (asked : List (Text × Text))
    (specs : List Spec) (options : SearchOptions)
    (sameFields : asked.Perm filters.fields)
    (understood : (Query.read text).isAdvanced = true ∨
      ∀ token ∈ tokens text, ∃ word, token.lexeme = .term word)
    (room : 1 ≤ options.maxMatches) :
    ((Query.read text).tree ≠ none ∨ filters.fields = [] →
      (withQuery text (Query.read text) (filters.select specs) options : Response σ).results =
        (withQuery text ((Query.read text).withFields asked) specs options :
          Response σ).results) ∧
    ((Query.read text).tree = none →
      (withQuery text (Query.read text) (filters.select specs) options :
        Response σ).results = []) := by
  have byItsTree (searched : List Spec) :
      (withQuery text (Query.read text) searched options : Response σ).results =
        (byTree text (Query.read text) searched options : Response σ).results := by
    rw [withQuery]
    split
    next => rfl
    next plainly =>
      exact results_plain_of_terms (understood.resolve_left plainly) searched room
  rw [byItsTree, withQuery_withFields, Filters.select_eq_filter sameFields]
  constructor
  · intro asksOrNoField
    by_cases noTree : (Query.read text).tree = none
    · have noField : asked = [] := by
        have none := asksOrNoField.resolve_left (not_not_intro noTree)
        rwa [none, List.perm_nil] at sameFields
      have stillNoTree : ((Query.read text).withFields asked).tree = none := by
        rw [noField]
        exact noTree
      rw [results_byTree_of_no_tree noTree, results_byTree_of_no_tree stillNoTree]
    · exact results_byTree_withFields noTree text asked specs options
  · intro noTree
    exact results_byTree_of_no_tree noTree text _ options

/-- Options that ask for a status and a tag. -/
def plannedApi : Filters := { status := some "planned".toList, tags := ["api".toList] }

/-- A spec with that status and that tag. -/
def plannedSpec : Spec where
  path := []
  name := toDo
  status := "Planned".toList
  tags := ["API".toList]

theorem results_select_toDo :
    (plannedApi.fields.reverse.Perm plannedApi.fields ∧
      (∀ token ∈ tokens toDo, ∃ word, token.lexeme = .term word) ∧
      1 ≤ ({} : SearchOptions).maxMatches ∧ (Query.read toDo).tree ≠ none) ∧
    (withQuery toDo (Query.read toDo) (plannedApi.select [plannedSpec]) {} :
        Response Float).results =
      (withQuery toDo ((Query.read toDo).withFields plannedApi.fields.reverse) [plannedSpec] {} :
        Response Float).results := by
  have terms : ∀ token ∈ tokens toDo, ∃ word, token.lexeme = .term word := by
    simp [tokens_toDo]
  have room : 1 ≤ ({} : SearchOptions).maxMatches := by decide
  have hasTree : (Query.read toDo).tree ≠ none := by
    have kept := (readTokens_keeps (tokens toDo)).1
    rw [tokens_toDo] at kept
    intro noTree
    change (readTokens (tokens toDo)).tree = none at noTree
    rw [tokens_toDo] at noTree
    rw [noTree] at kept
    cases kept
  have sameFields : plannedApi.fields.reverse.Perm plannedApi.fields := List.reverse_perm _
  exact ⟨⟨sameFields, terms, room, hasTree⟩,
    (results_select toDo plannedApi _ _ {} sameFields (.inr terms) room).1 (.inl hasTree)⟩

/-- A query that is an empty group. -/
def emptyGroup : Text := ['(', ')']

theorem tokens_emptyGroup : tokens emptyGroup = [⟨.opening, 0⟩, ⟨.closing, 1⟩] := by
  rw [tokens, emptyGroup, tokensFrom_opening, tokensFrom_closing, tokensFrom_nil]

theorem read_emptyGroup : (Query.read emptyGroup).tree = none ∧
    (Query.read emptyGroup).toCriteria = {} := by
  have kept := readTokens_keeps (tokens emptyGroup)
  have nothing : written (tokens emptyGroup) = [] := by
    rw [tokens_emptyGroup]
    rfl
  rw [nothing] at kept
  exact ⟨leaves_eq_nil_iff.mp kept.1, kept.2⟩

/-- A query without a tree finds no spec with the fields that options ask for, and yet the
fields alone, as a tree, find one. -/
theorem results_select_emptyGroup :
    (Query.read emptyGroup).isAdvanced = true ∧
    1 ≤ ({} : SearchOptions).maxMatches ∧
    (withQuery emptyGroup (Query.read emptyGroup) (plannedApi.select [plannedSpec]) {} :
        Response Float).results ≠
      (withQuery emptyGroup ((Query.read emptyGroup).withFields plannedApi.fields)
        [plannedSpec] {} : Response Float).results := by
  have isAdvanced : (Query.read emptyGroup).isAdvanced = true := by
    change (tokens emptyGroup).any _ = true
    rw [tokens_emptyGroup]
    rfl
  have none : (withQuery emptyGroup (Query.read emptyGroup) (plannedApi.select [plannedSpec]) {} :
      Response Float).results = [] := by
    rw [withQuery, if_pos isAdvanced]
    exact results_byTree_of_no_tree read_emptyGroup.1 _ _ _
  have tree : ((Query.read emptyGroup).withFields plannedApi.fields).tree =
      some (.and (.operand (.field "status".toList "planned".toList))
        (.operand (.field "tag".toList "api".toList))) := by
    rw [withFields, read_emptyGroup.1]
    rfl
  have found : passes ((Query.read emptyGroup).withFields plannedApi.fields) plannedSpec =
      true := by
    rw [passes_eq_any, tree, Option.any_some, Expr.evaluate_eq_meaning]
    decide +kernel
  have result : (treeResult? ((Query.read emptyGroup).withFields plannedApi.fields) {}
      plannedSpec : Option (Result Float)) =
        some { spec := plannedSpec, score := Match.maxScore, totalMatches := 0, shown := [] } := by
    have noWords : plannedSpec.fuzzyWords [] = [] := rfl
    simp [treeResult?, found, read_emptyGroup.2, noWords]
  refine ⟨isAdvanced, by decide, ?_⟩
  rw [none, withQuery_withFields, byTree, respond, List.filterMap_cons, result]
  simp

end Search

end SpecFinder
