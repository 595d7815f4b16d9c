import SpecFinder.EditDistance
import SpecFinder.Match.Collect
import SpecFinder.Match.Selection
import SpecFinder.Query
import SpecFinder.Query.Evaluation

/-!
# Searching

Which specs a query finds, and how they rank.  A query of bare words looks for
each of them anywhere in a spec; any other query is the truth of its tree.
-/

namespace SpecFinder

namespace Spec

/-- Whether a spec satisfies an operand of a query. A term or a phrase has to
occur within one text of the spec. -/
def satisfies (spec : Spec) : Query.Operand → Bool
  | .term text | .phrase text =>
      let wanted := Text.lower text
      spec.texts.any fun each => Text.occursIn wanted (Text.lower each)
  | .fuzzy word =>
      spec.texts.any fun each => !each.isEmpty && nearlyOccurs word each (allowedEdits word)
  | .field name value =>
      match DateFilter.ofField? name value with
      | some filter => spec.meetsDate filter
      | none => spec.meetsField name value

/-- The words of a spec that fuzzy terms stand for: the term itself where it
occurs, else the words near to it. -/
def fuzzyWords (spec : Spec) (fuzzyTerms : List Text) : List Text :=
  let text := spec.searchText
  let words := Text.runs (fun char => Text.isWordCharacter char || char == '-') text
  fuzzyTerms.flatMap fun term =>
    if Text.occursIn term text then [term]
    else (closeWords term words (allowedEdits term)).eraseDups

end Spec

/-- How much of each result is shown. -/
structure SearchOptions where
  maxMatches : Int := 5
  reach : Int := 80
  deriving DecidableEq, Repr

/-- A spec that was found, its score, the number of its matches, and those that
are shown. -/
structure Result (σ : Type) where
  spec : Spec
  score : Nat
  totalMatches : Nat
  shown : List (Match σ)
  deriving DecidableEq, Repr

/-- The answer to a query: the results, best first, and how many specs were
searched. -/
structure Response (σ : Type) where
  query : Text
  searched : Nat
  results : List (Result σ)
  deriving DecidableEq, Repr

namespace Search

variable {σ : Type} [Scoring σ]

/-- The result of a spec for the terms that score. -/
def rank (terms : List Text) (options : SearchOptions) (spec : Spec) : Result σ :=
  let found := Match.collect spec terms options.reach
  let shown := Match.limitTo (Match.deduplicate found 3) options.maxMatches
  { spec, shown, score := Match.specScore shown, totalMatches := found.length }

/-- The answer that results make, higher scores first and otherwise in order. -/
def respond (query : Text) (specs : List Spec) (results : List (Result σ)) : Response σ :=
  { query, searched := specs.length
    results := results.mergeSort fun left right => right.score ≤ left.score }

/-- The result of a spec for a list of words, each of which has to occur in it. -/
def plainResult? (terms : List Text) (options : SearchOptions) (spec : Spec) :
    Option (Result σ) :=
  if spec.containsAll terms then
    let result := rank terms options spec
    if result.shown.isEmpty then none else some result
  else
    none

def plain (query : Text) (specs : List Spec) (options : SearchOptions) : Response σ :=
  let terms := Text.words (Text.lower query)
  respond query specs (specs.filterMap (plainResult? terms options))

def passes (query : Query) (spec : Spec) : Bool :=
  match query.tree with
  | some tree => tree.evaluate spec.satisfies
  | none => false

/-- The result of a spec for a query's tree. Without terms to score it has the
greatest score and no matches. -/
def treeResult? (query : Query) (options : SearchOptions) (spec : Spec) :
    Option (Result σ) :=
  if passes query spec then
    let terms := query.terms ++ spec.fuzzyWords query.fuzzyTerms
    if terms.isEmpty then
      some { spec, score := Match.maxScore, totalMatches := 0, shown := [] }
    else
      some (rank terms options spec)
  else
    none

/-- Search for the specs that satisfy a query's tree. The text is only
reported. -/
def byTree (text : Text) (query : Query) (specs : List Spec) (options : SearchOptions) :
    Response σ :=
  respond text specs (specs.filterMap (treeResult? query options))

/-- Search with a query that was read before. A query of bare words searches for
the words of `text`. -/
def withQuery (text : Text) (query : Query) (specs : List Spec) (options : SearchOptions) :
    Response σ :=
  if query.isAdvanced then byTree text query specs options else plain text specs options

/-- Search with a query as it is written. -/
def advanced (text : Text) (specs : List Spec) (options : SearchOptions) : Response σ :=
  withQuery text (Query.read text) specs options

end Search

end SpecFinder
