import SpecFinder.Match.Score
import SpecFinder.Match.Snippet
import SpecFinder.Spec

/-!
# Collecting matches

Every place of a spec that holds one of some terms: its title, its name, each of
its tags, its description, and each line of its content.
-/

namespace SpecFinder

def containsAllTerms (text : Text) (terms : List Text) : Bool :=
  terms.all fun term => Text.occursIn (Text.lower term) (Text.lower text)

def containsAnyTerm (text : Text) (terms : List Text) : Bool :=
  let lowered := Text.lower text
  !text.isEmpty && terms.any fun term => Text.occursIn (Text.lower term) lowered

/-- How often the terms occur in a text, each counted without overlaps. -/
def termCount (text : Text) (terms : List Text) : Nat :=
  let lowered := Text.lower text
  ((searchedTerms terms).map fun term => Text.countOccurrences term lowered).foldr (· + ·) 0

namespace Match

variable {σ : Type} [Scoring σ]

/-- The match of a field that is shown whole. -/
def ofField (field text : Text) (terms : List Text) (total position : Nat) : Match σ :=
  let occurrences := termCount text terms
  { field, text, occurrences
    score := scoreOf field text occurrences terms total position
    highlights := SpecFinder.highlights text terms }

def ofField? (field text : Text) (terms : List Text) (total position : Nat) :
    Option (Match σ) :=
  if containsAnyTerm text terms then some (ofField field text terms total position) else none

/-- The match of a line, one of `total` lines with a term. -/
def ofLine (content line : Text) (index total : Nat) (terms : List Text) (reach : Int) :
    Match σ :=
  let occurrences := termCount line terms
  let snippet := Snippet.extractSentences content index terms reach
  { field := contentField
    text := snippet.text
    score := scoreOf contentField line occurrences terms total index
    highlights := snippet.highlights
    occurrences
    line := some (index + 1) }

/-- The matches of the lines of a content that hold a term. -/
def ofContent (content : Text) (terms : List Text) (reach : Int) : List (Match σ) :=
  let hits := (Text.rows content).zipIdx.filter fun (line, _) => containsAnyTerm line terms
  hits.map fun (line, index) => ofLine content line index hits.length terms reach

def collect (spec : Spec) (terms : List Text) (reach : Int) : List (Match σ) :=
  (ofField? "title".toList (spec.title.getD []) terms 1 0).toList
    ++ (ofField? "name".toList spec.name terms 1 0).toList
    ++ spec.tags.zipIdx.filterMap (fun (tag, index) =>
        ofField? "tags".toList tag terms spec.tags.length index)
    ++ (ofField? "description".toList (spec.description.getD []) terms 1 0).toList
    ++ ofContent (spec.content.getD []) terms reach

end Match

end SpecFinder
