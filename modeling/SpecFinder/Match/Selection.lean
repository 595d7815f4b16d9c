import SpecFinder.Match.Basic

/-!
# Selecting matches

Matches in lines that are near to each other show the same place, so only the
best of them is kept.  What is kept is put in the order in which it is shown, and
cut to a number of matches.

Scores may be numbers that do not compare with each other, and what is no number
does not even equal itself.  Then "before" is no order, and only a sort itself can
say what becomes of a list.
-/

namespace SpecFinder

/-- A way to sort a list, when it is known which items may stand right in front of which. -/
abbrev Sorter (α : Type) := (precedes : α → α → Bool) → (items : List α) → List α

/-- Whether each item of a list may stand in front of the next one. -/
def isRun {α : Type} (precedes : α → α → Bool) : List α → Bool
  | first :: second :: rest => precedes first second && isRun precedes (second :: rest)
  | _ => true

/-- Sort by merging, except that a list without a wrong step is left as it is. -/
def sortRuns {α : Type} : Sorter α := fun precedes items =>
  if isRun precedes items then items else items.mergeSort precedes

namespace Match

variable {σ : Type} [LT σ] [∀ left right : σ, Decidable (left < right)]

/-- The order of selection: higher scores first, earlier lines first when the scores are
equal. -/
def selectedBefore [BEq σ] (left right : Match σ) : Bool :=
  if left.score == right.score then left.lineOrZero ≤ right.lineOrZero
  else !decide (left.score < right.score)

/-- Keep a match in the content only when no kept one is at most `distance` lines
away. The lines of those kept before are given. -/
def keepApart (distance : Int) : (used : List Int) → List (Match σ) → List (Match σ)
  | _, [] => []
  | used, first :: rest =>
      if !first.isContent then
        first :: keepApart distance used rest
      else if used.any fun line => (first.lineOrZero - line).natAbs ≤ distance then
        keepApart distance used rest
      else
        first :: keepApart distance (first.lineOrZero :: used) rest

def shownBefore (left right : Match σ) : Bool :=
  fieldRank left.field < fieldRank right.field ||
    (fieldRank left.field == fieldRank right.field && !decide (left.score < right.score))

/-- Leave out the matches in the content that are near to a better one, and order
the others as they are shown. -/
def deduplicate [BEq σ] (found : List (Match σ)) (distance : Int)
    (sort : Sorter (Match σ) := sortRuns) : List (Match σ) :=
  sort shownBefore (keepApart distance [] (sort selectedBefore found))

/-- All matches outside the content, then the best ones in the content as long as
there are no more than `limit` in all. -/
def limitTo (found : List (Match σ)) (limit : Int) (sort : Sorter (Match σ) := sortRuns) :
    List (Match σ) :=
  if found.length ≤ limit then
    found
  else
    let (content, others) := found.partition (·.isContent)
    sort (fun left right => fieldRank left.field ≤ fieldRank right.field) others ++
      (sort (fun left right => !decide (left.score < right.score)) content).take
        (limit - others.length).toNat

end Match

end SpecFinder
