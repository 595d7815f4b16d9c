import SpecFinder.Match.Score
import SpecFinder.Number.Binary64

/-!
# Scores in doubles

Scores are computed with doubles.  A count beyond the greatest double, or a mean
that leaves their range, has no score.
-/

namespace SpecFinder

/-- The logarithm to base two of a positive count. A count beyond the greatest
double is taken apart into a number below one and a power of two. -/
def floatLog2 (count : Nat) : Float :=
  if count < floatLimit then
    (Float.ofNat count).log2
  else
    let width := Nat.log2 count + 1
    (Float.scaleB (Float.ofNat (roundDivEven count (Nat.pow 2 (width - 53)))) (-53)).log2
      + Float.ofNat width

instance : Scoring Float where
  ofCount := Float.ofNat
  half := 0.5
  quarter := 0.25
  tenth := 0.1
  floor value := ((Binary64.ofFloat? value).map Binary64.floor).getD 0
  decideLt := inferInstance
  log2 := floatLog2

namespace Match

inductive ScoreError where
  | beyondRange
  deriving DecidableEq, Repr

/-- The score of a match, when its place and the number of matches can be
computed with. -/
def scoreOf? (found : Match Float) (terms : List Text) (total position : Int) :
    Except ScoreError Float :=
  if floatLimit ≤ position.toNat || floatLimit ≤ total.toNat - 1 then
    .error .beyondRange
  else
    .ok (scoreOf found.field found.text found.occurrences terms total position)

/-- The score of a spec, when the mean of its matches' scores is in range. -/
def specScore? (found : List (Match Float)) : Except ScoreError Nat :=
  if found.isEmpty || (weightedMean (bestScores found)).isFinite then
    .ok (specScore found)
  else
    .error .beyondRange

end Match

end SpecFinder
