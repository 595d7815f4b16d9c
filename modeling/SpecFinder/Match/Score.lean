import SpecFinder.Match.Basic
import SpecFinder.Match.Highlight
import SpecFinder.Text.WordCharacter

/-!
# Scores

How relevant a match is, and how relevant a spec is by its matches.  Both are
given for any kind of number that has the few operations used here, so that the
same formulas are computed with doubles and studied with exact numbers.
-/

namespace SpecFinder

/-- Numbers to score with: they are added, multiplied, divided, compared, and
rounded down. -/
class ScoreNumber (σ : Type) extends Add σ, Mul σ, Div σ, BEq σ, LT σ where
  /-- The number of a count. -/
  ofCount : Nat → σ
  /-- One half. -/
  half : σ
  /-- The greatest integer that is not above a number. -/
  floor : σ → Int
  /-- Comparison is decidable. -/
  decideLt : ∀ left right : σ, Decidable (left < right)

/-- Numbers that also hold logarithms and the weights of the scoring factors. -/
class Scoring (σ : Type) extends ScoreNumber σ where
  /-- One quarter. -/
  quarter : σ
  /-- One tenth. -/
  tenth : σ
  /-- The logarithm to base two of a positive count. -/
  log2 : Nat → σ

instance ScoreNumber.instDecidableLt {σ : Type} [ScoreNumber σ] (left right : σ) :
    Decidable (left < right) :=
  ScoreNumber.decideLt left right

namespace ScoreNumber

variable {σ : Type} [ScoreNumber σ]

/-- The first number unless the second is greater. -/
def larger (left right : σ) : σ := if left < right then right else left

/-- The first number unless the second is less. -/
def smaller (left right : σ) : σ := if right < left then right else left

end ScoreNumber

namespace Match

/-- The weight of a field: what stands in a title counts most, what stands in the
content counts little, and unknown fields count least. -/
def fieldWeight (field : Text) : Nat :=
  if field = "title".toList then 100
  else if field = "name".toList || field = "tags".toList then 70
  else if field = "description".toList then 50
  else if field = contentField then 10
  else 1

def maxScore : Nat := 100

/-- Whether a term occurs somewhere with no word character beside it, in a text
that stands behind the character `before`. -/
def occursAsWord (term : Text) : (before : Option Char) → Text → Bool
  | _, [] => false
  | before, char :: rest =>
      let isFree : Option Char → Bool
        | some beside => !Text.isWordCharacter beside
        | none => true
      (isFree before && Text.startsWithBy Text.alike term (char :: rest)
          && isFree ((char :: rest).drop term.length).head?)
        || occursAsWord term (some char) rest

def presentTerms (terms : List Text) (text : Text) : List Text :=
  let lowered := Text.lower text
  (searchedTerms terms).filter (Text.occursIn · lowered)

section

variable {σ : Type} [Scoring σ]
open ScoreNumber

/-- The factor for whole words: two when every term that occurs does so as a
word. -/
def wordFactor (terms : List Text) (text : Text) : Option σ :=
  let present := presentTerms terms text
  if present.isEmpty then
    none
  else
    let whole := present.countP (occursAsWord · none text)
    some (ofCount 1 + ofCount whole / ofCount present.length)

/-- The factor for repetitions, which count less the more there are. -/
def occurrenceFactor (occurrences : Int) : σ :=
  ofCount 1 + Scoring.quarter * Scoring.log2 (max occurrences 1).toNat

/-- The factor for the place: the earlier, the greater. -/
def positionFactor (position : Int) : σ :=
  ofCount 1 + half / (ofCount 1 + Scoring.tenth * ofCount position.toNat)

/-- The divisor for the number of matches: one of many tells less. -/
def frequencyDivisor (total : Int) : σ :=
  ofCount 1 + Scoring.tenth * ofCount ((max total 1).toNat - 1)

/-- The score of a match among `total` ones at some position of the document. -/
def scoreOf (field text : Text) (occurrences : Int) (terms : List Text)
    (total position : Int) : σ :=
  let weight : σ := ofCount (fieldWeight field)
  let worded := match wordFactor terms text with
    | some factor => weight * factor
    | none => weight
  let score := worded * occurrenceFactor occurrences * positionFactor position
    / frequencyDivisor total
  larger (ofCount 0) (smaller (ofCount maxScore) score)

end

section

variable {σ : Type} [ScoreNumber σ]
open ScoreNumber

/-- Keep the greatest score of each field, fields in the order in which they are
first met. -/
def insertBest (best : List (Text × σ)) (field : Text) (score : σ) : List (Text × σ) :=
  match best with
  | [] => [(field, larger (ofCount 0) score)]
  | (known, held) :: rest =>
      if known = field then (known, larger held score) :: rest
      else (known, held) :: insertBest rest field score

/-- The greatest score of each field, none below zero. -/
def bestScores (found : List (Match σ)) : List (Text × σ) :=
  found.foldl (fun best each => insertBest best each.field each.score) []

/-- The mean of the fields' best scores, weighted by field. -/
def weightedMean (best : List (Text × σ)) : σ :=
  best.foldl (fun total (field, score) => total + score * ofCount (fieldWeight field)) (ofCount 0)
    / ofCount (best.foldl (fun total (field, _) => total + fieldWeight field) 0)

/-- The score of a spec by its matches: the weighted mean of the best scores,
rounded half up, between zero and the greatest score. -/
def specScore (found : List (Match σ)) : Nat :=
  if found.isEmpty then
    0
  else
    min maxScore (floor (weightedMean (bestScores found) + half)).toNat

end

end Match

end SpecFinder
