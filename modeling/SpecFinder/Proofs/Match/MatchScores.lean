import Mathlib.Analysis.SpecialFunctions.Log.Base
import SpecFinder.Proofs.Match.SpecScores

/-!
# The score of a match

In exact numbers, with the logarithm to base two, the score of a match is a product of factors,
each of which is positive and depends on one thing alone.  It is therefore positive, goes down
with the position and with the number of matches, and goes up with the occurrences, as far as the
greatest score lets it.

That nothing is divided by zero is said by numbers that keep account of it: the score is computed
with them as well, and it is defined.
-/

namespace SpecFinder.Match

open ScoreNumber

/-- Scores as real numbers. -/
noncomputable instance : Scoring ℝ where
  ofCount count := count
  half := 1 / 2
  floor value := ⌊value⌋
  decideLt := inferInstance
  quarter := 1 / 4
  tenth := 1 / 10
  log2 count := Real.logb 2 count

/-- A number that is undefined when something was divided by zero on the way to it, or when a
logarithm of zero was taken. -/
inductive Checked where
  | defined (value : ℝ)
  | undefined

namespace Checked

/-- The outcome of an operation on two numbers, undefined when one of them is. -/
def both (operation : ℝ → ℝ → Checked) : Checked → Checked → Checked
  | defined left, defined right => operation left right
  | _, _ => undefined

/-- The quotient of two numbers. -/
noncomputable def quotient (left right : ℝ) : Checked :=
  if right = 0 then undefined else defined (left / right)

/-- Whether a number is less than another.  A comparison with what is undefined holds, so that
neither of two numbers hides that the other is undefined. -/
def Less : Checked → Checked → Prop
  | defined left, defined right => left < right
  | _, _ => True

end Checked

open Checked in
/-- Scores that keep account of divisions. -/
noncomputable instance : Scoring Checked where
  add := both fun left right => defined (left + right)
  mul := both fun left right => defined (left * right)
  div := both quotient
  beq left right := @decide (left = right) (Classical.propDecidable _)
  lt := Less
  ofCount count := defined count
  half := defined (1 / 2)
  floor
    | defined value => ⌊value⌋
    | undefined => 0
  decideLt := Classical.decRel _
  quarter := defined (1 / 4)
  tenth := defined (1 / 10)
  log2 count := if count = 0 then undefined else defined (Real.logb 2 count)

/-! ## The factors -/

theorem ofCount_real (count : ℕ) : (ofCount count : ℝ) = count := rfl

theorem occurrenceFactor_eq (occurrences : ℤ) :
    (occurrenceFactor occurrences : ℝ) = 1 + 1 / 4 * Real.logb 2 (max occurrences 1).toNat := by
  rw [occurrenceFactor, ofCount_real, Nat.cast_one]
  rfl

theorem occurrenceFactor_pos (occurrences : ℤ) : 0 < (occurrenceFactor occurrences : ℝ) := by
  have counted : 1 ≤ (max occurrences 1).toNat := by omega
  have logarithm : 0 ≤ Real.logb 2 (max occurrences 1).toNat :=
    Real.logb_nonneg one_lt_two (Nat.one_le_cast.mpr counted)
  rw [occurrenceFactor_eq]
  positivity

theorem occurrenceFactor_mono {once often : ℤ} (atMost : once ≤ often) :
    (occurrenceFactor once : ℝ) ≤ occurrenceFactor often := by
  have counted : 0 < (max once 1).toNat := by omega
  have counts : (max once 1).toNat ≤ (max often 1).toNat := by omega
  have logarithms : Real.logb 2 (max once 1).toNat ≤ Real.logb 2 (max often 1).toNat :=
    Real.logb_le_logb_of_le one_lt_two (Nat.cast_pos.mpr counted) (Nat.cast_le.mpr counts)
  rw [occurrenceFactor_eq, occurrenceFactor_eq]
  gcongr

theorem positionFactor_eq (position : ℤ) :
    (positionFactor position : ℝ) = 1 + 1 / 2 / (1 + 1 / 10 * position.toNat) := by
  rw [positionFactor, ofCount_real, Nat.cast_one]
  rfl

theorem positionFactor_pos (position : ℤ) : 0 < (positionFactor position : ℝ) := by
  rw [positionFactor_eq]
  positivity

theorem positionFactor_antitone {early late : ℤ} (atMost : early ≤ late) :
    (positionFactor late : ℝ) ≤ positionFactor early := by
  have counts : early.toNat ≤ late.toNat := Int.toNat_le_toNat atMost
  rw [positionFactor_eq, positionFactor_eq]
  gcongr

theorem frequencyDivisor_eq (total : ℤ) :
    (frequencyDivisor total : ℝ) = 1 + 1 / 10 * ((max total 1).toNat - 1 : ℕ) := by
  rw [frequencyDivisor, ofCount_real, ofCount_real, Nat.cast_one]
  rfl

theorem frequencyDivisor_pos (total : ℤ) : 0 < (frequencyDivisor total : ℝ) := by
  rw [frequencyDivisor_eq]
  positivity

theorem frequencyDivisor_mono {few many : ℤ} (atMost : few ≤ many) :
    (frequencyDivisor few : ℝ) ≤ frequencyDivisor many := by
  have counts : (max few 1).toNat - 1 ≤ (max many 1).toNat - 1 := by omega
  rw [frequencyDivisor_eq, frequencyDivisor_eq]
  gcongr

/-- The words among the terms that occur are at most all of them. -/
theorem wordFactor_bounds {terms : List Text} {text : Text} {factor : ℝ}
    (given : factor ∈ wordFactor terms text) : 1 ≤ factor ∧ factor ≤ 2 := by
  have wholeTerms : ((presentTerms terms text).countP (occursAsWord · none text) : ℝ) ≤
      (presentTerms terms text).length := Nat.cast_le.mpr List.countP_le_length
  rw [wordFactor] at given
  split at given
  · cases given
  · obtain rfl := Option.mem_some_iff.mp given
    have part := div_le_one_of_le₀ wholeTerms (Nat.cast_nonneg _)
    rw [ofCount_real, ofCount_real, ofCount_real, Nat.cast_one]
    constructor
    · exact le_add_of_nonneg_right (div_nonneg (Nat.cast_nonneg _) (Nat.cast_nonneg _))
    · linarith

/-- The factor for whole words, one when no term occurs. -/
noncomputable def wordWeight (terms : List Text) (text : Text) : ℝ := (wordFactor terms text).getD 1

theorem wordWeight_pos (terms : List Text) (text : Text) : 0 < wordWeight terms text := by
  rw [wordWeight]
  cases given : (wordFactor terms text : Option ℝ) with
  | none => exact one_pos
  | some factor => exact one_pos.trans_le (wordFactor_bounds given).1

/-! ## Their product -/

/-- The score of a match before it is held to the greatest one. -/
noncomputable def uncapped (field text : Text) (occurrences : ℤ) (terms : List Text)
    (total position : ℤ) : ℝ :=
  fieldWeight field * wordWeight terms text * occurrenceFactor occurrences *
    positionFactor position / frequencyDivisor total

theorem held_eq_min {score : ℝ} (positive : 0 < score) :
    larger (ofCount 0) (smaller (ofCount maxScore) score) = min score 100 :=
  calc larger (ofCount 0) (smaller (ofCount maxScore) score)
    _ = max ((0 : ℕ) : ℝ) (min score ((100 : ℕ) : ℝ)) := by
        rw [max_def_lt, min_def_lt]
        rfl
    _ = min score 100 := by
        rw [Nat.cast_zero, Nat.cast_ofNat]
        exact max_eq_right (le_min positive.le (by norm_num))

section

variable (field text : Text) (terms : List Text)

theorem uncapped_pos (occurrences total position : ℤ) :
    0 < uncapped field text occurrences terms total position := by
  have weight : (0 : ℝ) < fieldWeight field := Nat.cast_pos.mpr (fieldWeight_pos field)
  have word := wordWeight_pos terms text
  have occurrence := occurrenceFactor_pos occurrences
  have place := positionFactor_pos position
  have frequency := frequencyDivisor_pos total
  rw [uncapped]
  positivity

/-- The product does not go down when the factors do not and the divisor does not go up. -/
theorem uncapped_mono {once often few many early late : ℤ} (occurrences : once ≤ often)
    (total : few ≤ many) (position : early ≤ late) :
    uncapped field text once terms many late ≤ uncapped field text often terms few early := by
  have weight : (0 : ℝ) < fieldWeight field := Nat.cast_pos.mpr (fieldWeight_pos field)
  have word := wordWeight_pos terms text
  have occurrence := occurrenceFactor_pos often
  have earlyPlace := positionFactor_pos early
  have latePlace := positionFactor_pos late
  have frequency := frequencyDivisor_pos few
  have occurrenceFactors := occurrenceFactor_mono occurrences
  have positionFactors := positionFactor_antitone position
  have frequencyDivisors := frequencyDivisor_mono total
  rw [uncapped, uncapped]
  gcongr

/-- Since the product is positive, only the greatest score bounds it. -/
theorem scoreOf_eq_min (occurrences total position : ℤ) :
    (scoreOf field text occurrences terms total position : ℝ) =
      min (uncapped field text occurrences terms total position) 100 := by
  have positive := uncapped_pos field text terms occurrences total position
  rw [← held_eq_min positive, scoreOf, uncapped, wordWeight]
  cases (wordFactor terms text : Option ℝ) with
  | none =>
      rw [Option.getD_none, mul_one]
      rfl
  | some factor => rfl

theorem scoreOf_pos (occurrences total position : ℤ) :
    0 < (scoreOf field text occurrences terms total position : ℝ) := by
  rw [scoreOf_eq_min]
  exact lt_min (uncapped_pos field text terms occurrences total position) (by norm_num)

theorem scoreOf_le (occurrences total position : ℤ) :
    scoreOf field text occurrences terms total position ≤ (100 : ℝ) := by
  rw [scoreOf_eq_min]
  exact min_le_right _ _

theorem scoreOf_mono {once often few many early late : ℤ} (occurrences : once ≤ often)
    (total : few ≤ many) (position : early ≤ late) :
    (scoreOf field text once terms many late : ℝ) ≤ scoreOf field text often terms few early := by
  rw [scoreOf_eq_min, scoreOf_eq_min]
  exact min_le_min_right 100 (uncapped_mono field text terms occurrences total position)

end

/-! ## Divisions -/

namespace Checked

theorem div_defined (left : ℝ) {right : ℝ} (nonzero : right ≠ 0) :
    (defined left / defined right : Checked) = defined (left / right) := if_neg nonzero

/-- Comparing defined numbers is comparing their values. -/
theorem ite_defined (left right chosen other : ℝ) :
    (if defined left < defined right then defined chosen else defined other) =
      defined (if left < right then chosen else other) := by
  by_cases less : left < right
  · rw [if_pos less]
    exact if_pos less
  · rw [if_neg less]
    exact if_neg less

theorem larger_defined (left right : ℝ) :
    larger (defined left) (defined right) = defined (larger left right) :=
  ite_defined left right right left

theorem smaller_defined (left right : ℝ) :
    smaller (defined left) (defined right) = defined (smaller left right) :=
  ite_defined right left right left

theorem wordFactor_defined (terms : List Text) (text : Text) :
    (wordFactor terms text : Option Checked) = (wordFactor terms text).map defined := by
  rw [wordFactor, wordFactor]
  split
  · rfl
  next nonempty =>
    have terms : ((presentTerms terms text).length : ℝ) ≠ 0 := by
      simpa using nonempty
    exact congrArg (fun part => some (ofCount 1 + part)) (div_defined _ terms)

theorem occurrenceFactor_defined (occurrences : ℤ) :
    occurrenceFactor occurrences = defined (occurrenceFactor occurrences) := by
  have counted : (max occurrences 1).toNat ≠ 0 := by omega
  exact congrArg (fun logarithm => ofCount 1 + Scoring.quarter * logarithm) (if_neg counted)

theorem positionFactor_defined (position : ℤ) :
    positionFactor position = defined (positionFactor position) := by
  have nonzero : ((1 : ℕ) : ℝ) + 1 / 10 * position.toNat ≠ 0 := by positivity
  exact congrArg (fun bonus => ofCount 1 + bonus) (div_defined (1 / 2) nonzero)

theorem frequencyDivisor_defined (total : ℤ) :
    frequencyDivisor total = defined (frequencyDivisor total) := rfl

theorem held_defined (dividend : ℝ) {divisor : ℝ} (nonzero : divisor ≠ 0) :
    larger (ofCount 0) (smaller (ofCount maxScore) (defined dividend / defined divisor)) =
      defined (larger (ofCount 0) (smaller (ofCount maxScore) (dividend / divisor))) := by
  rw [div_defined dividend nonzero]
  exact (congrArg (larger (ofCount 0)) (smaller_defined _ _)).trans (larger_defined _ _)

/-- Nothing is divided by zero for the score of a match. -/
theorem scoreOf_defined (field text : Text) (terms : List Text) (occurrences total position : ℤ) :
    scoreOf field text occurrences terms total position =
      defined (scoreOf field text occurrences terms total position) := by
  have nonzero := (frequencyDivisor_pos total).ne'
  rw [scoreOf, scoreOf, wordFactor_defined, occurrenceFactor_defined, positionFactor_defined,
    frequencyDivisor_defined]
  cases (wordFactor terms text : Option ℝ) with
  | none => exact held_defined _ nonzero
  | some factor => exact held_defined _ nonzero

end Checked

/-- The score of a match, in exact numbers, lies above zero and is at most a hundred, and nothing is
divided by zero for it.  It does not go up when the match stands later or there are more matches,
and it does not go down when there are more occurrences.  The factor for whole words lies between
one and two. -/
theorem scoreOf_real (field text : Text) (terms : List Text) :
    (∀ occurrences total position : ℤ,
      0 < (scoreOf field text occurrences terms total position : ℝ) ∧
      scoreOf field text occurrences terms total position ≤ (100 : ℝ) ∧
      scoreOf field text occurrences terms total position =
        Checked.defined (scoreOf field text occurrences terms total position)) ∧
    (∀ occurrences total early late : ℤ, early ≤ late →
      (scoreOf field text occurrences terms total late : ℝ) ≤
        scoreOf field text occurrences terms total early) ∧
    (∀ occurrences few many position : ℤ, few ≤ many →
      (scoreOf field text occurrences terms many position : ℝ) ≤
        scoreOf field text occurrences terms few position) ∧
    (∀ once often total position : ℤ, once ≤ often →
      (scoreOf field text once terms total position : ℝ) ≤
        scoreOf field text often terms total position) ∧
    ∀ factor ∈ (wordFactor terms text : Option ℝ), 1 ≤ factor ∧ factor ≤ 2 := by
  refine ⟨?_, ?_, ?_, ?_, fun _ => wordFactor_bounds⟩
  · intro occurrences total position
    exact ⟨scoreOf_pos field text terms occurrences total position,
      scoreOf_le field text terms occurrences total position,
      Checked.scoreOf_defined field text terms occurrences total position⟩
  · intro occurrences total early late later
    exact scoreOf_mono field text terms le_rfl le_rfl later
  · intro occurrences few many position more
    exact scoreOf_mono field text terms le_rfl more le_rfl
  · intro once often total position more
    exact scoreOf_mono field text terms more le_rfl le_rfl

/-- A line in which one term is a word and the other a part of one. -/
def serverLine : Text := "The apis of a server".toList

def serverTerms : List Text := ["api".toList, "server".toList]

noncomputable def serverScore (occurrences total position : ℤ) : ℝ :=
  scoreOf contentField serverLine occurrences serverTerms total position

theorem wordFactor_serverLine :
    (wordFactor serverTerms serverLine : Option ℝ) = some (ofCount 1 + ofCount 1 / ofCount 2) := by
  have present : presentTerms serverTerms serverLine = serverTerms := by decide +kernel
  have whole : serverTerms.countP (occursAsWord · none serverLine) = 1 := by decide +kernel
  rw [wordFactor, present, whole]
  rfl

theorem scoreOf_serverLine :
    (0 < serverScore 2 0 (-1) ∧ serverScore 2 0 (-1) ≤ 100) ∧
    serverScore 2 10 9 ≤ serverScore 2 10 0 ∧ serverScore 2 10 9 ≤ serverScore 2 1 9 ∧
    serverScore 2 10 9 ≤ serverScore 4 10 9 ∧
    ∃ factor ∈ (wordFactor serverTerms serverLine : Option ℝ), 1 ≤ factor ∧ factor ≤ 2 := by
  rcases scoreOf_real contentField serverLine serverTerms with ⟨range, later, more, often, whole⟩
  have between := range 2 0 (-1)
  exact ⟨⟨between.1, between.2.1⟩, later 2 10 0 9 (by decide), more 2 1 10 9 (by decide),
    often 2 4 10 9 (by decide), _, wordFactor_serverLine, whole _ wordFactor_serverLine⟩

end SpecFinder.Match
