import SpecFinder.Proofs.Query.Evaluation
import SpecFinder.Search

/-!
# Evaluation turn by turn

An evaluation works off its steps in turns.  A turn takes the first step and the values
that it needs.  No turn follows when no step is left, and none when a step finds too few
values.

Two things are known of each turn: it does not change the outcome of `Step.run`, and it
lowers the number of turns that are left by exactly one, although a connective comes back
behind what it joins.  So an evaluation that has an outcome is never short of a value on
its way, and it ends.
-/

namespace SpecFinder.Query

/-- The number of turns that the evaluation of a tree takes: one for an operand, and two
for a connective, which is met again when what it joins has values. -/
def Expr.turns : Expr → Nat
  | .operand _ => 1
  | .not inner => inner.turns + 2
  | .and left right | .or left right => left.turns + right.turns + 2

/-- The number of turns that a step leads to. -/
def Step.turns : Step → Nat
  | .visit tree => tree.turns
  | .negate | .conjoin | .disjoin => 1

/-- An evaluation between two turns: the steps that are left, and the values, the last one
on top. -/
structure Progress where
  steps : List Step
  values : List Bool
  deriving DecidableEq, Repr

namespace Progress

/-- The evaluation of a tree before its first turn. -/
def start (tree : Expr) : Progress := ⟨[.visit tree], []⟩

/-- The number of turns that are left. -/
def turnsLeft (progress : Progress) : Nat :=
  progress.steps.foldr (fun step rest => step.turns + rest) 0

/-- The values that the steps end with, unless one of them finds too few. -/
def outcome (holds : Operand → Bool) (progress : Progress) : Option (List Bool) :=
  Step.run holds progress.steps progress.values

/-- One turn of an evaluation. -/
inductive Turn (holds : Operand → Bool) : Progress → Progress → Prop where
  | operand (leaf : Operand) (steps : List Step) (values : List Bool) :
      Turn holds ⟨.visit (.operand leaf) :: steps, values⟩ ⟨steps, holds leaf :: values⟩
  | not (inner : Expr) (steps : List Step) (values : List Bool) :
      Turn holds ⟨.visit (.not inner) :: steps, values⟩
        ⟨.visit inner :: .negate :: steps, values⟩
  | and (left right : Expr) (steps : List Step) (values : List Bool) :
      Turn holds ⟨.visit (.and left right) :: steps, values⟩
        ⟨.visit left :: .visit right :: .conjoin :: steps, values⟩
  | or (left right : Expr) (steps : List Step) (values : List Bool) :
      Turn holds ⟨.visit (.or left right) :: steps, values⟩
        ⟨.visit left :: .visit right :: .disjoin :: steps, values⟩
  | negate (value : Bool) (steps : List Step) (values : List Bool) :
      Turn holds ⟨.negate :: steps, value :: values⟩ ⟨steps, (!value) :: values⟩
  | conjoin (left right : Bool) (steps : List Step) (values : List Bool) :
      Turn holds ⟨.conjoin :: steps, right :: left :: values⟩
        ⟨steps, (left && right) :: values⟩
  | disjoin (left right : Bool) (steps : List Step) (values : List Bool) :
      Turn holds ⟨.disjoin :: steps, right :: left :: values⟩
        ⟨steps, (left || right) :: values⟩

/-- What an evaluation comes to in a number of turns. -/
inductive Reaches (holds : Operand → Bool) : Progress → (count : Nat) → Progress → Prop where
  | here (progress : Progress) : Reaches holds progress 0 progress
  | turn {first next last : Progress} {count : Nat} (taken : Turn holds first next)
      (further : Reaches holds next count last) : Reaches holds first (count + 1) last

variable {holds : Operand → Bool} {progress next first last : Progress} {count : Nat}

/-- A turn does not change the outcome. -/
theorem Turn.outcome_eq (taken : Turn holds progress next) :
    progress.outcome holds = next.outcome holds := by
  cases taken with
  | operand | not | and | or | negate | conjoin | disjoin => simp only [outcome, Step.run]

/-- A turn leaves one turn less. -/
theorem Turn.turnsLeft_eq (taken : Turn holds progress next) :
    progress.turnsLeft = next.turnsLeft + 1 := by
  cases taken with
  | operand | not | and | or | negate | conjoin | disjoin =>
      simp only [turnsLeft, List.foldr_cons, Step.turns, Expr.turns]
      omega

/-- An evaluation with an outcome has ended, or a turn follows. -/
theorem ended_or_turn {values : List Bool} (ends : progress.outcome holds = some values) :
    progress = ⟨[], values⟩ ∨ ∃ next, Turn holds progress next := by
  rcases progress with ⟨steps, stack⟩
  cases steps with
  | nil =>
      simp only [outcome, Step.run, Option.some.injEq] at ends
      exact .inl (by rw [ends])
  | cons step steps =>
      refine .inr ?_
      cases step with
      | visit tree =>
          cases tree with
          | operand leaf => exact ⟨_, .operand leaf steps stack⟩
          | not inner => exact ⟨_, .not inner steps stack⟩
          | and left right => exact ⟨_, .and left right steps stack⟩
          | or left right => exact ⟨_, .or left right steps stack⟩
      | negate =>
          cases stack with
          | nil => simp [outcome, Step.run] at ends
          | cons value values => exact ⟨_, .negate value steps values⟩
      | conjoin =>
          rcases stack with _ | ⟨right, _ | ⟨left, values⟩⟩
          · simp [outcome, Step.run] at ends
          · simp [outcome, Step.run] at ends
          · exact ⟨_, .conjoin left right steps values⟩
      | disjoin =>
          rcases stack with _ | ⟨right, _ | ⟨left, values⟩⟩
          · simp [outcome, Step.run] at ends
          · simp [outcome, Step.run] at ends
          · exact ⟨_, .disjoin left right steps values⟩

namespace Reaches

theorem outcome_eq (reaches : Reaches holds first count last) :
    first.outcome holds = last.outcome holds := by
  induction reaches with
  | here => rfl
  | turn taken _ ih => exact taken.outcome_eq.trans ih

theorem turnsLeft_eq (reaches : Reaches holds first count last) :
    first.turnsLeft = last.turnsLeft + count := by
  induction reaches with
  | here => rfl
  | turn taken _ ih =>
      rw [taken.turnsLeft_eq, ih]
      exact Nat.add_assoc _ _ 1

end Reaches

/-- An evaluation with an outcome comes to it in as many turns as are left. -/
theorem reaches_outcome {values : List Bool} (ends : progress.outcome holds = some values) :
    Reaches holds progress progress.turnsLeft ⟨[], values⟩ := by
  induction left : progress.turnsLeft generalizing progress with
  | zero =>
      rcases ended_or_turn ends with rfl | ⟨next, taken⟩
      · exact .here _
      · rw [taken.turnsLeft_eq] at left
        cases left
  | succ count ih =>
      rcases ended_or_turn ends with rfl | ⟨next, taken⟩
      · cases left
      · rw [taken.outcome_eq] at ends
        rw [taken.turnsLeft_eq, Nat.succ.injEq] at left
        exact .turn taken (ih ends left)

/-- The evaluation of a tree for a spec ends with the meaning of the tree as its only value,
and on the way there every turn is followed by another one. -/
theorem evaluate_turns (spec : Spec) (tree : Expr) :
    Step.run spec.satisfies [.visit tree] [] = some [tree.meaning spec.satisfies] ∧
    tree.evaluate spec.satisfies = tree.meaning spec.satisfies ∧
    Reaches spec.satisfies (start tree) tree.turns ⟨[], [tree.meaning spec.satisfies]⟩ ∧
    ∀ count progress, Reaches spec.satisfies (start tree) count progress →
      (∃ next, Turn spec.satisfies progress next) ∨
        progress = ⟨[], [tree.meaning spec.satisfies]⟩ ∧ count = tree.turns := by
  have ends : (start tree).outcome spec.satisfies = some [tree.meaning spec.satisfies] := by
    rw [outcome, start, Step.run_visit, Step.run]
  have atStart : (start tree).turnsLeft = tree.turns := by
    simp [start, turnsLeft, Step.turns]
  refine ⟨ends, tree.evaluate_eq_meaning spec.satisfies, ?_, ?_⟩
  · rw [← atStart]
    exact reaches_outcome ends
  · intro count progress reaches
    have sameOutcome := reaches.outcome_eq
    rw [ends] at sameOutcome
    rcases ended_or_turn sameOutcome.symm with rfl | goesOn
    · have taken := reaches.turnsLeft_eq
      rw [atStart] at taken
      exact .inr ⟨rfl, by simpa [turnsLeft] using taken.symm⟩
    · exact .inl goesOn

end Progress

end SpecFinder.Query
