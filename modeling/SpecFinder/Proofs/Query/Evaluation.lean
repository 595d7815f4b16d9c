import SpecFinder.Query.Evaluation

/-!
# Evaluation follows the tree

Working through steps with a stack of values gives the meaning of a tree.  The stack
below is never touched: visiting a tree leaves its value on top of what was there.
-/

namespace SpecFinder.Query

/-- Visiting a tree leaves its truth on top of the stack. -/
theorem Step.run_visit (holds : Operand → Bool) (tree : Expr) (steps : List Step)
    (values : List Bool) :
    Step.run holds (.visit tree :: steps) values =
      Step.run holds steps (tree.meaning holds :: values) := by
  induction tree generalizing steps values with
  | operand leaf =>
      rw [Step.run]
      rfl
  | not inner ih =>
      rw [Step.run, ih, Step.run]
      rfl
  | and left right leftIH rightIH | or left right leftIH rightIH =>
      rw [Step.run, leftIH, rightIH, Step.run]
      rfl

/-- Evaluation finds the meaning of every tree. -/
theorem Expr.evaluate_eq_meaning (holds : Operand → Bool) (tree : Expr) :
    tree.evaluate holds = tree.meaning holds := by
  rw [Expr.evaluate, Step.run_visit, Step.run]

end SpecFinder.Query
