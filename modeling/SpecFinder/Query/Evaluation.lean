import SpecFinder.Query.Expr

/-!
# Evaluating a query

The truth of a query's tree, given the truth of its operands.  `meaning` follows
the tree; `evaluate` works through a list of steps with a stack of values, so
that a tree of any depth needs no deeper recursion.
-/

namespace SpecFinder.Query

/-- What is left to do: look at a tree, or combine the values on the stack. -/
inductive Step where
  | visit (tree : Expr)
  | negate
  | conjoin
  | disjoin
  deriving DecidableEq, Repr

namespace Expr

def meaning (holds : Operand → Bool) : Expr → Bool
  | .operand leaf => holds leaf
  | .not inner => !inner.meaning holds
  | .and left right => left.meaning holds && right.meaning holds
  | .or left right => left.meaning holds || right.meaning holds

def size : Expr → Nat
  | .operand _ => 1
  | .not inner => inner.size + 1
  | .and left right | .or left right => left.size + right.size + 1

end Expr

namespace Step

/-- The work that a step stands for. Visiting a connective is more work than
visiting what it joins and combining the values. -/
def work : Step → Nat
  | .visit tree => 2 * tree.size
  | .negate | .conjoin | .disjoin => 1

/-- Work through steps from a stack of values, the last value on top. There is no
outcome when a step finds too few values. -/
def run (holds : Operand → Bool) : List Step → List Bool → Option (List Bool)
  | [], values => some values
  | .visit (.operand leaf) :: steps, values => run holds steps (holds leaf :: values)
  | .visit (.not inner) :: steps, values => run holds (.visit inner :: .negate :: steps) values
  | .visit (.and left right) :: steps, values =>
      run holds (.visit left :: .visit right :: .conjoin :: steps) values
  | .visit (.or left right) :: steps, values =>
      run holds (.visit left :: .visit right :: .disjoin :: steps) values
  | .negate :: steps, value :: values => run holds steps ((!value) :: values)
  | .conjoin :: steps, right :: left :: values => run holds steps ((left && right) :: values)
  | .disjoin :: steps, right :: left :: values => run holds steps ((left || right) :: values)
  | _ :: _, _ => none
termination_by steps => steps.foldr (fun step rest => step.work + rest) 0
decreasing_by all_goals simp [work, Expr.size]; try omega

end Step

/-- The truth of a tree, found with a stack of values. -/
def Expr.evaluate (holds : Operand → Bool) (tree : Expr) : Bool :=
  match Step.run holds [.visit tree] [] with
  | some (value :: _) => value
  | _ => false

end SpecFinder.Query
