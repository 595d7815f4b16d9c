import SpecFinder.Query.Reader

/-!
# Queries

A query as a search uses it: the tree, what its operands ask for, and the faults
found while reading it.
-/

namespace SpecFinder

/-- A query that has been read: the tree, the criteria of its operands, and the
faults. -/
structure Query extends Query.Criteria where
  source : Text
  tree : Option Query.Expr
  isAdvanced : Bool
  faults : List Query.Fault
  deriving DecidableEq, Repr

namespace Query

/-- Read a query. Nothing is refused: faults are listed and the rest is kept. -/
def read (source : Text) : Query :=
  let tokens := tokens source
  let reading := readTokens tokens
  { toCriteria := reading.criteria
    source
    tree := reading.tree
    isAdvanced := tokens.any (·.lexeme.isAdvanced)
    faults := reading.faults ++ ((openQuote? source).map Fault.unclosedQuote).toList }

end Query

end SpecFinder
