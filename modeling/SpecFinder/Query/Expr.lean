import SpecFinder.Text.LetterCase
import SpecFinder.Query.DateFilter

/-!
# Query expressions

The tree of a query: operands joined by conjunction, disjunction and negation.
Beside the tree, each operand adds to the criteria of the query: the words to score
and the filters.
-/

namespace SpecFinder.Query

/-- A leaf of a query's tree. A field's name is in lower case, its value as
written. -/
inductive Operand where
  | term (word : Text)
  | phrase (body : Text)
  | fuzzy (word : Text)
  | field (name value : Text)
  deriving DecidableEq, Repr

inductive Expr where
  | operand (leaf : Operand)
  | not (inner : Expr)
  | and (left right : Expr)
  | or (left right : Expr)
  deriving DecidableEq, Repr

namespace Operand

/-- The operand of a field word: all after the first colon is its value. -/
def ofFieldWord (word : Text) : Operand :=
  match Text.splitFirst [':'] word with
  | some (name, value) => .field (Text.lower name) value
  | none => .field (Text.lower word) []

end Operand

/-- What the operands of a query ask for, each kind in the order in which it is met:
the lower-case texts to score, the lower-case words that may hold typing errors, and
the filters. A field filter is a name and a value. -/
@[ext] structure Criteria where
  terms : List Text := []
  fuzzyTerms : List Text := []
  fieldFilters : List (Text × Text) := []
  dateFilters : List DateFilter := []
  deriving DecidableEq, Repr

namespace Criteria

def append (earlier later : Criteria) : Criteria where
  terms := earlier.terms ++ later.terms
  fuzzyTerms := earlier.fuzzyTerms ++ later.fuzzyTerms
  fieldFilters := earlier.fieldFilters ++ later.fieldFilters
  dateFilters := earlier.dateFilters ++ later.dateFilters

instance : Append Criteria := ⟨append⟩

/-- What one operand asks for. A field asks for a date when its value is a condition
on dates. -/
def ofOperand : Operand → Criteria
  | .term text | .phrase text => { terms := [Text.lower text] }
  | .fuzzy word => { fuzzyTerms := [Text.lower word] }
  | .field name value =>
      match DateFilter.ofField? name value with
      | some filter => { dateFilters := [filter] }
      | none => { fieldFilters := [(name, value)] }

end Criteria

end SpecFinder.Query
