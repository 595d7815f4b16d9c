import SpecFinder.Text.Occurrence

/-!
# Matches

A match is a place of a spec where a search found something: a field, or one line
of the content.  Its score may be any kind of number.
-/

namespace SpecFinder

/-- A place where a query matched. Only matches in the content have a line. -/
structure Match (σ : Type) where
  field : Text
  text : Text
  score : σ
  highlights : List Span := []
  occurrences : Int := 0
  line : Option Int := none
  deriving DecidableEq, Repr

namespace Match

def contentField : Text := "content".toList

/-- The order in which the fields of a result are shown. -/
def fieldOrder : List Text :=
  ["title".toList, "name".toList, "tags".toList, "description".toList, contentField]

/-- The place of a field in the order of fields; unknown fields come last. -/
def fieldRank (field : Text) : Nat := fieldOrder.idxOf field

def isContent {σ : Type} (found : Match σ) : Bool := found.field == contentField

/-- The line of a match, zero when it has none. -/
def lineOrZero {σ : Type} (found : Match σ) : Int := found.line.getD 0

end Match

end SpecFinder
