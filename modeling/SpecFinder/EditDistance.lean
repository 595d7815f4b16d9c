import SpecFinder.Text.LetterCase

/-!
# Edit distance

The number of characters that have to be inserted, deleted or replaced to turn
one text into another, and the search for words that are nearly alike.
-/

namespace SpecFinder

namespace EditDistance

/-- The distances from `char :: source` to all ends of a target, longest first,
when `below` holds those from `source`. -/
def extend (char : Char) : (target : Text) → (below : List Nat) → List Nat
  | [], below => [below.headD 0 + 1]
  | wanted :: target, below =>
      let right := extend char target below.tail
      let replaced := below.tail.headD 0 + if char = wanted then 0 else 1
      min replaced (min (below.headD 0 + 1) (right.headD 0 + 1)) :: right

/-- The distances from a source to all ends of a target, longest first. -/
def distances (target : Text) : (source : Text) → List Nat
  | [] => (List.range (target.length + 1)).reverse
  | char :: source => extend char target (distances target source)

end EditDistance

/-- The least number of single-character insertions, deletions and replacements
that turn one text into another. -/
def editDistance (source target : Text) : Nat :=
  (EditDistance.distances target source).headD 0

def withinDistance (limit : Int) (source target : Text) : Bool :=
  (editDistance source target : Int) ≤ limit

/-- Whether a term occurs in a text or is at most `limit` edits away from one of
its words, when case is ignored. -/
def nearlyOccurs (term text : Text) (limit : Int) : Bool :=
  let wanted := Text.lower term
  let searched := Text.lower text
  Text.occursIn wanted searched || (Text.words searched).any (withinDistance limit wanted)

/-- The words at most `limit` edits away from a term, in ascending order. -/
def closeWords (term : Text) (words : List Text) (limit : Int) : List Text :=
  (words.filter (withinDistance limit term)).mergeSort Text.isAtMost

/-- What tells two texts apart up to a limit: the limits that it takes, and the distance that
it gives under one of them.  For texts that are further apart than the limit this need not be
their edit distance. -/
structure Measure where
  takes : (limit : Int) → Bool
  distance : (limit : Int) → (source target : Text) → Nat

/-- Counts all edits, and takes the limits that fit into sixty-four bits. -/
def Measure.counting : Measure where
  takes limit := 0 ≤ limit && limit.toNat < Nat.pow 2 64
  distance _ := editDistance

def Measure.isWithin (measure : Measure) (limit : Int) (source target : Text) : Bool :=
  (measure.distance limit source target : Int) ≤ limit

/-- Whether a term nearly occurs in a text by a measure.  There is no answer when words have to
be compared and the measure does not take the limit. -/
def nearlyOccurs? (term text : Text) (limit : Int) (measure : Measure := .counting) :
    Option Bool :=
  let wanted := Text.lower term
  let searched := Text.lower text
  let words := Text.words searched
  if Text.occursIn wanted searched then some true
  else if words.isEmpty then some false
  else if measure.takes limit then some (words.any (measure.isWithin limit wanted))
  else none

/-- The words near a term by a measure, in ascending order.  The limit is looked at first, also
when there are no words. -/
def closeWords? (term : Text) (words : List Text) (limit : Int)
    (measure : Measure := .counting) : Option (List Text) :=
  if measure.takes limit then
    some ((words.filter (measure.isWithin limit term)).mergeSort Text.isAtMost)
  else
    none

/-- The number of edits allowed for a term: one up to four characters, two
above. -/
def allowedEdits (term : Text) : Nat :=
  if term.length ≤ 4 then 1 else 2

end SpecFinder
