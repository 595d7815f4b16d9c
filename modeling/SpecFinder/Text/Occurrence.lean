import SpecFinder.Text.Basic

/-!
# Occurrences

Where a part occurs in a text, for any way of comparing two characters.  A scan
goes from left to right and resumes behind each occurrence it finds, so that the
occurrences it lists do not overlap.
-/

namespace SpecFinder

/-- The characters of a text from `start` up to `stop`. -/
structure Span where
  start : Int
  stop : Int
  deriving DecidableEq, Repr

namespace Text

/-- Whether a text starts with `part`, characters compared by `same`. -/
def startsWithBy (same : Char → Char → Bool) : (part text : Text) → Bool
  | [], _ => true
  | _ :: _, [] => false
  | wanted :: part, char :: text => same wanted char && startsWithBy same part text

/-- The places of the occurrences that a left-to-right scan finds in a text that
begins at place `start`.  After an occurrence the scan skips what it covers. -/
def scanFrom (same : Char → Char → Bool) (part : Text) :
    (start skip : Nat) → Text → List Nat
  | _, _, [] => []
  | start, skip + 1, _ :: rest => scanFrom same part (start + 1) skip rest
  | start, 0, char :: rest =>
      if startsWithBy same part (char :: rest) then
        start :: scanFrom same part (start + 1) (part.length - 1) rest
      else
        scanFrom same part (start + 1) 0 rest

/-- The places of the occurrences of a non-empty part, left to right and without
overlaps. -/
def occurrences (same : Char → Char → Bool) (part text : Text) : List Nat :=
  scanFrom same part 0 0 text

/-- The place of the first occurrence of a non-empty part. -/
def firstOccurrence? (same : Char → Char → Bool) (part text : Text) : Option Nat :=
  (occurrences same part text).head?

/-- The number of occurrences of a non-empty part without overlaps. -/
def countOccurrences (part text : Text) : Nat :=
  (occurrences (· == ·) part text).length

end Text

end SpecFinder
