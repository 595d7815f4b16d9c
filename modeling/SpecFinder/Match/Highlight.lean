import SpecFinder.Text.Folding
import SpecFinder.Text.Occurrence

/-!
# Highlights

The parts of a text that any of some terms covers, as disjoint spans from left to
right.  Terms are looked for in the text as written, without regard to case, so
that the spans are places of that text.
-/

namespace SpecFinder

/-- The terms to look for: those that are not empty, in lower case. -/
def searchedTerms (terms : List Text) : List Text :=
  (terms.filter (!·.isEmpty)).map Text.lower

namespace Span

/-- The order of spans by start, then by end. -/
def precedes (left right : Span) : Bool :=
  left.start < right.start || (left.start == right.start && left.stop ≤ right.stop)

/-- Put a span before ascending ones, joined with those that overlap or touch
it. -/
def mergeInto (current : Span) : List Span → List Span
  | [] => [current]
  | next :: rest =>
      if next.start ≤ current.stop then
        mergeInto ⟨current.start, max current.stop next.stop⟩ rest
      else
        current :: mergeInto next rest

/-- Join the overlapping and touching ones among ascending spans. -/
def merge : List Span → List Span
  | [] => []
  | first :: rest => mergeInto first rest

end Span

def termSpans (text term : Text) : List Span :=
  (Text.occurrences Text.alike term text).map fun (place : Nat) =>
    ⟨place, place + term.length⟩

/-- The parts of a text that some of the terms cover. -/
def highlights (text : Text) (terms : List Text) : List Span :=
  Span.merge (((searchedTerms terms).flatMap (termSpans text)).mergeSort Span.precedes)

/-- A text and the parts of it that are shown in styles. -/
structure StyledText where
  plain : Text
  styled : List (Span × Text)
  deriving DecidableEq, Repr

namespace StyledText

/-- Whether a control character that has no place in a line of output: the bell,
the backspace, and the vertical movements but the line feed. -/
def isDropped (char : Char) : Bool :=
  char.toNat == 0x07 || char.toNat == 0x08 || (0x0B ≤ char.toNat && char.toNat ≤ 0x0D)

/-- The part of a text of some length that a range stands for. A negative bound
counts from the end; a range that then holds nothing stands for none. -/
def resolve? (length : Nat) (range : Span) : Option Span :=
  let start := if range.start < 0 then range.start + length else range.start
  let stop := if range.stop < 0 then range.stop + length else range.stop
  if length ≤ start || stop ≤ start then none
  else some ⟨start, min stop length⟩

/-- Show ranges of a text in a style. One without a name changes nothing. -/
def highlight (text : Text) (ranges : List Span) (style : Text) : StyledText :=
  let plain := text.filter (!isDropped ·)
  let styled := if style.isEmpty then [] else ranges.filterMap (resolve? plain.length)
  ⟨plain, styled.map (·, style)⟩

end StyledText

end SpecFinder
