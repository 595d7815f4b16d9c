import SpecFinder.Match.Highlight

/-!
# Snippets

The part of a line that is shown for a match: the whole line when it is short,
else a window around the leftmost occurrence of a term, with dots where the line
was cut.
-/

namespace SpecFinder

/-- A text to show and its highlights. -/
structure Snippet where
  text : Text
  highlights : List Span
  deriving DecidableEq, Repr

namespace Snippet

/-- The mark of a cut. -/
def ellipsis : Text := "...".toList

def sentenceBreak : Text := ". ".toList

/-- A window's end moves to the end of a sentence that is nearer than this. -/
def snapDistance : Int := 20

/-- A line of a text, empty when there is none of that index. -/
def lineAt (text : Text) (index : Int) : Text :=
  if index < 0 then [] else (Text.rows text).getD index.toNat []

/-- The place of the leftmost occurrence of a term, the end of the line when
there is none. -/
def leftmost (line : Text) (terms : List Text) : Nat :=
  (((terms.filter (!·.isEmpty)).filterMap (Text.firstOccurrence? Text.alike · line))).foldl
    min line.length

/-- The part of a line between two bounds, with dots at the sides where the line
was cut. -/
def window (line : Text) (start stop : Int) (terms : List Text) : Snippet :=
  let text := (if 0 < start then ellipsis else []) ++ Text.slice line start stop
    ++ (if stop < line.length then ellipsis else [])
  ⟨text, SpecFinder.highlights text terms⟩

def isShort (line : Text) (reach : Int) : Bool := line.length ≤ reach * 2

/-- The bounds of the window that reaches to both sides of the leftmost
occurrence. -/
def bounds (line : Text) (terms : List Text) (reach : Int) : Int × Int :=
  let first := leftmost line terms
  (max 0 (first - reach), min line.length (first + reach))

def lastBreak? (line : Text) (stop : Int) : Option Nat :=
  (Text.occurrences (· == ·) sentenceBreak (Text.slice line 0 stop)).getLast?

def nextBreak? (line : Text) (start : Int) : Option Nat :=
  let first := Text.clampBound line.length start
  (Text.firstOccurrence? (· == ·) sentenceBreak (line.drop first)).map (first + ·)

/-- A window's start, moved back behind the end of a near sentence. -/
def snapStart (line : Text) (start : Int) : Int :=
  match lastBreak? line start with
  | some place => if start - place < snapDistance then place + sentenceBreak.length else start
  | none => start

/-- A window's end, moved on to the end of a near sentence. -/
def snapStop (line : Text) (stop : Int) : Int :=
  match nextBreak? line stop with
  | some place => if place - stop < snapDistance then place + 1 else stop
  | none => stop

def extract (text : Text) (index : Int) (terms : List Text) (reach : Int) : Snippet :=
  let line := lineAt text index
  if isShort line reach then
    ⟨line, SpecFinder.highlights line terms⟩
  else
    let (start, stop) := bounds line terms reach
    window line start stop terms

/-- The snippet of a line whose window prefers whole sentences. -/
def extractSentences (text : Text) (index : Int) (terms : List Text) (reach : Int) : Snippet :=
  let line := lineAt text index
  if isShort line reach then
    extract text index terms reach
  else
    let (start, stop) := bounds line terms reach
    window line (snapStart line start) (snapStop line stop) terms

end Snippet

end SpecFinder
