/-!
# Texts

A text is a list of characters, so that a position in it counts characters and
every law about texts is an induction over a list.  This module holds white
space, trimming, splitting, and cutting between two positions.
-/

namespace SpecFinder

/-- A text, one entry per character. -/
abbrev Text := List Char

namespace Text

def inRanges (ranges : List (Nat × Nat)) (codePoint : Nat) : Bool :=
  ranges.any fun range => range.1 ≤ codePoint && codePoint ≤ range.2

/-- The closed code point ranges of white space: the controls that move the
print position, the information separators and the space separators. -/
def blankRanges : List (Nat × Nat) := [
  (0x09, 0x0D), (0x1C, 0x20), (0x85, 0x85), (0xA0, 0xA0), (0x1680, 0x1680),
  (0x2000, 0x200A), (0x2028, 0x2029), (0x202F, 0x202F), (0x205F, 0x205F),
  (0x3000, 0x3000)]

def isBlank (char : Char) : Bool :=
  inRanges blankRanges char.toNat

def trim (text : Text) : Text :=
  ((text.dropWhile isBlank).reverse.dropWhile isBlank).reverse

/-- Cut a text at every character that `separates`; the pieces between two
adjacent separators, and at the ends, may be empty. -/
def splitWhere (separates : Char → Bool) : Text → List Text
  | [] => [[]]
  | char :: rest =>
      match splitWhere separates rest with
      | [] => [[char]]
      | piece :: pieces =>
          if separates char then [] :: piece :: pieces
          else (char :: piece) :: pieces

/-- The maximal runs of characters that are not white space. -/
def words (text : Text) : List Text :=
  (splitWhere isBlank text).filter (!·.isEmpty)

/-- The pieces between line feeds. -/
def rows (text : Text) : List Text :=
  splitWhere (· == '\n') text

/-- The text before and after the first occurrence of `mark`. -/
def splitFirst (mark : Text) : Text → Option (Text × Text)
  | [] => if mark.isEmpty then some ([], []) else none
  | char :: rest =>
      if mark.isPrefixOf (char :: rest) then
        some ([], (char :: rest).drop mark.length)
      else
        (splitFirst mark rest).map fun (before, after) => (char :: before, after)

def occursIn (part : Text) : Text → Bool
  | [] => part.isEmpty
  | char :: rest => part.isPrefixOf (char :: rest) || occursIn part rest

/-- The place that a bound stands for: a negative one counts from the end, and
none lies outside the text. -/
def clampBound (length : Nat) (bound : Int) : Nat :=
  if bound < 0 then (bound + length).toNat else min bound.toNat length

/-- Whether a text stands before another one in the order of code points. A text stands
before those that go on behind it. -/
def isBelow : (left right : Text) → Bool
  | _, [] => false
  | [], _ :: _ => true
  | first :: left, other :: right =>
      first.toNat < other.toNat || (first == other && isBelow left right)

/-- Whether a text stands before another one or is the same. -/
def isAtMost (left right : Text) : Bool := !isBelow right left

/-- The part of a text from `start` up to `stop`, empty when they cross. -/
def slice (text : Text) (start stop : Int) : Text :=
  let first := clampBound text.length start
  (text.take (clampBound text.length stop)).drop first

/-- Write pieces one after the other with `between` in every gap. -/
def join (between : Text) : List Text → Text
  | [] => []
  | [piece] => piece
  | piece :: pieces => piece ++ between ++ join between pieces

def ofNat (value : Nat) : Text := Nat.toDigits 10 value

/-- An integer in decimal, with a sign only below zero. -/
def ofInt : Int → Text
  | .ofNat value => ofNat value
  | .negSucc value => '-' :: ofNat (value + 1)

end Text

end SpecFinder
