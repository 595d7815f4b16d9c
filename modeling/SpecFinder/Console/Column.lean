import SpecFinder.Console.WidthTable
import SpecFinder.Match.Highlight

/-!
# Columns

A tabulator moves on to the next of the columns that lie eight apart.  How many columns
a text takes is not only a matter of its single characters: a joiner draws two of them
as one picture, and a selector behind a character may make it a wider picture.
-/

namespace SpecFinder.Console

def columns (char : Char) : Nat :=
  let code := char.toNat
  if 0x20 ≤ code && code < 0x7F then 1
  else if code < 0x20 || Text.inRanges widthlessRanges code then 0
  else if Text.inRanges wideRanges code then 2
  else 1

/-- The character that selects a picture for the one before it. -/
def pictureSelector : Char := '\uFE0F'

/-- How many columns a text takes that stands behind `last`, the last character with a
width that no selector has changed yet. A joiner takes the character behind it into the
picture before it. -/
def columnsBehind (last : Option Char) : Text → Nat
  | [] => 0
  | '\u200D' :: rest =>
      match rest with
      | _ :: rest => columnsBehind last rest
      | [] => 0
  | char :: rest =>
      if char == pictureSelector then
        let isWidened := last.any fun last => Text.inRanges widenedRanges last.toNat
        (if isWidened then 1 else 0) + columnsBehind none rest
      else
        let width := columns char
        width + columnsBehind (if width = 0 then last else some char) rest

def textColumns (text : Text) : Nat := columnsBehind none text

/-- The distance of two tabulator stops. -/
def tabDistance : Nat := 8

/-- Write the parts of a line from a column on, with a blank behind each but the last, and
further ones up to the next tabulator stop. -/
def alignParts (column : Nat) : List Text → Text
  | [] => []
  | [part] => part
  | part :: parts =>
      let reached := column + textColumns (part ++ [' '])
      let stop := (reached + tabDistance - 1) / tabDistance * tabDistance
      part ++ List.replicate (stop - reached + 1) ' ' ++ alignParts stop parts

/-- Replace the tabulators of a text by blanks. -/
def alignTabs (text : Text) : Text :=
  Text.join ['\n'] ((Text.rows text).map fun row =>
    alignParts 0 (Text.splitWhere (· == '\t') row))

/-- A text without the controls that have no place in a line of output. -/
def withoutControls (text : Text) : Text := text.filter (!StyledText.isDropped ·)

end SpecFinder.Console
