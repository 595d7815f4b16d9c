import SpecFinder.Text.UnprintableTable
import SpecFinder.Text.Utf8

/-!
# Quoted texts

A text in quotes, as it is shown inside a list: single quotes, or double ones
around a text with single quotes only.  What does not show is written as an
escape.  Bytes are shown likewise.
-/

namespace SpecFinder.Text

def isVisible (char : Char) : Bool :=
  if char.toNat < 0x80 then 0x20 ≤ char.toNat && char.toNat < 0x7F
  else !inRanges unprintableRanges char.toNat

/-- A code point as an escape of the shortest of three lengths. -/
def codeEscape (codePoint : Nat) : Text :=
  let (letter, width) :=
    if codePoint < 0x100 then ('x', 2) else if codePoint < 0x10000 then ('u', 4) else ('U', 8)
  let digits := Nat.toDigits 16 codePoint
  '\\' :: letter :: List.replicate (width - digits.length) '0' ++ digits

/-- A text in quotes, the characters being shown that are `visible`. -/
def quotedWhere (visible : Char → Bool) (text : Text) : Text :=
  let quote := if text.contains '\'' && !text.contains '"' then '"' else '\''
  let each (char : Char) : Text :=
    if char == quote || char == '\\' then ['\\', char]
    else if char == '\n' then ['\\', 'n']
    else if char == '\r' then ['\\', 'r']
    else if char == '\t' then ['\\', 't']
    else if visible char then [char]
    else codeEscape char.toNat
  quote :: text.flatMap each ++ [quote]

def quoted (text : Text) : Text := quotedWhere isVisible text

/-- Bytes in quotes, with a letter in front that tells them from a text. -/
def quotedBytes (bytes : Bytes) : Text :=
  'b' :: quotedWhere (fun char => 0x20 ≤ char.toNat && char.toNat < 0x7F)
    (bytes.map fun byte => Char.ofNat byte.toNat)

end SpecFinder.Text
