import SpecFinder.Text.Basic
import SpecFinder.Text.WordTable

/-!
# Word characters

A word is made of letters, of everything numeric, and of the underscore.
Combining marks and pictographs are not part of a word.
-/

namespace SpecFinder.Text

def isWordCharacter (char : Char) : Bool :=
  if char.toNat < 0x80 then char.isAlphanum || char == '_'
  else inRanges wordRanges char.toNat

/-- The maximal runs of characters that satisfy `keeps`. -/
def runs (keeps : Char → Bool) (text : Text) : List Text :=
  (splitWhere (!keeps ·) text).filter (!·.isEmpty)

end SpecFinder.Text
