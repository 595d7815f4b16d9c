import SpecFinder.Text.LetterCase

/-!
# Comparison without case

Two characters are alike when they have the same small letter or when their
small letters are variants of one letter, such as the two forms of the small
sigma.
-/

namespace SpecFinder.Text

/-- The groups of small letters that stand for one letter. -/
def letterVariants : List (List Char) := [
  ['i', 'ı'], ['s', 'ſ'], ['µ', 'μ'], ['β', 'ϐ'], ['ε', 'ϵ'], ['θ', 'ϑ'],
  ['ι', '\u0345', '\u1FBE'], ['κ', 'ϰ'], ['π', 'ϖ'], ['ρ', 'ϱ'], ['σ', 'ς'],
  ['φ', 'ϕ'], ['\u0390', '\u1FD3'], ['\u03B0', '\u1FE3'], ['в', '\u1C80'],
  ['д', '\u1C81'], ['о', '\u1C82'], ['с', '\u1C83'], ['т', '\u1C84', '\u1C85'],
  ['ъ', '\u1C86'], ['ѣ', '\u1C87'], ['\uA64B', '\u1C88'], ['\u1E61', '\u1E9B'],
  ['\uFB05', '\uFB06']]

/-- The representative of a character among those that are alike. -/
def fold (char : Char) : Char :=
  let small := smallLetter char
  match letterVariants.find? (·.contains small) with
  | some (representative :: _) => representative
  | _ => small

/-- Whether two characters are alike when case is ignored. -/
def alike (left right : Char) : Bool := fold left == fold right

end SpecFinder.Text
