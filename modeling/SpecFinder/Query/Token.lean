import SpecFinder.Text.LetterCase
import SpecFinder.Text.WordCharacter

/-!
# Query tokens

A query is cut into quoted phrases, parentheses and bare words.  Each token
remembers where its first character stands.  A quote that is never closed makes
a phrase of all that follows it.
-/

namespace SpecFinder.Query

/-- What a token says. A field keeps its whole word, name and value together. -/
inductive Lexeme where
  | term (word : Text)
  | phrase (body : Text)
  | field (word : Text)
  | fuzzy (word : Text)
  | and
  | or
  | not
  | opening
  | closing
  deriving DecidableEq, Repr

/-- A lexeme and the place of its first character in the query. -/
structure Token where
  lexeme : Lexeme
  position : Nat
  deriving DecidableEq, Repr

namespace Lexeme

/-- The text that a lexeme stands for: without the quotes around a phrase and
without the mark behind a fuzzy word. -/
def value : Lexeme → Text
  | .term word | .phrase word | .field word | .fuzzy word => word
  | .and => "AND".toList
  | .or => "OR".toList
  | .not => "NOT".toList
  | .opening => ['(']
  | .closing => [')']

def kind : Lexeme → String
  | .term _ => "TERM"
  | .phrase _ => "PHRASE"
  | .field _ => "FIELD"
  | .fuzzy _ => "FUZZY"
  | .and => "AND"
  | .or => "OR"
  | .not => "NOT"
  | .opening => "LPAREN"
  | .closing => "RPAREN"

/-- Whether a lexeme goes beyond a list of bare words. A closing parenthesis
without an opening one does not. -/
def isAdvanced : Lexeme → Bool
  | .term _ | .closing => false
  | _ => true

def startsOperand : Lexeme → Bool
  | .and | .or | .closing => false
  | _ => true

/-- Whether a bare word is a field filter: a name that begins with a letter of
the basic alphabet, a colon, and a value that is not empty. -/
def isField : Text → Bool
  | [] => false
  | first :: rest =>
      first.isAlpha &&
        match rest.dropWhile fun char => Text.isWordCharacter char || char == '-' with
        | ':' :: _ :: _ => true
        | _ => false

/-- The lexeme of a bare word. Only the upper-case words join operands, and a
lone mark is a word of its own. -/
def ofWord (word : Text) : Lexeme :=
  if word = "AND".toList then .and
  else if word = "OR".toList then .or
  else if word = "NOT".toList then .not
  else if isField word then .field word
  else if 1 < word.length && word.getLast? == some '~' then .fuzzy word.dropLast
  else .term word

end Lexeme

def isBare (char : Char) : Bool :=
  !Text.isBlank char && char != '(' && char != ')' && char != '"'

private theorem length_dropWhile_le (accepts : Char → Bool) (text : Text) :
    (text.dropWhile accepts).length ≤ text.length :=
  (List.dropWhile_sublist accepts).length_le

/-- The tokens of a text whose first character stands at `position`. -/
def tokensFrom (position : Nat) (text : Text) : List Token :=
  match text with
  | [] => []
  | char :: rest =>
      if Text.isBlank char then
        tokensFrom (position + 1) rest
      else if char = '"' then
        let body := rest.takeWhile (· != '"')
        ⟨.phrase body, position⟩ ::
          match _closed : rest.dropWhile (· != '"') with
          | [] => []
          | _ :: after => tokensFrom (position + body.length + 2) after
      else if char = '(' then
        ⟨.opening, position⟩ :: tokensFrom (position + 1) rest
      else if char = ')' then
        ⟨.closing, position⟩ :: tokensFrom (position + 1) rest
      else
        let word := char :: rest.takeWhile isBare
        ⟨.ofWord word, position⟩ ::
          tokensFrom (position + word.length) (rest.dropWhile isBare)
termination_by text.length
decreasing_by
  · simp
  · have := length_dropWhile_le (· != '"') rest
    simp_all; omega
  · simp
  · simp
  · exact Nat.lt_succ_of_le (length_dropWhile_le isBare rest)

def tokens (query : Text) : List Token := tokensFrom 0 query

/-- A row of the token table: kind, value, and place. -/
structure Row where
  kind : String
  value : Text
  position : Nat
  deriving DecidableEq, Repr

/-- The token table of a query. Its last row marks the end of the query. -/
def table (query : Text) : List Row :=
  (tokens query).map (fun token => ⟨token.lexeme.kind, token.lexeme.value, token.position⟩)
    ++ [⟨"EOF", [], query.length⟩]

/-- The place of the last quote when their number is odd: a phrase holds no
quote, so exactly then the last one opens a phrase that is never closed. -/
def openQuote? (query : Text) : Option Nat :=
  if query.count '"' % 2 = 1 then
    some (query.length - 1 - query.reverse.idxOf '"')
  else
    none

end SpecFinder.Query
