import SpecFinder.Proofs.Query.Extents
import SpecFinder.Proofs.Query.Positions

/-!
# Rendering a query

Only the sequence of its lexemes counts in a query.  A query can be rendered from them, each
written out and one blank between any two: words that were glued to parentheses and quotes
come apart, white space shrinks, and a phrase that was left open is closed.  What is read
from the rendered query is the same.

A lexeme that was cut from some query is read back from its spelling wherever the text behind
it does not go on with a word, and a blank does not.
-/

namespace SpecFinder.Query

/-- The tokens of a query written out with one blank between them. -/
def render (source : Text) : Text :=
  Text.join [' '] ((tokens source).map (·.lexeme.spelling))

/-- A lexeme that is the first one of every text that begins with its spelling and then does
not go on with a word. -/
def Lexeme.IsReadBack (lexeme : Lexeme) : Prop :=
  ∀ position rest, (∀ mark ∈ rest.head?, isBare mark = false) →
    ∃ next, tokensFrom position (lexeme.spelling ++ rest) =
      ⟨lexeme, position⟩ :: tokensFrom next rest

/-- What was read from a piece of a query is read back. An open phrase is then closed. -/
theorem Piece.isReadBack {rest source : Text} {lexeme : Lexeme}
    (piece : Piece rest source lexeme) : lexeme.IsReadBack := by
  intro position behind ends
  cases piece with
  | word isWord =>
      rw [Lexeme.spelling_ofWord]
      exact tokensFrom_word isWord position behind ends
  | @phrase body unquoted | @openPhrase body unquoted =>
      have spelled : (Lexeme.phrase body).spelling ++ behind = '"' :: (body ++ '"' :: behind) := by
        simp [Lexeme.spelling]
      rw [spelled]
      exact tokensFrom_phrase unquoted position behind
  | opening => exact ⟨position + 1, tokensFrom_opening position behind⟩
  | closing => exact ⟨position + 1, tokensFrom_closing position behind⟩

/-- Lexemes with blanks between them are read back one after the other. -/
theorem lexemes_tokensFrom_join {lexemes : List Lexeme}
    (readBack : ∀ lexeme ∈ lexemes, lexeme.IsReadBack) (position : Nat) :
    (tokensFrom position (Text.join [' '] (lexemes.map (·.spelling)))).map (·.lexeme) =
      lexemes := by
  induction lexemes generalizing position with
  | nil => simp [Text.join]
  | cons lexeme others ih =>
      have first := readBack lexeme List.mem_cons_self position
      cases others with
      | nil =>
          rcases first [] (by simp) with ⟨next, reads⟩
          rw [List.append_nil] at reads
          simp [Text.join, reads]
      | cons second others =>
          have blank : Text.isBlank ' ' = true := by decide
          have further := ih fun other member => readBack other (List.mem_cons_of_mem _ member)
          rcases first (' ' :: Text.join [' '] ((second :: others).map (·.spelling)))
            (by simp [isBare, blank]) with ⟨next, reads⟩
          have joined : Text.join [' '] ((lexeme :: second :: others).map (·.spelling)) =
              lexeme.spelling ++
                ' ' :: Text.join [' '] ((second :: others).map (·.spelling)) := by
            simp [Text.join]
          rw [joined, reads, tokensFrom_of_isBlank blank, List.map_cons, further]

/-- The rendered query has the lexemes of the query. -/
theorem lexemes_render (source : Text) :
    (tokens (render source)).map (·.lexeme) = (tokens source).map (·.lexeme) := by
  have readBack : ∀ lexeme ∈ (tokens source).map (·.lexeme), lexeme.IsReadBack := by
    intro lexeme member
    rcases List.mem_map.mp member with ⟨token, isToken, rfl⟩
    rcases (cuts_tokens source).exists_piece token isToken with ⟨_, _, _, piece⟩
    exact piece.isReadBack
  have spelled : render source =
      Text.join [' '] (((tokens source).map (·.lexeme)).map (·.spelling)) := by
    rw [List.map_map]
    rfl
  rw [spelled]
  exact lexemes_tokensFrom_join readBack 0

/-- A rendered query has the same lexemes in the same order, the same tree and criteria, and
is advanced exactly when the query is. -/
theorem read_render (source : Text) :
    (tokens (render source)).map (·.lexeme) = (tokens source).map (·.lexeme) ∧
      (read (render source)).tree = (read source).tree ∧
      (read (render source)).toCriteria = (read source).toCriteria ∧
      (read (render source)).isAdvanced = (read source).isAdvanced := by
  have same := lexemes_render source
  have advanced (query : Text) :
      (read query).isAdvanced = ((tokens query).map (·.lexeme)).any (·.isAdvanced) := by
    rw [List.any_map]
    rfl
  refine ⟨same, (readTokens_of_lexemes same).1, (readTokens_of_lexemes same).2, ?_⟩
  rw [advanced, advanced, same]

end SpecFinder.Query
