import Mathlib.Data.List.Basic
import SpecFinder.Proofs.Query.Printing

/-!
# The extents of tokens

Nothing of a query is lost between its tokens.  Every token has an extent, the part of the
query that it was read from.  The extents follow each other without touching twice upon a
character, what they leave out is white space, and the text of an extent is the lexeme as
it is written.

`Cuts` lists once how a query is cut: at each place there is a blank to pass over, or a
piece that is read as one token.  The laws of extents are inductions over the cuts.
-/

namespace SpecFinder.Query

/-- How a lexeme is written, a phrase with both of its quotes. -/
def Lexeme.spelling : Lexeme → Text
  | .phrase body => '"' :: (body ++ ['"'])
  | .fuzzy word => word ++ ['~']
  | lexeme => lexeme.value

/-- Whether a lexeme is written as a bare word. -/
def Lexeme.isWord : Lexeme → Bool
  | .phrase _ | .opening | .closing => false
  | _ => true

theorem Lexeme.kind_ne_eof (lexeme : Lexeme) : lexeme.kind ≠ "EOF" := by
  cases lexeme <;> simp [kind]

namespace Token

/-- The part of a query that a token was read from, as far as the query goes. -/
def extent (query : Text) (token : Token) : Text :=
  (query.drop token.position).take token.lexeme.spelling.length

/-- The place behind the extent of a token. -/
def stop (query : Text) (token : Token) : Nat :=
  token.position + (token.extent query).length

/-- Whether a place of a query lies in the extent of a token. -/
def Covers (query : Text) (place : Nat) (token : Token) : Prop :=
  token.position ≤ place ∧ place < token.stop query

/-- A token that was read from a whole bare word: its extent cannot be made longer on
either side. -/
structure IsWholeWord (query : Text) (token : Token) : Prop where
  lexeme : token.lexeme = .ofWord (token.extent query)
  bare : ∀ char ∈ token.extent query, isBare char = true
  before : ∀ char ∈ (query.take token.position).getLast?, isBare char = false
  behind : ∀ char ∈ (query.drop (token.stop query)).head?, isBare char = false

end Token

/-! ## How a query is cut -/

/-- A text that is read as one lexeme in front of some rest. -/
inductive Piece (rest : Text) : Text → Lexeme → Prop where
  | word {word : Text} (isWord : IsBareWord word)
      (ends : ∀ mark ∈ rest.head?, isBare mark = false) : Piece rest word (.ofWord word)
  | phrase {body : Text} (unquoted : '"' ∉ body) :
      Piece rest ('"' :: (body ++ ['"'])) (.phrase body)
  | openPhrase {body : Text} (unquoted : '"' ∉ body) (last : rest = []) :
      Piece rest ('"' :: body) (.phrase body)
  | opening : Piece rest ['('] .opening
  | closing : Piece rest [')'] .closing

/-- How a query is cut into tokens from a position on. -/
inductive Cuts (query : Text) : (position : Nat) → List Token → Prop where
  | done : Cuts query query.length []
  | blank {position : Nat} {char : Char} {rest : Text} {tokens : List Token}
      (here : query.drop position = char :: rest) (isBlank : Text.isBlank char = true)
      (further : Cuts query (position + 1) tokens) : Cuts query position tokens
  | piece {position : Nat} {source rest : Text} {lexeme : Lexeme} {tokens : List Token}
      (here : query.drop position = source ++ rest) (piece : Piece rest source lexeme)
      (further : Cuts query (position + source.length) tokens) :
      Cuts query position (⟨lexeme, position⟩ :: tokens)

/-- What is left behind a piece. -/
theorem drop_of_append {query source rest : Text} {position : Nat}
    (here : query.drop position = source ++ rest) :
    query.drop (position + source.length) = rest := by
  rw [← List.drop_drop, here, List.drop_left]

/-- What stands last in front of what is left behind a piece. -/
theorem getLast?_take_of_append {query source rest : Text} {position : Nat}
    (here : query.drop position = source ++ rest) (nonempty : source ≠ []) :
    (query.take (position + source.length)).getLast? = source.getLast? := by
  rw [List.take_add, here, List.take_left, List.getLast?_append_of_ne_nil _ nonempty]

theorem quote_notMem_takeWhile (text : Text) : '"' ∉ text.takeWhile (· != '"') := by
  intro member
  simpa using List.mem_takeWhile_imp member

/-- The tokens of a query are cut from it. -/
theorem cuts_tokensFrom {query text : Text} {position : Nat}
    (here : query.drop position = text) (within : position ≤ query.length) :
    Cuts query position (tokensFrom position text) := by
  -- What is behind a piece is in the query, so that the cutting goes on there.
  have inside {source rest : Text} {place : Nat} (found : query.drop place = source ++ rest)
      (nonempty : source ≠ []) : place + source.length ≤ query.length := by
    have length := congrArg List.length found
    have positive := List.length_pos_iff.mpr nonempty
    simp only [List.length_drop, List.length_append] at length
    omega
  fun_induction tokensFrom position text with
  | case1 position =>
      have atEnd : position = query.length := by
        have beyond := List.drop_eq_nil_iff.mp here
        omega
      rw [atEnd]
      exact .done
  | case2 position char rest blank ih =>
      have found : query.drop position = [char] ++ rest := here
      exact .blank here blank (ih (drop_of_append found) (inside found (by simp)))
  | case3 position rest body notBlank ih =>
      have unquoted : '"' ∉ body := quote_notMem_takeWhile rest
      have parts : rest = body ++ rest.dropWhile (· != '"') :=
        List.takeWhile_append_dropWhile.symm
      split
      next closed =>
        have found : query.drop position = '"' :: body ++ [] := by
          rw [closed, List.append_nil] at parts
          rw [List.append_nil, here]
          exact congrArg ('"' :: ·) parts
        have atEnd : position + ('"' :: body).length = query.length := by
          have beyond := List.drop_eq_nil_iff.mp (drop_of_append found)
          have reaches := inside found (by simp)
          omega
        have further : Cuts query (position + ('"' :: body).length) [] := by
          rw [atEnd]
          exact .done
        exact .piece found (.openPhrase unquoted rfl) further
      next closing after closed =>
        have isQuote : closing = '"' := by
          have stops := List.head?_dropWhile_not (· != '"') rest
          simpa [closed] using stops
        have found : query.drop position = '"' :: (body ++ ['"']) ++ after := by
          rw [closed, isQuote] at parts
          rw [here, parts]
          simp
        have length : position + ('"' :: (body ++ ['"'])).length =
            position + body.length + 2 := by
          simp [Nat.add_assoc]
        have behind := drop_of_append found
        have reaches := inside found (by simp)
        refine .piece found (.phrase unquoted) ?_
        rw [length] at behind reaches ⊢
        exact ih closing after closed behind reaches
  | case4 position rest _ _ ih =>
      have found : query.drop position = ['('] ++ rest := here
      exact .piece found .opening (ih (drop_of_append found) (inside found (by simp)))
  | case5 position rest _ _ _ ih =>
      have found : query.drop position = [')'] ++ rest := here
      exact .piece found .closing (ih (drop_of_append found) (inside found (by simp)))
  | case6 position char rest notBlank notQuote notOpening notClosing word ih =>
      have bare : isBare char = true := by
        simp [isBare, notBlank, notQuote, notOpening, notClosing]
      have isWord : IsBareWord word := ⟨by simp [word], isBare_of_mem_word bare⟩
      have found : query.drop position = word ++ rest.dropWhile isBare := by
        simp [here, word]
      have ends : ∀ mark ∈ (rest.dropWhile isBare).head?, isBare mark = false := by
        intro mark isHead
        have notBare := List.head?_dropWhile_not isBare rest
        rw [Option.mem_def.mp isHead] at notBare
        simpa using notBare
      exact .piece found (.word isWord ends)
        (ih (drop_of_append found) (inside found isWord.nonempty))

/-! ## Pieces -/

theorem Lexeme.spelling_ofWord (word : Text) : (ofWord word).spelling = word := by
  rw [ofWord]
  split_ifs with isAnd isOr isNot isField isFuzzy
  · exact isAnd.symm
  · exact isOr.symm
  · exact isNot.symm
  · rfl
  · have last : '~' ∈ word.getLast? := by
      simp only [Bool.and_eq_true, beq_iff_eq] at isFuzzy
      exact isFuzzy.2
    exact List.dropLast_append_getLast? '~' last
  · rfl

theorem Lexeme.isWord_ofWord (word : Text) : (ofWord word).isWord = true := by
  rw [ofWord]
  split_ifs <;> rfl

namespace Piece

variable {rest source : Text} {lexeme : Lexeme}

theorem nonempty (piece : Piece rest source lexeme) : source ≠ [] := by
  cases piece with
  | word isWord => exact isWord.nonempty
  | phrase | openPhrase | opening | closing => simp

/-- A piece is written as its lexeme, but for the closing quote that a phrase at the end of
a query may lack. -/
theorem spelling_cases (piece : Piece rest source lexeme) :
    source = lexeme.spelling ∨
      ∃ body, lexeme = .phrase body ∧ source = '"' :: body ∧ rest = [] := by
  cases piece with
  | word => exact .inl (Lexeme.spelling_ofWord source).symm
  | phrase | opening | closing => exact .inl rfl
  | openPhrase _ last => exact .inr ⟨_, rfl, rfl, last⟩

/-- As much of a query as a lexeme is long is the piece that it was read from. -/
theorem take_spelling (piece : Piece rest source lexeme) :
    (source ++ rest).take lexeme.spelling.length = source := by
  rcases piece.spelling_cases with same | ⟨body, rfl, rfl, rfl⟩
  · rw [← same, List.take_left]
  · rw [List.append_nil]
    apply List.take_of_length_le
    simp [Lexeme.spelling]

theorem isWholeWord (piece : Piece rest source lexeme) (isWord : lexeme.isWord = true) :
    IsBareWord source ∧ lexeme = .ofWord source ∧
      ∀ mark ∈ rest.head?, isBare mark = false := by
  cases piece with
  | word isBareWord ends => exact ⟨isBareWord, rfl, ends⟩
  | phrase | openPhrase | opening | closing => cases isWord

theorem quote_notMem {body : Text} (piece : Piece rest source (.phrase body)) : '"' ∉ body := by
  generalize isPhrase : Lexeme.phrase body = lexeme at piece
  cases piece with
  | word =>
      have isWord := Lexeme.isWord_ofWord source
      rw [← isPhrase] at isWord
      cases isWord
  | phrase unquoted | openPhrase unquoted => cases isPhrase; exact unquoted
  | opening | closing => cases isPhrase

/-- A word ends where a piece ends. -/
theorem boundary (piece : Piece rest source lexeme) :
    (∀ char ∈ source.getLast?, isBare char = false) ∨
      ∀ char ∈ rest.head?, isBare char = false := by
  have notBare : isBare '"' = false ∧ isBare '(' = false ∧ isBare ')' = false := by decide
  cases piece with
  | word _ ends => exact .inr ends
  | @phrase body =>
      refine .inl ?_
      rw [← List.cons_append, List.getLast?_concat]
      simp [notBare]
  | openPhrase _ last => exact .inr (by simp [last])
  | opening => exact .inl (by simp [notBare])
  | closing => exact .inl (by simp [notBare])

end Piece

theorem Token.extent_of_piece {query source rest : Text} {token : Token}
    (here : query.drop token.position = source ++ rest)
    (piece : Piece rest source token.lexeme) : token.extent query = source := by
  rw [extent, here, piece.take_spelling]

/-! ## Laws of the cuts -/

namespace Cuts

variable {query : Text} {position : Nat} {tokens : List Token}

/-- Every token was read from a piece that stands at its position. -/
theorem exists_piece (cuts : Cuts query position tokens) : ∀ token ∈ tokens,
    ∃ source rest, query.drop token.position = source ++ rest ∧
      Piece rest source token.lexeme := by
  induction cuts with
  | done => simp
  | blank _ _ _ ih => exact ih
  | piece here piece _ ih =>
      intro token member
      rcases List.mem_cons.mp member with rfl | later
      · exact ⟨_, _, here, piece⟩
      · exact ih token later

/-- Extents are not empty and lie in the query. -/
theorem position_lt_stop (cuts : Cuts query position tokens) {token : Token}
    (member : token ∈ tokens) :
    token.position < token.stop query ∧ token.stop query ≤ query.length := by
  rcases cuts.exists_piece token member with ⟨source, rest, here, piece⟩
  have length := congrArg List.length here
  have positive := List.length_pos_iff.mpr piece.nonempty
  simp only [List.length_drop, List.length_append] at length
  rw [Token.stop, Token.extent_of_piece here piece]
  omega

theorem position_le (cuts : Cuts query position tokens) :
    ∀ token ∈ tokens, position ≤ token.position := by
  induction cuts with
  | done => simp
  | blank _ _ _ ih =>
      intro token member
      exact Nat.le_of_succ_le (ih token member)
  | piece _ _ _ ih =>
      intro token member
      rcases List.mem_cons.mp member with rfl | later
      · exact Nat.le_refl _
      · exact Nat.le_trans (Nat.le_add_right _ _) (ih token later)

/-- The extents follow each other. -/
theorem pairwise_stop_le (cuts : Cuts query position tokens) :
    tokens.Pairwise fun earlier later => earlier.stop query ≤ later.position := by
  induction cuts with
  | done => exact .nil
  | blank _ _ _ ih => exact ih
  | @piece position source rest lexeme tokens here piece further ih =>
      refine .cons ?_ ih
      intro later member
      have extent : Token.extent query ⟨lexeme, position⟩ = source :=
        Token.extent_of_piece here piece
      rw [Token.stop, extent]
      exact further.position_le later member

/-- A token whose extent goes to the end of the query is the last one. -/
theorem getLast?_of_stop_eq (cuts : Cuts query position tokens) {token : Token}
    (member : token ∈ tokens) (atEnd : token.stop query = query.length) :
    tokens.getLast? = some token := by
  have apart := cuts.pairwise_stop_le
  rcases List.append_of_mem member with ⟨front, back, rfl⟩
  cases back with
  | nil => simp
  | cons next back =>
      have follows := (List.pairwise_append.mp apart).2.1
      have behind := (List.pairwise_cons.mp follows).1 next List.mem_cons_self
      have isToken : next ∈ front ++ token :: next :: back := by simp
      have inside := cuts.position_lt_stop isToken
      omega

/-- What no extent covers is white space. -/
theorem isBlank_of_not_covers (cuts : Cuts query position tokens) {place : Nat} {char : Char}
    (found : query[place]? = some char) (behind : position ≤ place)
    (uncovered : ∀ token ∈ tokens, ¬token.Covers query place) : Text.isBlank char = true := by
  induction cuts with
  | done =>
      rw [List.getElem?_eq_none behind] at found
      cases found
  | @blank position first rest tokens here isBlank _ ih =>
      rcases Nat.eq_or_lt_of_le behind with rfl | later
      · have atPlace : (query.drop position)[0]? = some char := by
          rw [List.getElem?_drop, Nat.add_zero]
          exact found
        rw [here] at atPlace
        cases atPlace
        exact isBlank
      · exact ih later uncovered
  | @piece position source rest lexeme tokens here piece _ ih =>
      have extent : Token.extent query ⟨lexeme, position⟩ = source :=
        Token.extent_of_piece here piece
      have outside := uncovered ⟨lexeme, position⟩ List.mem_cons_self
      simp only [Token.Covers, Token.stop, extent, not_and, Nat.not_lt] at outside
      refine ih (outside behind) ?_
      intro token member
      exact uncovered token (List.mem_cons_of_mem _ member)

/-- No word begins inside another one, if none goes on at the first position. -/
theorem before_word (cuts : Cuts query position tokens)
    (boundary : (∀ char ∈ (query.take position).getLast?, isBare char = false) ∨
      ∀ char ∈ (query.drop position).head?, isBare char = false) :
    ∀ token ∈ tokens, token.lexeme.isWord = true →
      ∀ char ∈ (query.take token.position).getLast?, isBare char = false := by
  induction cuts with
  | done => simp
  | @blank position first rest tokens here isBlank _ ih =>
      refine ih (.inl ?_)
      have notBare : isBare first = false := by simp [isBare, isBlank]
      have source : query.drop position = [first] ++ rest := here
      have before := getLast?_take_of_append source (by simp)
      simp only [List.length_singleton, List.getLast?_singleton] at before
      simp [before, notBare]
  | @piece position source rest lexeme tokens here piece _ ih =>
      intro token member isWord
      rcases List.mem_cons.mp member with rfl | later
      · refine boundary.resolve_right ?_
        intro startsNoWord
        rcases piece.isWholeWord isWord with ⟨isBareWord, _⟩
        rcases List.exists_cons_of_ne_nil isBareWord.nonempty with ⟨first, others, rfl⟩
        have notBare := startsNoWord first (by simp [here])
        have bare := isBareWord.bare first List.mem_cons_self
        rw [bare] at notBare
        cases notBare
      · refine ih ?_ token later isWord
        rw [getLast?_take_of_append here piece.nonempty, drop_of_append here]
        exact piece.boundary

/-- An extent is written as its lexeme, but for the closing quote that a phrase at the end
of the query may lack. -/
theorem extent_cases (cuts : Cuts query position tokens) {token : Token}
    (member : token ∈ tokens) :
    token.extent query = token.lexeme.spelling ∨
      ∃ body, token.lexeme = .phrase body ∧ token.extent query = '"' :: body ∧
        token.stop query = query.length ∧ tokens.getLast? = some token := by
  rcases cuts.exists_piece token member with ⟨source, rest, here, piece⟩
  rcases piece.spelling_cases with same | ⟨body, isPhrase, rfl, rfl⟩
  · exact .inl ((Token.extent_of_piece here piece).trans same)
  · have extent := Token.extent_of_piece here piece
    have length := congrArg List.length here
    have atEnd : token.stop query = query.length := by
      have inside := cuts.position_lt_stop member
      rw [Token.stop, extent] at inside ⊢
      simp only [List.length_drop, List.length_append, List.length_nil] at length
      omega
    exact .inr ⟨body, isPhrase, extent, atEnd, cuts.getLast?_of_stop_eq member atEnd⟩

end Cuts

theorem cuts_tokens (query : Text) : Cuts query 0 (tokens query) :=
  cuts_tokensFrom rfl (Nat.zero_le query.length)

/-- The tokens that are written as words were read from whole words. -/
theorem isWholeWord_of_mem_tokens {query : Text} {token : Token}
    (member : token ∈ tokens query) (isWord : token.lexeme.isWord = true) :
    token.IsWholeWord query := by
  rcases (cuts_tokens query).exists_piece token member with ⟨source, rest, here, piece⟩
  rcases piece.isWholeWord isWord with ⟨isBareWord, lexeme, ends⟩
  have extent := Token.extent_of_piece here piece
  have atStart : ∀ char ∈ (query.take 0).getLast?, isBare char = false := by simp
  refine ⟨by rw [extent]; exact lexeme, by rw [extent]; exact isBareWord.bare, ?_, ?_⟩
  · exact (cuts_tokens query).before_word (.inl atStart) token member isWord
  · rw [Token.stop, extent, drop_of_append here]
    exact ends

/-- The token table of a query ends with the end of the query and nowhere before.  The
extents of the other tokens follow each other inside the query and are not empty.  Each is
written as its lexeme, where only a phrase that goes to the end of the query may lack its
closing quote.  What no extent covers is white space, and a bare word is a token as a
whole. -/
theorem tokens_lossless (query : Text) :
    ((table query).getLast? = some ⟨"EOF", [], query.length⟩ ∧
      (table query).dropLast = (tokens query).map (fun token =>
        ⟨token.lexeme.kind, token.lexeme.value, token.position⟩) ∧
      ∀ token ∈ tokens query, token.lexeme.kind ≠ "EOF") ∧
    (tokens query).Pairwise (fun earlier later => earlier.stop query ≤ later.position) ∧
    (∀ token ∈ tokens query,
      token.position < token.stop query ∧ token.stop query ≤ query.length) ∧
    (∀ token ∈ tokens query, token.extent query = token.lexeme.spelling ∨
      ∃ body, token.lexeme = .phrase body ∧ token.extent query = '"' :: body ∧
        token.stop query = query.length ∧ (tokens query).getLast? = some token) ∧
    (∀ token ∈ tokens query, ∀ body, token.lexeme = .phrase body → '"' ∉ body) ∧
    (∀ place char, query[place]? = some char →
      (∀ token ∈ tokens query, ¬token.Covers query place) → Text.isBlank char = true) ∧
    ∀ token ∈ tokens query, token.lexeme.isWord = true → token.IsWholeWord query := by
  have cuts := cuts_tokens query
  refine ⟨⟨?_, ?_, ?_⟩, cuts.pairwise_stop_le, ?_, ?_, ?_, ?_, ?_⟩
  · exact List.getLast?_concat
  · exact List.dropLast_concat
  · intro token _
    exact token.lexeme.kind_ne_eof
  · intro token member
    exact cuts.position_lt_stop member
  · intro token member
    exact cuts.extent_cases member
  · intro token member body isPhrase
    rcases cuts.exists_piece token member with ⟨source, rest, _, piece⟩
    rw [isPhrase] at piece
    exact piece.quote_notMem
  · intro place char found uncovered
    exact cuts.isBlank_of_not_covers found (Nat.zero_le place) uncovered
  · intro token member isWord
    exact isWholeWord_of_mem_tokens member isWord

end SpecFinder.Query
