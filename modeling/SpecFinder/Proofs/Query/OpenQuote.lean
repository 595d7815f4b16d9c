import SpecFinder.Proofs.Query.Accounts

/-!
# Open quotes

A quote that is never closed is reported from the number and the last place of the quotes in
a query, without a look at its tokens.  The report agrees with them: quotes are closed in
pairs as the query is cut, so their number is odd exactly when the last piece is an open
phrase, and no quote stands behind the one that opens it.
-/

namespace SpecFinder.Query

/-- A phrase without a closing quote: none stands in the query behind the opening one. -/
def Token.IsOpenPhrase (query : Text) (token : Token) : Prop :=
  (∃ body, token.lexeme = .phrase body) ∧ '"' ∉ query.drop (token.position + 1)

/-! ## Quotes in a query -/

/-- A piece holds its quotes in pairs, a phrase both at its ends, or else it is an open phrase
at the end of the query. -/
theorem Piece.quote_cases {rest source : Text} {lexeme : Lexeme}
    (piece : Piece rest source lexeme) :
    (source.count '"' % 2 = 0 ∧ ∀ body, lexeme = .phrase body → '"' ∈ source.tail) ∨
      ∃ body, lexeme = .phrase body ∧ source = '"' :: body ∧ '"' ∉ body ∧ rest = [] := by
  cases piece with
  | word isWord =>
      refine .inl ⟨by rw [isWord.count_quote], ?_⟩
      intro body isPhrase
      have written := Lexeme.isWord_ofWord source
      rw [isPhrase] at written
      cases written
  | @phrase body unquoted =>
      have none : body.count '"' = 0 := List.count_eq_zero.mpr unquoted
      exact .inl ⟨by simp [none], by simp⟩
  | openPhrase unquoted last => exact .inr ⟨_, rfl, rfl, unquoted, last⟩
  | opening | closing => exact .inl ⟨by decide, by simp⟩

/-- Whether a token is an open phrase can be seen from the number of quotes in its piece. No
quote is behind an open phrase. -/
theorem Token.isOpenPhrase_cases {query source rest : Text} (token : Token)
    (here : query.drop token.position = source ++ rest)
    (piece : Piece rest source token.lexeme) :
    (¬token.IsOpenPhrase query ∧ source.count '"' % 2 = 0) ∨
      token.IsOpenPhrase query ∧ source.count '"' = 1 ∧ rest = [] ∧
        ∃ body, source = '"' :: body ∧ '"' ∉ body := by
  have behind : query.drop (token.position + 1) = source.tail ++ rest := by
    rw [← List.drop_drop, here, List.drop_one, List.tail_append_of_ne_nil piece.nonempty]
  rcases piece.quote_cases with ⟨even, closed⟩ | ⟨body, isPhrase, rfl, unquoted, rfl⟩
  · refine .inl ⟨?_, even⟩
    rintro ⟨⟨body, isPhrase⟩, isOpen⟩
    rw [behind] at isOpen
    exact isOpen (List.mem_append_left rest (closed body isPhrase))
  · have none : body.count '"' = 0 := List.count_eq_zero.mpr unquoted
    refine .inr ⟨⟨⟨body, isPhrase⟩, ?_⟩, by simp [none], rfl, body, rfl, unquoted⟩
    rw [behind, List.append_nil]
    exact unquoted

/-- The number of quotes is odd exactly where a phrase is left open. -/
theorem Cuts.odd_quotes_iff {query : Text} {position : Nat} {tokens : List Token}
    (cuts : Cuts query position tokens) :
    (query.drop position).count '"' % 2 = 1 ↔ ∃ token ∈ tokens, token.IsOpenPhrase query := by
  induction cuts with
  | done => simp
  | @blank position char rest tokens here isBlank _ ih =>
      have behind : query.drop (position + 1) = rest :=
        drop_of_append (show query.drop position = [char] ++ rest from here)
      have differs : char ≠ '"' := by
        rintro rfl
        cases isBlank
      rw [behind] at ih
      rw [here, List.count_cons_of_ne differs]
      exact ih
  | @piece position source rest lexeme tokens here piece _ ih =>
      rw [drop_of_append here] at ih
      rw [here, List.count_append]
      rcases Token.isOpenPhrase_cases ⟨lexeme, position⟩ here piece with
        ⟨closed, even⟩ | ⟨isOpen, once, rfl, _⟩
      · rw [Nat.add_mod, even, Nat.zero_add, Nat.mod_mod, ih, List.exists_mem_cons_iff]
        exact ⟨.inr, fun some => some.resolve_left closed⟩
      · exact iff_of_true (by simp [once]) ⟨_, List.mem_cons_self, isOpen⟩

/-- An open phrase goes to the end of the query. -/
theorem Cuts.drop_openPhrase {query : Text} {position : Nat} {tokens : List Token}
    (cuts : Cuts query position tokens) {token : Token} (member : token ∈ tokens)
    (isOpen : token.IsOpenPhrase query) :
    ∃ body, query.drop token.position = '"' :: body ∧ '"' ∉ body ∧
      token.stop query = query.length := by
  rcases cuts.exists_piece token member with ⟨source, rest, here, piece⟩
  rcases token.isOpenPhrase_cases here piece with ⟨closed, _⟩ | ⟨_, _, rfl, body, rfl, unquoted⟩
  · exact (closed isOpen).elim
  · have inside := cuts.position_lt_stop member
    have length := congrArg List.length here
    rw [Token.stop, Token.extent_of_piece here piece] at inside ⊢
    rw [List.append_nil] at here length
    rw [List.length_drop] at length
    exact ⟨body, here, unquoted, by omega⟩

/-- The place of the last mark, found from the end of a text. -/
theorem place_of_last {mark : Char} (front : Text) {behind : Text} (last : mark ∉ behind) :
    (front ++ mark :: behind).length - 1 - (front ++ mark :: behind).reverse.idxOf mark =
      front.length := by
  have fromEnd : (front ++ mark :: behind).reverse.idxOf mark = behind.length := by
    rw [List.reverse_append, List.reverse_cons, List.append_assoc,
      List.idxOf_append_of_notMem (by simpa using last)]
    simp
  rw [fromEnd, List.length_append, List.length_cons]
  omega

/-- The last quote is the one that opens the open phrase. -/
theorem openQuote?_of_isOpenPhrase {query : Text} {token : Token}
    (member : token ∈ tokens query) (isOpen : token.IsOpenPhrase query) :
    openQuote? query = some token.position := by
  have cuts := cuts_tokens query
  have odd : query.count '"' % 2 = 1 := cuts.odd_quotes_iff.mpr ⟨token, member, isOpen⟩
  rcases cuts.drop_openPhrase member isOpen with ⟨body, here, unquoted, _⟩
  have within : (query.take token.position).length = token.position := by
    have inside := cuts.position_lt_stop member
    rw [List.length_take]
    omega
  have place := place_of_last (query.take token.position) unquoted
  rw [← here, List.take_append_drop, within] at place
  rw [openQuote?, if_pos odd, place]

theorem openQuote?_eq_none {query : Text}
    (closed : ¬∃ token ∈ tokens query, token.IsOpenPhrase query) : openQuote? query = none := by
  have even : ¬query.count '"' % 2 = 1 := (cuts_tokens query).odd_quotes_iff.not.mpr closed
  rw [openQuote?, if_neg even]

/-! ## The report -/

/-- Every fault of a reading is about one of its tokens. -/
theorem exists_isAbout_of_mem_faults {tokens : List Token} {fault : Fault}
    (told : fault ∈ (readTokens tokens).faults) :
    ∃ token ∈ tokens, Fault.IsAbout token fault := by
  rcases readTokens_settles tokens with ⟨ledger, same, settles⟩
  rcases List.mem_filterMap.mp (settles.reports.mem_iff.mp told) with
    ⟨⟨token, fate⟩, listed, isFault⟩
  cases fate with
  | reported =>
      cases isFault
      rw [← same]
      exact ⟨token, List.mem_map_of_mem listed, settles.sound _ listed⟩
  | joined | shaping => cases isFault

/-- The readers report no quote. -/
theorem begins_quote_of_mem_faults {tokens : List Token} {fault : Fault}
    (told : fault ∈ (readTokens tokens).faults) :
    fault.begins ["Unterminated quote"] = false := by
  rcases exists_isAbout_of_mem_faults told with ⟨token, _, about⟩
  exact about.begins_quote

/-- An unterminated quote is reported exactly when a phrase is read without its closing quote.
It is then reported once, behind everything else, with the position of that phrase, which is
the last token. -/
theorem unclosedQuote_iff_isOpenPhrase (source : Text) :
    ((∃ fault ∈ (read source).faults, fault.begins ["Unterminated quote"] = true) ↔
      ∃ token ∈ tokens source, token.IsOpenPhrase source) ∧
    ∀ token ∈ tokens source, token.IsOpenPhrase source →
      (tokens source).getLast? = some token ∧
      (read source).faults =
        (readTokens (tokens source)).faults ++ [.unclosedQuote token.position] ∧
      (read source).faults.filter (·.begins ["Unterminated quote"]) =
        [.unclosedQuote token.position] := by
  have faults : (read source).faults = (readTokens (tokens source)).faults ++
      ((openQuote? source).map Fault.unclosedQuote).toList := rfl
  have silent : ∀ fault ∈ (readTokens (tokens source)).faults,
      ¬fault.begins ["Unterminated quote"] = true := by
    intro fault told
    simp [begins_quote_of_mem_faults told]
  have tellsQuote (position : Nat) :
      (Fault.unclosedQuote position).begins ["Unterminated quote"] = true := rfl
  refine ⟨⟨?_, ?_⟩, ?_⟩
  · rintro ⟨fault, told, begins⟩
    by_contra closed
    rw [faults, openQuote?_eq_none closed] at told
    exact silent fault (by simpa using told) begins
  · rintro ⟨token, member, isOpen⟩
    rw [faults, openQuote?_of_isOpenPhrase member isOpen]
    exact ⟨.unclosedQuote token.position, by simp, tellsQuote token.position⟩
  · intro token member isOpen
    have cuts := cuts_tokens source
    rcases cuts.drop_openPhrase member isOpen with ⟨_, _, _, atEnd⟩
    rw [openQuote?_of_isOpenPhrase member isOpen] at faults
    refine ⟨cuts.getLast?_of_stop_eq member atEnd, faults, ?_⟩
    rw [faults, List.filter_append, List.filter_eq_nil_iff.mpr silent]
    rfl

end SpecFinder.Query
