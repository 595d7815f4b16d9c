import SpecFinder.Proofs.Query.Evaluation
import SpecFinder.Proofs.Query.Operands
import SpecFinder.Proofs.Text.Pieces

/-!
# Queries of bare words

Without a written disjunction or negation, a query's tree is a conjunction of its
operands, however its tokens were grouped or skipped.  And when all tokens are terms,
they are the words of the query, since only white space stands between them.
-/

namespace SpecFinder.Query

/-! ## Conjunctions -/

/-- Whether a tree joins its operands by conjunctions only. -/
def Expr.IsConjunction : Expr → Prop
  | .operand _ => True
  | .and left right => left.IsConjunction ∧ right.IsConjunction
  | .not _ | .or _ _ => False

/-- A conjunction is true when all its operands are. -/
theorem Expr.IsConjunction.meaning_eq {tree : Expr} (conjunction : tree.IsConjunction)
    (holds : Operand → Bool) : tree.meaning holds = tree.operands.all holds := by
  induction tree with
  | operand leaf => simp [meaning, operands]
  | and left right leftIH rightIH =>
      simp [meaning, operands, leftIH conjunction.1, rightIH conjunction.2]
  | not | or => exact conjunction.elim

/-- No token is a disjunction or a negation. -/
def OnlyJoins (tokens : List Token) : Prop :=
  ∀ token ∈ tokens, token.lexeme ≠ .or ∧ token.lexeme ≠ .not

theorem OnlyJoins.suffix {tokens rest : List Token} (joins : OnlyJoins tokens)
    (suffix : rest <:+ tokens) : OnlyJoins rest :=
  fun token member => joins token (suffix.mem member)

/-- Readers add a disjunction or a negation to a tree only where one is written. -/
theorem Reads.isConjunction {room : Nat} {stage : Stage} {tokens : List Token}
    {reading : Reading} (reads : Reads room stage tokens reading) (joins : OnlyJoins tokens) :
    ∀ tree ∈ reading.tree, tree.IsConjunction := by
  induction reads with
  | absent | blank => simp [Reading.absent]
  | leaf => simp [Reading.ofOperand, Expr.IsConjunction]
  | @group _ token rest _ _ _ ih =>
      simpa using ih (joins.suffix (List.suffix_cons token rest))
  | @tooDeep token rest _ _ _ ih =>
      have skipped := (List.dropWhile_suffix (l := rest) (·.opensGroup)).trans
        (List.suffix_cons token rest)
      simpa using ih (joins.suffix skipped)
  | @negated _ negations rest inner negate _ _ ih =>
      cases negations with
      | nil => simpa using ih joins
      | cons token negations =>
          have isNot := negate token (by simp)
          exact ((joins token (by simp)).2 isNot).elim
  | firstAnd _ _ ih | noAnd _ _ ih | endAnd _ _ ih => exact ih joins
  | firstOr _ _ ih | noOr _ _ ih | endOr _ _ ih => exact ih joins
  | @nextAnd _ _ behind token reading next left right before held follows _ _ found beforeIH ih =>
      have behindJoins := joins.suffix before.rest_suffix
      rw [follows] at behindJoins
      have leftConjunction := beforeIH joins left held
      have rightConjunction := ih (behindJoins.suffix (skipAnd_suffix token behind)) right found
      simpa using ⟨leftConjunction, rightConjunction⟩
  | breakAnd _ held _ _ _ _ beforeIH _ => simpa using beforeIH joins _ held
  | @nextOr _ _ _ token _ _ _ _ before _ follows isOr _ _ _ _
  | @breakOr _ _ _ token _ _ _ before _ follows isOr _ _ _ _ =>
      have behindJoins := joins.suffix before.rest_suffix
      rw [follows] at behindJoins
      exact ((behindJoins token (by simp)).1 isOr).elim

theorem isConjunction_joinParts {left right : Option Expr}
    (leftConjunction : ∀ tree ∈ left, tree.IsConjunction)
    (rightConjunction : ∀ tree ∈ right, tree.IsConjunction) :
    ∀ tree ∈ joinParts left right, tree.IsConjunction := by
  cases left with
  | none => simpa [joinParts] using rightConjunction
  | some leftTree =>
      cases right with
      | none => simpa [joinParts] using leftConjunction
      | some rightTree =>
          simpa [joinParts] using ⟨leftConjunction leftTree rfl, rightConjunction rightTree rfl⟩

theorem ReadsParts.isConjunction {tokens : List Token} {reading : Reading}
    (reads : ReadsParts tokens reading) (joins : OnlyJoins tokens) :
    ∀ tree ∈ reading.tree, tree.IsConjunction := by
  induction reads with
  | start => simp
  | join before next _ ih =>
      have nextConjunction := next.isConjunction (joins.suffix before.rest_suffix)
      exact isConjunction_joinParts ih nextConjunction
  | skip _ _ _ _ ih => exact ih

/-- The truth of a query without written disjunctions or negations: there are operands,
and all of them hold. -/
theorem evaluate_readTokens {tokens : List Token} (joins : OnlyJoins tokens)
    (holds : Operand → Bool) :
    ((readTokens tokens).tree.any fun tree => tree.evaluate holds) =
      (!(written tokens).isEmpty && (written tokens).all holds) := by
  have keeps := (readTokens_keeps tokens).1
  rw [← keeps]
  cases found : (readTokens tokens).tree with
  | none => rfl
  | some tree =>
      have conjunction := (readsParts_readTokens tokens).1.isConjunction joins tree found
      rw [Option.any_some, Expr.evaluate_eq_meaning, conjunction.meaning_eq]
      simp [tree.operands_ne_nil]

/-! ## Terms -/

/-- Only a word that is nothing else is a term. -/
theorem Lexeme.ofWord_eq_term {text word : Text} (isTerm : Lexeme.ofWord text = .term word) :
    text = word := by
  rw [Lexeme.ofWord] at isTerm
  split_ifs at isTerm
  cases isTerm
  rfl

theorem isBlank_eq_false_of_isBare {char : Char} (bare : isBare char = true) :
    Text.isBlank char = false := by
  simp only [isBare, Bool.and_eq_true, Bool.not_eq_true'] at bare
  exact bare.1.1.1

section

variable {position : Nat} {char : Char} {rest : Text}

@[simp] theorem tokensFrom_nil : tokensFrom position [] = [] := by
  rw [tokensFrom]

theorem tokensFrom_of_isBlank (blank : Text.isBlank char = true) :
    tokensFrom position (char :: rest) = tokensFrom (position + 1) rest := by
  rw [tokensFrom, if_pos blank]

theorem tokensFrom_of_isBare (bare : isBare char = true) :
    tokensFrom position (char :: rest) =
      ⟨.ofWord (char :: rest.takeWhile isBare), position⟩ ::
        tokensFrom (position + (rest.takeWhile isBare).length + 1) (rest.dropWhile isBare) := by
  have notBlank := isBlank_eq_false_of_isBare bare
  simp only [isBare, Bool.and_eq_true, bne_iff_ne] at bare
  rw [tokensFrom]
  simp [notBlank, bare, Nat.add_assoc]

end

/-- How a lexeme is spelled in a text. -/
inductive Spelled (text : Text) : Lexeme → Prop where
  | phrase (body : Text) : Spelled text (.phrase body)
  | opening (written : '(' ∈ text) : Spelled text .opening
  | closing (written : ')' ∈ text) : Spelled text .closing
  | word {word : Text} (nonempty : word ≠ []) (bare : ∀ char ∈ word, isBare char = true) :
      Spelled text (.ofWord word)

namespace Spelled

theorem mono {part text : Text} {lexeme : Lexeme} (spelled : Spelled part lexeme)
    (within : part ⊆ text) : Spelled text lexeme := by
  cases spelled with
  | phrase body => exact .phrase body
  | opening written => exact .opening (within written)
  | closing written => exact .closing (within written)
  | word nonempty bare => exact .word nonempty bare

theorem mem_of_closing {text : Text} (spelled : Spelled text .closing) : ')' ∈ text := by
  generalize isClosing : Lexeme.closing = lexeme at spelled
  cases spelled with
  | closing written => exact written
  | phrase | opening => cases isClosing
  | @word word _ _ =>
      rw [Lexeme.ofWord] at isClosing
      split_ifs at isClosing

theorem bare_of_term {text word : Text} (spelled : Spelled text (.term word)) :
    word ≠ [] ∧ ∀ char ∈ word, isBare char = true := by
  generalize isTerm : Lexeme.term word = lexeme at spelled
  cases spelled with
  | phrase | opening | closing => cases isTerm
  | word nonempty bare =>
      obtain rfl := Lexeme.ofWord_eq_term isTerm.symm
      exact ⟨nonempty, bare⟩

end Spelled

/-- The characters of a word at the front of a text are bare. -/
theorem isBare_of_mem_word {first : Char} {rest : Text} (firstBare : isBare first = true) :
    ∀ char ∈ first :: rest.takeWhile isBare, isBare char = true := by
  intro char isPart
  rcases List.mem_cons.mp isPart with rfl | inRest
  · exact firstBare
  · exact List.mem_takeWhile_imp inRest

theorem spelled_of_mem {position : Nat} {text : Text} {token : Token}
    (member : token ∈ tokensFrom position text) : Spelled text token.lexeme := by
  fun_induction tokensFrom position text with
  | case1 => cases member
  | case2 position char rest blank ih =>
      exact (ih member).mono (List.subset_cons_self char rest)
  | case3 position rest body notBlank ih =>
      rcases List.mem_cons.mp member with rfl | later
      · exact .phrase body
      · split at later
        next => cases later
        next closing after closed =>
          have behind : after <:+ '"' :: rest := by
            have closes : closing :: after <:+ rest := closed ▸ List.dropWhile_suffix _
            exact (List.suffix_cons closing after).trans (closes.trans (List.suffix_cons '"' rest))
          exact (ih closing after closed later).mono behind.subset
  | case4 position rest _ _ ih =>
      rcases List.mem_cons.mp member with rfl | later
      · exact .opening List.mem_cons_self
      · exact (ih later).mono (List.subset_cons_self '(' rest)
  | case5 position rest _ _ _ ih =>
      rcases List.mem_cons.mp member with rfl | later
      · exact .closing List.mem_cons_self
      · exact (ih later).mono (List.subset_cons_self ')' rest)
  | case6 position char rest notBlank notQuote notOpening notClosing word ih =>
      rcases List.mem_cons.mp member with rfl | later
      · have bare : isBare char = true := by
          simp [isBare, notBlank, notQuote, notOpening, notClosing]
        exact .word (by simp [word]) (isBare_of_mem_word bare)
      · have behind : rest.dropWhile isBare <:+ char :: rest :=
          (List.dropWhile_suffix isBare).trans (List.suffix_cons char rest)
        exact (ih later).mono behind.subset

/-- What stands between terms is white space. -/
theorem isBlank_of_terms {position : Nat} {text : Text}
    (terms : ∀ token ∈ tokensFrom position text, ∃ word, token.lexeme = .term word) :
    ∀ mark ∈ text.head?, isBare mark = false → Text.isBlank mark = true := by
  intro mark isHead notBare
  cases text with
  | nil => cases isHead
  | cons first back =>
      cases isHead
      rw [tokensFrom] at terms
      split at terms
      next blank => exact blank
      next notBlank =>
        exfalso
        split at terms
        · rcases terms _ List.mem_cons_self with ⟨word, isTerm⟩
          cases isTerm
        · split at terms
          · rcases terms _ List.mem_cons_self with ⟨word, isTerm⟩
            cases isTerm
          · split at terms
            · rcases terms _ List.mem_cons_self with ⟨word, isTerm⟩
              cases isTerm
            · simp_all [isBare]

/-- Tokens that are all terms are the words of the text. -/
theorem lexemes_eq_words {position : Nat} {text : Text}
    (terms : ∀ token ∈ tokensFrom position text, ∃ word, token.lexeme = .term word) :
    (tokensFrom position text).map (·.lexeme) = (Text.words text).map .term := by
  fun_induction tokensFrom position text with
  | case1 => rfl
  | case2 position char rest blank ih =>
      have skipped : Text.words (char :: rest) = Text.words rest :=
        Text.words_append_cons blank [] rest
      rw [skipped]
      exact ih terms
  | case3 | case4 | case5 =>
      rcases terms _ List.mem_cons_self with ⟨word, isTerm⟩
      cases isTerm
  | case6 position char rest notBlank notQuote notOpening notClosing word ih =>
      have bare : isBare char = true := by
        simp [isBare, notBlank, notQuote, notOpening, notClosing]
      have isWord : Text.IsWord word := by
        refine ⟨by simp [word], ?_⟩
        intro other isPart
        exact isBlank_eq_false_of_isBare (isBare_of_mem_word bare other isPart)
      have restTerms : ∀ token ∈ tokensFrom (position + word.length) (rest.dropWhile isBare),
          ∃ word, token.lexeme = .term word := by
        intro token member
        exact terms token (List.mem_cons_of_mem _ member)
      have ends : ∀ mark ∈ (rest.dropWhile isBare).head?, Text.isBlank mark = true := by
        intro mark isHead
        have notBare := List.head?_dropWhile_not isBare rest
        rw [Option.mem_def.mp isHead] at notBare
        exact isBlank_of_terms restTerms mark isHead (by simpa using notBare)
      have whole : char :: rest = word ++ rest.dropWhile isBare := by
        simp [word]
      rcases terms _ List.mem_cons_self with ⟨term, isTerm⟩
      have sameWord : word = term := Lexeme.ofWord_eq_term isTerm
      have first : Lexeme.ofWord word = .term word := by
        rw [sameWord] at isTerm ⊢
        exact isTerm
      rw [whole, isWord.words_append ends, List.map_cons, List.map_cons, first, ih restTerms]

/-- The operands of a query of terms are its words. -/
theorem written_of_terms {text : Text}
    (terms : ∀ token ∈ tokens text, ∃ word, token.lexeme = .term word) :
    written (tokens text) = (Text.words text).map .term := by
  have lexemes : (tokens text).map (·.lexeme) = (Text.words text).map .term :=
    lexemes_eq_words terms
  have operands : written (tokens text) =
      ((tokens text).map (·.lexeme)).filterMap (·.operand?) := by
    rw [List.filterMap_map]
    rfl
  have everyTerm : (fun lexeme : Lexeme => lexeme.operand?) ∘ Lexeme.term =
      some ∘ Operand.term := by
    funext word
    rfl
  rw [operands, lexemes, List.filterMap_map, everyTerm, List.filterMap_eq_map]

end SpecFinder.Query
