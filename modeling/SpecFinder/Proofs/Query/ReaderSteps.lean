import SpecFinder.Proofs.Query.Grammar

/-!
# Steps of the readers

What a loop does with the next token, whatever has been read before: it joins an operand,
breaks off, or leaves the token.  A whole query is read in parts, and its first token decides
what the first step is: an expression begins with it, or it is left out.
-/

namespace SpecFinder.Query

/-! ## Groups -/

/-- A closing parenthesis behind a group is consumed. -/
theorem rest_closeGroup (position : Nat) (inner : Reading) :
    (closeGroup position inner).rest =
      if inner.rest.head?.any (·.lexeme == .closing) then inner.rest.tail else inner.rest := by
  rcases closeGroup_cases position inner with ⟨token, rest, closes, found, closed⟩ | ⟨stays, isOpen⟩
  · rw [closed]
    simp [found, closes]
  · rw [isOpen, Reading.rest_report, if_neg]
    cases found : inner.rest with
    | nil => simp
    | cons token rest => simpa [found] using stays

/-! ## Conjunctions and disjunctions -/

/-- A conjunction without a word between its operands goes on with all tokens. -/
theorem skipAnd_of_startsOperand {token : Token} (starts : token.lexeme.startsOperand = true)
    (behind : List Token) : skipAnd token behind = token :: behind := by
  apply if_neg
  intro isAnd
  simp [isAnd, Lexeme.startsOperand] at starts

theorem skipAnd_append (token : Token) (behind further : List Token) :
    skipAnd token (behind ++ further) = skipAnd token behind ++ further := by
  simp only [skipAnd]
  split <;> rfl

section

variable {room : Nat} {left right : Expr} {token : Token} {behind : List Token}

theorem joinAnd_of_none {operand : List Token → Reading}
    (joins : token.lexeme = .and ∨ token.lexeme.startsOperand = true)
    (absent : (operand (skipAnd token behind)).tree = none) :
    joinAnd operand left (token :: behind) =
      { (operand (skipAnd token behind)).report (missingAfter token) with tree := some left } := by
  have goesOn : (decide (token.lexeme = .and) || token.lexeme.startsOperand) = true := by
    simpa using joins
  rw [joinAnd]
  simp [goesOn, absent]

theorem joinAnd_of_some (joins : token.lexeme = .and ∨ token.lexeme.startsOperand = true)
    (found : (readNegation (readGroup room) (skipAnd token behind)).tree = some right) :
    joinAnd (readNegation (readGroup room)) left (token :: behind) =
      .after (readNegation (readGroup room) (skipAnd token behind))
        (joinAnd (readNegation (readGroup room)) (.and left right)
          (readNegation (readGroup room) (skipAnd token behind)).rest) := by
  have goesOn : (decide (token.lexeme = .and) || token.lexeme.startsOperand) = true := by
    simpa using joins
  have reads := reads_readNegation_readGroup room (skipAnd token behind)
  have shorter := reads.rest_length_lt (by simp [found])
  have skipped := (skipAnd_suffix token behind).length_le
  have consumed : (readNegation (readGroup room) (skipAnd token behind)).rest.length ≤
      behind.length := by
    simp only [List.length_cons] at skipped
    omega
  rw [joinAnd]
  simp [goesOn, found, consumed]

theorem joinOr_of_none {operand : List Token → Reading} (joins : token.lexeme = .or)
    (absent : (readAnd operand behind).tree = none) :
    joinOr operand left (token :: behind) =
      { (readAnd operand behind).report [.missingAfterOr token.position] with
        tree := some left } := by
  rw [joinOr]
  simp [joins, absent]

theorem joinOr_of_some (joins : token.lexeme = .or)
    (found : (readAnd (readNegation (readGroup room)) behind).tree = some right) :
    joinOr (readNegation (readGroup room)) left (token :: behind) =
      .after (readAnd (readNegation (readGroup room)) behind)
        (joinOr (readNegation (readGroup room)) (.or left right)
          (readAnd (readNegation (readGroup room)) behind).rest) := by
  have reads := reads_readAnd (reads_readNegation_readGroup room) behind
  have consumed := reads.rest_suffix.length_le
  rw [joinOr]
  simp [joins, found, consumed]

theorem tree_joinAnd_ne_none (operand : List Token → Reading) (left : Expr)
    (tokens : List Token) : (joinAnd operand left tokens).tree ≠ none := by
  fun_induction joinAnd operand left tokens with
  | case1 | case2 | case4 | case5 => simp
  | case3 _ _ _ _ _ _ _ _ ih => exact ih

theorem tree_joinOr_ne_none (operand : List Token → Reading) (left : Expr)
    (tokens : List Token) : (joinOr operand left tokens).tree ≠ none := by
  fun_induction joinOr operand left tokens with
  | case1 | case2 | case4 | case5 => simp
  | case3 _ _ _ _ _ _ _ _ ih => exact ih

/-- An expression that cannot begin is absent, and its tokens are left. -/
theorem readExpr_of_isConnective (connective : token.lexeme.isConnective = true)
    (stays : token.lexeme ≠ .not) :
    readExpr room (token :: behind) = .absent [] (token :: behind) := by
  have operand : readNegation (readGroup room) (token :: behind) =
      .absent [] (token :: behind) := by
    rw [readNegation_of_not_negates stays, readOperand_of_isConnective connective]
  have conjunction : readAnd (readNegation (readGroup room)) (token :: behind) =
      .absent [] (token :: behind) := by
    rw [readAnd_of_none (by rw [operand]; rfl), operand]
  rw [readExpr_eq, readOr_of_none (by rw [conjunction]; rfl), conjunction]

/-- A negation is left around the operand behind it. -/
theorem readNegation_cons_of_negates (group : Nat → List Token → Reading)
    (isNot : token.lexeme = .not) (behind : List Token) :
    (readNegation group (token :: behind)).tree = (readNegation group behind).tree.map .not ∧
      (readNegation group (token :: behind)).rest = (readNegation group behind).rest := by
  have negates : token.negates = true := by simp [Token.negates, isNot]
  simp only [readNegation, List.takeWhile_cons_of_pos negates,
    List.dropWhile_cons_of_pos negates, Reading.tree_negated, Reading.rest_negated, and_true]
  rw [Option.map_map]
  congr 1
  funext tree
  rw [List.foldl_cons, foldl_not]
  rfl

end

/-! ## Parts of a query -/

/-- Only a token that joins or closes begins no expression. -/
theorem Lexeme.isConnective_of_not_startsOperand {lexeme : Lexeme}
    (stray : lexeme.startsOperand = false) : lexeme.isConnective = true ∧ lexeme ≠ .not := by
  cases lexeme with
  | and | or | closing => exact ⟨rfl, by simp⟩
  | term | phrase | fuzzy | field | not | opening => cases stray

section

variable {token : Token} {behind : List Token}

/-- Where an operand can begin, reading an expression consumes a token. -/
theorem rest_length_readExpr_le (room : Nat) (behind : List Token)
    (starts : token.lexeme.startsOperand = true) :
    (readExpr room (token :: behind)).rest.length ≤ behind.length := by
  by_contra unmoved
  have stuck : (token :: behind).length ≤ (readExpr room (token :: behind)).rest.length := by
    rw [List.length_cons]
    omega
  have head := (reads_readExpr room (token :: behind)).head_of_stuck stuck token rfl
  have stray := Lexeme.startsOperand_of_isConnective head.1 (head.2 (by simp))
  rw [starts] at stray
  cases stray

/-- An expression is joined to what has been read of a query. -/
theorem readParts_of_startsOperand (tree : Option Expr)
    (starts : token.lexeme.startsOperand = true) :
    readParts tree (token :: behind) =
      .after (readExpr nestingLimit (token :: behind))
        (readParts (joinParts tree (readExpr nestingLimit (token :: behind)).tree)
          (readExpr nestingLimit (token :: behind)).rest) := by
  rw [readParts]
  simp [rest_length_readExpr_le nestingLimit behind starts]

/-- A token that begins no expression is reported and left out. -/
theorem readParts_of_not_startsOperand (tree : Option Expr)
    (stray : token.lexeme.startsOperand = false) :
    readParts tree (token :: behind) =
      .after (.absent [.unexpected token] behind) (readParts tree behind) := by
  rcases Lexeme.isConnective_of_not_startsOperand stray with ⟨connective, stays⟩
  have unmoved : ¬behind.length + 1 ≤ behind.length := by omega
  rw [readParts]
  simp only [readExpr_of_isConnective connective stays, Reading.absent, List.length_cons,
    unmoved, dite_false]
  rfl

end

/-- Tokens that begin no expression are reported one after the other. -/
theorem readParts_append_of_strays {strays : List Token}
    (stray : ∀ token ∈ strays, token.lexeme.startsOperand = false) (tree : Option Expr)
    (rest : List Token) :
    readParts tree (strays ++ rest) =
      .after (.absent (strays.map .unexpected) rest) (readParts tree rest) := by
  induction strays with
  | nil => exact Reading.start_after.symm
  | cons token strays ih =>
      have others := ih fun other member => stray other (List.mem_cons_of_mem token member)
      rw [List.cons_append, readParts_of_not_startsOperand tree (stray token List.mem_cons_self),
        others, ← Reading.after_after]
      rfl

end SpecFinder.Query
