import SpecFinder.Proofs.Query.ReaderSteps

/-!
# Unclosed groups

Closing parentheses at the end of a query add nothing to what is read.  Each of them closes
a group that would be closed by the end of the query anyway, whether the group holds
anything or not, or it is left out.

Two readings are compared: one of some tokens, and one of the same tokens with closing
parentheses behind them.  `AlikeUpToClosing` is kept by every reader: beside the faults, the
second reading only differs in that more closing parentheses are left.
-/

namespace SpecFinder.Query

/-- All tokens are closing parentheses. -/
def AllClose (tokens : List Token) : Prop := ∀ token ∈ tokens, token.lexeme = .closing

instance (tokens : List Token) : Decidable (AllClose tokens) :=
  inferInstanceAs (Decidable (∀ token ∈ tokens, token.lexeme = .closing))

/-- Readings that differ in nothing but their faults, and in closing parentheses that the
second one leaves behind the tokens that both leave. -/
structure AlikeUpToClosing (first second : Reading) : Prop where
  tree : second.tree = first.tree
  criteria : second.criteria = first.criteria
  rest : ∃ closers, AllClose closers ∧ second.rest = first.rest ++ closers

/-- A reader for which closing parentheses at the end of its tokens make no difference. -/
def IgnoresClosing (read : List Token → Reading) : Prop :=
  ∀ tokens closers, AllClose closers → AlikeUpToClosing (read tokens) (read (tokens ++ closers))

namespace AlikeUpToClosing

variable {first second earlierFirst earlierSecond : Reading}

theorem after (alikeBefore : AlikeUpToClosing earlierFirst earlierSecond)
    (alike : AlikeUpToClosing first second) :
    AlikeUpToClosing (earlierFirst.after first) (earlierSecond.after second) where
  tree := alike.tree
  criteria := by
    rw [Reading.criteria_after, Reading.criteria_after, alikeBefore.criteria, alike.criteria]
  rest := alike.rest

/-- Readings that are alike stay alike when the reader behind them makes no difference. -/
theorem goOn {goesOn : List Token → Reading} (alike : AlikeUpToClosing first second)
    (ignores : ∀ closers, AllClose closers →
      AlikeUpToClosing (goesOn first.rest) (goesOn (first.rest ++ closers))) :
    AlikeUpToClosing (first.after (goesOn first.rest)) (second.after (goesOn second.rest)) := by
  rcases alike.rest with ⟨closers, close, rest⟩
  rw [rest]
  exact alike.after (ignores closers close)

/-- Readings stay alike when they are reported on, and when both get the same tree. -/
theorem report (alike : AlikeUpToClosing first second) (faults others : List Fault)
    (tree : Option Expr) :
    AlikeUpToClosing { first.report faults with tree } { second.report others with tree } where
  tree := rfl
  criteria := alike.criteria
  rest := alike.rest

theorem negated (alike : AlikeUpToClosing first second) (negations : List Token) :
    AlikeUpToClosing (first.negated negations) (second.negated negations) where
  tree := by rw [Reading.tree_negated, Reading.tree_negated, alike.tree]
  criteria := by rw [Reading.criteria_negated, Reading.criteria_negated, alike.criteria]
  rest := by rw [Reading.rest_negated, Reading.rest_negated]; exact alike.rest

end AlikeUpToClosing

/-! ## The readers -/

section

variable {closers : List Token}

/-- Closing parentheses are left by everything that takes tokens in a row from the front. -/
theorem span_append_closers (tokens : List Token) (close : AllClose closers)
    {accepts : Token → Bool}
    (refuses : ∀ token : Token, token.lexeme = .closing → accepts token = false) :
    (tokens ++ closers).takeWhile accepts = tokens.takeWhile accepts ∧
      (tokens ++ closers).dropWhile accepts = tokens.dropWhile accepts ++ closers := by
  induction tokens with
  | nil =>
      cases closers with
      | nil => exact ⟨rfl, rfl⟩
      | cons closing others =>
          have stops := refuses closing (close closing List.mem_cons_self)
          simp [stops]
  | cons token rest ih =>
      cases accepted : accepts token with
      | true => simp [accepted, ih]
      | false => simp [accepted]

theorem AllClose.stops (close : AllClose closers) : ∀ token ∈ closers.head?,
    (token.lexeme ≠ .and ∧ token.lexeme.startsOperand = false) ∧ token.lexeme ≠ .or := by
  intro token isHead
  simp [close token (List.mem_of_mem_head? isHead), Lexeme.startsOperand]

end

section

variable {group : Nat → List Token → Reading}

theorem ignoresClosing_readOperand (grouped : ∀ position, IgnoresClosing (group position)) :
    IgnoresClosing (readOperand group) := by
  intro tokens closers close
  cases tokens with
  | nil =>
      cases closers with
      | nil => exact ⟨rfl, rfl, [], close, rfl⟩
      | cons closing others =>
          have connective : closing.lexeme.isConnective = true := by
            simp [close closing List.mem_cons_self, Lexeme.isConnective]
          rw [List.nil_append, readOperand_of_isConnective connective]
          exact ⟨rfl, rfl, closing :: others, close, rfl⟩
  | cons token rest =>
      rw [List.cons_append]
      rcases token.lexeme.operand_cases with ⟨leaf, writes⟩ | isBlank | opens | connective
      · rw [readOperand_of_operand writes, readOperand_of_operand writes]
        exact ⟨rfl, rfl, closers, close, rfl⟩
      · rw [readOperand_of_isBlankPhrase isBlank, readOperand_of_isBlankPhrase isBlank]
        exact ⟨rfl, rfl, closers, close, rfl⟩
      · rw [readOperand_of_opening opens, readOperand_of_opening opens]
        exact grouped token.position rest closers close
      · rw [readOperand_of_isConnective connective, readOperand_of_isConnective connective]
        exact ⟨rfl, rfl, closers, close, rfl⟩

theorem ignoresClosing_readNegation (grouped : ∀ position, IgnoresClosing (group position)) :
    IgnoresClosing (readNegation group) := by
  intro tokens closers close
  have refuses : ∀ token : Token, token.lexeme = .closing → token.negates = false := by
    intro token closes
    simp [Token.negates, closes]
  rcases span_append_closers tokens close refuses with ⟨taken, dropped⟩
  rw [readNegation, readNegation, taken, dropped]
  exact (ignoresClosing_readOperand grouped _ closers close).negated _

theorem ignoresClosing_readTooDeep (position : Nat) : IgnoresClosing (readTooDeep position) := by
  intro tokens closers close
  have refuses : ∀ token : Token, token.lexeme = .closing → token.opensGroup = false := by
    intro token closes
    simp [Token.opensGroup, closes]
  have flat : ∀ _ : Nat, IgnoresClosing fun rest => .absent [] rest := by
    intro _ rest others othersClose
    exact ⟨rfl, rfl, others, othersClose, rfl⟩
  have dropped := (span_append_closers tokens close refuses).2
  rw [readTooDeep, readTooDeep, dropped]
  have reported : AlikeUpToClosing (.absent [.tooDeep position] tokens)
      (.absent [.tooDeep position] (tokens ++ closers)) := ⟨rfl, rfl, closers, close, rfl⟩
  exact reported.after (ignoresClosing_readOperand flat _ closers close)

end

section

variable {room : Nat}

theorem ignoresClosing_joinAnd
    (operand : IgnoresClosing (readNegation (readGroup room))) (left : Expr) :
    IgnoresClosing (joinAnd (readNegation (readGroup room)) left) := by
  intro tokens
  induction length : tokens.length using Nat.strong_induction_on generalizing left tokens with
  | _ count ih =>
      intro closers close
      cases tokens with
      | nil =>
          rw [List.nil_append, joinAnd_of_stops (by simp),
            joinAnd_of_stops fun token isHead => (close.stops token isHead).1]
          exact ⟨rfl, rfl, closers, close, rfl⟩
      | cons token behind =>
          rw [List.cons_append]
          by_cases joins : token.lexeme = .and ∨ token.lexeme.startsOperand = true
          · have next := operand (skipAnd token behind) closers close
            rw [← skipAnd_append] at next
            cases found : (readNegation (readGroup room) (skipAnd token behind)).tree with
            | none =>
                rw [joinAnd_of_none joins found, joinAnd_of_none joins (next.tree.trans found)]
                exact next.report _ _ _
            | some right =>
                have reads := reads_readNegation_readGroup room (skipAnd token behind)
                have consumed := reads.rest_length_lt (by simp [found])
                have skipped := (skipAnd_suffix token behind).length_le
                rw [joinAnd_of_some joins found, joinAnd_of_some joins (next.tree.trans found)]
                exact next.goOn (ih _ (by omega) (.and left right) _ rfl)
          · have stops : token.lexeme ≠ .and ∧ token.lexeme.startsOperand = false := by
              simpa using joins
            rw [joinAnd_of_stops (by simpa using stops), joinAnd_of_stops (by simpa using stops)]
            exact ⟨rfl, rfl, closers, close, rfl⟩

theorem ignoresClosing_readAnd (operand : IgnoresClosing (readNegation (readGroup room))) :
    IgnoresClosing (readAnd (readNegation (readGroup room))) := by
  intro tokens closers close
  have first := operand tokens closers close
  cases found : (readNegation (readGroup room) tokens).tree with
  | none =>
      rw [readAnd_of_none found, readAnd_of_none (first.tree.trans found)]
      exact first
  | some left =>
      rw [readAnd_of_some found, readAnd_of_some (first.tree.trans found)]
      exact first.goOn (ignoresClosing_joinAnd operand left _)

theorem ignoresClosing_joinOr
    (operand : IgnoresClosing (readNegation (readGroup room))) (left : Expr) :
    IgnoresClosing (joinOr (readNegation (readGroup room)) left) := by
  intro tokens
  induction length : tokens.length using Nat.strong_induction_on generalizing left tokens with
  | _ count ih =>
      intro closers close
      cases tokens with
      | nil =>
          rw [List.nil_append, joinOr_of_stops (by simp),
            joinOr_of_stops fun token isHead => (close.stops token isHead).2]
          exact ⟨rfl, rfl, closers, close, rfl⟩
      | cons token behind =>
          rw [List.cons_append]
          by_cases joins : token.lexeme = .or
          · have next := ignoresClosing_readAnd operand behind closers close
            cases found : (readAnd (readNegation (readGroup room)) behind).tree with
            | none =>
                rw [joinOr_of_none joins found, joinOr_of_none joins (next.tree.trans found)]
                exact next.report _ _ _
            | some right =>
                have reads := reads_readAnd (reads_readNegation_readGroup room) behind
                have consumed := reads.rest_length_lt (by simp [found])
                rw [List.length_cons] at length
                rw [joinOr_of_some joins found, joinOr_of_some joins (next.tree.trans found)]
                exact next.goOn (ih _ (by omega) (.or left right) _ rfl)
          · rw [joinOr_of_stops (by simpa using joins), joinOr_of_stops (by simpa using joins)]
            exact ⟨rfl, rfl, closers, close, rfl⟩

theorem ignoresClosing_readExpr (grouped : ∀ position, IgnoresClosing (readGroup room position)) :
    IgnoresClosing (readExpr room) := by
  rw [readExpr_eq]
  intro tokens closers close
  have operand := ignoresClosing_readNegation grouped
  have first := ignoresClosing_readAnd operand tokens closers close
  cases found : (readAnd (readNegation (readGroup room)) tokens).tree with
  | none =>
      rw [readOr_of_none found, readOr_of_none (first.tree.trans found)]
      exact first
  | some left =>
      rw [readOr_of_some found, readOr_of_some (first.tree.trans found)]
      exact first.goOn (ignoresClosing_joinOr operand left _)

end

/-- A group that is closed by the end of the tokens is closed by the first of the closing
parentheses behind them. -/
theorem AlikeUpToClosing.closeGroup {first second : Reading}
    (alike : AlikeUpToClosing first second) (position : Nat) :
    AlikeUpToClosing (Query.closeGroup position first) (Query.closeGroup position second) where
  tree := by rw [tree_closeGroup, tree_closeGroup, alike.tree]
  criteria := by rw [criteria_closeGroup, criteria_closeGroup, alike.criteria]
  rest := by
    rcases alike.rest with ⟨closers, close, rest⟩
    rw [rest_closeGroup, rest_closeGroup, rest]
    cases first.rest with
    | nil =>
        cases closers with
        | nil => exact ⟨[], close, rfl⟩
        | cons closing others =>
            have isClosing := close closing List.mem_cons_self
            have othersClose : AllClose others := by
              intro token member
              exact close token (List.mem_cons_of_mem closing member)
            exact ⟨others, othersClose, by simp [isClosing]⟩
    | cons token behind =>
        refine ⟨closers, close, ?_⟩
        by_cases closes : token.lexeme = .closing <;> simp [closes]

theorem ignoresClosing_readGroup (room position : Nat) :
    IgnoresClosing (readGroup room position) := by
  induction room generalizing position with
  | zero => exact ignoresClosing_readTooDeep position
  | succ room ih =>
      intro tokens closers close
      exact (ignoresClosing_readExpr ih tokens closers close).closeGroup position

theorem ignoresClosing_readParts (tree : Option Expr) : IgnoresClosing (readParts tree) := by
  intro tokens
  induction length : tokens.length using Nat.strong_induction_on generalizing tree tokens with
  | _ count ih =>
      intro closers close
      cases tokens with
      | nil =>
          have stray : ∀ token ∈ closers, token.lexeme.startsOperand = false := by
            intro token member
            simp [close token member, Lexeme.startsOperand]
          have whole := readParts_append_of_strays stray tree []
          rw [List.append_nil] at whole
          rw [List.nil_append, whole, readParts]
          exact ⟨rfl, rfl, [], by simp [AllClose], rfl⟩
      | cons token behind =>
          rw [List.cons_append]
          cases starts : token.lexeme.startsOperand with
          | true =>
              have next := ignoresClosing_readExpr (ignoresClosing_readGroup nestingLimit)
                (token :: behind) closers close
              have consumed := rest_length_readExpr_le nestingLimit behind starts
              rw [List.cons_append] at next
              rw [List.length_cons] at length
              rw [readParts_of_startsOperand tree starts, readParts_of_startsOperand tree starts,
                next.tree]
              exact next.goOn (ih _ (by omega) _ _ rfl)
          | false =>
              rw [readParts_of_not_startsOperand tree starts,
                readParts_of_not_startsOperand tree starts]
              have leftOut : AlikeUpToClosing (.absent [.unexpected token] behind)
                  (.absent [.unexpected token] (behind ++ closers)) :=
                ⟨rfl, rfl, closers, close, rfl⟩
              rw [List.length_cons] at length
              exact leftOut.after (ih _ (by omega) tree _ rfl closers close)

/-- Closing parentheses at the end of any tokens change nothing but the faults. -/
theorem readTokens_append_closing (tokens closers : List Token) (close : AllClose closers) :
    (readTokens (tokens ++ closers)).tree = (readTokens tokens).tree ∧
      (readTokens (tokens ++ closers)).criteria = (readTokens tokens).criteria := by
  have alike := ignoresClosing_readParts none tokens closers close
  exact ⟨alike.tree, alike.criteria⟩

/-- The tokens of `a (b OR (NOT c`. -/
def openTokens : List Token :=
  [⟨.term ['a'], 0⟩, ⟨.opening, 2⟩, ⟨.term ['b'], 3⟩, ⟨.or, 5⟩, ⟨.opening, 8⟩, ⟨.not, 9⟩,
    ⟨.term ['c'], 13⟩]

/-- The parentheses that `a (b OR (NOT c` lacks. -/
def missingClosers : List Token := [⟨.closing, 14⟩, ⟨.closing, 15⟩]

/-- The tree of `a (b OR (NOT c))`. -/
def closedTree : Expr :=
  .and (.operand (.term ['a']))
    (.or (.operand (.term ['b'])) (.not (.operand (.term ['c']))))

theorem derives_closedTree :
    Derives .disjunction nestingLimit (openTokens ++ missingClosers) closedTree := by
  have word {room : Nat} (position : Nat) (text : Text) :
      Derives .negation room [⟨.term text, position⟩] (.operand (.term text)) :=
    .atom (.leaf rfl)
  have inner : Derives .atom 31
      [⟨.opening, 8⟩, ⟨.not, 9⟩, ⟨.term ['c'], 13⟩, ⟨.closing, 14⟩]
      (.not (.operand (.term ['c']))) :=
    .group rfl (.conjunction (.negation (.not rfl (word 13 ['c'])))) rfl
  have outer : Derives .atom nestingLimit
      [⟨.opening, 2⟩, ⟨.term ['b'], 3⟩, ⟨.or, 5⟩, ⟨.opening, 8⟩, ⟨.not, 9⟩, ⟨.term ['c'], 13⟩,
        ⟨.closing, 14⟩, ⟨.closing, 15⟩]
      (.or (.operand (.term ['b'])) (.not (.operand (.term ['c'])))) :=
    .group rfl (.or (.conjunction (.negation (word 3 ['b']))) rfl (.negation (.atom inner))) rfl
  have whole : Derives .conjunction nestingLimit
      ([⟨.term ['a'], 0⟩] ++ [⟨.opening, 2⟩, ⟨.term ['b'], 3⟩, ⟨.or, 5⟩, ⟨.opening, 8⟩,
        ⟨.not, 9⟩, ⟨.term ['c'], 13⟩, ⟨.closing, 14⟩, ⟨.closing, 15⟩]) closedTree :=
    .juxtaposed (.negation (word 0 ['a'])) (.atom outer)
  exact .conjunction whole

/-- The groups of `a (b OR (NOT c` are read as in `a (b OR (NOT c))`. -/
theorem tree_openTokens :
    AllClose missingClosers ∧
      (readTokens (openTokens ++ missingClosers)).tree = some closedTree ∧
      (readTokens openTokens).tree = some closedTree := by
  have close : AllClose missingClosers := by decide
  have closed : (readTokens (openTokens ++ missingClosers)).tree = some closedTree := by
    rw [readTokens_of_derives derives_closedTree (by decide)]
    rfl
  have same := (readTokens_append_closing openTokens missingClosers close).1
  exact ⟨close, closed, same.symm.trans closed⟩

end SpecFinder.Query
