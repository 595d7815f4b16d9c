import SpecFinder.Proofs.Query.ReaderSteps

/-!
# Operands that are none

An empty group and a blank phrase are read where an operand is due, but they are none.
Behind an operand they do not go on with its conjunction: they end it.  Where it ends
anyway, they change nothing.  Where it would go on, they do what a closing parenthesis
does in their place: the group around them ends there, and the closing parenthesis of that
group ends the one outside, or is left over.

`Begins` lists the beginnings of an expression that end behind an operand.  What stands
behind such a beginning is free, so that two ways to go on can be compared: `ReadAlike`
says how far the readings of both are the same, by induction on the beginning.
-/

namespace SpecFinder.Query

/-- Tokens that are read as an operand but add none: an empty group or a blank phrase. -/
inductive AddsNothing : List Token → Prop where
  | emptyGroup {opening closing : Token} (opens : opening.lexeme = .opening)
      (closes : closing.lexeme = .closing) : AddsNothing [opening, closing]
  | blankPhrase {token : Token} (isBlank : token.lexeme.isBlankPhrase = true) :
      AddsNothing [token]

/-- Whether an operand can end with a lexeme. -/
def Lexeme.endsOperand (lexeme : Lexeme) : Bool :=
  lexeme.operand?.isSome || lexeme == .closing

/-- Whether a conjunction in front of some tokens goes on with them. -/
def conjunctionGoesOn (tokens : List Token) : Bool :=
  tokens.head?.any fun token => Stage.conjunction.goesOn token.lexeme

/-- What some tokens amount to when the conjunction in front of them has ended. Where it
would go on, they are cut off by a closing parenthesis. -/
inductive CutOff (rest : List Token) : List Token → Prop where
  | ends (stops : conjunctionGoesOn rest = false) : CutOff rest rest
  | closed {closing : Token} (goesOn : conjunctionGoesOn rest = true)
      (closes : closing.lexeme = .closing) : CutOff rest (closing :: rest)

/-- The beginnings of expressions that end behind an operand. The groups that are open
there are not closed. -/
inductive Begins : Level → (room : Nat) → List Token → Prop where
  | whole {room : Nat} {tokens : List Token} {tree : Expr}
      (derivation : Derives .atom room tokens tree) : Begins .atom room tokens
  | group {room : Nat} {opening : Token} {front : List Token}
      (opens : opening.lexeme = .opening) (inside : Begins .disjunction room front) :
      Begins .atom (room + 1) (opening :: front)
  | atom {room : Nat} {front : List Token} (only : Begins .atom room front) :
      Begins .negation room front
  | not {room : Nat} {token : Token} {front : List Token} (negates : token.lexeme = .not)
      (inner : Begins .negation room front) : Begins .negation room (token :: front)
  | negation {room : Nat} {front : List Token} (only : Begins .negation room front) :
      Begins .conjunction room front
  | and {room : Nat} {left front : List Token} {joint : Token} {leftTree : Expr}
      (earlier : Derives .conjunction room left leftTree) (joins : joint.lexeme = .and)
      (later : Begins .negation room front) : Begins .conjunction room (left ++ joint :: front)
  | juxtaposed {room : Nat} {left front : List Token} {leftTree : Expr}
      (earlier : Derives .conjunction room left leftTree)
      (later : Begins .negation room front) : Begins .conjunction room (left ++ front)
  | conjunction {room : Nat} {front : List Token} (only : Begins .conjunction room front) :
      Begins .disjunction room front
  | or {room : Nat} {left front : List Token} {joint : Token} {leftTree : Expr}
      (earlier : Derives .disjunction room left leftTree) (joins : joint.lexeme = .or)
      (later : Begins .conjunction room front) : Begins .disjunction room (left ++ joint :: front)

/-! ## Places in an expression -/

/-- An element of an append stands in its front or in its back. -/
theorem append_eq_append_cons {left right front back : List Token} {last : Token}
    (same : left ++ right = front ++ last :: back) :
    (∃ middle, left = front ++ last :: middle) ∨
      ∃ middle, front = left ++ middle ∧ right = middle ++ last :: back := by
  rcases List.append_eq_append_iff.mp same with ⟨middle, behind, inRight⟩ | ⟨middle, inLeft, rest⟩
  · exact .inr ⟨middle, behind, inRight⟩
  · cases middle with
    | nil => exact .inr ⟨[], by simpa using inLeft.symm, by simpa using rest.symm⟩
    | cons first middle =>
        rw [List.cons_append, List.cons.injEq] at rest
        exact .inl ⟨middle, by rw [inLeft, rest.1]⟩

/-- A token that is no end of an operand stands in front of one that is. -/
theorem cons_eq_append_cons {token last : Token} {tokens front back : List Token}
    (same : token :: tokens = front ++ last :: back) (differs : token ≠ last) :
    ∃ middle, front = token :: middle ∧ tokens = middle ++ last :: back := by
  cases front with
  | nil =>
      rw [List.nil_append, List.cons.injEq] at same
      exact (differs same.1).elim
  | cons first middle =>
      rw [List.cons_append, List.cons.injEq] at same
      exact ⟨middle, by rw [same.1], same.2⟩

/-- An expression up to the end of one of its operands is a beginning. -/
theorem Derives.begins {level : Level} {room : Nat} {tokens : List Token} {tree : Expr}
    (derivation : Derives level room tokens tree) {front back : List Token} {last : Token}
    (place : tokens = front ++ last :: back) (ends : last.lexeme.endsOperand = true) :
    Begins level room (front ++ [last]) := by
  have differs {token : Token} (noEnd : token.lexeme.endsOperand = false) : token ≠ last := by
    rintro rfl
    rw [ends] at noEnd
    cases noEnd
  induction derivation generalizing front back with
  | @or room left right joint leftTree rightTree earlier joins _ earlierIH laterIH =>
      rcases append_eq_append_cons place with ⟨middle, inLeft⟩ | ⟨middle, rfl, inRight⟩
      · exact earlierIH inLeft
      · have noEnd : joint.lexeme.endsOperand = false := by simp [joins, Lexeme.endsOperand]
        rcases cons_eq_append_cons inRight (differs noEnd) with ⟨others, rfl, behind⟩
        have later := Begins.or earlier joins (laterIH behind)
        simpa using later
  | conjunction _ ih => exact .conjunction (ih place)
  | @and room left right joint leftTree rightTree earlier joins _ earlierIH laterIH =>
      rcases append_eq_append_cons place with ⟨middle, inLeft⟩ | ⟨middle, rfl, inRight⟩
      · exact earlierIH inLeft
      · have noEnd : joint.lexeme.endsOperand = false := by simp [joins, Lexeme.endsOperand]
        rcases cons_eq_append_cons inRight (differs noEnd) with ⟨others, rfl, behind⟩
        have later := Begins.and earlier joins (laterIH behind)
        simpa using later
  | juxtaposed earlier _ earlierIH laterIH =>
      rcases append_eq_append_cons place with ⟨middle, inLeft⟩ | ⟨middle, rfl, inRight⟩
      · exact earlierIH inLeft
      · have later := Begins.juxtaposed earlier (laterIH inRight)
        simpa using later
  | negation _ ih => exact .negation (ih place)
  | @not room token rest tree negates _ ih =>
      have noEnd : token.lexeme.endsOperand = false := by simp [negates, Lexeme.endsOperand]
      rcases cons_eq_append_cons place (differs noEnd) with ⟨middle, rfl, behind⟩
      exact .not negates (ih behind)
  | atom _ ih => exact .atom (ih place)
  | @group room opening closing tokens tree opens inside closes ih =>
      have noEnd : opening.lexeme.endsOperand = false := by simp [opens, Lexeme.endsOperand]
      rw [List.cons_append] at place
      rcases cons_eq_append_cons place (differs noEnd) with ⟨middle, rfl, behind⟩
      rcases append_eq_append_cons behind with ⟨others, inTokens⟩ | ⟨others, rfl, isLast⟩
      · exact .group opens (ih inTokens)
      · cases others with
        | nil =>
            rw [List.nil_append, List.cons.injEq] at isLast
            rw [← isLast.1]
            have closed := Begins.whole (.group opens inside closes)
            simpa using closed
        | cons => simp at isLast
  | @leaf room token leaf writes =>
      rcases List.append_eq_singleton_iff.mp place.symm with ⟨rfl, single⟩ | ⟨_, empty⟩
      · rw [List.cons.injEq] at single
        rw [single.1]
        exact .whole (.leaf writes)
      · cases empty

/-- A beginning begins with a token that can begin an operand. -/
theorem Begins.head {level : Level} {room : Nat} {front : List Token}
    (begins : Begins level room front) :
    ∃ token others, front = token :: others ∧ token.lexeme.startsOperand = true := by
  induction begins with
  | whole derivation => exact derivation.head
  | group opens => exact ⟨_, _, rfl, by simp [opens, Lexeme.startsOperand]⟩
  | not negates => exact ⟨_, _, rfl, by simp [negates, Lexeme.startsOperand]⟩
  | atom _ ih | negation _ ih | conjunction _ ih => exact ih
  | and earlier | or earlier | juxtaposed earlier =>
      rcases earlier.head with ⟨token, others, rfl, starts⟩
      exact ⟨token, others ++ _, rfl, starts⟩

/-- Expressions may stand deeper than they have to. -/
theorem Derives.deeper {level : Level} {room : Nat} {tokens : List Token} {tree : Expr}
    (derivation : Derives level room tokens tree) : Derives level (room + 1) tokens tree := by
  induction derivation with
  | or _ joins _ earlier later => exact .or earlier joins later
  | conjunction _ ih => exact .conjunction ih
  | and _ joins _ earlier later => exact .and earlier joins later
  | juxtaposed _ _ earlier later => exact .juxtaposed earlier later
  | negation _ ih => exact .negation ih
  | not negates _ ih => exact .not negates ih
  | atom _ ih => exact .atom ih
  | group opens _ closes ih => exact .group opens ih closes
  | leaf writes => exact .leaf writes

/-! ## Behind an operand -/

/-- What adds nothing is read as an operand that is absent. -/
theorem AddsNothing.reads {inserted : List Token} (nothing : AddsNothing inserted) (room : Nat)
    (rest : List Token) :
    (readNegation (readGroup (room + 1)) (inserted ++ rest)).tree = none ∧
      (readNegation (readGroup (room + 1)) (inserted ++ rest)).rest = rest := by
  cases nothing with
  | @emptyGroup opening closing opens closes =>
      have stays : opening.lexeme ≠ .not := by simp [opens]
      have inside : readExpr room (closing :: rest) = .absent [] (closing :: rest) :=
        readExpr_of_isConnective (by simp [closes, Lexeme.isConnective]) (by simp [closes])
      rw [List.cons_append, List.cons_append, List.nil_append,
        readNegation_of_not_negates stays, readOperand_of_opening opens]
      simp only [readGroup, inside]
      cases closing with
      | mk lexeme position =>
          cases closes
          exact ⟨rfl, rfl⟩
  | @blankPhrase token isBlank =>
      have stays : token.lexeme ≠ .not := by
        intro isNot
        simp [isNot, Lexeme.isBlankPhrase] at isBlank
      rw [List.cons_append, List.nil_append, readNegation_of_not_negates stays,
        readOperand_of_isBlankPhrase isBlank]
      exact ⟨rfl, rfl⟩

theorem AddsNothing.head {inserted : List Token} (nothing : AddsNothing inserted) :
    ∃ token others, inserted = token :: others ∧ token.lexeme ≠ .and ∧
      token.lexeme.startsOperand = true := by
  cases nothing with
  | emptyGroup opens => exact ⟨_, _, rfl, by simp [opens], by simp [opens, Lexeme.startsOperand]⟩
  | @blankPhrase token isBlank =>
      refine ⟨token, [], rfl, ?_, ?_⟩ <;>
        cases lexeme : token.lexeme <;>
          simp_all [Lexeme.isBlankPhrase, Lexeme.startsOperand]

/-- What adds nothing ends the conjunction in front of it. -/
theorem AddsNothing.ends {inserted : List Token} (nothing : AddsNothing inserted)
    (room : Nat) (left : Expr) (rest : List Token) :
    (joinAnd (readNegation (readGroup (room + 1))) left (inserted ++ rest)).tree = some left ∧
      (joinAnd (readNegation (readGroup (room + 1))) left (inserted ++ rest)).rest = rest := by
  have reads := nothing.reads room rest
  rcases nothing.head with ⟨token, others, rfl, notAnd, starts⟩
  have whole : skipAnd token (others ++ rest) = token :: others ++ rest := by
    simp [skipAnd, notAnd]
  rw [List.cons_append, joinAnd_of_none (.inr starts) (by rw [whole]; exact reads.1), whole]
  exact ⟨rfl, reads.2⟩

/-- No conjunction goes on with tokens that are cut off. -/
theorem CutOff.stops {rest other : List Token} (cut : CutOff rest other) :
    ∀ token ∈ other.head?, token.lexeme ≠ .and ∧ token.lexeme.startsOperand = false := by
  cases cut with
  | ends stops =>
      intro token isHead
      rw [conjunctionGoesOn, Option.mem_def.mp isHead] at stops
      simpa [Stage.goesOn] using stops
  | closed _ closes => simp [closes, Lexeme.startsOperand]

/-- Readings of the same tree that leave the same tokens. -/
structure Agree (first second : Reading) : Prop where
  found : first.tree ≠ none
  tree : first.tree = second.tree
  rest : first.rest = second.rest

/-- Readings of the same tree that leave the same tokens, or the two lists that were to be
compared. -/
structure AgreeUpTo (rest other : List Token) (first second : Reading) : Prop where
  found : first.tree ≠ none
  tree : first.tree = second.tree
  rest : first.rest = second.rest ∨ first.rest = rest ∧ second.rest = other

namespace AgreeUpTo

variable {rest other : List Token} {first second earlier before : Reading}

theorem after (alike : AgreeUpTo rest other first second) :
    AgreeUpTo rest other (.after earlier first) (.after before second) :=
  ⟨alike.found, alike.tree, alike.rest⟩

/-- The tree that both readings have. -/
theorem exists_tree (alike : AgreeUpTo rest other first second) :
    ∃ tree, first.tree = some tree ∧ second.tree = some tree := by
  rcases Option.ne_none_iff_exists'.mp alike.found with ⟨tree, found⟩
  exact ⟨tree, found, alike.tree ▸ found⟩

/-- A group is closed in front of the tokens that go on with it: for want of a closing
parenthesis, or by the one that cuts them off. -/
theorem closed (alike : AgreeUpTo rest other first second) (cut : CutOff rest other)
    (position : Nat) : Agree (closeGroup position first) (closeGroup position second) := by
  have found : (closeGroup position first).tree ≠ none := by
    rw [tree_closeGroup]
    exact alike.found
  refine ⟨found, by simpa using alike.tree, ?_⟩
  rcases alike.rest with same | ⟨atRest, atOther⟩
  · simp only [closeGroup, same]
    split <;> simp [same]
  · cases cut with
    | ends =>
        simp only [closeGroup, atRest, atOther]
        split <;> simp [atRest, atOther]
    | @closed closing goesOn closes =>
        cases closing with
        | mk lexeme place =>
            cases closes
            have unclosed : (closeGroup position first).rest = rest := by
              rcases closeGroup_cases position first with
                ⟨token, behind, isClosing, follows, _⟩ | ⟨_, isOpen⟩
              · rw [atRest] at follows
                simp [follows, conjunctionGoesOn, isClosing, Stage.goesOn,
                  Lexeme.startsOperand] at goesOn
              · rw [isOpen, Reading.rest_report, atRest]
            rw [unclosed]
            simp [closeGroup, atOther]

end AgreeUpTo

/-- A disjunction goes on alike in front of both lists. -/
theorem CutOff.goOn {rest other : List Token} (cut : CutOff rest other)
    (operand : List Token → Reading) (left : Expr) :
    AgreeUpTo rest other (joinOr operand left rest) (joinOr operand left other) := by
  cases cut with
  | ends => exact ⟨tree_joinOr_ne_none operand left rest, rfl, .inl rfl⟩
  | @closed closing goesOn closes =>
      have restStops : ∀ token ∈ rest.head?, token.lexeme ≠ .or := by
        intro token isHead isOr
        rw [conjunctionGoesOn, Option.mem_def.mp isHead] at goesOn
        simp [Stage.goesOn, isOr, Lexeme.startsOperand] at goesOn
      have closingStops : ∀ token ∈ (closing :: rest).head?, token.lexeme ≠ .or := by
        simp [closes]
      rw [joinOr_of_stops restStops, joinOr_of_stops closingStops]
      exact ⟨by simp, rfl, .inr ⟨rfl, rfl⟩⟩

theorem AgreeUpTo.goOn {rest other : List Token} {first second : Reading}
    (alike : AgreeUpTo rest other first second) (cut : CutOff rest other)
    (operand : List Token → Reading) (left : Expr) :
    AgreeUpTo rest other (joinOr operand left first.rest) (joinOr operand left second.rest) := by
  rcases alike.rest with same | ⟨atRest, atOther⟩
  · rw [same]
    exact ⟨tree_joinOr_ne_none operand left second.rest, rfl, .inl rfl⟩
  · rw [atRest, atOther]
    exact cut.goOn operand left

/-- How an operand is read up to a place in it. One that ends there is read without a look at
what stands behind it. -/
def OperandAlike (read : List Token → Reading) (first second front : List Token) : Prop :=
  (∃ tree, ∀ behind, read (front ++ behind) = .clean tree behind) ∨
    Agree (read (front ++ first)) (read (front ++ second))

/-- How the reader of a level reads a beginning in front of what adds nothing, and in front of
tokens that are cut off. -/
def ReadAlike (room : Nat) (inserted rest other : List Token) : Level → List Token → Prop
  | .atom, front =>
      OperandAlike (readOperand (readGroup (room + 1))) (inserted ++ rest) other front
  | .negation, front =>
      OperandAlike (readNegation (readGroup (room + 1))) (inserted ++ rest) other front
  | .conjunction, front =>
      AgreeUpTo rest other
        (readAnd (readNegation (readGroup (room + 1))) (front ++ (inserted ++ rest)))
        (readAnd (readNegation (readGroup (room + 1))) (front ++ other))
  | .disjunction, front =>
      AgreeUpTo rest other
        (readOr (readNegation (readGroup (room + 1))) (front ++ (inserted ++ rest)))
        (readOr (readNegation (readGroup (room + 1))) (front ++ other))

/-- Behind an operand a conjunction goes on alike: what adds nothing ends it, and so does the
cut. -/
theorem OperandAlike.goOn {room : Nat} {inserted rest other front : List Token}
    (alike : OperandAlike (readNegation (readGroup (room + 1))) (inserted ++ rest) other front)
    (nothing : AddsNothing inserted) (cut : CutOff rest other) :
    ∃ tree,
      (readNegation (readGroup (room + 1)) (front ++ (inserted ++ rest))).tree = some tree ∧
      (readNegation (readGroup (room + 1)) (front ++ other)).tree = some tree ∧
      ∀ left, AgreeUpTo rest other
        (joinAnd (readNegation (readGroup (room + 1))) left
          (readNegation (readGroup (room + 1)) (front ++ (inserted ++ rest))).rest)
        (joinAnd (readNegation (readGroup (room + 1))) left
          (readNegation (readGroup (room + 1)) (front ++ other)).rest) := by
  rcases alike with ⟨tree, reads⟩ | agree
  · rw [reads, reads]
    refine ⟨tree, rfl, rfl, ?_⟩
    intro left
    rcases nothing.ends room left rest with ⟨ended, behind⟩
    have stopped : joinAnd (readNegation (readGroup (room + 1))) left other =
        { tree := some left, rest := other } := joinAnd_of_stops cut.stops
    simp only [Reading.clean]
    exact ⟨by simp [ended], by rw [ended, stopped], .inr ⟨behind, by rw [stopped]⟩⟩
  · rcases Option.ne_none_iff_exists'.mp agree.found with ⟨tree, found⟩
    refine ⟨tree, found, agree.tree ▸ found, ?_⟩
    intro left
    rw [agree.rest]
    exact ⟨tree_joinAnd_ne_none _ _ _, rfl, .inl rfl⟩

/-- Atoms begin with no negation, whether they end or not. -/
theorem Begins.head_atom {room : Nat} {front : List Token} (begins : Begins .atom room front) :
    ∃ token others, front = token :: others ∧ token.lexeme ≠ .not := by
  cases begins with
  | whole derivation => exact derivation.head_atom
  | group opens => exact ⟨_, _, rfl, by simp [opens]⟩

/-- Every beginning is read alike. -/
theorem Begins.readAlike {level : Level} {room : Nat} {front inserted rest other : List Token}
    (begins : Begins level room front) (noBlank : NoBlankPhrase front)
    (nothing : AddsNothing inserted) (cut : CutOff rest other) :
    ReadAlike room inserted rest other level front := by
  induction begins with
  | @whole room tokens tree derivation =>
      exact .inl ⟨tree, derivation.deeper.readCleanly noBlank⟩
  | @group room opening front opens _ ih =>
      have inside := ih (NoBlankPhrase.cons.mp noBlank).2
      refine .inr ?_
      rw [List.cons_append, List.cons_append, readOperand_of_opening opens,
        readOperand_of_opening opens]
      change Agree (closeGroup opening.position (readExpr (room + 1) _))
        (closeGroup opening.position (readExpr (room + 1) _))
      rw [readExpr_eq]
      exact inside.closed cut opening.position
  | @atom room front only ih =>
      rcases only.head_atom with ⟨token, others, rfl, stays⟩
      have same (behind : List Token) :
          readNegation (readGroup (room + 1)) (token :: others ++ behind) =
            readOperand (readGroup (room + 1)) (token :: others ++ behind) :=
        readNegation_of_not_negates stays
      rcases ih noBlank with ⟨tree, reads⟩ | agree
      · exact .inl ⟨tree, fun behind => by rw [same, reads]⟩
      · exact .inr (by rw [same, same]; exact agree)
  | @not room token front negates _ ih =>
      rcases ih (NoBlankPhrase.cons.mp noBlank).2 with ⟨tree, reads⟩ | agree
      · exact .inl ⟨.not tree, fun behind => readNegation_of_negates negates (reads behind)⟩
      · have around := readNegation_cons_of_negates (readGroup (room + 1)) negates
        have first := around (front ++ (inserted ++ rest))
        have second := around (front ++ other)
        refine .inr ⟨?_, ?_, ?_⟩
        · rw [List.cons_append, first.1]
          simpa using agree.found
        · rw [List.cons_append, List.cons_append, first.1, second.1, agree.tree]
        · rw [List.cons_append, List.cons_append, first.2, second.2, agree.rest]
  | @negation room front _ ih =>
      rcases OperandAlike.goOn (ih noBlank) nothing cut with ⟨tree, first, second, goOn⟩
      rw [ReadAlike, readAnd_of_some first, readAnd_of_some second]
      exact (goOn tree).after
  | @and room left front joint leftTree earlier joins _ ih =>
      rcases NoBlankPhrase.append.mp noBlank with ⟨leftNoBlank, noBlankBehind⟩
      have laterNoBlank := (NoBlankPhrase.cons.mp noBlankBehind).2
      have cleanly := earlier.deeper.readCleanly leftNoBlank
      have skipped (behind : List Token) : skipAnd joint behind = behind := by
        simp [skipAnd, joins]
      rcases OperandAlike.goOn (ih laterNoBlank) nothing cut with ⟨tree, first, second, goOn⟩
      rw [ReadAlike, List.append_assoc, List.append_assoc, List.cons_append, List.cons_append,
        cleanly, cleanly, joinAnd_of_some (.inl joins) (by rw [skipped]; exact first),
        joinAnd_of_some (.inl joins) (by rw [skipped]; exact second), skipped, skipped]
      exact (goOn _).after.after
  | @juxtaposed room left front leftTree earlier later ih =>
      rcases NoBlankPhrase.append.mp noBlank with ⟨leftNoBlank, laterNoBlank⟩
      have cleanly := earlier.deeper.readCleanly leftNoBlank
      rcases OperandAlike.goOn (ih laterNoBlank) nothing cut with ⟨tree, first, second, goOn⟩
      rcases later.head with ⟨token, others, rfl, starts⟩
      have skipped (behind : List Token) :
          skipAnd token (others ++ behind) = token :: others ++ behind :=
        skipAnd_of_startsOperand starts (others ++ behind)
      rw [ReadAlike, List.append_assoc, List.append_assoc, cleanly, cleanly, List.cons_append,
        List.cons_append, joinAnd_of_some (.inr starts) (by rw [skipped]; exact first),
        joinAnd_of_some (.inr starts) (by rw [skipped]; exact second), skipped, skipped]
      exact (goOn _).after.after
  | @conjunction room front _ ih =>
      have alike := ih noBlank
      rcases AgreeUpTo.exists_tree alike with ⟨tree, first, second⟩
      rw [ReadAlike, readOr_of_some first, readOr_of_some second]
      exact (AgreeUpTo.goOn alike cut _ tree).after
  | @or room left front joint leftTree earlier joins _ ih =>
      rcases NoBlankPhrase.append.mp noBlank with ⟨leftNoBlank, noBlankBehind⟩
      have alike := ih (NoBlankPhrase.cons.mp noBlankBehind).2
      have atJoint (behind : List Token) : ∀ token ∈ (joint :: behind).head?,
          token.lexeme ≠ .and ∧ token.lexeme.startsOperand = false := by
        simp [joins, Lexeme.startsOperand]
      have cleanly := earlier.deeper.readCleanly leftNoBlank
      rcases AgreeUpTo.exists_tree alike with ⟨tree, first, second⟩
      rw [ReadAlike, List.append_assoc, List.append_assoc, List.cons_append, List.cons_append,
        cleanly _ (atJoint _), cleanly _ (atJoint _), joinOr_of_some joins first,
        joinOr_of_some joins second]
      exact (AgreeUpTo.goOn alike cut _ _).after.after

/-! ## Whole queries -/

/-- An expression that is found is joined to the tree read so far. -/
theorem tree_readParts_of_some {tokens : List Token} {right : Expr} (tree : Option Expr)
    (found : (readExpr nestingLimit tokens).tree = some right) :
    (readParts tree tokens).tree =
      (readParts (joinParts tree (some right)) (readExpr nestingLimit tokens).rest).tree := by
  have shorter := (reads_readExpr nestingLimit tokens).rest_length_lt (by simp [found])
  cases tokens with
  | nil => simp at shorter
  | cons token behind =>
      have consumed : (readExpr nestingLimit (token :: behind)).rest.length ≤ behind.length :=
        Nat.le_of_lt_succ shorter
      rw [readParts]
      simp [consumed, found]

/-- A token that begins no expression is left out. -/
theorem tree_readParts_of_isConnective {token : Token} (tree : Option Expr)
    (connective : token.lexeme.isConnective = true) (stays : token.lexeme ≠ .not)
    (behind : List Token) :
    (readParts tree (token :: behind)).tree = (readParts tree behind).tree := by
  have stray := Lexeme.startsOperand_of_isConnective connective stays
  rw [readParts_of_not_startsOperand tree stray, Reading.tree_after]

/-- Behind an operand, what adds nothing does what cutting off the tokens behind it does. -/
theorem Begins.tree_readTokens {front inserted rest other : List Token}
    (begins : Begins .disjunction (nestingLimit - 1) front) (noBlank : NoBlankPhrase front)
    (nothing : AddsNothing inserted) (cut : CutOff rest other) :
    (readTokens (front ++ (inserted ++ rest))).tree = (readTokens (front ++ other)).tree := by
  have alike : AgreeUpTo rest other (readExpr nestingLimit (front ++ (inserted ++ rest)))
      (readExpr nestingLimit (front ++ other)) := begins.readAlike noBlank nothing cut
  rcases alike.exists_tree with ⟨tree, first, second⟩
  rw [readTokens, readTokens, tree_readParts_of_some none first,
    tree_readParts_of_some none second]
  rcases alike.rest with same | ⟨atRest, atOther⟩
  · rw [same]
  · rw [atRest, atOther]
    cases cut with
    | ends => rfl
    | closed _ closes =>
        exact (tree_readParts_of_isConnective _ (by simp [closes, Lexeme.isConnective])
          (by simp [closes]) rest).symm

/-- A query is joined to the tree read so far. -/
theorem tree_readParts_of_derives {tokens : List Token} {right : Expr} (left : Expr)
    (derivation : Derives .disjunction nestingLimit tokens right)
    (noBlank : NoBlankPhrase tokens) :
    (readParts (some left) tokens).tree = some (.and left right) := by
  have reads : readExpr nestingLimit (tokens ++ []) = .clean right [] :=
    readExpr_of_derives derivation noBlank (by simp)
  rw [List.append_nil] at reads
  rw [tree_readParts_of_some (some left) (by rw [reads]; rfl), reads]
  simp [Reading.clean, joinParts, readParts]

/-- A closing parenthesis behind a query is left out, and what follows is joined to it. -/
theorem tree_readTokens_closing {tokens rest : List Token} {left : Expr} {closing : Token}
    (derivation : Derives .disjunction nestingLimit tokens left)
    (noBlank : NoBlankPhrase tokens) (closes : closing.lexeme = .closing) :
    (readTokens (tokens ++ closing :: rest)).tree = (readParts (some left) rest).tree := by
  have reads : readExpr nestingLimit (tokens ++ closing :: rest) = .clean left (closing :: rest) :=
    readExpr_of_derives derivation noBlank (by simp [closes])
  rw [readTokens, tree_readParts_of_some none (by rw [reads]; rfl), reads]
  exact tree_readParts_of_isConnective _ (by simp [closes, Lexeme.isConnective])
    (by simp [closes]) rest

/-- Behind an operand of a query, an empty group or a blank phrase changes nothing where the
conjunction ends anyway, and does what a closing parenthesis does where it would go on.
There, outside of groups, it makes two queries of one: what stands before and what stands
behind it are the sides of a conjunction, however loosely they bind. -/
theorem tree_insert_nothing {front rest inserted : List Token} {last closing : Token}
    {tree : Expr}
    (derivation : Derives .disjunction (nestingLimit - 1) (front ++ last :: rest) tree)
    (ends : last.lexeme.endsOperand = true) (noBlank : NoBlankPhrase (front ++ [last]))
    (nothing : AddsNothing inserted) (closes : closing.lexeme = .closing) :
    (conjunctionGoesOn rest = false →
      (readTokens (front ++ last :: (inserted ++ rest))).tree =
        (readTokens (front ++ last :: rest)).tree) ∧
    (conjunctionGoesOn rest = true →
      (readTokens (front ++ last :: (inserted ++ rest))).tree =
        (readTokens (front ++ last :: closing :: rest)).tree) ∧
    ∀ following left right,
      Derives .disjunction (nestingLimit - 1) (front ++ [last]) left →
      Derives .disjunction nestingLimit following right → NoBlankPhrase following →
      (rest = following ∨ ∃ joint, joint.lexeme = .and ∧ rest = joint :: following) →
      (readTokens (front ++ last :: (inserted ++ rest))).tree = some (.and left right) := by
  have begins : Begins .disjunction (nestingLimit - 1) (front ++ [last]) :=
    derivation.begins rfl ends
  have spread (behind : List Token) : front ++ last :: behind = front ++ [last] ++ behind := by
    simp
  have likeClosing (goesOn : conjunctionGoesOn rest = true) :
      (readTokens (front ++ last :: (inserted ++ rest))).tree =
        (readTokens (front ++ last :: closing :: rest)).tree := by
    rw [spread (inserted ++ rest), spread (closing :: rest)]
    exact begins.tree_readTokens noBlank nothing (.closed goesOn closes)
  refine ⟨?_, likeClosing, ?_⟩
  · intro stops
    rw [spread (inserted ++ rest), spread rest]
    exact begins.tree_readTokens noBlank nothing (.ends stops)
  · intro following left right before behind behindNoBlank continues
    have closingLeftOut : (readTokens (front ++ last :: closing :: rest)).tree =
        (readParts (some left) rest).tree := by
      rw [spread (closing :: rest)]
      exact tree_readTokens_closing before.deeper noBlank closes
    rcases continues with rfl | ⟨joint, joins, rfl⟩
    · rcases behind.head with ⟨token, others, rfl, starts⟩
      have goesOn : conjunctionGoesOn (token :: others) = true := by
        simp [conjunctionGoesOn, Stage.goesOn, starts]
      rw [likeClosing goesOn, closingLeftOut]
      exact tree_readParts_of_derives left behind behindNoBlank
    · have goesOn : conjunctionGoesOn (joint :: following) = true := by
        simp [conjunctionGoesOn, Stage.goesOn, joins]
      rw [likeClosing goesOn, closingLeftOut,
        tree_readParts_of_isConnective _ (by simp [joins, Lexeme.isConnective])
          (by simp [joins])]
      exact tree_readParts_of_derives left behind behindNoBlank

/-- The tokens of `b OR c` behind an operand. -/
def looseTokens : List Token := [⟨.term ['b'], 5⟩, ⟨.or, 7⟩, ⟨.term ['c'], 10⟩]

/-- The tree of `b OR c`. -/
def looseTree : Expr := .or (.operand (.term ['b'])) (.operand (.term ['c']))

/-- The tree of `a b OR c`. -/
def mixedTree : Expr :=
  .or (.and (.operand (.term ['a'])) (.operand (.term ['b']))) (.operand (.term ['c']))

/-- The empty group in `a () b OR c` makes the conjunction bind less than the disjunction. -/
theorem tree_insert_emptyGroup :
    (Derives .disjunction (nestingLimit - 1) ([] ++ ⟨.term ['a'], 0⟩ :: looseTokens) mixedTree ∧
      (⟨.term ['a'], 0⟩ : Token).lexeme.endsOperand = true ∧
      NoBlankPhrase ([] ++ [⟨.term ['a'], 0⟩]) ∧ AddsNothing [⟨.opening, 2⟩, ⟨.closing, 3⟩]) ∧
    (readTokens (⟨.term ['a'], 0⟩ :: looseTokens)).tree = some mixedTree ∧
    (readTokens (⟨.term ['a'], 0⟩ :: ⟨.opening, 2⟩ :: ⟨.closing, 3⟩ :: looseTokens)).tree =
      some (.and (.operand (.term ['a'])) looseTree) := by
  have word {room : Nat} (position : Nat) (text : Text) :
      Derives .negation room [⟨.term text, position⟩] (.operand (.term text)) :=
    .atom (.leaf rfl)
  have whole {room : Nat} :
      Derives .disjunction room (⟨.term ['a'], 0⟩ :: looseTokens) mixedTree :=
    .or (.conjunction (.juxtaposed (.negation (word 0 ['a'])) (word 5 ['b']))) rfl
      (.negation (word 10 ['c']))
  have before : Derives .disjunction (nestingLimit - 1) [⟨.term ['a'], 0⟩]
      (.operand (.term ['a'])) := .conjunction (.negation (word 0 ['a']))
  have behind : Derives .disjunction nestingLimit looseTokens looseTree :=
    .or (.conjunction (.negation (word 5 ['b']))) rfl (.negation (word 10 ['c']))
  have ends : (⟨.term ['a'], 0⟩ : Token).lexeme.endsOperand = true := rfl
  have noBlank : NoBlankPhrase ([] ++ [⟨.term ['a'], 0⟩]) := by decide
  have nothing : AddsNothing [⟨.opening, 2⟩, ⟨.closing, 3⟩] := .emptyGroup rfl rfl
  have within : Derives .disjunction (nestingLimit - 1)
      ([] ++ ⟨.term ['a'], 0⟩ :: looseTokens) mixedTree := whole
  have closes : (⟨.closing, 0⟩ : Token).lexeme = .closing := rfl
  have split := tree_insert_nothing within ends noBlank nothing closes
  refine ⟨⟨within, ends, noBlank, nothing⟩, ?_, ?_⟩
  · rw [readTokens_of_derives whole (by decide)]
    rfl
  · exact split.2.2 looseTokens _ looseTree before behind (by decide) (.inl rfl)

end SpecFinder.Query
