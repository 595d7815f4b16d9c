import SpecFinder.Proofs.Query.EmptyOperand

/-!
# Beyond the nesting limit

Groups stand inside each other down to a limit.  An opening parenthesis beyond it is left
out, with those directly behind it, and one operand is read in its place.  Where an operand
stands there, it is as if the parentheses were not written.  A negation is no operand, so in
front of one nothing is read: all groups around the place are empty, and what is behind them
is a part of the query of its own.

The parentheses are compared with others in two steps.  `sameOutcome_tooDeep` and
`readOperand_of_negates` say how an operand is read that begins with them.  `Exchangeable`
says what two such beginnings have to have in common, and its lemmas follow the readers
through the tokens in front of them.
-/

namespace SpecFinder.Query

/-- No token is a parenthesis. -/
def NoParentheses (tokens : List Token) : Prop :=
  ∀ token ∈ tokens, token.lexeme ≠ .opening ∧ token.lexeme ≠ .closing

/-- All tokens are opening parentheses. -/
def AllOpen (tokens : List Token) : Prop := ∀ token ∈ tokens, token.lexeme = .opening

instance (tokens : List Token) : Decidable (NoParentheses tokens) :=
  inferInstanceAs (Decidable (∀ token ∈ tokens, token.lexeme ≠ .opening ∧ token.lexeme ≠ .closing))

instance (tokens : List Token) : Decidable (AllOpen tokens) :=
  inferInstanceAs (Decidable (∀ token ∈ tokens, token.lexeme = .opening))

theorem NoParentheses.tail {token : Token} {rest : List Token}
    (plain : NoParentheses (token :: rest)) : NoParentheses rest :=
  fun other member => plain other (List.mem_cons_of_mem token member)

theorem AllOpen.tail {token : Token} {rest : List Token} (open_ : AllOpen (token :: rest)) :
    AllOpen rest :=
  fun other member => open_ other (List.mem_cons_of_mem token member)

/-! ## Readings with the same outcome -/

/-- Readings of the same tree, if any, that leave the same tokens. -/
structure SameOutcome (reading other : Reading) : Prop where
  tree : reading.tree = other.tree
  rest : reading.rest = other.rest

namespace SameOutcome

variable {reading other : Reading}

theorem closeGroup (same : SameOutcome reading other) (position place : Nat) :
    SameOutcome (Query.closeGroup position reading) (Query.closeGroup place other) where
  tree := by rw [tree_closeGroup, tree_closeGroup, same.tree]
  rest := by rw [rest_closeGroup, rest_closeGroup, same.rest]

end SameOutcome

section

variable {room : Nat} {group : Nat → List Token → Reading} {tokens other : List Token}

theorem readNegation_of_head (stays : ∀ token ∈ tokens.head?, token.lexeme ≠ .not) :
    readNegation group tokens = readOperand group tokens := by
  cases tokens with
  | nil => simp [readNegation]
  | cons token rest => exact readNegation_of_not_negates (stays token rfl)

/-- What is read of an expression depends on its first operand and what that leaves. -/
theorem sameOutcome_readExpr
    (same : SameOutcome (readNegation (readGroup room) tokens)
      (readNegation (readGroup room) other)) :
    SameOutcome (readExpr room tokens) (readExpr room other) := by
  rw [readExpr_eq]
  have conjunction : SameOutcome (readAnd (readNegation (readGroup room)) tokens)
      (readAnd (readNegation (readGroup room)) other) := by
    cases found : (readNegation (readGroup room) tokens).tree with
    | none =>
        rw [readAnd_of_none found, readAnd_of_none (same.tree.symm.trans found)]
        exact same
    | some left =>
        rw [readAnd_of_some found, readAnd_of_some (same.tree.symm.trans found), same.rest]
        exact ⟨rfl, rfl⟩
  cases found : (readAnd (readNegation (readGroup room)) tokens).tree with
  | none =>
      rw [readOr_of_none found, readOr_of_none (conjunction.tree.symm.trans found)]
      exact conjunction
  | some left =>
      rw [readOr_of_some found, readOr_of_some (conjunction.tree.symm.trans found),
        conjunction.rest]
      exact ⟨rfl, rfl⟩

/-- An expression whose first operand is absent is absent. -/
theorem sameOutcome_readExpr_of_none (stays : ∀ token ∈ tokens.head?, token.lexeme ≠ .not)
    (absent : (readOperand (readGroup room) tokens).tree = none) :
    SameOutcome (readExpr room tokens) (readOperand (readGroup room) tokens) := by
  have negation : (readNegation (readGroup room) tokens).tree = none := by
    rw [readNegation_of_head stays]
    exact absent
  have conjunction := readAnd_of_none negation
  rw [readExpr_eq, readOr_of_none (by rw [conjunction]; exact negation), conjunction,
    readNegation_of_head stays]
  exact ⟨rfl, rfl⟩

end

/-! ## Parentheses beyond the limit -/

section

variable {rest deep shallow : List Token}

theorem dropWhile_opensGroup_append (deepOpen : AllOpen deep) :
    (deep ++ rest).dropWhile (·.opensGroup) = rest.dropWhile (·.opensGroup) := by
  apply List.dropWhile_append_of_pos
  intro token member
  simp [Token.opensGroup, deepOpen token member]

/-- At the limit, opening parentheses are passed over. -/
theorem sameOutcome_readOperand_zero (tokens : List Token) :
    SameOutcome (readOperand (readGroup 0) tokens)
      (readOperand (fun _ rest => .absent [] rest) (tokens.dropWhile (·.opensGroup))) := by
  cases tokens with
  | nil => exact ⟨rfl, rfl⟩
  | cons token behind =>
      by_cases opens : token.lexeme = .opening
      · have passed : token.opensGroup = true := by simp [Token.opensGroup, opens]
        rw [readOperand_of_opening opens, List.dropWhile_cons_of_pos passed]
        exact ⟨rfl, rfl⟩
      · have stays : token.opensGroup = false := by simp [Token.opensGroup, opens]
        rw [List.dropWhile_cons_of_neg (by simp [stays])]
        rcases token.lexeme.operand_cases with ⟨leaf, writes⟩ | isBlank | isOpening | connective
        · rw [readOperand_of_operand writes, readOperand_of_operand writes]
          exact ⟨rfl, rfl⟩
        · rw [readOperand_of_isBlankPhrase isBlank, readOperand_of_isBlankPhrase isBlank]
          exact ⟨rfl, rfl⟩
        · exact (opens isOpening).elim
        · rw [readOperand_of_isConnective connective, readOperand_of_isConnective connective]
          exact ⟨rfl, rfl⟩

theorem head_append_of_allOpen {lexeme : Lexeme} (deepOpen : AllOpen deep)
    (differs : lexeme ≠ .opening)
    (stays : deep = [] → ∀ token ∈ rest.head?, token.lexeme ≠ lexeme) :
    ∀ token ∈ (deep ++ rest).head?, token.lexeme ≠ lexeme := by
  cases deep with
  | nil => exact stays rfl
  | cons opening others =>
      intro token isHead same
      have opens := deepOpen opening List.mem_cons_self
      rw [List.cons_append, List.head?_cons, Option.mem_some_iff] at isHead
      rw [← same, ← isHead] at differs
      exact differs opens

/-- Where no negation follows, parentheses beyond the limit are as good as not written. -/
theorem sameOutcome_tooDeep (stays : ∀ token ∈ rest.head?, token.lexeme ≠ .not) (room : Nat)
    (deepOpen : AllOpen deep) (shallowOpen : AllOpen shallow) (tooDeep : room ≤ deep.length)
    (full : shallow.length = room) :
    SameOutcome (readOperand (readGroup room) (deep ++ rest))
      (readOperand (readGroup room) (shallow ++ rest)) := by
  induction room generalizing deep shallow with
  | zero =>
      have first := sameOutcome_readOperand_zero (deep ++ rest)
      have second := sameOutcome_readOperand_zero (shallow ++ rest)
      rw [dropWhile_opensGroup_append deepOpen] at first
      rw [dropWhile_opensGroup_append shallowOpen] at second
      exact ⟨first.tree.trans second.tree.symm, first.rest.trans second.rest.symm⟩
  | succ room ih =>
      cases deep with
      | nil => simp at tooDeep
      | cons opening deep =>
          cases shallow with
          | nil => simp at full
          | cons other shallow =>
              have noNegation {opens : List Token} (allOpen : AllOpen opens) :
                  ∀ token ∈ (opens ++ rest).head?, token.lexeme ≠ .not :=
                head_append_of_allOpen allOpen (by simp) fun _ => stays
              -- Inside the first groups there is room for one less, and each list is one shorter.
              have inside := ih deepOpen.tail shallowOpen.tail
                (Nat.le_of_succ_le_succ tooDeep) (Nat.succ.inj full)
              rw [List.cons_append, List.cons_append,
                readOperand_of_opening (deepOpen opening List.mem_cons_self),
                readOperand_of_opening (shallowOpen other List.mem_cons_self)]
              apply SameOutcome.closeGroup
              apply sameOutcome_readExpr
              rw [readNegation_of_head (noNegation deepOpen.tail),
                readNegation_of_head (noNegation shallowOpen.tail)]
              exact inside

/-- In front of a negation, parentheses beyond the limit are read as empty groups. -/
theorem readOperand_of_negates {token : Token} (negates : token.lexeme = .not) (room : Nat)
    (deepOpen : AllOpen deep) (tooDeep : room < deep.length) :
    SameOutcome (readOperand (readGroup room) (deep ++ token :: rest))
      (.absent [] (token :: rest)) := by
  induction room generalizing deep with
  | zero =>
      have stays : token.opensGroup = false := by simp [Token.opensGroup, negates]
      have connective : token.lexeme.isConnective = true := by simp [negates, Lexeme.isConnective]
      have passed := sameOutcome_readOperand_zero (deep ++ token :: rest)
      rwa [dropWhile_opensGroup_append deepOpen, List.dropWhile_cons_of_neg (by simp [stays]),
        readOperand_of_isConnective connective] at passed
  | succ room ih =>
      cases deep with
      | nil => simp at tooDeep
      | cons opening deep =>
          have deeper : room < deep.length := Nat.lt_of_succ_lt_succ tooDeep
          have inside := ih deepOpen.tail deeper
          have noNegation : ∀ other ∈ (deep ++ token :: rest).head?, other.lexeme ≠ .not := by
            apply head_append_of_allOpen deepOpen.tail (by simp)
            intro empty
            rw [empty] at deeper
            cases deeper
          have whole := sameOutcome_readExpr_of_none noNegation inside.tree
          rw [List.cons_append, readOperand_of_opening (deepOpen opening List.mem_cons_self)]
          constructor
          · change (closeGroup opening.position (readExpr room _)).tree = none
            rw [tree_closeGroup, whole.tree, inside.tree]
            rfl
          · change (closeGroup opening.position (readExpr room _)).rest = token :: rest
            rw [rest_closeGroup, whole.rest, inside.rest]
            simp [Reading.absent, negates]

end

/-! ## One list in the place of another -/

/-- The tokens behind the operand that some tokens begin with. -/
def behindOperand (room : Nat) (tokens : List Token) : List Token :=
  (readOperand (readGroup room) tokens).rest

/-- Tokens that may stand for one another behind tokens that are no parentheses: their first
operands have the same tree.  Without one, what they leave may differ, but only a new part of
a query goes on with it. -/
structure Exchangeable (room : Nat) (first second : List Token) : Prop where
  opens : ∀ token ∈ first.head?, token.lexeme = .opening
  secondOpens : ∀ token ∈ second.head?, token.lexeme = .opening
  tree : (readOperand (readGroup room) first).tree = (readOperand (readGroup room) second).tree
  behind : behindOperand room first = behindOperand room second ∨
    (readOperand (readGroup room) first).tree = none ∧
      (∀ token ∈ (behindOperand room first).head?, token.lexeme ≠ .or) ∧
      ∀ token ∈ (behindOperand room second).head?, token.lexeme ≠ .or

/-- Places that a reading reaches with the first tokens and with the second ones while the
operand they begin with is still to be read, or has been found. -/
inductive Onward (room : Nat) (first second : List Token) : List Token → List Token → Prop where
  | before {front : List Token} (plain : NoParentheses front) :
      Onward room first second (front ++ first) (front ++ second)
  | same (tokens : List Token) (agree : behindOperand room first = behindOperand room second) :
      Onward room first second tokens tokens

/-- All places that a reading reaches with the first tokens and with the second ones. -/
inductive Parallel (room : Nat) (first second : List Token) : List Token → List Token → Prop where
  | onward {tokens other : List Token} (onward : Onward room first second tokens other) :
      Parallel room first second tokens other
  | behind : Parallel room first second (behindOperand room first) (behindOperand room second)

/-- Readings of the same tree, if any, that end at parallel places. -/
structure Together (room : Nat) (first second : List Token) (reading other : Reading) : Prop where
  tree : other.tree = reading.tree
  rest : Parallel room first second reading.rest other.rest

namespace Together

variable {room : Nat} {first second : List Token} {reading other earlier earlierOther : Reading}

theorem after (together : Together room first second reading other) :
    Together room first second (earlier.after reading) (earlierOther.after other) :=
  ⟨together.tree, together.rest⟩

theorem report (together : Together room first second reading other) (faults others : List Fault)
    (tree : Option Expr) :
    Together room first second { reading.report faults with tree }
      { other.report others with tree } :=
  ⟨rfl, together.rest⟩

end Together

section

variable {room : Nat} {first second front : List Token}

theorem readNegation_of_opens {tokens : List Token}
    (opens : ∀ token ∈ tokens.head?, token.lexeme = .opening) :
    readNegation (readGroup room) tokens = readOperand (readGroup room) tokens := by
  apply readNegation_of_head
  intro token isHead
  simp [opens token isHead]

/-- An operand is the same behind tokens without parentheses, and where it is found, the
readings go on alike. -/
theorem together_readNegation (exchangeable : Exchangeable room first second)
    (plain : NoParentheses front) :
    Together room first second (readNegation (readGroup room) (front ++ first))
        (readNegation (readGroup room) (front ++ second)) ∧
      ((readNegation (readGroup room) (front ++ first)).tree ≠ none →
        Onward room first second (readNegation (readGroup room) (front ++ first)).rest
          (readNegation (readGroup room) (front ++ second)).rest) := by
  induction front with
  | nil =>
      rw [List.nil_append, List.nil_append, readNegation_of_opens exchangeable.opens,
        readNegation_of_opens exchangeable.secondOpens]
      refine ⟨⟨exchangeable.tree.symm, .behind⟩, ?_⟩
      intro found
      rcases exchangeable.behind with agree | ⟨absent, _⟩
      · change Onward room first second (behindOperand room first) (behindOperand room second)
        rw [← agree]
        exact .same _ agree
      · exact (found absent).elim
  | cons token front ih =>
      have inner := ih plain.tail
      rw [List.cons_append, List.cons_append]
      by_cases negates : token.lexeme = .not
      · have around := readNegation_cons_of_negates (readGroup room) negates
        rcases around (front ++ first) with ⟨tree, rest⟩
        rcases around (front ++ second) with ⟨otherTree, otherRest⟩
        refine ⟨⟨?_, ?_⟩, ?_⟩
        · rw [tree, otherTree, inner.1.tree]
        · rw [rest, otherRest]
          exact inner.1.rest
        · rw [tree, rest, otherRest]
          intro found
          apply inner.2
          intro absent
          rw [absent] at found
          exact found rfl
      · have onward : Onward room first second (front ++ first) (front ++ second) :=
          .before plain.tail
        rw [readNegation_of_not_negates negates, readNegation_of_not_negates negates]
        rcases token.lexeme.operand_cases with ⟨leaf, writes⟩ | isBlank | opens | connective
        · rw [readOperand_of_operand writes, readOperand_of_operand writes]
          exact ⟨⟨rfl, .onward onward⟩, fun _ => onward⟩
        · rw [readOperand_of_isBlankPhrase isBlank, readOperand_of_isBlankPhrase isBlank]
          exact ⟨⟨rfl, .onward onward⟩, fun found => (found rfl).elim⟩
        · exact ((plain token List.mem_cons_self).1 opens).elim
        · rw [readOperand_of_isConnective connective, readOperand_of_isConnective connective]
          exact ⟨⟨rfl, .onward (.before plain)⟩, fun found => (found rfl).elim⟩

/-- A conjunction that no operand follows is left as it is. -/
theorem joinAnd_of_absent {tokens : List Token} (left : Expr)
    (opens : ∀ token ∈ tokens.head?, token.lexeme = .opening)
    (absent : (readOperand (readGroup room) tokens).tree = none) :
    SameOutcome (joinAnd (readNegation (readGroup room)) left tokens)
      { tree := some left, rest := behindOperand room tokens } := by
  have operand : readNegation (readGroup room) tokens = readOperand (readGroup room) tokens :=
    readNegation_of_opens opens
  cases tokens with
  | nil =>
      rw [joinAnd]
      exact ⟨rfl, rfl⟩
  | cons token behind =>
      have starts : token.lexeme.startsOperand = true := by
        simp [opens token rfl, Lexeme.startsOperand]
      have kept := skipAnd_of_startsOperand starts behind
      rw [joinAnd_of_none (.inr starts) (by rw [kept, operand]; exact absent), kept, operand]
      exact ⟨rfl, rfl⟩

/-- An operand that is found joins a conjunction. -/
theorem joinAnd_of_found {tokens : List Token} {right : Expr} (left : Expr)
    (opens : ∀ token ∈ tokens.head?, token.lexeme = .opening)
    (found : (readOperand (readGroup room) tokens).tree = some right) :
    SameOutcome (joinAnd (readNegation (readGroup room)) left tokens)
      (joinAnd (readNegation (readGroup room)) (.and left right) (behindOperand room tokens)) := by
  have operand : readNegation (readGroup room) tokens = readOperand (readGroup room) tokens :=
    readNegation_of_opens opens
  cases tokens with
  | nil => cases found
  | cons token behind =>
      have starts : token.lexeme.startsOperand = true := by
        simp [opens token rfl, Lexeme.startsOperand]
      have kept := skipAnd_of_startsOperand starts behind
      rw [joinAnd_of_some (.inr starts) (by rw [kept, operand]; exact found), kept, operand]
      exact ⟨rfl, rfl⟩

/-- A conjunction goes on with the first tokens as with the second ones. -/
theorem together_joinAnd_self (exchangeable : Exchangeable room first second) (left : Expr) :
    Together room first second (joinAnd (readNegation (readGroup room)) left first)
      (joinAnd (readNegation (readGroup room)) left second) := by
  cases found : (readOperand (readGroup room) first).tree with
  | none =>
      have ended := joinAnd_of_absent left exchangeable.opens found
      have otherEnded := joinAnd_of_absent left exchangeable.secondOpens
        (exchangeable.tree.symm.trans found)
      constructor
      · rw [ended.tree, otherEnded.tree]
      · rw [ended.rest, otherEnded.rest]
        exact .behind
  | some right =>
      have joined := joinAnd_of_found left exchangeable.opens found
      have otherJoined := joinAnd_of_found left exchangeable.secondOpens
        (exchangeable.tree.symm.trans found)
      rcases exchangeable.behind with agree | ⟨absent, _⟩
      · constructor
        · rw [joined.tree, otherJoined.tree, agree]
        · rw [joined.rest, otherJoined.rest, agree]
          exact .onward (.same _ agree)
      · rw [absent] at found
        cases found

theorem together_joinAnd (exchangeable : Exchangeable room first second) (left : Expr)
    {tokens other : List Token} (onward : Onward room first second tokens other) :
    Together room first second (joinAnd (readNegation (readGroup room)) left tokens)
      (joinAnd (readNegation (readGroup room)) left other) := by
  induction length : tokens.length using Nat.strong_induction_on
    generalizing left tokens other with
  | _ count ih =>
      cases onward with
      | same tokens agree => exact ⟨rfl, .onward (.same _ agree)⟩
      | @before front plain =>
          -- The readings go through the front alike, until they come to the exchanged tokens.
          cases front with
          | nil => exact together_joinAnd_self exchangeable left
          | cons token front =>
              rw [List.cons_append, List.cons_append]
              by_cases joins : token.lexeme = .and ∨ token.lexeme.startsOperand = true
              · have skippedPlain : NoParentheses (skipAnd token front) := by
                  intro each member
                  exact plain each ((skipAnd_suffix token front).mem member)
                have next := together_readNegation exchangeable skippedPlain
                rw [← skipAnd_append, ← skipAnd_append] at next
                cases found : (readNegation (readGroup room)
                    (skipAnd token (front ++ first))).tree with
                | none =>
                    rw [joinAnd_of_none joins found,
                      joinAnd_of_none joins (next.1.tree.trans found)]
                    exact next.1.report _ _ _
                | some right =>
                    have reads := reads_readNegation_readGroup room
                      (skipAnd token (front ++ first))
                    have consumed := reads.rest_length_lt (by simp [found])
                    have skipped := (skipAnd_suffix token (front ++ first)).length_le
                    rw [List.cons_append] at length
                    rw [joinAnd_of_some joins found,
                      joinAnd_of_some joins (next.1.tree.trans found)]
                    exact (ih _ (by omega) (.and left right) (next.2 (by simp [found])) rfl).after
              · have stops : token.lexeme ≠ .and ∧ token.lexeme.startsOperand = false := by
                  simpa using joins
                rw [joinAnd_of_stops (by simpa using stops),
                  joinAnd_of_stops (by simpa using stops)]
                exact ⟨rfl, .onward (.before plain)⟩

theorem together_readAnd (exchangeable : Exchangeable room first second)
    (plain : NoParentheses front) :
    Together room first second (readAnd (readNegation (readGroup room)) (front ++ first))
      (readAnd (readNegation (readGroup room)) (front ++ second)) := by
  rcases together_readNegation exchangeable plain with ⟨operand, onward⟩
  cases found : (readNegation (readGroup room) (front ++ first)).tree with
  | none =>
      rw [readAnd_of_none found, readAnd_of_none (operand.tree.trans found)]
      exact operand
  | some left =>
      rw [readAnd_of_some found, readAnd_of_some (operand.tree.trans found)]
      exact (together_joinAnd exchangeable left (onward (by simp [found]))).after

theorem together_joinOr (exchangeable : Exchangeable room first second) (left : Expr)
    {tokens other : List Token} (parallel : Parallel room first second tokens other) :
    Together room first second (joinOr (readNegation (readGroup room)) left tokens)
      (joinOr (readNegation (readGroup room)) left other) := by
  induction length : tokens.length using Nat.strong_induction_on
    generalizing left tokens other with
  | _ count ih =>
      cases parallel with
      | behind =>
          rcases exchangeable.behind with agree | ⟨_, stops, otherStops⟩
          · rw [← agree]
            exact ⟨rfl, .onward (.same _ agree)⟩
          · rw [joinOr_of_stops stops, joinOr_of_stops otherStops]
            exact ⟨rfl, .behind⟩
      | onward onward =>
          cases onward with
          | same tokens agree => exact ⟨rfl, .onward (.same _ agree)⟩
          | @before front plain =>
              cases front with
              | nil =>
                  have noOr {tokens : List Token}
                      (opens : ∀ token ∈ tokens.head?, token.lexeme = .opening) :
                      ∀ token ∈ tokens.head?, token.lexeme ≠ .or := by
                    intro token isHead
                    simp [opens token isHead]
                  rw [List.nil_append, List.nil_append, joinOr_of_stops (noOr exchangeable.opens),
                    joinOr_of_stops (noOr exchangeable.secondOpens)]
                  exact ⟨rfl, .onward (.before plain)⟩
              | cons token front =>
                  rw [List.cons_append, List.cons_append]
                  by_cases joins : token.lexeme = .or
                  · have next := together_readAnd exchangeable plain.tail
                    cases found :
                        (readAnd (readNegation (readGroup room)) (front ++ first)).tree with
                    | none =>
                        rw [joinOr_of_none joins found,
                          joinOr_of_none joins (next.tree.trans found)]
                        exact next.report _ _ _
                    | some right =>
                        have reads := reads_readAnd (reads_readNegation_readGroup room)
                          (front ++ first)
                        have consumed := reads.rest_length_lt (by simp [found])
                        rw [List.cons_append, List.length_cons] at length
                        rw [joinOr_of_some joins found,
                          joinOr_of_some joins (next.tree.trans found)]
                        exact (ih _ (by omega) (.or left right) next.rest rfl).after
                  · rw [joinOr_of_stops (by simpa using joins),
                      joinOr_of_stops (by simpa using joins)]
                    exact ⟨rfl, .onward (.before plain)⟩

theorem together_readExpr (exchangeable : Exchangeable room first second)
    (plain : NoParentheses front) :
    Together room first second (readExpr room (front ++ first))
      (readExpr room (front ++ second)) := by
  rw [readExpr_eq]
  have conjunction := together_readAnd exchangeable plain
  cases found : (readAnd (readNegation (readGroup room)) (front ++ first)).tree with
  | none =>
      rw [readOr_of_none found, readOr_of_none (conjunction.tree.trans found)]
      exact conjunction
  | some left =>
      rw [readOr_of_some found, readOr_of_some (conjunction.tree.trans found)]
      exact (together_joinOr exchangeable left conjunction.rest).after

end

/-! ## Whole queries -/

section

variable {first second : List Token}

/-- Query readings that have the same tree, or come to what stands behind the two operands
with the same tree in hand. -/
def EndAlike (first second : List Token) (reading other : Reading) : Prop :=
  (behindOperand nestingLimit first = behindOperand nestingLimit second ∧
      reading.tree = other.tree) ∨
    ∃ joined, reading.tree = (readParts joined (behindOperand nestingLimit first)).tree ∧
      other.tree = (readParts joined (behindOperand nestingLimit second)).tree

theorem EndAlike.after {reading other earlier earlierOther : Reading}
    (alike : EndAlike first second reading other) :
    EndAlike first second (earlier.after reading) (earlierOther.after other) :=
  alike

/-- An expression that begins with a group, or has no tokens, is a part of a query. -/
theorem tree_readParts_of_opens {tokens : List Token} (tree : Option Expr)
    (opens : ∀ token ∈ tokens.head?, token.lexeme = .opening) :
    (readParts tree tokens).tree =
      (readParts (joinParts tree (readExpr nestingLimit tokens).tree)
        (readExpr nestingLimit tokens).rest).tree := by
  cases tokens with
  | nil =>
      have absent : SameOutcome (readExpr nestingLimit []) (.absent [] []) :=
        sameOutcome_readExpr_of_none (by simp) rfl
      rw [absent.tree, absent.rest]
      cases tree <;> rfl
  | cons token behind =>
      have starts : token.lexeme.startsOperand = true := by
        simp [opens token rfl, Lexeme.startsOperand]
      rw [readParts_of_startsOperand tree starts, Reading.tree_after]

theorem endAlike_readParts_self (exchangeable : Exchangeable nestingLimit first second)
    (tree : Option Expr) : EndAlike first second (readParts tree first) (readParts tree second) := by
  have noNegation {tokens : List Token}
      (opens : ∀ token ∈ tokens.head?, token.lexeme = .opening) :
      ∀ token ∈ tokens.head?, token.lexeme ≠ .not := by
    intro token isHead
    simp [opens token isHead]
  have whole := tree_readParts_of_opens tree exchangeable.opens
  have otherWhole := tree_readParts_of_opens tree exchangeable.secondOpens
  rcases exchangeable.behind with agree | ⟨absent, _⟩
  · have operands : SameOutcome (readNegation (readGroup nestingLimit) first)
        (readNegation (readGroup nestingLimit) second) := by
      rw [readNegation_of_opens exchangeable.opens, readNegation_of_opens exchangeable.secondOpens]
      exact ⟨exchangeable.tree, agree⟩
    have same := sameOutcome_readExpr operands
    exact .inl ⟨agree, by rw [whole, otherWhole, same.tree, same.rest]⟩
  · have ended := sameOutcome_readExpr_of_none (noNegation exchangeable.opens) absent
    have otherEnded := sameOutcome_readExpr_of_none (noNegation exchangeable.secondOpens)
      (exchangeable.tree.symm.trans absent)
    refine .inr ⟨joinParts tree none, ?_, ?_⟩
    · rw [whole, ended.tree, ended.rest, absent]
      rfl
    · rw [otherWhole, otherEnded.tree, otherEnded.rest, ← exchangeable.tree, absent]
      rfl

theorem endAlike_readParts (exchangeable : Exchangeable nestingLimit first second)
    (tree : Option Expr) {tokens other : List Token}
    (parallel : Parallel nestingLimit first second tokens other) :
    EndAlike first second (readParts tree tokens) (readParts tree other) := by
  induction length : tokens.length using Nat.strong_induction_on
    generalizing tree tokens other with
  | _ count ih =>
      cases parallel with
      | behind => exact .inr ⟨tree, rfl, rfl⟩
      | onward onward =>
          cases onward with
          | same tokens agree => exact .inl ⟨agree, rfl⟩
          | @before front plain =>
              cases front with
              | nil =>
                  rw [List.nil_append, List.nil_append]
                  exact endAlike_readParts_self exchangeable tree
              | cons token front =>
                  have next := together_readExpr exchangeable plain
                  rw [List.cons_append, List.cons_append] at next ⊢
                  rw [List.cons_append, List.length_cons] at length
                  cases starts : token.lexeme.startsOperand with
                  | true =>
                      have consumed := rest_length_readExpr_le nestingLimit (front ++ first) starts
                      rw [readParts_of_startsOperand tree starts,
                        readParts_of_startsOperand tree starts, next.tree]
                      exact (ih _ (by omega) _ next.rest rfl).after
                  | false =>
                      rw [readParts_of_not_startsOperand tree starts,
                        readParts_of_not_startsOperand tree starts]
                      have shorter : Onward nestingLimit first second (front ++ first)
                          (front ++ second) := .before plain.tail
                      exact (ih _ (by omega) tree (.onward shorter) rfl).after

end

section

variable {front deep shallow rest : List Token}

theorem head_opens_of_allOpen (deepOpen : AllOpen deep) (nonempty : 0 < deep.length) :
    ∀ token ∈ (deep ++ rest).head?, token.lexeme = .opening := by
  cases deep with
  | nil => cases nonempty
  | cons opening others =>
      intro token isHead
      cases isHead
      exact deepOpen opening List.mem_cons_self

/-- Where no negation follows, parentheses beyond the limit may be left out. -/
theorem tree_readTokens_of_stays (stays : ∀ token ∈ rest.head?, token.lexeme ≠ .not)
    (plain : NoParentheses front) (deepOpen : AllOpen deep) (shallowOpen : AllOpen shallow)
    (tooDeep : nestingLimit < deep.length) (full : shallow.length = nestingLimit) :
    (readTokens (front ++ (deep ++ rest))).tree =
      (readTokens (front ++ (shallow ++ rest))).tree := by
  have same := sameOutcome_tooDeep stays nestingLimit deepOpen shallowOpen tooDeep.le full
  have exchangeable : Exchangeable nestingLimit (deep ++ rest) (shallow ++ rest) :=
    { opens := head_opens_of_allOpen deepOpen (Nat.zero_lt_of_lt tooDeep)
      secondOpens := head_opens_of_allOpen shallowOpen (full ▸ by decide)
      tree := same.tree
      behind := .inl same.rest }
  rcases endAlike_readParts exchangeable none (.onward (.before plain)) with
    ⟨_, trees⟩ | ⟨joined, first, second⟩
  · exact trees
  · rw [readTokens, readTokens, first, second, behindOperand, same.rest]
    rfl

/-- In front of a negation, parentheses beyond the limit end what has been read. -/
theorem tree_readTokens_of_negates {token : Token} (negates : token.lexeme = .not)
    (plain : NoParentheses front) (deepOpen : AllOpen deep)
    (tooDeep : nestingLimit < deep.length) :
    (readTokens (front ++ (deep ++ token :: rest))).tree =
      (readParts (readTokens front).tree (token :: rest)).tree := by
  have leaves : SameOutcome (readOperand (readGroup nestingLimit) (deep ++ token :: rest))
      (.absent [] (token :: rest)) := readOperand_of_negates negates nestingLimit deepOpen tooDeep
  have reaches : behindOperand nestingLimit (deep ++ token :: rest) = token :: rest := leaves.rest
  -- The parentheses are exchanged for no tokens at all.
  have exchangeable : Exchangeable nestingLimit (deep ++ token :: rest) [] :=
    { opens := head_opens_of_allOpen deepOpen (Nat.zero_lt_of_lt tooDeep)
      secondOpens := by simp
      tree := leaves.tree
      behind := by
        refine .inr ⟨leaves.tree, ?_, ?_⟩
        · rw [reaches]
          simp [negates]
        · simp [behindOperand, readOperand, Reading.absent] }
  have alike := endAlike_readParts exchangeable none (.onward (.before plain))
  rw [EndAlike, reaches, List.append_nil] at alike
  rcases alike with ⟨agree, _⟩ | ⟨joined, first, second⟩
  · cases agree
  · have read : (readParts joined (behindOperand nestingLimit [])).tree = joined := by
      change (readParts joined []).tree = joined
      rw [readParts]
    rw [readTokens, readTokens, first, second, read]

/-- Behind tokens that are no parentheses, opening parentheses beyond the nesting limit are as
good as not written, if what is behind them is no negation.  In front of a negation they are
read as nothing, whatever waits for an operand there, and with the negation a new part of the
query begins: it is joined to what has been read before the parentheses. -/
theorem tree_readTokens_tooDeep (plain : NoParentheses front) (deepOpen : AllOpen deep)
    (shallowOpen : AllOpen shallow) (tooDeep : nestingLimit < deep.length)
    (full : shallow.length = nestingLimit) :
    ((∀ token ∈ rest.head?, token.lexeme ≠ .not) →
      (readTokens (front ++ (deep ++ rest))).tree =
        (readTokens (front ++ (shallow ++ rest))).tree) ∧
    ((∃ token ∈ rest.head?, token.lexeme = .not) →
      (readTokens (front ++ (deep ++ rest))).tree =
          (readParts (readTokens front).tree rest).tree ∧
        ∀ left right, (readTokens front).tree = some left →
          Derives .disjunction nestingLimit rest right → NoBlankPhrase rest →
          (readTokens (front ++ (deep ++ rest))).tree = some (.and left right)) := by
  constructor
  · intro stays
    exact tree_readTokens_of_stays stays plain deepOpen shallowOpen tooDeep full
  · rintro ⟨token, isHead, negates⟩
    cases rest with
    | nil => cases isHead
    | cons head behind =>
        cases isHead
        have parted : (readTokens (front ++ (deep ++ token :: behind))).tree =
            (readParts (readTokens front).tree (token :: behind)).tree :=
          tree_readTokens_of_negates negates plain deepOpen tooDeep
        refine ⟨parted, ?_⟩
        intro left right read derivation noBlank
        rw [parted, read]
        exact tree_readParts_of_derives left derivation noBlank

end

/-- The tokens of `x OR`. -/
def openDisjunction : List Token := [⟨.term ['x'], 0⟩, ⟨.or, 2⟩]

/-- As many opening parentheses as `count` says. -/
def openings (count : Nat) : List Token := List.replicate count ⟨.opening, 5⟩

/-- The tokens of `NOT a`. -/
def negatedWord : List Token := [⟨.not, 38⟩, ⟨.term ['a'], 42⟩]

theorem allOpen_openings (count : Nat) : AllOpen (openings count) := by
  intro token member
  rw [List.eq_of_mem_replicate member]

/-- One parenthesis too many in front of `NOT a` makes a conjunction of `x OR` and `NOT a`. -/
theorem tree_openDisjunction_tooDeep :
    (NoParentheses openDisjunction ∧ AllOpen (openings 33) ∧ AllOpen (openings 32) ∧
      nestingLimit < (openings 33).length ∧ (openings 32).length = nestingLimit) ∧
    (readTokens (openDisjunction ++ (openings 33 ++ negatedWord))).tree =
      some (.and (.operand (.term ['x'])) (.not (.operand (.term ['a'])))) ∧
    (readTokens (openDisjunction ++ (openings 32 ++ negatedWord))).tree =
      some (.or (.operand (.term ['x'])) (.not (.operand (.term ['a'])))) := by
  have plain : NoParentheses openDisjunction := by decide
  have tooDeep : nestingLimit < (openings 33).length := by decide
  have full : (openings 32).length = nestingLimit := by decide
  have derivation : Derives .disjunction nestingLimit negatedWord (.not (.operand (.term ['a']))) :=
    .conjunction (.negation (.not rfl (.atom (.leaf rfl))))
  have read : (readTokens openDisjunction).tree = some (.operand (.term ['x'])) := by
    decide +kernel
  have negates : ∃ token ∈ negatedWord.head?, token.lexeme = .not := ⟨⟨.not, 38⟩, rfl, rfl⟩
  have parted := (tree_readTokens_tooDeep plain (allOpen_openings 33) (allOpen_openings 32)
    tooDeep full).2 negates
  refine ⟨⟨plain, allOpen_openings 33, allOpen_openings 32, tooDeep, full⟩, ?_, ?_⟩
  · exact parted.2 _ _ read derivation (by decide)
  · decide +kernel

end SpecFinder.Query
