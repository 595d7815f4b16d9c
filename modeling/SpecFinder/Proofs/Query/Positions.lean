import SpecFinder.Proofs.Query.ReaderSteps

/-!
# Positions make no difference

Where its tokens stand makes no difference to how a query is read.  Positions appear in the
faults only: when the tokens are moved, the faults move along, and the tree and the criteria
stay.  Every reader has this law, `MovesAlong`, and those that call another one have it from
that one.
-/

namespace SpecFinder.Query

/-- A token with its lexeme at another place. -/
def Token.moved (place : Nat → Nat) (token : Token) : Token :=
  ⟨token.lexeme, place token.position⟩

/-- A fault of tokens that have been moved. -/
def Fault.moved (place : Nat → Nat) : Fault → Fault
  | .unexpected token => .unexpected (token.moved place)
  | .missingAfterAnd position => .missingAfterAnd (place position)
  | .missingAfterOr position => .missingAfterOr (place position)
  | .missingAfterNot position => .missingAfterNot (place position)
  | .emptyPhrase position => .emptyPhrase (place position)
  | .tooDeep position => .tooDeep (place position)
  | .unclosedGroup position => .unclosedGroup (place position)
  | .unclosedQuote position => .unclosedQuote (place position)

/-- A reading of tokens that have been moved. -/
def Reading.moved (place : Nat → Nat) (reading : Reading) : Reading :=
  { reading with
    faults := reading.faults.map (·.moved place)
    rest := reading.rest.map (·.moved place) }

/-- A reader that makes of moved tokens what it makes of the tokens, moved as well. -/
def MovesAlong (place : Nat → Nat) (read : List Token → Reading) : Prop :=
  ∀ tokens, read (tokens.map (·.moved place)) = (read tokens).moved place

/-- The same of a reader of groups, which is also given the place of the parenthesis. -/
def GroupsMoveAlong (place : Nat → Nat) (group : Nat → List Token → Reading) : Prop :=
  ∀ position tokens, group (place position) (tokens.map (·.moved place)) =
    (group position tokens).moved place

variable {place : Nat → Nat}

@[simp] theorem Token.lexeme_moved (token : Token) : (token.moved place).lexeme = token.lexeme :=
  rfl

@[simp] theorem Token.position_moved (token : Token) :
    (token.moved place).position = place token.position :=
  rfl

namespace Reading

variable {reading earlier : Reading} {faults : List Fault}

@[simp] theorem tree_moved : (reading.moved place).tree = reading.tree := rfl

@[simp] theorem rest_moved : (reading.moved place).rest = reading.rest.map (·.moved place) := rfl

theorem moved_after :
    (earlier.after reading).moved place = (earlier.moved place).after (reading.moved place) := by
  simp [moved, after]

theorem moved_report : (reading.report faults).moved place =
    (reading.moved place).report (faults.map (·.moved place)) := by
  simp [moved, report]

theorem moved_negated (negations : List Token) : (reading.negated negations).moved place =
    (reading.moved place).negated (negations.map (·.moved place)) := by
  simp only [negated, tree_moved, List.getLast?_map, List.foldl_map]
  cases found : reading.tree with
  | some tree => rfl
  | none =>
      cases negations.getLast? with
      | none => rfl
      | some last => exact moved_report

end Reading

/-! ## The readers -/

theorem moved_closeGroup (position : Nat) (inner : Reading) :
    closeGroup (place position) (inner.moved place) =
      (closeGroup position inner).moved place := by
  rcases closeGroup_cases position inner with ⟨token, rest, closes, found, closed⟩ | ⟨stays, isOpen⟩
  · have met : (inner.moved place).rest = token.moved place :: rest.map (·.moved place) := by
      rw [Reading.rest_moved, found, List.map_cons]
    rcases closeGroup_cases (place position) (inner.moved place) with
      ⟨other, others, _, same, closedThere⟩ | ⟨stays, _⟩
    · rw [met] at same
      cases same
      rw [closed, closedThere]
      rfl
    · exact (stays (token.moved place) (by rw [met]; rfl) closes).elim
  · rcases closeGroup_cases (place position) (inner.moved place) with
      ⟨other, others, closes, met, _⟩ | ⟨_, isOpenThere⟩
    · rw [Reading.rest_moved, List.map_eq_cons_iff] at met
      rcases met with ⟨token, rest, found, rfl, rfl⟩
      exact (stays token (by simp [found]) closes).elim
    · rw [isOpen, isOpenThere, Reading.moved_report]
      rfl

section

variable {group : Nat → List Token → Reading}

theorem movesAlong_readOperand (grouped : GroupsMoveAlong place group) :
    MovesAlong place (readOperand group) := by
  intro tokens
  cases tokens with
  | nil => rfl
  | cons token rest =>
      have same : (token.moved place).lexeme = token.lexeme := token.lexeme_moved
      rw [List.map_cons]
      rcases token.lexeme.operand_cases with ⟨leaf, writes⟩ | isBlank | opens | connective
      · rw [readOperand_of_operand writes, readOperand_of_operand (same ▸ writes)]
        rfl
      · rw [readOperand_of_isBlankPhrase isBlank, readOperand_of_isBlankPhrase (same ▸ isBlank)]
        rfl
      · rw [readOperand_of_opening opens, readOperand_of_opening (same ▸ opens)]
        exact grouped token.position rest
      · rw [readOperand_of_isConnective connective,
          readOperand_of_isConnective (same ▸ connective)]
        rfl

theorem movesAlong_readNegation (grouped : GroupsMoveAlong place group) :
    MovesAlong place (readNegation group) := by
  intro tokens
  have negates : Token.negates ∘ (·.moved place) = Token.negates := rfl
  rw [readNegation, readNegation, List.takeWhile_map, List.dropWhile_map, negates,
    movesAlong_readOperand grouped, Reading.moved_negated]

theorem groupsMoveAlong_readTooDeep : GroupsMoveAlong place readTooDeep := by
  intro position tokens
  have opens : Token.opensGroup ∘ (·.moved place) = Token.opensGroup := rfl
  have flat : GroupsMoveAlong place fun _ rest => .absent [] rest := by
    intro _ _
    rfl
  have operand := movesAlong_readOperand flat (tokens.dropWhile (·.opensGroup))
  rw [readTooDeep, readTooDeep, List.dropWhile_map, opens, Reading.moved_after]
  exact congrArg _ operand

end

theorem map_skipAnd (token : Token) (behind : List Token) :
    skipAnd (token.moved place) (behind.map (·.moved place)) =
      (skipAnd token behind).map (·.moved place) := by
  by_cases isAnd : token.lexeme = .and <;> simp [skipAnd, isAnd]

theorem map_missingAfter (token : Token) :
    missingAfter (token.moved place) = (missingAfter token).map (·.moved place) := by
  by_cases isAnd : token.lexeme = .and <;> simp [missingAfter, isAnd, Fault.moved]

section

variable {room : Nat}

theorem movesAlong_joinAnd (operand : MovesAlong place (readNegation (readGroup room)))
    (left : Expr) : MovesAlong place (joinAnd (readNegation (readGroup room)) left) := by
  intro tokens
  induction length : tokens.length using Nat.strong_induction_on generalizing left tokens with
  | _ count ih =>
      cases tokens with
      | nil =>
          rw [List.map_nil, joinAnd_of_stops (by simp)]
          rfl
      | cons token behind =>
          have same : (token.moved place).lexeme = token.lexeme := token.lexeme_moved
          rw [List.map_cons]
          by_cases joins : token.lexeme = .and ∨ token.lexeme.startsOperand = true
          · have next := operand (skipAnd token behind)
            rw [← map_skipAnd] at next
            have sameTree := congrArg Reading.tree next
            cases found : (readNegation (readGroup room) (skipAnd token behind)).tree with
            | none =>
                rw [joinAnd_of_none joins found,
                  joinAnd_of_none (same ▸ joins) (sameTree.trans found), next, map_missingAfter,
                  ← Reading.moved_report]
                rfl
            | some right =>
                have reads := reads_readNegation_readGroup room (skipAnd token behind)
                have consumed := reads.rest_length_lt (by simp [found])
                have skipped := (skipAnd_suffix token behind).length_le
                rw [joinAnd_of_some joins found,
                  joinAnd_of_some (same ▸ joins) (sameTree.trans found), next,
                  Reading.moved_after, ← ih _ (by omega) (.and left right) _ rfl,
                  Reading.rest_moved]
          · have stops : token.lexeme ≠ .and ∧ token.lexeme.startsOperand = false := by
              simpa using joins
            rw [joinAnd_of_stops (by simpa using stops), joinAnd_of_stops (by simpa using stops)]
            rfl

theorem movesAlong_readAnd (operand : MovesAlong place (readNegation (readGroup room))) :
    MovesAlong place (readAnd (readNegation (readGroup room))) := by
  intro tokens
  have first := operand tokens
  have sameTree := congrArg Reading.tree first
  cases found : (readNegation (readGroup room) tokens).tree with
  | none => rw [readAnd_of_none found, readAnd_of_none (sameTree.trans found), first]
  | some left =>
      rw [readAnd_of_some found, readAnd_of_some (sameTree.trans found), first,
        Reading.moved_after, ← movesAlong_joinAnd operand, Reading.rest_moved]

theorem movesAlong_joinOr (operand : MovesAlong place (readNegation (readGroup room)))
    (left : Expr) : MovesAlong place (joinOr (readNegation (readGroup room)) left) := by
  intro tokens
  induction length : tokens.length using Nat.strong_induction_on generalizing left tokens with
  | _ count ih =>
      cases tokens with
      | nil =>
          rw [List.map_nil, joinOr_of_stops (by simp)]
          rfl
      | cons token behind =>
          have same : (token.moved place).lexeme = token.lexeme := token.lexeme_moved
          rw [List.map_cons]
          by_cases joins : token.lexeme = .or
          · have next := movesAlong_readAnd operand behind
            have sameTree := congrArg Reading.tree next
            cases found : (readAnd (readNegation (readGroup room)) behind).tree with
            | none =>
                have told : [Fault.missingAfterOr (token.moved place).position] =
                    [Fault.missingAfterOr token.position].map (·.moved place) := rfl
                rw [joinOr_of_none joins found,
                  joinOr_of_none (same ▸ joins) (sameTree.trans found), next, told,
                  ← Reading.moved_report]
                rfl
            | some right =>
                have reads := reads_readAnd (reads_readNegation_readGroup room) behind
                have consumed := reads.rest_length_lt (by simp [found])
                rw [List.length_cons] at length
                rw [joinOr_of_some joins found,
                  joinOr_of_some (same ▸ joins) (sameTree.trans found), next,
                  Reading.moved_after, ← ih _ (by omega) (.or left right) _ rfl,
                  Reading.rest_moved]
          · rw [joinOr_of_stops (by simpa using joins), joinOr_of_stops (by simpa using joins)]
            rfl

theorem movesAlong_readExpr (grouped : GroupsMoveAlong place (readGroup room)) :
    MovesAlong place (readExpr room) := by
  rw [readExpr_eq]
  intro tokens
  have operand := movesAlong_readNegation grouped
  have first := movesAlong_readAnd operand tokens
  have sameTree := congrArg Reading.tree first
  cases found : (readAnd (readNegation (readGroup room)) tokens).tree with
  | none => rw [readOr_of_none found, readOr_of_none (sameTree.trans found), first]
  | some left =>
      rw [readOr_of_some found, readOr_of_some (sameTree.trans found), first,
        Reading.moved_after, ← movesAlong_joinOr operand, Reading.rest_moved]

end

theorem groupsMoveAlong_readGroup (room : Nat) : GroupsMoveAlong place (readGroup room) := by
  induction room with
  | zero => exact groupsMoveAlong_readTooDeep
  | succ room ih =>
      intro position tokens
      simp only [readGroup]
      rw [movesAlong_readExpr ih, moved_closeGroup]

theorem movesAlong_readParts (tree : Option Expr) : MovesAlong place (readParts tree) := by
  intro tokens
  induction length : tokens.length using Nat.strong_induction_on generalizing tree tokens with
  | _ count ih =>
      cases tokens with
      | nil =>
          rw [List.map_nil, readParts]
          rfl
      | cons token behind =>
          have same : (token.moved place).lexeme = token.lexeme := token.lexeme_moved
          rw [List.length_cons] at length
          cases starts : token.lexeme.startsOperand with
          | true =>
              have whole : MovesAlong place (readExpr nestingLimit) :=
                movesAlong_readExpr (groupsMoveAlong_readGroup nestingLimit)
              have next := whole (token :: behind)
              have consumed := rest_length_readExpr_le nestingLimit behind starts
              rw [readParts_of_startsOperand tree starts, Reading.moved_after,
                ← ih _ (by omega) _ _ rfl]
              rw [List.map_cons] at next ⊢
              rw [readParts_of_startsOperand tree (same ▸ starts), next, Reading.tree_moved,
                Reading.rest_moved]
          | false =>
              rw [readParts_of_not_startsOperand tree starts, Reading.moved_after,
                ← ih _ (by omega) _ _ rfl, List.map_cons,
                readParts_of_not_startsOperand tree (same ▸ starts)]
              rfl

/-- Tokens are read alike in any places, and what is reported moves along with them. -/
theorem readTokens_moved (place : Nat → Nat) (tokens : List Token) :
    readTokens (tokens.map (·.moved place)) = (readTokens tokens).moved place :=
  movesAlong_readParts none tokens

/-- The same lexemes make the same tree and ask for the same. -/
theorem readTokens_of_lexemes {tokens others : List Token}
    (same : tokens.map (·.lexeme) = others.map (·.lexeme)) :
    (readTokens tokens).tree = (readTokens others).tree ∧
      (readTokens tokens).criteria = (readTokens others).criteria := by
  -- All tokens are moved to one place, where nothing but their lexemes is left.
  have gather (list : List Token) :
      list.map (·.moved fun _ => 0) = (list.map (·.lexeme)).map fun lexeme => ⟨lexeme, 0⟩ := by
    rw [List.map_map]
    rfl
  have gathered :
      (readTokens tokens).moved (fun _ => 0) = (readTokens others).moved (fun _ => 0) := by
    rw [← readTokens_moved, ← readTokens_moved, gather, gather, same]
  exact ⟨congrArg (·.tree) gathered, congrArg (·.criteria) gathered⟩

end SpecFinder.Query
