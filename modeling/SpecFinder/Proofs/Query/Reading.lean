import SpecFinder.Query.Reader

/-!
# Reading step by step

The readers of a query are functions with loops that break off and operands that are
silently absent.  `Reads` lists once what each of them can do: which tokens it looks
at, what it consumes, and what it reports.  A loop is a run from left to right, so
that what a step preserves holds of the whole run by induction.

`reads_readExpr` and `readsParts_readTokens` say that the readers do nothing else.
-/

namespace SpecFinder.Query

namespace Lexeme

/-- The operand that a lexeme writes. -/
def leaf? : Lexeme → Option Operand
  | .term word => some (.term word)
  | .phrase body => some (.phrase body)
  | .fuzzy word => some (.fuzzy word)
  | .field word => some (.ofFieldWord word)
  | _ => none

/-- Whether a lexeme is a phrase of nothing but white space. -/
def isBlankPhrase : Lexeme → Bool
  | .phrase body => (Text.trim body).isEmpty
  | _ => false

/-- The operand that a lexeme adds to a tree. A blank phrase adds none. -/
def operand? (lexeme : Lexeme) : Option Operand :=
  if lexeme.isBlankPhrase then none else lexeme.leaf?

/-- Whether a lexeme joins, negates or closes, so that no operand begins with it. -/
def isConnective : Lexeme → Bool
  | .and | .or | .not | .closing => true
  | _ => false

theorem operand?_eq_some {lexeme : Lexeme} {leaf : Operand}
    (writes : lexeme.operand? = some leaf) :
    lexeme.isBlankPhrase = false ∧ lexeme.leaf? = some leaf := by
  simp only [operand?] at writes
  cases blank : lexeme.isBlankPhrase with
  | true => simp [blank] at writes
  | false => simpa [blank] using writes

@[simp] theorem operand?_opening : operand? .opening = none := rfl

@[simp] theorem operand?_not : operand? .not = none := rfl

@[simp] theorem operand?_and : operand? .and = none := rfl

@[simp] theorem operand?_or : operand? .or = none := rfl

@[simp] theorem operand?_closing : operand? .closing = none := rfl

theorem operand?_of_isConnective {lexeme : Lexeme} (connective : lexeme.isConnective = true) :
    lexeme.operand? = none := by
  cases lexeme <;> first | rfl | simp [isConnective] at connective

theorem operand?_of_isBlankPhrase {lexeme : Lexeme} (blank : lexeme.isBlankPhrase = true) :
    lexeme.operand? = none := by
  simp [operand?, blank]

theorem startsOperand_of_isConnective {lexeme : Lexeme}
    (connective : lexeme.isConnective = true) (stays : lexeme ≠ .not) :
    lexeme.startsOperand = false := by
  cases lexeme with
  | and | or | closing => rfl
  | not => exact (stays rfl).elim
  | term | phrase | fuzzy | field | opening => cases connective

/-- What can be done with a lexeme where an operand is due. -/
theorem operand_cases (lexeme : Lexeme) :
    (∃ leaf, lexeme.operand? = some leaf) ∨ lexeme.isBlankPhrase = true ∨
      lexeme = .opening ∨ lexeme.isConnective = true := by
  cases lexeme with
  | phrase body =>
      cases blank : (phrase body).isBlankPhrase with
      | true => exact .inr (.inl rfl)
      | false => exact .inl ⟨.phrase body, by simp [operand?, blank, leaf?]⟩
  | term word => exact .inl ⟨.term word, rfl⟩
  | fuzzy word => exact .inl ⟨.fuzzy word, rfl⟩
  | field word => exact .inl ⟨.ofFieldWord word, rfl⟩
  | opening => exact .inr (.inr (.inl rfl))
  | and | or | not | closing => exact .inr (.inr (.inr rfl))

end Lexeme

namespace Criteria

variable {first second third : Criteria}

@[simp] theorem terms_append : (first ++ second).terms = first.terms ++ second.terms := rfl

@[simp] theorem fuzzyTerms_append :
    (first ++ second).fuzzyTerms = first.fuzzyTerms ++ second.fuzzyTerms := rfl

@[simp] theorem fieldFilters_append :
    (first ++ second).fieldFilters = first.fieldFilters ++ second.fieldFilters := rfl

@[simp] theorem dateFilters_append :
    (first ++ second).dateFilters = first.dateFilters ++ second.dateFilters := rfl

theorem append_assoc : first ++ second ++ third = first ++ (second ++ third) := by
  ext1 <;> simp

@[simp] theorem append_empty : first ++ ({} : Criteria) = first := by
  ext1 <;> simp

@[simp] theorem empty_append : ({} : Criteria) ++ first = first := by
  ext1 <;> simp

end Criteria

namespace Reading

variable {earlier reading : Reading} {negations : List Token} {faults : List Fault}

@[simp] theorem tree_after : (earlier.after reading).tree = reading.tree := rfl

@[simp] theorem criteria_after :
    (earlier.after reading).criteria = earlier.criteria ++ reading.criteria := rfl

@[simp] theorem faults_after :
    (earlier.after reading).faults = earlier.faults ++ reading.faults := rfl

@[simp] theorem rest_after : (earlier.after reading).rest = reading.rest := rfl

theorem after_after {first second : Reading} :
    (first.after second).after reading = first.after (second.after reading) := by
  simp [after, Criteria.append_assoc]

/-- A loop that ends at once changes nothing. -/
theorem after_end {left : Expr} (held : reading.tree = some left) :
    reading.after { tree := some left, rest := reading.rest } = reading := by
  simp [after, ← held]

theorem start_after {tokens : List Token} :
    Reading.after { tree := none, rest := tokens } reading = reading := by
  simp [after]

@[simp] theorem tree_report : (reading.report faults).tree = reading.tree := rfl

@[simp] theorem criteria_report : (reading.report faults).criteria = reading.criteria := rfl

@[simp] theorem faults_report : (reading.report faults).faults = reading.faults ++ faults := rfl

@[simp] theorem rest_report : (reading.report faults).rest = reading.rest := rfl

@[simp] theorem tree_negated : (reading.negated negations).tree =
    reading.tree.map fun tree => negations.foldl (fun tree _ => .not tree) tree := by
  simp only [negated]
  cases found : reading.tree with
  | some tree => rfl
  | none => cases negations.getLast? <;> simp [found]

@[simp] theorem criteria_negated :
    (reading.negated negations).criteria = reading.criteria := by
  simp only [negated]
  split <;> rfl

@[simp] theorem rest_negated : (reading.negated negations).rest = reading.rest := by
  simp only [negated]
  split <;> rfl

@[simp] theorem negated_nil : reading.negated [] = reading := by
  simp only [negated]
  cases found : reading.tree with
  | some tree => simp [← found]
  | none => rfl

end Reading

section

variable {position : Nat} {inner : Reading}

@[simp] theorem tree_closeGroup : (closeGroup position inner).tree = inner.tree := by
  simp only [closeGroup]
  split <;> rfl

@[simp] theorem criteria_closeGroup :
    (closeGroup position inner).criteria = inner.criteria := by
  simp only [closeGroup]
  split <;> rfl

/-- Closing a group either consumes its closing parenthesis or reports that there is
none. -/
theorem closeGroup_cases (position : Nat) (inner : Reading) :
    (∃ token rest, token.lexeme = .closing ∧ inner.rest = token :: rest ∧
      closeGroup position inner = { inner with rest := rest }) ∨
    ((∀ token ∈ inner.rest.head?, token.lexeme ≠ .closing) ∧
      closeGroup position inner = inner.report [.unclosedGroup position]) := by
  simp only [closeGroup]
  split
  next place rest found => exact .inl ⟨⟨.closing, place⟩, rest, rfl, found, rfl⟩
  next other =>
    refine .inr ⟨?_, rfl⟩
    intro token isHead closes
    rcases List.head?_eq_some_iff.mp isHead with ⟨rest, found⟩
    cases token with
    | mk lexeme place =>
        cases closes
        exact other place rest found

end

/-- What is being read. A loop that has read some operands and may go on is a stage of
its own. -/
inductive Stage where
  | operand
  | negation
  | conjoining
  | conjunction
  | disjoining
  | disjunction

/-- What the readers can do with the front of a token list when `room` more groups may
stand inside each other. -/
inductive Reads : (room : Nat) → Stage → List Token → Reading → Prop where
  | absent {room : Nat} {tokens : List Token}
      (head : ∀ token ∈ tokens.head?, token.lexeme.isConnective = true) :
      Reads room .operand tokens (.absent [] tokens)
  | leaf {room : Nat} {token : Token} {rest : List Token} {leaf : Operand}
      (writes : token.lexeme.operand? = some leaf) :
      Reads room .operand (token :: rest) (.ofOperand leaf rest)
  | blank {room : Nat} {token : Token} {rest : List Token}
      (isBlank : token.lexeme.isBlankPhrase = true) :
      Reads room .operand (token :: rest) (.absent [.emptyPhrase token.position] rest)
  | group {room : Nat} {token : Token} {rest : List Token} {inner : Reading}
      (opens : token.lexeme = .opening) (reads : Reads room .disjunction rest inner) :
      Reads (room + 1) .operand (token :: rest) (closeGroup token.position inner)
  | tooDeep {token : Token} {rest : List Token} {inner : Reading}
      (opens : token.lexeme = .opening)
      (reads : Reads 0 .operand (rest.dropWhile (·.opensGroup)) inner) :
      Reads 0 .operand (token :: rest)
        (.after (.absent [.tooDeep token.position] rest) inner)
  | negated {room : Nat} {negations rest : List Token} {inner : Reading}
      (negate : ∀ token ∈ negations, token.lexeme = .not)
      (stops : ∀ token ∈ rest.head?, token.lexeme ≠ .not)
      (reads : Reads room .operand rest inner) :
      Reads room .negation (negations ++ rest) (inner.negated negations)
  | firstAnd {room : Nat} {tokens : List Token} {reading : Reading} {left : Expr}
      (reads : Reads room .negation tokens reading) (found : reading.tree = some left) :
      Reads room .conjoining tokens reading
  | nextAnd {room : Nat} {tokens behind : List Token} {token : Token}
      {reading next : Reading} {left right : Expr}
      (before : Reads room .conjoining tokens reading) (held : reading.tree = some left)
      (follows : reading.rest = token :: behind)
      (joins : token.lexeme = .and ∨ token.lexeme.startsOperand = true)
      (reads : Reads room .negation (skipAnd token behind) next)
      (found : next.tree = some right) :
      Reads room .conjoining tokens
        (.after reading { next with tree := some (.and left right) })
  | noAnd {room : Nat} {tokens : List Token} {reading : Reading}
      (reads : Reads room .negation tokens reading) (found : reading.tree = none) :
      Reads room .conjunction tokens reading
  | breakAnd {room : Nat} {tokens behind : List Token} {token : Token}
      {reading next : Reading} {left : Expr}
      (before : Reads room .conjoining tokens reading) (held : reading.tree = some left)
      (follows : reading.rest = token :: behind)
      (joins : token.lexeme = .and ∨ token.lexeme.startsOperand = true)
      (reads : Reads room .negation (skipAnd token behind) next)
      (found : next.tree = none) :
      Reads room .conjunction tokens
        (.after reading { next.report (missingAfter token) with tree := some left })
  | endAnd {room : Nat} {tokens : List Token} {reading : Reading}
      (before : Reads room .conjoining tokens reading)
      (stops : ∀ token ∈ reading.rest.head?,
        token.lexeme ≠ .and ∧ token.lexeme.startsOperand = false) :
      Reads room .conjunction tokens reading
  | firstOr {room : Nat} {tokens : List Token} {reading : Reading} {left : Expr}
      (reads : Reads room .conjunction tokens reading) (found : reading.tree = some left) :
      Reads room .disjoining tokens reading
  | nextOr {room : Nat} {tokens behind : List Token} {token : Token}
      {reading next : Reading} {left right : Expr}
      (before : Reads room .disjoining tokens reading) (held : reading.tree = some left)
      (follows : reading.rest = token :: behind) (joins : token.lexeme = .or)
      (reads : Reads room .conjunction behind next) (found : next.tree = some right) :
      Reads room .disjoining tokens
        (.after reading { next with tree := some (.or left right) })
  | noOr {room : Nat} {tokens : List Token} {reading : Reading}
      (reads : Reads room .conjunction tokens reading) (found : reading.tree = none) :
      Reads room .disjunction tokens reading
  | breakOr {room : Nat} {tokens behind : List Token} {token : Token}
      {reading next : Reading} {left : Expr}
      (before : Reads room .disjoining tokens reading) (held : reading.tree = some left)
      (follows : reading.rest = token :: behind) (joins : token.lexeme = .or)
      (reads : Reads room .conjunction behind next) (found : next.tree = none) :
      Reads room .disjunction tokens
        (.after reading { next.report [.missingAfterOr token.position] with tree := some left })
  | endOr {room : Nat} {tokens : List Token} {reading : Reading}
      (before : Reads room .disjoining tokens reading)
      (stops : ∀ token ∈ reading.rest.head?, token.lexeme ≠ .or) :
      Reads room .disjunction tokens reading

theorem rest_closeGroup_suffix (position : Nat) (inner : Reading) :
    (closeGroup position inner).rest <:+ inner.rest := by
  rcases closeGroup_cases position inner with ⟨token, rest, _, found, closed⟩ | ⟨_, unclosed⟩
  · rw [closed, found]
    exact List.suffix_cons token rest
  · rw [unclosed]
    exact List.suffix_rfl

theorem skipAnd_suffix (token : Token) (behind : List Token) :
    skipAnd token behind <:+ token :: behind := by
  rw [skipAnd]
  split
  · exact List.suffix_cons token behind
  · exact List.suffix_rfl

namespace Reads

variable {room : Nat} {stage : Stage} {tokens : List Token} {reading : Reading}

/-- Reading consumes tokens from the front only. -/
theorem rest_suffix (reads : Reads room stage tokens reading) : reading.rest <:+ tokens := by
  induction reads with
  | absent => exact List.suffix_rfl
  | leaf | blank => exact List.suffix_cons _ _
  | @group room token rest inner _ _ ih =>
      have closed := rest_closeGroup_suffix token.position inner
      exact closed.trans (ih.trans (List.suffix_cons token rest))
  | @tooDeep token rest inner _ _ ih =>
      have skipped := List.dropWhile_suffix (l := rest) (·.opensGroup)
      exact ih.trans (skipped.trans (List.suffix_cons token rest))
  | @negated _ negations rest _ _ _ _ ih =>
      rw [Reading.rest_negated]
      exact ih.trans (List.suffix_append negations rest)
  | firstAnd _ _ ih | noAnd _ _ ih | endAnd _ _ ih => exact ih
  | firstOr _ _ ih | noOr _ _ ih | endOr _ _ ih => exact ih
  | nextAnd _ _ follows _ _ _ beforeIH ih | breakAnd _ _ follows _ _ _ beforeIH ih =>
      rw [follows] at beforeIH
      exact ih.trans ((skipAnd_suffix _ _).trans beforeIH)
  | nextOr _ _ follows _ _ _ beforeIH ih | breakOr _ _ follows _ _ _ beforeIH ih =>
      rw [follows] at beforeIH
      exact ih.trans ((List.suffix_cons _ _).trans beforeIH)

/-- A reading that has a tree has consumed a token. -/
theorem rest_length_lt (reads : Reads room stage tokens reading)
    (found : reading.tree ≠ none) : reading.rest.length < tokens.length := by
  induction reads with
  | absent | blank => exact (found rfl).elim
  | leaf => exact Nat.lt_succ_self _
  | @group room token rest inner opens inside _ =>
      have closed := (rest_closeGroup_suffix token.position inner).length_le
      have suffix := inside.rest_suffix.length_le
      exact Nat.lt_succ_of_le (Nat.le_trans closed suffix)
  | @tooDeep token rest inner opens inside _ =>
      have skipped := (List.dropWhile_suffix (l := rest) (·.opensGroup)).length_le
      have suffix := inside.rest_suffix.length_le
      exact Nat.lt_succ_of_le (Nat.le_trans suffix skipped)
  | @negated _ negations rest inner _ _ _ ih =>
      have consumed := ih (by simpa using found)
      simp only [Reading.rest_negated, List.length_append]
      omega
  | firstAnd _ _ ih | noAnd _ _ ih | endAnd _ _ ih => exact ih found
  | firstOr _ _ ih | noOr _ _ ih | endOr _ _ ih => exact ih found
  | nextAnd _ held follows _ inside _ beforeIH | breakAnd _ held follows _ inside _ beforeIH =>
      have consumed := beforeIH (by simp [held])
      have suffix := (inside.rest_suffix.trans (skipAnd_suffix _ _)).length_le
      rw [follows] at consumed
      exact Nat.lt_of_le_of_lt suffix consumed
  | nextOr _ held follows _ inside _ beforeIH | breakOr _ held follows _ inside _ beforeIH =>
      have consumed := beforeIH (by simp [held])
      have suffix := inside.rest_suffix.length_le
      rw [follows] at consumed
      exact Nat.lt_trans (Nat.lt_succ_of_le suffix) consumed

/-- A reading that consumes nothing stands before a token that no operand begins with.
Only a lone operand is not read past negations. -/
theorem head_of_stuck (reads : Reads room stage tokens reading)
    (stuck : tokens.length ≤ reading.rest.length) :
    ∀ token ∈ tokens.head?, token.lexeme.isConnective = true ∧
      (stage ≠ .operand → token.lexeme ≠ .not) := by
  have noTree : reading.tree = none := by
    by_cases found : reading.tree = none
    · exact found
    · exact (Nat.not_lt_of_le stuck (reads.rest_length_lt found)).elim
  induction reads with
  | absent head => exact fun token isHead => ⟨head token isHead, fun beyond => (beyond rfl).elim⟩
  | leaf | blank => exact (Nat.not_succ_le_self _ stuck).elim
  | @group room token rest inner _ inside _ =>
      have closed := (rest_closeGroup_suffix token.position inner).length_le
      have suffix := inside.rest_suffix.length_le
      simp only [List.length_cons] at stuck
      omega
  | @tooDeep token rest inner _ inside _ =>
      have skipped := (List.dropWhile_suffix (l := rest) (·.opensGroup)).length_le
      have suffix := inside.rest_suffix.length_le
      simp only [List.length_cons, Reading.rest_after] at stuck
      omega
  | @negated _ negations rest inner _ stops inside ih =>
      have suffix := inside.rest_suffix.length_le
      simp only [List.length_append, Reading.rest_negated] at stuck
      have noNegation : negations = [] := List.length_eq_zero_iff.mp (by omega)
      subst noNegation
      intro token isHead
      have connective := ih (by simpa using stuck) (by simpa using noTree) token isHead
      exact ⟨connective.1, fun _ => stops token isHead⟩
  | firstAnd _ _ ih | noAnd _ _ ih | endAnd _ _ ih | firstOr _ _ ih | noOr _ _ ih | endOr _ _ ih =>
      intro token isHead
      have connective := ih stuck noTree token isHead
      exact ⟨connective.1, fun _ => connective.2 (by simp)⟩
  | nextAnd | breakAnd | nextOr | breakOr => cases noTree

end Reads

/-! ## The readers -/

section

variable {group : Nat → List Token → Reading} {token : Token} {rest : List Token}

theorem readOperand_of_operand {leaf : Operand} (writes : token.lexeme.operand? = some leaf) :
    readOperand group (token :: rest) = .ofOperand leaf rest := by
  rcases Lexeme.operand?_eq_some writes with ⟨notBlank, isLeaf⟩
  cases token with
  | mk lexeme position =>
      cases lexeme with
      | term | fuzzy | field => cases isLeaf; rfl
      | phrase body =>
          cases isLeaf
          simp only [Lexeme.isBlankPhrase] at notBlank
          simp [readOperand, notBlank]
      | and | or | not | opening | closing => cases isLeaf

theorem readOperand_of_isBlankPhrase (isBlank : token.lexeme.isBlankPhrase = true) :
    readOperand group (token :: rest) = .absent [.emptyPhrase token.position] rest := by
  cases token with
  | mk lexeme position =>
      cases lexeme with
      | phrase body =>
          simp only [Lexeme.isBlankPhrase] at isBlank
          simp [readOperand, isBlank]
      | term | fuzzy | field | and | or | not | opening | closing => cases isBlank

theorem readOperand_of_opening (opens : token.lexeme = .opening) :
    readOperand group (token :: rest) = group token.position rest := by
  simp [readOperand, opens]

theorem readOperand_of_isConnective (connective : token.lexeme.isConnective = true) :
    readOperand group (token :: rest) = .absent [] (token :: rest) := by
  cases token with
  | mk lexeme position =>
      cases lexeme with
      | and | or | not | closing => rfl
      | term | phrase | fuzzy | field | opening => cases connective

end

section

variable {operand : List Token → Reading} {tokens : List Token} {left : Expr}

theorem readAnd_of_none (absent : (operand tokens).tree = none) :
    readAnd operand tokens = operand tokens := by
  simp [readAnd, absent]

theorem readAnd_of_some (found : (operand tokens).tree = some left) :
    readAnd operand tokens =
      .after (operand tokens) (joinAnd operand left (operand tokens).rest) := by
  simp [readAnd, found]

theorem readOr_of_none (absent : (readAnd operand tokens).tree = none) :
    readOr operand tokens = readAnd operand tokens := by
  simp [readOr, absent]

theorem readOr_of_some (found : (readAnd operand tokens).tree = some left) :
    readOr operand tokens =
      .after (readAnd operand tokens) (joinOr operand left (readAnd operand tokens).rest) := by
  simp [readOr, found]

end

section

variable {room : Nat}

/-- Reading an operand, given what a group does. -/
theorem reads_readOperand (group : Nat → List Token → Reading) (tokens : List Token)
    (grouped : ∀ token rest, tokens = token :: rest → token.lexeme = .opening →
      Reads room .operand tokens (group token.position rest)) :
    Reads room .operand tokens (readOperand group tokens) := by
  cases tokens with
  | nil => exact .absent (by simp)
  | cons token rest =>
      rcases token.lexeme.operand_cases with ⟨leaf, writes⟩ | isBlank | opens | connective
      · rw [readOperand_of_operand writes]
        exact .leaf writes
      · rw [readOperand_of_isBlankPhrase isBlank]
        exact .blank isBlank
      · rw [readOperand_of_opening opens]
        exact grouped token rest rfl opens
      · rw [readOperand_of_isConnective connective]
        exact .absent (by simpa using connective)

theorem head_dropWhile_opensGroup (tokens : List Token) :
    ∀ token ∈ (tokens.dropWhile (·.opensGroup)).head?, token.lexeme ≠ .opening := by
  intro token isHead opens
  have stops := List.head?_dropWhile_not (·.opensGroup) tokens
  rw [Option.mem_def.mp isHead] at stops
  simp [Token.opensGroup, opens] at stops

theorem reads_readTooDeep {token : Token} (rest : List Token)
    (opens : token.lexeme = .opening) :
    Reads 0 .operand (token :: rest) (readTooDeep token.position rest) := by
  refine .tooDeep opens (reads_readOperand _ _ ?_)
  intro next behind found nextOpens
  have stops := head_dropWhile_opensGroup rest next (by simp [found])
  exact (stops nextOpens).elim

theorem reads_readNegation (group : Nat → List Token → Reading) (tokens : List Token)
    (grouped : ∀ token rest, token.lexeme = .opening →
      Reads room .operand (token :: rest) (group token.position rest)) :
    Reads room .negation tokens (readNegation group tokens) := by
  have operand : Reads room .operand (tokens.dropWhile (·.negates))
      (readOperand group (tokens.dropWhile (·.negates))) := by
    apply reads_readOperand
    intro token rest found opens
    rw [found]
    exact grouped token rest opens
  have negate : ∀ token ∈ tokens.takeWhile (·.negates), token.lexeme = .not := by
    intro token member
    have holds := List.all_eq_true.mp List.all_takeWhile token member
    simpa [Token.negates] using holds
  have stops : ∀ token ∈ (tokens.dropWhile (·.negates)).head?, token.lexeme ≠ .not := by
    intro token isHead isNot
    have ends := List.head?_dropWhile_not (·.negates) tokens
    rw [Option.mem_def.mp isHead] at ends
    simp [Token.negates, isNot] at ends
  have whole := Reads.negated negate stops operand
  rwa [List.takeWhile_append_dropWhile] at whole

theorem reads_joinAnd {operand : List Token → Reading}
    (operandReads : ∀ tokens, Reads room .negation tokens (operand tokens))
    {tokens rest : List Token} {reading : Reading} {left : Expr}
    (before : Reads room .conjoining tokens reading) (held : reading.tree = some left)
    (at_ : reading.rest = rest) :
    Reads room .conjunction tokens (.after reading (joinAnd operand left rest)) := by
  fun_induction joinAnd operand left rest generalizing reading with
  | case1 left =>
      rw [← at_, Reading.after_end held]
      exact .endAnd before (by simp [at_])
  | case2 left token behind joins next absent =>
      exact .breakAnd before held at_ (by simpa using joins) (operandReads _) absent
  | case3 left token behind joins next right found consumed =>
      rename_i ih
      have joined := Reads.nextAnd before held at_ (by simpa using joins) (operandReads _) found
      have whole := ih joined rfl rfl
      rw [Reading.after_after] at whole
      exact whole
  | case4 left token behind joins next right found =>
      rename_i stuck
      have reads : Reads room .negation (skipAnd token behind) next := operandReads _
      have shorter := reads.rest_length_lt (by simp [found])
      have behindLength := (skipAnd_suffix token behind).length_le
      simp only [List.length_cons] at behindLength
      omega
  | case5 left token behind ends =>
      rw [← at_, Reading.after_end held]
      exact .endAnd before (by simpa [at_] using ends)

theorem reads_readAnd {operand : List Token → Reading}
    (operandReads : ∀ tokens, Reads room .negation tokens (operand tokens))
    (tokens : List Token) : Reads room .conjunction tokens (readAnd operand tokens) := by
  have first := operandReads tokens
  cases found : (operand tokens).tree with
  | none =>
      rw [readAnd_of_none found]
      exact .noAnd first found
  | some left =>
      rw [readAnd_of_some found]
      exact reads_joinAnd operandReads (.firstAnd first found) found rfl

theorem reads_joinOr {operand : List Token → Reading}
    (operandReads : ∀ tokens, Reads room .negation tokens (operand tokens))
    {tokens rest : List Token} {reading : Reading} {left : Expr}
    (before : Reads room .disjoining tokens reading) (held : reading.tree = some left)
    (at_ : reading.rest = rest) :
    Reads room .disjunction tokens (.after reading (joinOr operand left rest)) := by
  fun_induction joinOr operand left rest generalizing reading with
  | case1 left =>
      rw [← at_, Reading.after_end held]
      exact .endOr before (by simp [at_])
  | case2 left token behind joins next absent =>
      exact .breakOr before held at_ joins (reads_readAnd operandReads _) absent
  | case3 left token behind joins next right found consumed =>
      rename_i ih
      have joined := Reads.nextOr before held at_ joins (reads_readAnd operandReads _) found
      have whole := ih joined rfl rfl
      rw [Reading.after_after] at whole
      exact whole
  | case4 left token behind joins next right found =>
      rename_i stuck
      have reads := reads_readAnd operandReads behind
      exact (stuck reads.rest_suffix.length_le).elim
  | case5 left token behind ends =>
      rw [← at_, Reading.after_end held]
      exact .endOr before (by simpa [at_] using ends)

theorem reads_readOr {operand : List Token → Reading}
    (operandReads : ∀ tokens, Reads room .negation tokens (operand tokens))
    (tokens : List Token) : Reads room .disjunction tokens (readOr operand tokens) := by
  have first := reads_readAnd operandReads tokens
  cases found : (readAnd operand tokens).tree with
  | none =>
      rw [readOr_of_none found]
      exact .noOr first found
  | some left =>
      rw [readOr_of_some found]
      exact reads_joinOr operandReads (.firstOr first found) found rfl

end

/-- What an opening parenthesis does when `room` more groups may stand inside each
other. -/
def readGroup : (room : Nat) → Nat → List Token → Reading
  | 0 => readTooDeep
  | room + 1 => fun position rest => closeGroup position (readExpr room rest)

theorem readExpr_eq (room : Nat) : readExpr room = readOr (readNegation (readGroup room)) := by
  cases room <;> rfl

/-- Reading an expression does nothing but what is listed. -/
theorem reads_readExpr (room : Nat) (tokens : List Token) :
    Reads room .disjunction tokens (readExpr room tokens) := by
  rw [readExpr_eq]
  induction room generalizing tokens with
  | zero =>
      refine reads_readOr (fun tokens => reads_readNegation _ tokens ?_) tokens
      intro token rest opens
      exact reads_readTooDeep rest opens
  | succ room ih =>
      refine reads_readOr (fun tokens => reads_readNegation _ tokens ?_) tokens
      intro token rest opens
      refine .group opens ?_
      rw [readExpr_eq]
      exact ih rest

/-- Reading an operand behind negations does nothing but what is listed. -/
theorem reads_readNegation_readGroup (room : Nat) (tokens : List Token) :
    Reads room .negation tokens (readNegation (readGroup room) tokens) := by
  apply reads_readNegation
  intro token rest opens
  cases room with
  | zero => exact reads_readTooDeep rest opens
  | succ room => exact .group opens (reads_readExpr room rest)

/-! ## The whole query -/

theorem joinParts_none (tree : Option Expr) : joinParts tree none = tree := by
  cases tree <;> rfl

/-- What has been read of a whole token list. Expressions follow each other, and a
token that begins none is left out. -/
inductive ReadsParts (tokens : List Token) : Reading → Prop where
  | start : ReadsParts tokens { tree := none, rest := tokens }
  | join {reading next : Reading} (before : ReadsParts tokens reading)
      (reads : Reads nestingLimit .disjunction reading.rest next)
      (consumed : next.rest.length < reading.rest.length) :
      ReadsParts tokens (.after reading { next with tree := joinParts reading.tree next.tree })
  | skip {reading next : Reading} {token : Token} {behind : List Token}
      (before : ReadsParts tokens reading) (follows : reading.rest = token :: behind)
      (reads : Reads nestingLimit .disjunction reading.rest next)
      (stuck : reading.rest.length ≤ next.rest.length) :
      ReadsParts tokens (.after reading
        { next.report [.unexpected token] with tree := reading.tree, rest := behind })

/-- What is left of a whole token list is behind what was read. -/
theorem ReadsParts.rest_suffix {tokens : List Token} {reading : Reading}
    (reads : ReadsParts tokens reading) : reading.rest <:+ tokens := by
  induction reads with
  | start => exact List.suffix_rfl
  | join _ next _ ih => exact next.rest_suffix.trans ih
  | @skip reading next token behind _ follows _ _ ih =>
      rw [follows] at ih
      exact (List.suffix_cons token behind).trans ih

theorem readsParts_readParts {tokens rest : List Token} {tree : Option Expr}
    {reading : Reading} (before : ReadsParts tokens reading) (held : reading.tree = tree)
    (at_ : reading.rest = rest) :
    ReadsParts tokens (.after reading (readParts tree rest)) := by
  fun_induction readParts tree rest generalizing reading with
  | case1 tree =>
      have unchanged : reading.after { tree } = reading := by
        simp [Reading.after, ← held, ← at_]
      rwa [unchanged]
  | case2 tree token behind next consumed =>
      rename_i ih
      have reads : Reads nestingLimit .disjunction reading.rest next := by
        rw [at_]
        exact reads_readExpr nestingLimit (token :: behind)
      have shorter : next.rest.length < reading.rest.length := by
        rw [at_]
        exact Nat.lt_succ_of_le consumed
      have whole := ih (.join before reads shorter) (by simp [held]) rfl
      rw [Reading.after_after] at whole
      exact whole
  | case3 tree token behind next stuck =>
      rename_i ih
      have reads : Reads nestingLimit .disjunction reading.rest next := by
        rw [at_]
        exact reads_readExpr nestingLimit (token :: behind)
      have longer : reading.rest.length ≤ next.rest.length := by
        rw [at_]
        exact Nat.lt_of_not_le stuck
      have whole := ih (.skip before at_ reads longer) held rfl
      rw [Reading.after_after] at whole
      exact whole

@[simp] theorem rest_readParts (tree : Option Expr) (tokens : List Token) :
    (readParts tree tokens).rest = [] := by
  fun_induction readParts tree tokens with
  | case1 => rfl
  | case2 tree token behind next consumed =>
      rename_i ih
      exact ih
  | case3 tree token behind next stuck =>
      rename_i ih
      exact ih

/-- Reading a query does nothing but what is listed, up to the end of its tokens. -/
theorem readsParts_readTokens (tokens : List Token) :
    ReadsParts tokens (readTokens tokens) ∧ (readTokens tokens).rest = [] := by
  have whole := readsParts_readParts (.start : ReadsParts tokens _) rfl rfl
  rw [Reading.start_after] at whole
  exact ⟨whole, rest_readParts none tokens⟩

end SpecFinder.Query
