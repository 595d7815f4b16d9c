import SpecFinder.Proofs.Query.Operands

/-!
# The grammar of queries

A query is a disjunction of conjunctions of negated atoms, where the word between
the operands of a conjunction may be left out and a group stands for what is inside.
`Derives` is this grammar, with the tree that it gives to a token list.

The readers accept exactly the grammar.  A derivable token list is read without a
fault, and as the tree of its derivation: `readExpr_of_derives` follows the
derivation.  A token list that is read without a fault is derivable: `Reads.sound`
follows the readers, where the point is that a reader which finds no operand either
reports a fault or has not moved.
-/

namespace SpecFinder.Query

/-- The levels of the grammar, from the one that binds least. -/
inductive Level where
  | disjunction
  | conjunction
  | negation
  | atom

/-- The grammar of queries. `Derives level room tokens tree` says that the tokens are
an expression of a level, that `tree` is its tree, and that its groups stand at most
`room` deep inside each other. Disjunctions and conjunctions associate to the left. -/
inductive Derives : Level → (room : Nat) → List Token → Expr → Prop where
  | or {room : Nat} {left right : List Token} {joint : Token} {leftTree rightTree : Expr}
      (front : Derives .disjunction room left leftTree) (joins : joint.lexeme = .or)
      (back : Derives .conjunction room right rightTree) :
      Derives .disjunction room (left ++ joint :: right) (.or leftTree rightTree)
  | conjunction {room : Nat} {tokens : List Token} {tree : Expr}
      (only : Derives .conjunction room tokens tree) : Derives .disjunction room tokens tree
  | and {room : Nat} {left right : List Token} {joint : Token} {leftTree rightTree : Expr}
      (front : Derives .conjunction room left leftTree) (joins : joint.lexeme = .and)
      (back : Derives .negation room right rightTree) :
      Derives .conjunction room (left ++ joint :: right) (.and leftTree rightTree)
  | juxtaposed {room : Nat} {left right : List Token} {leftTree rightTree : Expr}
      (front : Derives .conjunction room left leftTree)
      (back : Derives .negation room right rightTree) :
      Derives .conjunction room (left ++ right) (.and leftTree rightTree)
  | negation {room : Nat} {tokens : List Token} {tree : Expr}
      (only : Derives .negation room tokens tree) : Derives .conjunction room tokens tree
  | not {room : Nat} {token : Token} {rest : List Token} {tree : Expr}
      (negates : token.lexeme = .not) (inner : Derives .negation room rest tree) :
      Derives .negation room (token :: rest) (.not tree)
  | atom {room : Nat} {tokens : List Token} {tree : Expr}
      (only : Derives .atom room tokens tree) : Derives .negation room tokens tree
  | group {room : Nat} {opening closing : Token} {tokens : List Token} {tree : Expr}
      (opens : opening.lexeme = .opening) (inner : Derives .disjunction room tokens tree)
      (closes : closing.lexeme = .closing) :
      Derives .atom (room + 1) (opening :: tokens ++ [closing]) tree
  | leaf {room : Nat} {token : Token} {leaf : Operand}
      (writes : token.lexeme.leaf? = some leaf) :
      Derives .atom room [token] (.operand leaf)

/-- No token is a phrase of nothing but white space. -/
def NoBlankPhrase (tokens : List Token) : Prop :=
  ∀ token ∈ tokens, token.lexeme.isBlankPhrase = false

/-- No opening parenthesis stands directly before a closing one. -/
def NoEmptyGroup (tokens : List Token) : Prop :=
  ¬ [Lexeme.opening, .closing] <:+: tokens.map (·.lexeme)

instance (tokens : List Token) : Decidable (NoBlankPhrase tokens) :=
  inferInstanceAs (Decidable (∀ token ∈ tokens, token.lexeme.isBlankPhrase = false))

instance (tokens : List Token) : Decidable (NoEmptyGroup tokens) :=
  inferInstanceAs (Decidable (¬ [Lexeme.opening, .closing] <:+: tokens.map (·.lexeme)))

theorem NoBlankPhrase.append {front back : List Token} :
    NoBlankPhrase (front ++ back) ↔ NoBlankPhrase front ∧ NoBlankPhrase back := by
  simp [NoBlankPhrase, or_imp, forall_and]

theorem NoBlankPhrase.cons {token : Token} {rest : List Token} :
    NoBlankPhrase (token :: rest) ↔
      token.lexeme.isBlankPhrase = false ∧ NoBlankPhrase rest := by
  simp [NoBlankPhrase]

theorem NoEmptyGroup.suffix {tokens rest : List Token} (none : NoEmptyGroup tokens)
    (suffix : rest <:+ tokens) : NoEmptyGroup rest := by
  intro found
  exact none (found.trans (suffix.map (·.lexeme)).isInfix)

theorem NoEmptyGroup.not_closing {opening closing : Token} {rest : List Token}
    (none : NoEmptyGroup (opening :: closing :: rest)) (opens : opening.lexeme = .opening) :
    closing.lexeme ≠ .closing := by
  intro closes
  apply none
  exact ⟨[], rest.map (·.lexeme), by simp [opens, closes]⟩

/-! ## Derivable token lists are read without a fault -/

/-- An expression begins with a token that can begin an operand. -/
theorem Derives.head {level : Level} {room : Nat} {tokens : List Token} {tree : Expr}
    (derivation : Derives level room tokens tree) :
    ∃ token rest, tokens = token :: rest ∧ token.lexeme.startsOperand = true := by
  induction derivation with
  | or _ _ _ ih _ | and _ _ _ ih _ =>
      rcases ih with ⟨token, rest, rfl, starts⟩
      exact ⟨token, rest ++ _ :: _, rfl, starts⟩
  | juxtaposed _ _ ih _ =>
      rcases ih with ⟨token, rest, rfl, starts⟩
      exact ⟨token, rest ++ _, rfl, starts⟩
  | conjunction _ ih | negation _ ih | atom _ ih => exact ih
  | not negates => exact ⟨_, _, rfl, by simp [negates, Lexeme.startsOperand]⟩
  | group opens => exact ⟨_, _, rfl, by simp [opens, Lexeme.startsOperand]⟩
  | @leaf _ token leaf writes =>
      refine ⟨token, [], rfl, ?_⟩
      cases lexeme : token.lexeme <;> simp_all [Lexeme.leaf?, Lexeme.startsOperand]

/-- Atoms do not begin with a negation. -/
theorem Derives.head_atom {room : Nat} {tokens : List Token} {tree : Expr}
    (derivation : Derives .atom room tokens tree) :
    ∃ token rest, tokens = token :: rest ∧ token.lexeme ≠ .not := by
  cases derivation with
  | group opens => exact ⟨_, _, rfl, by simp [opens]⟩
  | @leaf _ token leaf writes =>
      refine ⟨token, [], rfl, ?_⟩
      intro isNot
      simp [isNot, Lexeme.leaf?] at writes

/-- The reading of an expression without faults. -/
def Reading.clean (tree : Expr) (rest : List Token) : Reading :=
  { tree := some tree, criteria := .ofOperands tree.operands, rest }

section

variable {operand : List Token → Reading} {left right : Expr} {token : Token}
  {behind rest : List Token} {next : Reading}

theorem joinAnd_of_stops
    (stops : ∀ token ∈ rest.head?, token.lexeme ≠ .and ∧ token.lexeme.startsOperand = false) :
    joinAnd operand left rest = { tree := some left, rest } := by
  cases rest with
  | nil => rw [joinAnd]
  | cons token behind =>
      have ends := stops token (by simp)
      rw [joinAnd]
      simp [ends.1, ends.2]

theorem joinAnd_of_operand
    (joins : token.lexeme = .and ∨ token.lexeme.startsOperand = true)
    (reads : operand (skipAnd token behind) = .clean right rest)
    (consumed : rest.length ≤ behind.length) :
    joinAnd operand left (token :: behind) =
      .after (.clean right rest) (joinAnd operand (.and left right) rest) := by
  have goesOn : (decide (token.lexeme = .and) || token.lexeme.startsOperand) = true := by
    simpa using joins
  rw [joinAnd]
  simp [goesOn, reads, Reading.clean, consumed]

theorem joinOr_of_stops (stops : ∀ token ∈ rest.head?, token.lexeme ≠ .or) :
    joinOr operand left rest = { tree := some left, rest } := by
  cases rest with
  | nil => rw [joinOr]
  | cons token behind =>
      rw [joinOr]
      simp [stops token (by simp)]

theorem joinOr_of_conjunction (joins : token.lexeme = .or)
    (reads : readAnd operand behind = .clean right rest)
    (consumed : rest.length ≤ behind.length) :
    joinOr operand left (token :: behind) =
      .after (.clean right rest) (joinOr operand (.or left right) rest) := by
  rw [joinOr]
  simp [joins, reads, Reading.clean, consumed]

end

namespace Reading

variable {left right tree : Expr} {rest behind : List Token} {reading : Reading}

theorem clean_after_end : (clean tree behind).after { tree := some tree, rest } =
    clean tree rest := by
  simp [clean, after]

/-- Two clean readings are noted like the one of their conjunction or disjunction. -/
theorem clean_after_clean {joined : Expr}
    (operands : joined.operands = left.operands ++ right.operands) :
    (clean left rest).after ((clean right behind).after reading) =
      (clean joined rest).after reading := by
  simp [clean, after, operands, Criteria.ofOperands_append, Criteria.append_assoc]

end Reading

section

variable {group : Nat → List Token → Reading} {token : Token} {tokens rest : List Token}

theorem readNegation_of_not_negates (stays : token.lexeme ≠ .not) :
    readNegation group (token :: tokens) = readOperand group (token :: tokens) := by
  have negates : token.negates = false := by simpa [Token.negates] using stays
  simp [readNegation, negates]

theorem foldl_not (negations : List Token) (tree : Expr) :
    negations.foldl (fun tree _ => Expr.not tree) (.not tree) =
      .not (negations.foldl (fun tree _ => Expr.not tree) tree) := by
  induction negations generalizing tree with
  | nil => rfl
  | cons _ negations ih => exact ih (.not tree)

theorem readNegation_of_negates {tree : Expr} (isNot : token.lexeme = .not)
    (reads : readNegation group tokens = .clean tree rest) :
    readNegation group (token :: tokens) = .clean (.not tree) rest := by
  have negates : token.negates = true := by simp [Token.negates, isNot]
  rw [readNegation] at reads ⊢
  rw [List.takeWhile_cons_of_pos negates, List.dropWhile_cons_of_pos negates]
  generalize readOperand group (tokens.dropWhile (·.negates)) = inner at reads ⊢
  generalize tokens.takeWhile (·.negates) = negations at reads ⊢
  have sameTree := congrArg Reading.tree reads
  rw [Reading.tree_negated] at sameTree
  cases found : inner.tree with
  | none => simp [found, Reading.clean] at sameTree
  | some held =>
      simp only [Reading.negated, found] at reads ⊢
      simp only [Reading.clean, Reading.mk.injEq, Option.some.injEq] at reads ⊢
      rcases reads with ⟨folded, noted, silent, left⟩
      rw [List.foldl_cons, foldl_not, folded]
      exact ⟨rfl, noted, silent, left⟩

end

/-- What a reader does with the tokens of an expression, whatever stands behind them. A
loop is left at the point where it has read just these tokens. -/
def ReadCleanly (room : Nat) : Level → List Token → Expr → Prop
  | .atom, tokens, tree => ∀ rest,
      readOperand (readGroup room) (tokens ++ rest) = .clean tree rest
  | .negation, tokens, tree => ∀ rest,
      readNegation (readGroup room) (tokens ++ rest) = .clean tree rest
  | .conjunction, tokens, tree => ∀ rest,
      readAnd (readNegation (readGroup room)) (tokens ++ rest) =
        .after (.clean tree rest) (joinAnd (readNegation (readGroup room)) tree rest)
  | .disjunction, tokens, tree => ∀ rest,
      (∀ token ∈ rest.head?, token.lexeme ≠ .and ∧ token.lexeme.startsOperand = false) →
      readOr (readNegation (readGroup room)) (tokens ++ rest) =
        .after (.clean tree rest) (joinOr (readNegation (readGroup room)) tree rest)

/-- Conjunctions are read cleanly up to a token that does not go on with them. -/
theorem ReadCleanly.conjunction_stops {room : Nat} {tokens rest : List Token} {tree : Expr}
    (cleanly : ReadCleanly room .conjunction tokens tree)
    (stops : ∀ token ∈ rest.head?, token.lexeme ≠ .and ∧ token.lexeme.startsOperand = false) :
    readAnd (readNegation (readGroup room)) (tokens ++ rest) = .clean tree rest := by
  rw [cleanly rest, joinAnd_of_stops stops, Reading.clean_after_end]

/-- Disjunctions are read cleanly up to a closing parenthesis or the end. -/
theorem ReadCleanly.disjunction_stops {room : Nat} {tokens rest : List Token} {tree : Expr}
    (cleanly : ReadCleanly room .disjunction tokens tree)
    (stops : ∀ token ∈ rest.head?, token.lexeme = .closing) :
    readExpr room (tokens ++ rest) = .clean tree rest := by
  have noAnd : ∀ token ∈ rest.head?,
      token.lexeme ≠ .and ∧ token.lexeme.startsOperand = false := by
    intro token isHead
    simp [stops token isHead, Lexeme.startsOperand]
  have noOr : ∀ token ∈ rest.head?, token.lexeme ≠ .or := by
    intro token isHead
    simp [stops token isHead]
  rw [readExpr_eq, cleanly rest noAnd, joinOr_of_stops noOr, Reading.clean_after_end]

/-- Every expression of the grammar is read cleanly at its level. -/
theorem Derives.readCleanly {level : Level} {room : Nat} {tokens : List Token} {tree : Expr}
    (derivation : Derives level room tokens tree) (noBlank : NoBlankPhrase tokens) :
    ReadCleanly room level tokens tree := by
  induction derivation with
  | @or room left right joint leftTree rightTree front joins back frontIH backIH =>
      rcases NoBlankPhrase.append.mp noBlank with ⟨leftNoBlank, noBlankBehind⟩
      have rightNoBlank := (NoBlankPhrase.cons.mp noBlankBehind).2
      intro rest stops
      have atJoint : ∀ token ∈ (joint :: (right ++ rest)).head?,
          token.lexeme ≠ .and ∧ token.lexeme.startsOperand = false := by
        simp [joins, Lexeme.startsOperand]
      have readsRight := (backIH rightNoBlank).conjunction_stops stops
      have consumed : rest.length ≤ (right ++ rest).length := by simp
      calc readOr (readNegation (readGroup room)) (left ++ joint :: right ++ rest)
          = .after (.clean leftTree (joint :: (right ++ rest)))
              (joinOr (readNegation (readGroup room)) leftTree (joint :: (right ++ rest))) := by
            rw [List.append_assoc, List.cons_append]
            exact frontIH leftNoBlank _ atJoint
        _ = .after (.clean (.or leftTree rightTree) rest)
              (joinOr (readNegation (readGroup room)) (.or leftTree rightTree) rest) := by
            rw [joinOr_of_conjunction joins readsRight consumed]
            exact Reading.clean_after_clean rfl
  | @conjunction room tokens tree _ ih =>
      intro rest stops
      have reads := (ih noBlank).conjunction_stops stops
      rw [readOr_of_some (by rw [reads]; rfl), reads]
      rfl
  | @and room left right joint leftTree rightTree front joins back frontIH backIH =>
      rcases NoBlankPhrase.append.mp noBlank with ⟨leftNoBlank, noBlankBehind⟩
      have rightNoBlank := (NoBlankPhrase.cons.mp noBlankBehind).2
      intro rest
      have readsRight : readNegation (readGroup room) (skipAnd joint (right ++ rest)) =
          .clean rightTree rest := by
        simpa [skipAnd, joins] using backIH rightNoBlank rest
      have consumed : rest.length ≤ (right ++ rest).length := by simp
      rw [List.append_assoc, List.cons_append, frontIH leftNoBlank,
        joinAnd_of_operand (.inl joins) readsRight consumed]
      exact Reading.clean_after_clean rfl
  | @juxtaposed room left right leftTree rightTree front back frontIH backIH =>
      rcases NoBlankPhrase.append.mp noBlank with ⟨leftNoBlank, rightNoBlank⟩
      intro rest
      rcases back.head with ⟨token, behind, rfl, starts⟩
      have notAnd : token.lexeme ≠ .and := by
        intro isAnd
        simp [isAnd, Lexeme.startsOperand] at starts
      have readsRight : readNegation (readGroup room) (skipAnd token (behind ++ rest)) =
          .clean rightTree rest := by
        simpa [skipAnd, notAnd] using backIH rightNoBlank rest
      have consumed : rest.length ≤ (behind ++ rest).length := by simp
      rw [List.append_assoc, frontIH leftNoBlank, List.cons_append,
        joinAnd_of_operand (.inr starts) readsRight consumed]
      exact Reading.clean_after_clean rfl
  | @negation room tokens tree _ ih =>
      intro rest
      have reads := ih noBlank rest
      rw [readAnd_of_some (by rw [reads]; rfl), reads]
      rfl
  | not negates _ ih =>
      intro rest
      exact readNegation_of_negates negates (ih (NoBlankPhrase.cons.mp noBlank).2 rest)
  | atom only ih =>
      intro rest
      rcases only.head_atom with ⟨token, behind, rfl, stays⟩
      rw [List.cons_append, readNegation_of_not_negates stays]
      exact ih noBlank rest
  | @group room opening closing tokens tree opens _ closes ih =>
      intro rest
      have noBlankInside := (NoBlankPhrase.append.mp (NoBlankPhrase.cons.mp noBlank).2).1
      have reads : readExpr room (tokens ++ closing :: rest) = .clean tree (closing :: rest) :=
        (ih noBlankInside).disjunction_stops (by simp [closes])
      rw [List.append_assoc, List.cons_append, readOperand_of_opening opens]
      simp only [readGroup, List.cons_append, List.nil_append, reads]
      cases closing with
      | mk lexeme position =>
          cases closes
          rfl
  | @leaf room token leaf writes =>
      intro rest
      have notBlank := (NoBlankPhrase.cons.mp noBlank).1
      have operand : token.lexeme.operand? = some leaf := by
        simp [Lexeme.operand?, notBlank, writes]
      rw [List.cons_append, readOperand_of_operand operand]
      simp [Reading.ofOperand, Reading.clean, Expr.operands]

/-- An expression of the grammar is read as the tree of its derivation, without a
fault, up to a closing parenthesis or the end. -/
theorem readExpr_of_derives {room : Nat} {tokens rest : List Token} {tree : Expr}
    (derivation : Derives .disjunction room tokens tree) (noBlank : NoBlankPhrase tokens)
    (stops : ∀ token ∈ rest.head?, token.lexeme = .closing) :
    readExpr room (tokens ++ rest) = .clean tree rest :=
  (derivation.readCleanly noBlank).disjunction_stops stops

theorem readTokens_of_derives {tokens : List Token} {tree : Expr}
    (derivation : Derives .disjunction nestingLimit tokens tree)
    (noBlank : NoBlankPhrase tokens) : readTokens tokens = .clean tree [] := by
  have reads : readExpr nestingLimit (tokens ++ []) = .clean tree [] :=
    readExpr_of_derives derivation noBlank (by simp)
  rw [List.append_nil] at reads
  rcases derivation.head with ⟨token, behind, rfl, _⟩
  rw [readTokens, readParts]
  simp [reads, Reading.clean, joinParts, readParts, Reading.after]

/-! ## What is read without a fault is derivable -/

/-- The level of the grammar that a stage reads. -/
def Stage.level : Stage → Level
  | .operand => .atom
  | .negation => .negation
  | .conjoining | .conjunction => .conjunction
  | .disjoining | .disjunction => .disjunction

/-- The lexemes at which a finished stage would have gone on. -/
def Stage.goesOn : Stage → Lexeme → Bool
  | .conjunction, lexeme | .disjoining, lexeme => lexeme == .and || lexeme.startsOperand
  | .disjunction, lexeme => lexeme == .and || lexeme.startsOperand || lexeme == .or
  | _, _ => false

/-- Tokens in front of `rest` that are an expression of the grammar. -/
def Spans (level : Level) (room : Nat) (tokens rest : List Token) (tree : Expr) : Prop :=
  ∃ consumed, tokens = consumed ++ rest ∧ NoBlankPhrase consumed ∧
    Derives level room consumed tree

/-- What a reading without faults says about its tokens: a tree stands for consumed
tokens of the grammar, and without a tree nothing was consumed. -/
structure Sound (room : Nat) (stage : Stage) (tokens : List Token) (reading : Reading) :
    Prop where
  spans : ∀ tree, reading.tree = some tree → Spans stage.level room tokens reading.rest tree
  unmoved : reading.tree = none → reading.rest = tokens
  stops : reading.tree ≠ none →
    ∀ token ∈ reading.rest.head?, stage.goesOn token.lexeme = false

theorem closing_of_not_goesOn {lexeme : Lexeme}
    (ends : Stage.disjunction.goesOn lexeme = false) : lexeme = .closing := by
  cases lexeme with
  | closing => rfl
  | term | phrase | fuzzy | field | and | or | not | opening => cases ends

theorem Derives.negations {room : Nat} {negations rest : List Token} {tree : Expr}
    (negate : ∀ token ∈ negations, token.lexeme = .not)
    (inner : Derives .negation room rest tree) :
    Derives .negation room (negations ++ rest)
      (negations.foldl (fun tree _ => .not tree) tree) := by
  induction negations with
  | nil => exact inner
  | cons token negations ih =>
      rw [List.foldl_cons, foldl_not]
      refine .not (negate token (by simp)) (ih ?_)
      intro other member
      exact negate other (List.mem_cons_of_mem token member)

theorem faults_negated_eq_nil {negations : List Token} {reading : Reading}
    (silent : (reading.negated negations).faults = []) :
    reading.faults = [] ∧ (reading.tree = none → negations = []) := by
  simp only [Reading.negated] at silent
  cases found : reading.tree with
  | some tree => exact ⟨by simpa [found] using silent, by simp⟩
  | none =>
      cases last : negations.getLast? with
      | some token => simp [found, last] at silent
      | none =>
          refine ⟨by simpa [found, last] using silent, fun _ => ?_⟩
          exact List.getLast?_eq_none_iff.mp last

/-- A missing operand is reported unless no conjunction was written. -/
theorem not_and_of_missingAfter_eq_nil {token : Token} (silent : missingAfter token = []) :
    token.lexeme ≠ .and := by
  intro isAnd
  simp [missingAfter, isAnd] at silent

namespace Spans

variable {room : Nat} {tokens middle behind rest : List Token} {token closing : Token}
  {left right tree : Expr}

/-- Tokens that are an expression of one level are one of a level that includes it. -/
theorem weaken {level higher : Level} (spans : Spans level room tokens rest tree)
    (includes : ∀ consumed, Derives level room consumed tree →
      Derives higher room consumed tree) : Spans higher room tokens rest tree := by
  rcases spans with ⟨consumed, split, noBlank, derivation⟩
  exact ⟨consumed, split, noBlank, includes consumed derivation⟩

theorem group (opens : token.lexeme = .opening) (closes : closing.lexeme = .closing)
    (inside : Spans .disjunction room tokens (closing :: rest) tree) :
    Spans .atom (room + 1) (token :: tokens) rest tree := by
  rcases inside with ⟨consumed, split, noBlank, derivation⟩
  refine ⟨token :: consumed ++ [closing], ?_, ?_, .group opens derivation closes⟩
  · rw [split]
    simp
  · apply NoBlankPhrase.append.mpr
    constructor
    · apply NoBlankPhrase.cons.mpr
      exact ⟨by simp [opens, Lexeme.isBlankPhrase], noBlank⟩
    · simp [NoBlankPhrase, closes, Lexeme.isBlankPhrase]

theorem negations {negations : List Token} (negate : ∀ token ∈ negations, token.lexeme = .not)
    (inner : Spans .atom room tokens rest tree) :
    Spans .negation room (negations ++ tokens) rest
      (negations.foldl (fun tree _ => .not tree) tree) := by
  rcases inner with ⟨consumed, split, noBlank, derivation⟩
  refine ⟨negations ++ consumed, ?_, ?_, .negations negate (.atom derivation)⟩
  · rw [split, List.append_assoc]
  · apply NoBlankPhrase.append.mpr
    constructor
    · intro token member
      simp [negate token member, Lexeme.isBlankPhrase]
    · exact noBlank

theorem juxtaposed (front : Spans .conjunction room tokens middle left)
    (back : Spans .negation room middle rest right) :
    Spans .conjunction room tokens rest (.and left right) := by
  rcases front with ⟨consumed, split, noBlank, derivation⟩
  rcases back with ⟨others, othersSplit, othersNoBlank, othersDerivation⟩
  refine ⟨consumed ++ others, ?_, ?_, .juxtaposed derivation othersDerivation⟩
  · rw [split, othersSplit, List.append_assoc]
  · exact NoBlankPhrase.append.mpr ⟨noBlank, othersNoBlank⟩

/-- Expressions on both sides of a connective make up one expression. -/
theorem joined {level side joint : Level} (front : Spans level room tokens (token :: behind) left)
    (back : Spans side room behind rest right) (notBlank : token.lexeme.isBlankPhrase = false)
    (derives : ∀ consumed others, Derives level room consumed left →
      Derives side room others right → Derives joint room (consumed ++ token :: others) tree) :
    Spans joint room tokens rest tree := by
  rcases front with ⟨consumed, split, noBlank, derivation⟩
  rcases back with ⟨others, othersSplit, othersNoBlank, othersDerivation⟩
  refine ⟨consumed ++ token :: others, ?_, ?_, derives _ _ derivation othersDerivation⟩
  · rw [split, othersSplit]
    simp
  · apply NoBlankPhrase.append.mpr
    constructor
    · exact noBlank
    · exact NoBlankPhrase.cons.mpr ⟨notBlank, othersNoBlank⟩

theorem and (isAnd : token.lexeme = .and)
    (front : Spans .conjunction room tokens (token :: behind) left)
    (back : Spans .negation room behind rest right) :
    Spans .conjunction room tokens rest (.and left right) := by
  apply front.joined back (by simp [isAnd, Lexeme.isBlankPhrase])
  intro consumed others derivation othersDerivation
  exact .and derivation isAnd othersDerivation

theorem or (isOr : token.lexeme = .or)
    (front : Spans .disjunction room tokens (token :: behind) left)
    (back : Spans .conjunction room behind rest right) :
    Spans .disjunction room tokens rest (.or left right) := by
  apply front.joined back (by simp [isOr, Lexeme.isBlankPhrase])
  intro consumed others derivation othersDerivation
  exact .or derivation isOr othersDerivation

end Spans

/-- A token with which a conjunction goes on is followed by an operand or is reported. -/
theorem Reads.missingAfter_ne_nil {room : Nat} {token : Token} {behind : List Token}
    {next : Reading} (reads : Reads room .negation (skipAnd token behind) next)
    (joins : token.lexeme = .and ∨ token.lexeme.startsOperand = true)
    (unmoved : next.rest = skipAnd token behind) : missingAfter token ≠ [] := by
  intro silent
  have notAnd := not_and_of_missingAfter_eq_nil silent
  have kept : skipAnd token behind = token :: behind := by simp [skipAnd, notAnd]
  have starts := joins.resolve_left notAnd
  have head := reads.head_of_stuck (by rw [unmoved]) token (by simp [kept])
  have noStart := Lexeme.startsOperand_of_isConnective head.1 (head.2 (by simp))
  simp [noStart] at starts

/-- Readers that report nothing read just the grammar. -/
theorem Reads.sound {room : Nat} {stage : Stage} {tokens : List Token} {reading : Reading}
    (reads : Reads room stage tokens reading) (silent : reading.faults = [])
    (noEmpty : NoEmptyGroup tokens) : Sound room stage tokens reading := by
  induction reads with
  | absent => exact ⟨by simp [Reading.absent], fun _ => rfl, by simp [Reading.absent]⟩
  | @leaf room token rest leaf writes =>
      rcases Lexeme.operand?_eq_some writes with ⟨notBlank, isLeaf⟩
      refine ⟨?_, by simp [Reading.ofOperand], fun _ _ _ => rfl⟩
      intro tree found
      cases found
      exact ⟨[token], rfl, by simpa [NoBlankPhrase] using notBlank, .leaf isLeaf⟩
  | blank => cases silent
  | @group room token rest inner opens _ ih =>
      have insideNoEmpty := noEmpty.suffix (List.suffix_cons token rest)
      rcases closeGroup_cases token.position inner with
        ⟨closing, behind, closes, found, closed⟩ | ⟨_, unclosed⟩
      · have innerSilent : inner.faults = [] := by simpa [closed] using silent
        have inside := ih innerSilent insideNoEmpty
        refine ⟨?_, ?_, fun _ _ _ => rfl⟩
        · intro tree held
          have spans := inside.spans tree (by simpa using held)
          rw [found] at spans
          rw [closed]
          exact spans.group opens closes
        · intro absent
          have unmoved := inside.unmoved (by simpa using absent)
          rw [found] at unmoved
          subst unmoved
          exact (noEmpty.not_closing opens closes).elim
      · rw [unclosed] at silent
        simp at silent
  | tooDeep => simp [Reading.absent] at silent
  | @negated room negations rest inner negate _ _ ih =>
      rcases faults_negated_eq_nil silent with ⟨innerSilent, noNegations⟩
      have inside := ih innerSilent (noEmpty.suffix (List.suffix_append negations rest))
      refine ⟨?_, ?_, fun _ _ _ => rfl⟩
      · intro tree found
        rw [Reading.tree_negated, Option.map_eq_some_iff] at found
        rcases found with ⟨held, innerHeld, rfl⟩
        rw [Reading.rest_negated]
        exact (inside.spans held innerHeld).negations negate
      · intro absent
        have innerAbsent : inner.tree = none := by simpa using absent
        rw [Reading.rest_negated, inside.unmoved innerAbsent, noNegations innerAbsent]
        rfl
  | @firstAnd room tokens reading left _ found ih =>
      have inside := ih silent noEmpty
      refine ⟨?_, by simp [found], fun _ _ _ => rfl⟩
      intro tree held
      exact (inside.spans tree held).weaken fun _ => .negation
  | @nextAnd room tokens behind token reading next left right before held follows joins inside
      found beforeIH ih =>
      simp only [Reading.faults_after, List.append_eq_nil_iff] at silent
      have soFar := (beforeIH silent.1 noEmpty).spans left held
      have restNoEmpty := noEmpty.suffix before.rest_suffix
      rw [follows] at soFar restNoEmpty
      have operand := (ih silent.2 (restNoEmpty.suffix (skipAnd_suffix token behind))).spans
        right found
      refine ⟨?_, by simp, fun _ _ _ => rfl⟩
      intro tree joined
      cases joined
      by_cases isAnd : token.lexeme = .and
      · have skipped : skipAnd token behind = behind := by simp [skipAnd, isAnd]
        rw [skipped] at operand
        exact soFar.and isAnd operand
      · have kept : skipAnd token behind = token :: behind := by simp [skipAnd, isAnd]
        rw [kept] at operand
        exact soFar.juxtaposed operand
  | noAnd _ found ih =>
      have inside := ih silent noEmpty
      exact ⟨by simp [found], inside.unmoved, by simp [found]⟩
  | @breakAnd room tokens behind token reading next left before _ follows joins inside found _
      ih =>
      simp only [Reading.faults_after, Reading.faults_report, List.append_eq_nil_iff] at silent
      have restNoEmpty := noEmpty.suffix before.rest_suffix
      rw [follows] at restNoEmpty
      have nextNoEmpty := restNoEmpty.suffix (skipAnd_suffix token behind)
      have unmoved := (ih silent.2.1 nextNoEmpty).unmoved found
      exact (inside.missingAfter_ne_nil joins unmoved silent.2.2).elim
  | endAnd before stops ih =>
      have soFar := ih silent noEmpty
      refine ⟨soFar.spans, soFar.unmoved, ?_⟩
      intro _ token isHead
      simp [Stage.goesOn, stops token isHead]
  | @firstOr room tokens reading left _ found ih =>
      have inside := ih silent noEmpty
      refine ⟨?_, by simp [found], inside.stops⟩
      intro tree held
      exact (inside.spans tree held).weaken fun _ => .conjunction
  | @nextOr room tokens behind token reading next left right before held follows joins inside
      found beforeIH ih =>
      simp only [Reading.faults_after, List.append_eq_nil_iff] at silent
      have soFar := (beforeIH silent.1 noEmpty).spans left held
      have restNoEmpty := noEmpty.suffix before.rest_suffix
      rw [follows] at soFar restNoEmpty
      have operand := ih silent.2 (restNoEmpty.suffix (List.suffix_cons token behind))
      refine ⟨?_, by simp, fun _ => operand.stops (by simp [found])⟩
      intro tree joined
      cases joined
      exact soFar.or joins (operand.spans right found)
  | noOr _ found ih =>
      have inside := ih silent noEmpty
      exact ⟨by simp [found], inside.unmoved, by simp [found]⟩
  | breakOr => simp at silent
  | endOr before stops ih =>
      have soFar := ih silent noEmpty
      refine ⟨soFar.spans, soFar.unmoved, ?_⟩
      intro found token isHead
      have goesOn := soFar.stops found token isHead
      simp only [Stage.goesOn] at goesOn ⊢
      simp [goesOn, stops token isHead]

/-- What has been read of a whole token list without a fault: nothing at all, or one
expression before a closing parenthesis or the end. -/
theorem ReadsParts.sound {tokens : List Token} {reading : Reading}
    (reads : ReadsParts tokens reading) (silent : reading.faults = [])
    (noEmpty : NoEmptyGroup tokens) :
    (reading.tree = none ∧ reading.rest = tokens) ∨
      ∃ tree, reading.tree = some tree ∧
        Spans .disjunction nestingLimit tokens reading.rest tree ∧
        ∀ token ∈ reading.rest.head?, token.lexeme = .closing := by
  induction reads with
  | start => exact .inl ⟨rfl, rfl⟩
  | @join reading next before reads consumed ih =>
      simp only [Reading.faults_after, List.append_eq_nil_iff] at silent
      have restNoEmpty := noEmpty.suffix before.rest_suffix
      have inside := reads.sound silent.2 restNoEmpty
      cases found : next.tree with
      | none =>
          rw [inside.unmoved found] at consumed
          exact (Nat.lt_irrefl _ consumed).elim
      | some tree =>
          have spans := inside.spans tree found
          rcases ih silent.1 with ⟨absent, unmoved⟩ | ⟨_, _, _, closes⟩
          · refine .inr ⟨tree, ?_, ?_, ?_⟩
            · simp [absent, joinParts]
            · rw [unmoved] at spans
              exact spans
            · intro token isHead
              have ends := inside.stops (by simp [found]) token isHead
              exact closing_of_not_goesOn ends
          · -- No expression begins with the parenthesis that ended the one before.
            rcases spans with ⟨front, split, _, derivation⟩
            rcases derivation.head with ⟨token, behind, rfl, starts⟩
            have isClosing := closes token (by rw [split]; rfl)
            simp [isClosing, Lexeme.startsOperand] at starts
  | skip => simp at silent

/-- A token list is read without a fault exactly when it is an expression of the grammar
whose groups are no deeper inside each other than allowed and whose phrases are not
blank, and it is then read as the tree of its derivation. -/
theorem faults_eq_nil_iff_derives (tokens : List Token) (nonempty : tokens ≠ [])
    (noEmpty : NoEmptyGroup tokens) :
    ((readTokens tokens).faults = [] ↔
      NoBlankPhrase tokens ∧ ∃ tree, Derives .disjunction nestingLimit tokens tree) ∧
    ∀ tree, NoBlankPhrase tokens → Derives .disjunction nestingLimit tokens tree →
      (readTokens tokens).tree = some tree := by
  refine ⟨⟨?_, ?_⟩, ?_⟩
  · intro silent
    rcases readsParts_readTokens tokens with ⟨reads, finished⟩
    rcases reads.sound silent noEmpty with ⟨_, unmoved⟩ | ⟨tree, _, spans, _⟩
    · rw [finished] at unmoved
      exact (nonempty unmoved.symm).elim
    · rcases spans with ⟨consumed, split, noBlank, derivation⟩
      rw [finished, List.append_nil] at split
      subst split
      exact ⟨noBlank, tree, derivation⟩
  · rintro ⟨noBlank, tree, derivation⟩
    rw [readTokens_of_derives derivation noBlank]
    rfl
  · intro tree noBlank derivation
    rw [readTokens_of_derives derivation noBlank]
    rfl

/-- The tokens of `(a OR b) NOT c`. -/
def groupedTokens : List Token :=
  [⟨.opening, 0⟩, ⟨.term ['a'], 1⟩, ⟨.or, 3⟩, ⟨.term ['b'], 6⟩, ⟨.closing, 7⟩, ⟨.not, 9⟩,
    ⟨.term ['c'], 13⟩]

/-- The tree of `(a OR b) NOT c`. -/
def groupedTree : Expr :=
  .and (.or (.operand (.term ['a'])) (.operand (.term ['b']))) (.not (.operand (.term ['c'])))

theorem derives_groupedTokens : Derives .disjunction nestingLimit groupedTokens groupedTree := by
  have word {room : Nat} (position : Nat) (text : Text) :
      Derives .negation room [⟨.term text, position⟩] (.operand (.term text)) :=
    .atom (.leaf rfl)
  have either : Derives .disjunction 31
      ([⟨.term ['a'], 1⟩] ++ ⟨.or, 3⟩ :: [⟨.term ['b'], 6⟩])
      (.or (.operand (.term ['a'])) (.operand (.term ['b']))) :=
    .or (.conjunction (.negation (word 1 ['a']))) rfl (.negation (word 6 ['b']))
  have group : Derives .atom nestingLimit
      (⟨.opening, 0⟩ :: ([⟨.term ['a'], 1⟩] ++ ⟨.or, 3⟩ :: [⟨.term ['b'], 6⟩]) ++ [⟨.closing, 7⟩])
      (.or (.operand (.term ['a'])) (.operand (.term ['b']))) :=
    .group rfl either rfl
  have without : Derives .negation nestingLimit [⟨.not, 9⟩, ⟨.term ['c'], 13⟩]
      (.not (.operand (.term ['c']))) :=
    .not rfl (word 13 ['c'])
  exact .conjunction (.juxtaposed (.negation (.atom group)) without)

theorem groupedTokens_accepted :
    (groupedTokens ≠ [] ∧ NoEmptyGroup groupedTokens) ∧
      (readTokens groupedTokens).faults = [] ∧
      (readTokens groupedTokens).tree = some groupedTree := by
  have nonempty : groupedTokens ≠ [] := by decide
  have noEmpty : NoEmptyGroup groupedTokens := by decide
  have noBlank : NoBlankPhrase groupedTokens := by decide
  have accepts := faults_eq_nil_iff_derives groupedTokens nonempty noEmpty
  have accepted := accepts.1.mpr ⟨noBlank, groupedTree, derives_groupedTokens⟩
  exact ⟨⟨nonempty, noEmpty⟩, accepted, accepts.2 groupedTree noBlank derives_groupedTokens⟩

end SpecFinder.Query
