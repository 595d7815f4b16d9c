import SpecFinder.Proofs.Query.Ledgers
import SpecFinder.Proofs.Query.ReaderSteps

/-!
# The accounts of a query

Nothing that is written in a query is dropped without a report.  The invariant is `Settles`:
the entries of the consumed tokens make up the tree and the faults of a reading.  Ledgers
follow each other as readings do, so that every law about what is written, joined and
reported is one about a single ledger.
-/

namespace SpecFinder.Query

/-- The entries of a ledger make up a tree and faults.  When no negation is reported to lack
its operand, each one that is written negates; when nothing lies too deep, each group that
is opened is closed. -/
structure Settles (ledger : Ledger) (tree : Option Expr) (faults : List Fault) : Prop where
  sound : ∀ entry ∈ ledger, entry.IsSound
  row : IsRowOf tree ledger.row
  reports : faults.Perm ledger.faults
  negations_le : tree.elim 0 Expr.negations ≤ timesWritten .not ledger.shaping
  negations : (∀ place, .missingAfterNot place ∉ faults) →
    timesWritten .not ledger.shaping = tree.elim 0 Expr.negations
  groups : (∀ place, .tooDeep place ∉ faults) →
    timesWritten .opening ledger.shaping = timesWritten .closing ledger.shaping

namespace Settles

variable {ledger others : Ledger} {tree : Option Expr} {left right whole : Expr}
  {faults later : List Fault} {token : Token} {fault : Fault}

theorem nothing : Settles [] none [] where
  sound := by simp
  row := rfl
  reports := .nil
  negations_le := Nat.le_refl 0
  negations := fun _ => rfl
  groups := fun _ => rfl

theorem leaf {leaf : Operand} (writes : token.lexeme.operand? = some leaf) :
    Settles [⟨token, .joined⟩] (some (.operand leaf)) [] where
  sound := by simp [Entry.IsSound]
  row := .operand writes
  reports := .nil
  negations_le := Nat.le_refl 0
  negations := fun _ => rfl
  groups := fun _ => rfl

/-- A token is reported in front of what is settled. -/
theorem report (settles : Settles ledger tree faults) (about : Fault.IsAbout token fault) :
    Settles (⟨token, .reported fault⟩ :: ledger) tree (faults ++ [fault]) where
  sound := List.forall_mem_cons.mpr ⟨about, settles.sound⟩
  row := settles.row
  reports := (List.perm_append_singleton fault faults).trans (settles.reports.cons fault)
  negations_le := settles.negations_le
  negations := fun none => settles.negations fun place told =>
    none place (List.mem_append_left [fault] told)
  groups := fun none => settles.groups fun place told =>
    none place (List.mem_append_left [fault] told)

/-- A group around what is settled. -/
theorem group {closing : Token} (settles : Settles ledger tree faults)
    (opens : token.lexeme = .opening) (closes : closing.lexeme = .closing) :
    Settles (⟨token, .shaping⟩ :: ledger ++ [⟨closing, .shaping⟩]) tree faults := by
  have closed : Ledger.row [⟨closing, .shaping⟩] = [] ∧
      Ledger.faults [⟨closing, .shaping⟩] = [] ∧
      Ledger.shaping [⟨closing, .shaping⟩] = [closing] := ⟨rfl, rfl, rfl⟩
  constructor
  · simpa [Entry.IsSound, opens, closes, or_imp, forall_and] using settles.sound
  · simpa [closed] using settles.row
  · simpa [closed] using settles.reports
  · simpa [closed, opens, closes] using settles.negations_le
  · simpa [closed, opens, closes] using settles.negations
  · simpa [closed, opens, closes] using settles.groups

/-- A negation of what is settled. -/
theorem not (settles : Settles ledger (some left) faults) (isNot : token.lexeme = .not) :
    Settles (⟨token, .shaping⟩ :: ledger) (some (.not left)) faults := by
  constructor
  · simpa [Entry.IsSound, isNot] using settles.sound
  · exact .not settles.row
  · exact settles.reports
  · simpa [isNot, Expr.negations] using settles.negations_le
  · simpa [isNot, Expr.negations] using settles.negations
  · simpa [isNot] using settles.groups

theorem negate {negations : List Token} (settles : Settles ledger (some left) faults)
    (areNot : ∀ token ∈ negations, token.lexeme = .not) :
    Settles (.ofShaping negations ++ ledger)
      (some (negations.foldl (fun tree _ => .not tree) left)) faults := by
  induction negations with
  | nil => exact settles
  | cons token negations ih =>
      rw [List.forall_mem_cons] at areNot
      have outermost : (token :: negations).foldl (fun tree _ => Expr.not tree) left =
          .not (negations.foldl (fun tree _ => .not tree) left) := foldl_not negations left
      rw [outermost]
      exact (ih areNot.2).not areNot.1

/-- Negations without an operand, which a fault reports. -/
theorem passNegations {negations : List Token} (settles : Settles ledger none faults)
    (negate : ∀ token ∈ negations, token.lexeme = .not) {place : Nat}
    (told : .missingAfterNot place ∈ faults) :
    Settles (.ofShaping negations ++ ledger) none faults where
  sound := by
    have shape : ∀ entry ∈ Ledger.ofShaping negations, entry.IsSound := by
      simpa [Ledger.ofShaping, Entry.IsSound] using fun token member => .inl (negate token member)
    exact List.forall_mem_append.mpr ⟨shape, settles.sound⟩
  row := by simpa using settles.row
  reports := by simpa using settles.reports
  negations_le := Nat.zero_le _
  negations := fun none => (none place told).elim
  groups := by
    intro none
    have noOpening := timesWritten_of_forall negate (by simp : Lexeme.not ≠ .opening)
    have noClosing := timesWritten_of_forall negate (by simp : Lexeme.not ≠ .closing)
    simpa [noOpening, noClosing] using settles.groups none

/-- Opening parentheses beyond the nesting limit, of which the first is reported. -/
theorem tooDeep {openings : List Token} (settles : Settles ledger tree faults)
    (opens : token.lexeme = .opening) (open_ : ∀ token ∈ openings, token.lexeme = .opening) :
    Settles (⟨token, .reported (.tooDeep token.position)⟩ :: (Ledger.ofShaping openings ++ ledger))
      tree (.tooDeep token.position :: faults) := by
  have noNegation := timesWritten_of_forall open_ (by simp : Lexeme.opening ≠ .not)
  have about : Fault.IsAbout token (.tooDeep token.position) := .ofLexeme opens .tooDeep
  have shape : ∀ entry ∈ Ledger.ofShaping openings, entry.IsSound := by
    simpa [Ledger.ofShaping, Entry.IsSound] using
      fun token member => .inr (.inl (open_ token member))
  constructor
  · exact List.forall_mem_cons.mpr ⟨about, List.forall_mem_append.mpr ⟨shape, settles.sound⟩⟩
  · simpa using settles.row
  · simpa using settles.reports
  · simpa [noNegation] using settles.negations_le
  · simpa [noNegation] using settles.negations
  · intro none
    exact (none token.position List.mem_cons_self).elim

/-- Two ledgers one after the other, without a connective between them. -/
theorem beside {first second : Option Expr} (front : Settles ledger first faults)
    (back : Settles others second later) :
    Settles (ledger ++ others) (joinParts first second) (faults ++ later) where
  sound := by simpa [or_imp, forall_and] using ⟨front.sound, back.sound⟩
  row := by simpa using isRowOf_joinParts front.row back.row
  reports := by simpa using front.reports.append back.reports
  negations_le := by
    have bound := Nat.add_le_add front.negations_le back.negations_le
    cases first <;> cases second <;> simp_all [joinParts, Expr.negations]
  negations := by
    intro none
    simp only [List.mem_append, not_or, forall_and] at none
    rw [Ledger.shaping_append, timesWritten_append, front.negations none.1,
      back.negations none.2]
    cases first <;> cases second <;> simp [joinParts, Expr.negations]
  groups := by
    intro none
    simp only [List.mem_append, not_or, forall_and] at none
    simp [front.groups none.1, back.groups none.2]

/-- A written connective between two operands. -/
theorem joined (front : Settles ledger (some left) faults)
    (back : Settles others (some right) later)
    (row : ∀ leftRow rightRow, left.IsRow leftRow → right.IsRow rightRow →
      whole.IsRow (leftRow ++ token :: rightRow))
    (negations : whole.negations = left.negations + right.negations) :
    Settles (ledger ++ ⟨token, .joined⟩ :: others) (some whole) (faults ++ later) := by
  have between := front.beside back
  have sum : (joinParts (some left) (some right)).elim 0 Expr.negations =
      (some whole).elim 0 Expr.negations := negations.symm
  constructor
  · simpa [Entry.IsSound, or_imp, forall_and] using between.sound
  · rw [Ledger.row_append]
    exact row _ _ front.row back.row
  · simpa using between.reports
  · simpa [sum] using between.negations_le
  · simpa [sum] using between.negations
  · simpa using between.groups

/-! What the readers do with negations and with the connectives of a loop. -/

/-- Negations are left around an operand, or the last of them is reported to lack one. -/
theorem negated {negations : List Token} {inner : Reading}
    (settles : Settles ledger inner.tree inner.faults)
    (areNot : ∀ token ∈ negations, token.lexeme = .not) :
    ∃ entries : Ledger, entries.tokens = negations ++ ledger.tokens ∧
      Settles entries (inner.negated negations).tree (inner.negated negations).faults := by
  cases found : inner.tree with
  | some tree =>
      rw [found] at settles
      refine ⟨.ofShaping negations ++ ledger, by simp, ?_⟩
      simpa [Reading.negated, found] using settles.negate areNot
  | none =>
      cases last : negations.getLast? with
      | none =>
          obtain rfl : negations = [] := List.getLast?_eq_none_iff.mp last
          exact ⟨ledger, rfl, by simpa using settles⟩
      | some token =>
          rcases List.getLast?_eq_some_iff.mp last with ⟨earlier, rfl⟩
          rw [found] at settles
          rw [List.forall_mem_append, List.forall_mem_singleton] at areNot
          have about : Fault.IsAbout token (.missingAfterNot token.position) :=
            .ofLexeme areNot.2 .missingAfterNot
          have settled := (settles.report about).passNegations areNot.1
            (List.mem_append_right _ (List.mem_singleton_self _))
          refine ⟨_, ?_, by simpa [Reading.negated, found, last] using settled⟩
          simp

/-- The next operand of a conjunction, behind a written connective or not. -/
theorem nextAnd {behind rest : List Token} (front : Settles ledger (some left) faults)
    (back : Settles others (some right) later)
    (followed : skipAnd token behind = others.tokens ++ rest) :
    ∃ entries : Ledger, token :: behind = entries.tokens ++ rest ∧
      Settles (ledger ++ entries) (some (.and left right)) (faults ++ later) := by
  by_cases isAnd : token.lexeme = .and
  · rw [skipAnd, if_pos isAnd] at followed
    refine ⟨⟨token, .joined⟩ :: others, congrArg (token :: ·) followed, ?_⟩
    refine front.joined back ?_ rfl
    intro leftRow rightRow isRow othersAreRow
    exact .and isRow isAnd othersAreRow
  · rw [skipAnd, if_neg isAnd] at followed
    exact ⟨others, followed, front.beside back⟩

/-- No operand goes on with a conjunction. A written connective is reported to lack it. -/
theorem breakAnd {behind rest : List Token} (front : Settles ledger (some left) faults)
    (back : Settles others none later)
    (followed : skipAnd token behind = others.tokens ++ rest) :
    ∃ entries : Ledger, token :: behind = entries.tokens ++ rest ∧
      Settles (ledger ++ entries) (some left) (faults ++ (later ++ missingAfter token)) := by
  by_cases isAnd : token.lexeme = .and
  · rw [skipAnd, if_pos isAnd] at followed
    have about : Fault.IsAbout token (.missingAfterAnd token.position) :=
      .ofLexeme isAnd .missingAfterAnd
    refine ⟨⟨token, .reported (.missingAfterAnd token.position)⟩ :: others,
      congrArg (token :: ·) followed, ?_⟩
    rw [missingAfter, if_pos isAnd]
    exact front.beside (back.report about)
  · rw [skipAnd, if_neg isAnd] at followed
    refine ⟨others, followed, ?_⟩
    rw [missingAfter, if_neg isAnd, List.append_nil]
    exact front.beside back

end Settles

/-- What a reader consumes is settled by a ledger. -/
theorem Reads.settles {room : Nat} {stage : Stage} {tokens : List Token} {reading : Reading}
    (reads : Reads room stage tokens reading) :
    ∃ ledger : Ledger, tokens = ledger.tokens ++ reading.rest ∧
      Settles ledger reading.tree reading.faults := by
  -- Two ledgers cover what a reader and the one behind it consume.
  have goOn {ledger entries : Ledger} {consumed behind rest : List Token}
      (front : consumed = ledger.tokens ++ behind) {token : Token} {others : List Token}
      (follows : behind = token :: others) (back : token :: others = entries.tokens ++ rest) :
      consumed = Ledger.tokens (ledger ++ entries) ++ rest := by
    rw [front, follows, back, Ledger.tokens_append, List.append_assoc]
  induction reads with
  | absent => exact ⟨[], rfl, .nothing⟩
  | leaf writes => exact ⟨[⟨_, .joined⟩], rfl, .leaf writes⟩
  | @blank _ token rest isBlank =>
      have about : Fault.IsAbout token (.emptyPhrase token.position) := .blank isBlank
      exact ⟨[⟨token, .reported (.emptyPhrase token.position)⟩], rfl, Settles.nothing.report about⟩
  | @group _ token rest inner opens _ ih =>
      rcases ih with ⟨ledger, consumed, settles⟩
      rcases closeGroup_cases token.position inner with
        ⟨closing, behind, closes, found, closed⟩ | ⟨_, unclosed⟩
      · refine ⟨⟨token, .shaping⟩ :: ledger ++ [⟨closing, .shaping⟩], ?_, ?_⟩
        · rw [closed, consumed, found]
          simp
        · rw [closed]
          exact settles.group opens closes
      · refine ⟨⟨token, .reported (.unclosedGroup token.position)⟩ :: ledger, ?_, ?_⟩
        · rw [unclosed, consumed]
          rfl
        · rw [unclosed]
          exact settles.report (.ofLexeme opens .unclosedGroup)
  | @tooDeep token rest inner opens _ ih =>
      rcases ih with ⟨ledger, consumed, settles⟩
      have open_ : ∀ token ∈ rest.takeWhile (·.opensGroup), token.lexeme = .opening := by
        intro token member
        simpa [Token.opensGroup] using List.mem_takeWhile_imp member
      refine ⟨_, ?_, settles.tooDeep opens open_⟩
      have parts := List.takeWhile_append_dropWhile (p := (·.opensGroup)) (l := rest)
      rw [consumed, ← List.append_assoc] at parts
      simp only [Ledger.tokens_cons, Ledger.tokens_append, Ledger.tokens_ofShaping,
        Reading.rest_after, List.cons_append, parts]
  | negated areNot _ _ ih =>
      rcases ih with ⟨ledger, consumed, settles⟩
      rcases settles.negated areNot with ⟨entries, same, settled⟩
      exact ⟨entries, by rw [same, consumed, List.append_assoc, Reading.rest_negated], settled⟩
  | firstAnd _ _ ih | noAnd _ _ ih | endAnd _ _ ih => exact ih
  | firstOr _ _ ih | noOr _ _ ih | endOr _ _ ih => exact ih
  | nextAnd _ held follows _ _ found beforeIH ih =>
      rcases beforeIH with ⟨ledger, consumed, front⟩
      rcases ih with ⟨others, followed, back⟩
      rw [held] at front
      rw [found] at back
      rcases front.nextAnd back followed with ⟨entries, further, settled⟩
      exact ⟨ledger ++ entries, goOn consumed follows further, settled⟩
  | breakAnd _ held follows _ _ found beforeIH ih =>
      rcases beforeIH with ⟨ledger, consumed, front⟩
      rcases ih with ⟨others, followed, back⟩
      rw [held] at front
      rw [found] at back
      rcases front.breakAnd back followed with ⟨entries, further, settled⟩
      exact ⟨ledger ++ entries, goOn consumed follows further, settled⟩
  | @nextOr _ _ behind token _ next left right _ held follows isOr _ found beforeIH ih =>
      rcases beforeIH with ⟨ledger, consumed, front⟩
      rcases ih with ⟨others, followed, back⟩
      rw [held] at front
      rw [found] at back
      have further : token :: behind = Ledger.tokens (⟨token, .joined⟩ :: others) ++ next.rest :=
        congrArg (token :: ·) followed
      refine ⟨_, goOn consumed follows further, front.joined back ?_ rfl⟩
      intro leftRow rightRow isRow othersAreRow
      exact .or isRow isOr othersAreRow
  | @breakOr _ _ behind token reading next left _ held follows isOr _ found beforeIH ih =>
      rcases beforeIH with ⟨ledger, consumed, front⟩
      rcases ih with ⟨others, followed, back⟩
      rw [held] at front
      rw [found] at back
      have about : Fault.IsAbout token (.missingAfterOr token.position) :=
        .ofLexeme isOr .missingAfterOr
      have further : token :: behind =
          Ledger.tokens (⟨token, .reported (.missingAfterOr token.position)⟩ :: others) ++
            next.rest := congrArg (token :: ·) followed
      exact ⟨_, goOn consumed follows further, front.beside (back.report about)⟩

/-- What has been consumed of a whole query is settled by a ledger. -/
theorem ReadsParts.settles {tokens : List Token} {reading : Reading}
    (reads : ReadsParts tokens reading) :
    ∃ ledger : Ledger, tokens = ledger.tokens ++ reading.rest ∧
      Settles ledger reading.tree reading.faults := by
  induction reads with
  | start => exact ⟨[], rfl, .nothing⟩
  | join _ next _ ih =>
      rcases ih with ⟨ledger, consumed, front⟩
      rcases next.settles with ⟨others, followed, back⟩
      refine ⟨ledger ++ others, ?_, front.beside back⟩
      rw [consumed, followed]
      simp
  | @skip reading next token behind _ follows reads stuck ih =>
      rcases ih with ⟨ledger, consumed, front⟩
      rcases reads.settles with ⟨others, followed, back⟩
      have nothing : others = [] := by
        have length := congrArg List.length followed
        rw [List.length_append] at length
        have none : others.tokens.length = 0 := by omega
        simpa [Ledger.tokens] using none
      subst nothing
      have silent : next.faults = [] := List.perm_nil.mp back.reports
      have head := reads.head_of_stuck stuck token (by simp [follows])
      have stray := Lexeme.startsOperand_of_isConnective head.1 (head.2 (by simp))
      have skipped := front.beside (Settles.nothing.report (.unexpected stray))
      refine ⟨_, ?_, by simpa [silent, joinParts_none] using skipped⟩
      rw [consumed, follows]
      simp

/-- A whole query is settled by a ledger. -/
theorem readTokens_settles (tokens : List Token) :
    ∃ ledger : Ledger, ledger.tokens = tokens ∧
      Settles ledger (readTokens tokens).tree (readTokens tokens).faults := by
  rcases readsParts_readTokens tokens with ⟨reads, finished⟩
  rcases reads.settles with ⟨ledger, consumed, settles⟩
  rw [finished, List.append_nil] at consumed
  exact ⟨ledger, consumed.symm, settles⟩

/-! ## The accounts of a query -/

/-- The tokens of a query stand one behind the other. -/
theorem Cuts.pairwise_position_lt {query : Text} {position : Nat} {tokens : List Token}
    (cuts : Cuts query position tokens) :
    tokens.Pairwise fun earlier later => earlier.position < later.position := by
  refine cuts.pairwise_stop_le.imp_of_mem ?_
  intro earlier later member _ apart
  exact Nat.lt_of_lt_of_le (cuts.position_lt_stop member).1 apart

namespace Settles

variable {ledger : Ledger} {tree : Option Expr} {faults : List Fault} {token : Token}

/-- The one entry of a token decides whether it is in the row and what is reported at its
place, where the tokens stand one behind the other. -/
theorem exists_entry (settles : Settles ledger tree faults)
    (apart : ledger.tokens.Pairwise fun earlier later => earlier.position < later.position)
    (member : token ∈ ledger.tokens) :
    ∃ fate, Entry.IsSound ⟨token, fate⟩ ∧ (token ∈ ledger.row ↔ fate = .joined) ∧
      faults.filter (·.position == token.position) = (Entry.fault? ⟨token, fate⟩).toList := by
  rcases List.mem_map.mp member with ⟨entry, listed, rfl⟩
  rcases List.append_of_mem listed with ⟨front, back, rfl⟩
  rcases entry with ⟨token, fate⟩
  rw [Ledger.tokens_append, Ledger.tokens_cons, List.pairwise_append,
    List.pairwise_cons] at apart
  have before : ∀ other ∈ Ledger.tokens front, other.position ≠ token.position :=
    fun other found => Nat.ne_of_lt (apart.2.2 other found token List.mem_cons_self)
  have behind : ∀ other ∈ Ledger.tokens back, other.position ≠ token.position :=
    fun other found => Nat.ne_of_gt (apart.2.1.1 other found)
  have sound := settles.sound
  rw [List.forall_mem_append, List.forall_mem_cons] at sound
  refine ⟨fate, sound.2.1, ?_, ?_⟩
  · have notBefore : token ∉ Ledger.row front := fun found =>
      before token (Ledger.row_sublist.mem found) rfl
    have notBehind : token ∉ Ledger.row back := fun found =>
      behind token (Ledger.row_sublist.mem found) rfl
    cases fate <;> simp [notBefore, notBehind]
  · have noneBefore := Ledger.filter_faults_eq_nil sound.1 before
    have noneBehind := Ledger.filter_faults_eq_nil sound.2.2 behind
    have told := settles.reports.filter (·.position == token.position)
    cases fate with
    | joined => simpa [noneBefore, noneBehind, Entry.fault?] using told
    | shaping => simpa [noneBefore, noneBehind, Entry.fault?] using told
    | reported fault =>
        have about : Fault.IsAbout token fault := sound.2.1
        simpa [noneBefore, noneBehind, Entry.fault?, about.position_eq] using told

end Settles

/-- What the tokens, the tree and the faults of a query have to do with each other when
nothing that joins, negates or groups is dropped without a report. -/
structure Accounted (tokens : List Token) (tree : Option Expr) (faults : List Fault) :
    Prop where
  /-- A written disjunction is one of the tree or is reported. -/
  disjunctions : timesWritten .or tokens = tree.elim 0 Expr.disjunctions +
    timesTold ["Expected term after OR", "Unexpected 'OR'"] faults
  /-- The tree has no negations but written ones, and all of them unless an operand is
  reported missing. -/
  negations_le : tree.elim 0 Expr.negations ≤ timesWritten .not tokens
  negations : timesTold ["Expected term after NOT"] faults = 0 →
    timesWritten .not tokens = tree.elim 0 Expr.negations
  /-- A written conjunction either stands in the row of the tree, between the operands that it
  joins, or there is exactly one report of its place, which is about it. -/
  conjunctions : ∃ row, row.Sublist tokens ∧ IsRowOf tree row ∧
    ∀ token ∈ tokens, token.lexeme = .and →
      token ∈ row ∧ faults.filter (·.position == token.position) = [] ∨
      token ∉ row ∧ ∃ fault, faults.filter (·.position == token.position) = [fault] ∧
        (fault = .missingAfterAnd token.position ∨ fault = .unexpected token)
  /-- Unless groups lie too deep, as many are opened as closed, but for those that are
  reported. -/
  groups : timesTold ["Nesting deeper"] faults = 0 →
    (timesWritten .opening tokens : Int) - timesTold ["Expected closing parenthesis"] faults =
      timesWritten .closing tokens - timesTold ["Unexpected ')'"] faults

namespace Settles

variable {ledger : Ledger} {tree : Option Expr} {faults : List Fault}

/-- A lexeme is written in the row or to shape the tree, or it is reported. -/
theorem timesWritten_eq (settles : Settles ledger tree faults) {lexeme : Lexeme}
    {beginnings : List String} (agrees : ∀ token fault, Fault.IsAbout token fault →
      fault.begins beginnings = (token.lexeme == lexeme)) :
    timesWritten lexeme ledger.tokens = timesWritten lexeme ledger.row +
      timesTold beginnings faults + timesWritten lexeme ledger.shaping := by
  rw [Ledger.timesWritten_tokens agrees settles.sound, timesTold,
    settles.reports.countP_eq]

/-- Only negations and parentheses shape a tree. -/
theorem timesWritten_shaping (settles : Settles ledger tree faults) {lexeme : Lexeme}
    (joins : lexeme ∉ [.not, .opening, .closing]) : timesWritten lexeme ledger.shaping = 0 := by
  rw [timesWritten, List.countP_eq_zero]
  intro token member isLexeme
  rcases List.mem_filterMap.mp member with ⟨⟨other, fate⟩, listed, shapes⟩
  cases fate with
  | shaping =>
      cases shapes
      have sound : token.lexeme ∈ [.not, .opening, .closing] := settles.sound _ listed
      rw [beq_iff_eq.mp isLexeme] at sound
      exact joins sound
  | joined | reported => cases shapes

theorem accounted (settles : Settles ledger tree faults)
    (apart : ledger.tokens.Pairwise fun earlier later => earlier.position < later.position) :
    Accounted ledger.tokens tree faults := by
  rcases timesWritten_of_isRowOf settles.row with ⟨rowOr, rowNot, rowOpening, rowClosing⟩
  have ors := settles.timesWritten_eq fun _ _ => Fault.IsAbout.begins_or
  have nots := settles.timesWritten_eq fun _ _ => Fault.IsAbout.begins_not
  have openings := settles.timesWritten_eq fun _ _ => Fault.IsAbout.begins_opening
  have closings := settles.timesWritten_eq fun _ _ => Fault.IsAbout.begins_closing
  constructor
  · rw [ors, rowOr, settles.timesWritten_shaping (by decide), Nat.add_zero]
  · have bound := settles.negations_le
    omega
  · intro none
    have complete := settles.negations fun place told => List.countP_eq_zero.mp none _ told rfl
    omega
  · refine ⟨ledger.row, Ledger.row_sublist, settles.row, ?_⟩
    intro token member isAnd
    rcases settles.exists_entry apart member with ⟨fate, sound, inRow, told⟩
    cases fate with
    | joined => exact .inl ⟨inRow.mpr rfl, told⟩
    | reported fault =>
        have about : Fault.IsAbout token fault := sound
        exact .inr ⟨by simp [inRow], fault, told, about.of_and isAnd⟩
    | shaping => simp [Entry.IsSound, isAnd] at sound
  · intro none
    have shallow := List.countP_eq_zero.mp none
    have closed := settles.groups fun place told => shallow _ told rfl
    have unclosed : timesTold ["Expected closing parenthesis", "Nesting deeper"] faults =
        timesTold ["Expected closing parenthesis"] faults := by
      refine List.countP_congr fun fault told => ?_
      rw [Fault.begins_cons, Bool.eq_false_iff.mpr (shallow fault told), Bool.or_false]
    omega

end Settles

/-- Nothing that joins, negates or groups in a query is dropped without a report. -/
theorem accounted_readTokens (source : Text) :
    Accounted (tokens source) (readTokens (tokens source)).tree
      (readTokens (tokens source)).faults := by
  rcases readTokens_settles (tokens source) with ⟨ledger, same, settles⟩
  have apart := (cuts_tokens source).pairwise_position_lt
  rw [← same] at apart
  have accounted := settles.accounted apart
  rwa [same] at accounted

end SpecFinder.Query
