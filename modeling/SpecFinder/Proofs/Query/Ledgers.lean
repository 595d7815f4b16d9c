import SpecFinder.Proofs.Query.Extents

/-!
# Ledgers of tokens

A ledger has one entry for each of some tokens in order, which says what becomes of it: the
token is in the row of the tree, it is reported by a fault of its own, or it shapes the tree
around it, as a negation or a parenthesis.

The row of a tree is the tree as it is written, without negations and parentheses: its
operands in order, and between two of them the connective that joins them.
-/

namespace SpecFinder.Query

/-! ## Faults and their tokens -/

namespace Fault

/-- The place of the token that a fault is about. -/
def position : Fault → Nat
  | .unexpected token => token.position
  | .missingAfterAnd position | .missingAfterOr position | .missingAfterNot position
  | .emptyPhrase position | .tooDeep position | .unclosedGroup position
  | .unclosedQuote position => position

/-- Whether the report of a fault begins with one of some texts. -/
def begins (beginnings : List String) (fault : Fault) : Bool :=
  beginnings.any fun beginning => beginning.toList.isPrefixOf fault.message

theorem begins_cons (beginning : String) (beginnings : List String) (fault : Fault) :
    fault.begins (beginning :: beginnings) =
      (fault.begins [beginning] || fault.begins beginnings) := by
  simp [begins]

/-- What readers report about a token. -/
inductive IsAbout : Token → Fault → Prop where
  | strayAnd {position : Nat} : IsAbout ⟨.and, position⟩ (.unexpected ⟨.and, position⟩)
  | strayOr {position : Nat} : IsAbout ⟨.or, position⟩ (.unexpected ⟨.or, position⟩)
  | strayClosing {position : Nat} :
      IsAbout ⟨.closing, position⟩ (.unexpected ⟨.closing, position⟩)
  | missingAfterAnd {position : Nat} : IsAbout ⟨.and, position⟩ (.missingAfterAnd position)
  | missingAfterOr {position : Nat} : IsAbout ⟨.or, position⟩ (.missingAfterOr position)
  | missingAfterNot {position : Nat} : IsAbout ⟨.not, position⟩ (.missingAfterNot position)
  | emptyPhrase {body : Text} {position : Nat} :
      IsAbout ⟨.phrase body, position⟩ (.emptyPhrase position)
  | tooDeep {position : Nat} : IsAbout ⟨.opening, position⟩ (.tooDeep position)
  | unclosedGroup {position : Nat} : IsAbout ⟨.opening, position⟩ (.unclosedGroup position)

namespace IsAbout

variable {token : Token} {fault : Fault}

theorem unexpected (stray : token.lexeme.startsOperand = false) :
    IsAbout token (.unexpected token) := by
  rcases token with ⟨lexeme, position⟩
  cases lexeme with
  | and => exact .strayAnd
  | or => exact .strayOr
  | closing => exact .strayClosing
  | term | phrase | field | fuzzy | not | opening => cases stray

theorem blank (isBlank : token.lexeme.isBlankPhrase = true) :
    IsAbout token (.emptyPhrase token.position) := by
  rcases token with ⟨lexeme, position⟩
  cases lexeme with
  | phrase => exact .emptyPhrase
  | term | field | fuzzy | and | or | not | opening | closing => cases isBlank

theorem ofLexeme {lexeme : Lexeme} {fault : Nat → Fault} (is : token.lexeme = lexeme)
    (about : IsAbout ⟨lexeme, token.position⟩ (fault token.position)) :
    IsAbout token (fault token.position) := by
  subst is
  exact about

theorem position_eq (about : IsAbout token fault) : fault.position = token.position := by
  cases about <;> rfl

theorem of_and (about : IsAbout token fault) (isAnd : token.lexeme = .and) :
    fault = .missingAfterAnd token.position ∨ fault = .unexpected token := by
  cases about with
  | strayAnd => exact .inr rfl
  | missingAfterAnd => exact .inl rfl
  | _ => cases isAnd

theorem begins_or (about : IsAbout token fault) :
    fault.begins ["Expected term after OR", "Unexpected 'OR'"] = (token.lexeme == .or) := by
  cases about <;> rfl

theorem begins_not (about : IsAbout token fault) :
    fault.begins ["Expected term after NOT"] = (token.lexeme == .not) := by
  cases about <;> rfl

theorem begins_closing (about : IsAbout token fault) :
    fault.begins ["Unexpected ')'"] = (token.lexeme == .closing) := by
  cases about <;> rfl

theorem begins_opening (about : IsAbout token fault) :
    fault.begins ["Expected closing parenthesis", "Nesting deeper"] =
      (token.lexeme == .opening) := by
  cases about <;> rfl

/-- No token is reported as a quote. -/
theorem begins_quote (about : IsAbout token fault) :
    fault.begins ["Unterminated quote"] = false := by
  cases about <;> rfl

end IsAbout

end Fault

/-- How often a lexeme is written. -/
def timesWritten (lexeme : Lexeme) (tokens : List Token) : Nat :=
  tokens.countP (·.lexeme == lexeme)

/-- How many reports begin with one of some texts. -/
def timesTold (beginnings : List String) (faults : List Fault) : Nat :=
  faults.countP (·.begins beginnings)

section

variable {lexeme : Lexeme} {token : Token} {tokens others : List Token}

@[simp] theorem timesWritten_nil : timesWritten lexeme [] = 0 := rfl

@[simp] theorem timesWritten_cons : timesWritten lexeme (token :: tokens) =
    timesWritten lexeme tokens + if token.lexeme == lexeme then 1 else 0 :=
  List.countP_cons

theorem timesWritten_of_forall {other : Lexeme} (all : ∀ token ∈ tokens, token.lexeme = other)
    (differs : other ≠ lexeme) : timesWritten lexeme tokens = 0 := by
  rw [timesWritten, List.countP_eq_zero]
  intro token member
  simpa [all token member] using differs

@[simp] theorem timesWritten_append : timesWritten lexeme (tokens ++ others) =
    timesWritten lexeme tokens + timesWritten lexeme others :=
  List.countP_append

end

/-! ## The row of a tree -/

namespace Expr

/-- The number of disjunctions in a tree. -/
def disjunctions : Expr → Nat
  | .operand _ => 0
  | .not inner => inner.disjunctions
  | .and left right => left.disjunctions + right.disjunctions
  | .or left right => left.disjunctions + right.disjunctions + 1

/-- The number of negations in a tree. -/
def negations : Expr → Nat
  | .operand _ => 0
  | .not inner => inner.negations + 1
  | .and left right | .or left right => left.negations + right.negations

/-- The tokens that a tree joins, in order: those of its operands, and between two operands
the connective that joins them.  A conjunction need not be written. -/
inductive IsRow : Expr → List Token → Prop where
  | operand {token : Token} {leaf : Operand} (writes : token.lexeme.operand? = some leaf) :
      IsRow (.operand leaf) [token]
  | not {inner : Expr} {row : List Token} (within : IsRow inner row) : IsRow (.not inner) row
  | and {left right : Expr} {row others : List Token} {joint : Token}
      (front : IsRow left row) (isAnd : joint.lexeme = .and) (back : IsRow right others) :
      IsRow (.and left right) (row ++ joint :: others)
  | beside {left right : Expr} {row others : List Token}
      (front : IsRow left row) (back : IsRow right others) :
      IsRow (.and left right) (row ++ others)
  | or {left right : Expr} {row others : List Token} {joint : Token}
      (front : IsRow left row) (isOr : joint.lexeme = .or) (back : IsRow right others) :
      IsRow (.or left right) (row ++ joint :: others)

end Expr

/-- The row of a tree that may be absent. -/
def IsRowOf (tree : Option Expr) (row : List Token) : Prop :=
  match tree with
  | some tree => tree.IsRow row
  | none => row = []

theorem isRowOf_joinParts {left right : Option Expr} {row others : List Token}
    (front : IsRowOf left row) (back : IsRowOf right others) :
    IsRowOf (joinParts left right) (row ++ others) := by
  cases left with
  | none =>
      obtain rfl : row = [] := front
      exact back
  | some leftTree =>
      cases right with
      | none =>
          obtain rfl : others = [] := back
          rw [List.append_nil]
          exact front
      | some rightTree => exact .beside front back

/-- A row has the disjunctions of its tree, and no negation or parenthesis is in it. -/
theorem Expr.IsRow.timesWritten_eq {tree : Expr} {row : List Token} (isRow : tree.IsRow row) :
    timesWritten .or row = tree.disjunctions ∧ timesWritten .not row = 0 ∧
      timesWritten .opening row = 0 ∧ timesWritten .closing row = 0 := by
  induction isRow with
  | @operand token leaf writes =>
      rcases token with ⟨lexeme, position⟩
      cases lexeme with
      | term | phrase | field | fuzzy => exact ⟨rfl, rfl, rfl, rfl⟩
      | and | or | not | opening | closing => cases writes
  | not _ ih => exact ih
  | and _ isAnd _ frontIH backIH => simp [disjunctions, isAnd, frontIH, backIH]
  | beside _ _ frontIH backIH => simp [disjunctions, frontIH, backIH]
  | or _ isOr _ frontIH backIH =>
      simp [disjunctions, isOr, frontIH, backIH]
      omega

theorem timesWritten_of_isRowOf {tree : Option Expr} {row : List Token}
    (isRow : IsRowOf tree row) :
    timesWritten .or row = tree.elim 0 Expr.disjunctions ∧ timesWritten .not row = 0 ∧
      timesWritten .opening row = 0 ∧ timesWritten .closing row = 0 := by
  cases tree with
  | none =>
      obtain rfl : row = [] := isRow
      exact ⟨rfl, rfl, rfl, rfl⟩
  | some tree => exact Expr.IsRow.timesWritten_eq isRow

/-! ## Ledgers -/

/-- What becomes of a token: it is in the row of the tree, it is reported, or it shapes the
tree around it as a negation or a parenthesis. -/
inductive Fate where
  | joined
  | reported (fault : Fault)
  | shaping
  deriving DecidableEq, Repr

/-- A token and what becomes of it. -/
structure Entry where
  token : Token
  fate : Fate
  deriving DecidableEq, Repr

namespace Entry

/-- Whether a token can have its fate. -/
def IsSound (entry : Entry) : Prop :=
  match entry.fate with
  | .joined => True
  | .reported fault => fault.IsAbout entry.token
  | .shaping => entry.token.lexeme ∈ [.not, .opening, .closing]

/-- The token if it is in the row. -/
def joined? : Entry → Option Token
  | ⟨token, .joined⟩ => some token
  | _ => none

/-- What is reported of the token. -/
def fault? : Entry → Option Fault
  | ⟨_, .reported fault⟩ => some fault
  | _ => none

/-- The token if it shapes the tree. -/
def shaping? : Entry → Option Token
  | ⟨token, .shaping⟩ => some token
  | _ => none

end Entry

/-- An account of some tokens in order. -/
abbrev Ledger := List Entry

namespace Ledger

/-- The tokens of a ledger. -/
def tokens (ledger : Ledger) : List Token := ledger.map (·.token)

/-- The row of the tree, by a ledger. -/
def row (ledger : Ledger) : List Token := ledger.filterMap (·.joined?)

/-- What is reported, by a ledger. -/
def faults (ledger : Ledger) : List Fault := ledger.filterMap (·.fault?)

/-- The tokens that shape the tree, by a ledger. -/
def shaping (ledger : Ledger) : List Token := ledger.filterMap (·.shaping?)

variable {ledger others : Ledger} {token : Token} {fault : Fault}

@[simp] theorem tokens_nil : tokens [] = [] := rfl

@[simp] theorem tokens_cons (entry : Entry) :
    tokens (entry :: ledger) = entry.token :: tokens ledger := rfl

@[simp] theorem tokens_append : tokens (ledger ++ others) = tokens ledger ++ tokens others :=
  List.map_append

@[simp] theorem row_append : row (ledger ++ others) = row ledger ++ row others :=
  List.filterMap_append

@[simp] theorem faults_append : faults (ledger ++ others) = faults ledger ++ faults others :=
  List.filterMap_append

@[simp] theorem shaping_append :
    shaping (ledger ++ others) = shaping ledger ++ shaping others :=
  List.filterMap_append

@[simp] theorem row_joined : row (⟨token, .joined⟩ :: ledger) = token :: row ledger := rfl

@[simp] theorem row_reported : row (⟨token, .reported fault⟩ :: ledger) = row ledger := rfl

@[simp] theorem row_shaping : row (⟨token, .shaping⟩ :: ledger) = row ledger := rfl

@[simp] theorem faults_joined : faults (⟨token, .joined⟩ :: ledger) = faults ledger := rfl

@[simp] theorem faults_reported :
    faults (⟨token, .reported fault⟩ :: ledger) = fault :: faults ledger := rfl

@[simp] theorem faults_shaping : faults (⟨token, .shaping⟩ :: ledger) = faults ledger := rfl

@[simp] theorem shaping_joined : shaping (⟨token, .joined⟩ :: ledger) = shaping ledger := rfl

@[simp] theorem shaping_reported :
    shaping (⟨token, .reported fault⟩ :: ledger) = shaping ledger := rfl

@[simp] theorem shaping_shaping :
    shaping (⟨token, .shaping⟩ :: ledger) = token :: shaping ledger := rfl

/-- The row has tokens of the ledger in their order. -/
theorem row_sublist : (row ledger).Sublist (tokens ledger) := by
  induction ledger with
  | nil => exact .slnil
  | cons entry ledger ih =>
      rcases entry with ⟨token, fate⟩
      cases fate with
      | joined => exact ih.cons_cons token
      | reported | shaping => exact ih.cons token

/-- Nothing is reported where no token stands. -/
theorem filter_faults_eq_nil {place : Nat} (sound : ∀ entry ∈ ledger, entry.IsSound)
    (elsewhere : ∀ token ∈ tokens ledger, token.position ≠ place) :
    (faults ledger).filter (·.position == place) = [] := by
  rw [List.filter_eq_nil_iff]
  intro fault told
  rcases List.mem_filterMap.mp told with ⟨⟨token, fate⟩, listed, isFault⟩
  cases fate with
  | reported =>
      cases isFault
      have about : Fault.IsAbout token fault := sound _ listed
      have differs := elsewhere token (List.mem_map.mpr ⟨_, listed, rfl⟩)
      simpa [about.position_eq] using differs
  | joined | shaping => cases isFault

/-- A ledger of tokens that all shape the tree. -/
def ofShaping (shaping : List Token) : Ledger := shaping.map (⟨·, .shaping⟩)

@[simp] theorem tokens_ofShaping (shaping : List Token) : tokens (ofShaping shaping) = shaping := by
  simp [tokens, ofShaping, Function.comp_def]

@[simp] theorem row_ofShaping (shaping : List Token) : row (ofShaping shaping) = [] := by
  simp [row, ofShaping, Entry.joined?]

@[simp] theorem faults_ofShaping (shaping : List Token) : faults (ofShaping shaping) = [] := by
  simp [faults, ofShaping, Entry.fault?]

@[simp] theorem shaping_ofShaping (tokens : List Token) : shaping (ofShaping tokens) = tokens := by
  simp [shaping, ofShaping, List.filterMap_map, Entry.shaping?]

/-- A lexeme that is written is in the row, is reported, or shapes the tree. -/
theorem timesWritten_tokens {lexeme : Lexeme} {tells : Fault → Bool}
    (agrees : ∀ token fault, Fault.IsAbout token fault → tells fault = (token.lexeme == lexeme))
    (sound : ∀ entry ∈ ledger, entry.IsSound) :
    timesWritten lexeme (tokens ledger) =
      timesWritten lexeme (row ledger) + (faults ledger).countP tells +
        timesWritten lexeme (shaping ledger) := by
  induction ledger with
  | nil => rfl
  | cons entry ledger ih =>
      rw [List.forall_mem_cons] at sound
      have others := ih sound.2
      rcases entry with ⟨token, fate⟩
      rw [tokens_cons, timesWritten_cons]
      cases fate with
      | joined => simp [others]; omega
      | reported fault =>
          have same := agrees token fault sound.1
          simp [others, List.countP_cons, same]; omega
      | shaping => simp [others]; omega

end Ledger

end SpecFinder.Query
