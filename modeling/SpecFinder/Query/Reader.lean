import SpecFinder.Query.Expr
import SpecFinder.Query.Fault

/-!
# Reading a query

Tokens are read into a tree.  Disjunction binds least, then conjunction, which
needs no word between its operands, then negation.  Groups may stand inside each
other down to a limit, below which an opening parenthesis is passed over.

Reading never fails: a token that fits nowhere is reported and left out, and what
stands on its two sides is joined by a conjunction.
-/

namespace SpecFinder.Query

/-- What a reader makes of the front of a token list. The criteria are those of all
operands that were consumed. -/
structure Reading where
  tree : Option Expr
  criteria : Criteria := {}
  faults : List Fault := []
  rest : List Token := []
  deriving DecidableEq, Repr

namespace Reading

/-- A reading that follows another one: what the earlier one met and reported comes
first. -/
def after (earlier reading : Reading) : Reading :=
  { reading with
    criteria := earlier.criteria ++ reading.criteria
    faults := earlier.faults ++ reading.faults }

/-- A reading that reports more at its end. -/
def report (reading : Reading) (faults : List Fault) : Reading :=
  { reading with faults := reading.faults ++ faults }

/-- The tree of an operand, and nothing to report. -/
def ofOperand (leaf : Operand) (rest : List Token) : Reading :=
  { tree := some (.operand leaf), criteria := .ofOperand leaf, rest }

/-- No tree, and nothing was consumed that asks for anything. -/
def absent (faults : List Fault) (rest : List Token) : Reading :=
  { tree := none, faults, rest }

/-- A reading behind negations. Without an operand, the last of them lacks one. -/
def negated (negations : List Token) (reading : Reading) : Reading :=
  match reading.tree, negations.getLast? with
  | some tree, _ => { reading with tree := some (negations.foldl (fun tree _ => .not tree) tree) }
  | none, some last => reading.report [.missingAfterNot last.position]
  | none, none => reading

end Reading

def Token.opensGroup (token : Token) : Bool := token.lexeme == .opening

def Token.negates (token : Token) : Bool := token.lexeme == .not

/-- Read one operand. An opening parenthesis is left to `group`, which is given
its place and the tokens behind it. A blank phrase is consumed but is no
operand. -/
def readOperand (group : Nat → List Token → Reading) : List Token → Reading
  | [] => .absent [] []
  | token :: rest =>
      match token.lexeme with
      | .term word => .ofOperand (.term word) rest
      | .fuzzy word => .ofOperand (.fuzzy word) rest
      | .field word => .ofOperand (.ofFieldWord word) rest
      | .phrase body =>
          if (Text.trim body).isEmpty then .absent [.emptyPhrase token.position] rest
          else .ofOperand (.phrase body) rest
      | .opening => group token.position rest
      | _ => .absent [] (token :: rest)

/-- Read an operand behind any number of negations. -/
def readNegation (group : Nat → List Token → Reading) (tokens : List Token) : Reading :=
  (readOperand group (tokens.dropWhile (·.negates))).negated (tokens.takeWhile (·.negates))

/-- The tokens of the operand that a conjunction goes on with: those behind a written
conjunction, else all of them. -/
def skipAnd (token : Token) (behind : List Token) : List Token :=
  if token.lexeme = .and then behind else token :: behind

/-- What to report when no operand follows: only a written conjunction lacks one. -/
def missingAfter (token : Token) : List Fault :=
  if token.lexeme = .and then [.missingAfterAnd token.position] else []

/-- Join further operands to the conjunction `left`. An operand that does not
follow a written conjunction may simply be absent. The loop goes on only while
tokens are consumed. -/
def joinAnd (operand : List Token → Reading) (left : Expr) : List Token → Reading
  | [] => { tree := some left }
  | token :: behind =>
      if token.lexeme = .and || token.lexeme.startsOperand then
        let next := operand (skipAnd token behind)
        match next.tree with
        | none => { next.report (missingAfter token) with tree := some left }
        | some right =>
            if _consumed : next.rest.length ≤ behind.length then
              .after next (joinAnd operand (.and left right) next.rest)
            else
              { next with tree := some (.and left right) }
      else
        { tree := some left, rest := token :: behind }
termination_by tokens => tokens.length
decreasing_by exact Nat.lt_succ_of_le ‹_›

def readAnd (operand : List Token → Reading) (tokens : List Token) : Reading :=
  let first := operand tokens
  match first.tree with
  | none => first
  | some left => .after first (joinAnd operand left first.rest)

/-- Join further conjunctions to the disjunction `left`. -/
def joinOr (operand : List Token → Reading) (left : Expr) : List Token → Reading
  | [] => { tree := some left }
  | token :: behind =>
      if token.lexeme = .or then
        let next := readAnd operand behind
        match next.tree with
        | none => { next.report [.missingAfterOr token.position] with tree := some left }
        | some right =>
            if _consumed : next.rest.length ≤ behind.length then
              .after next (joinOr operand (.or left right) next.rest)
            else
              { next with tree := some (.or left right) }
      else
        { tree := some left, rest := token :: behind }
termination_by tokens => tokens.length
decreasing_by exact Nat.lt_succ_of_le ‹_›

def readOr (operand : List Token → Reading) (tokens : List Token) : Reading :=
  let first := readAnd operand tokens
  match first.tree with
  | none => first
  | some left => .after first (joinOr operand left first.rest)

/-- Read past a parenthesis that lies too deep: it and those directly behind it
are passed over, and one operand is read flat. -/
def readTooDeep (position : Nat) (tokens : List Token) : Reading :=
  .after (.absent [.tooDeep position] tokens) <|
    readOperand (fun _ rest => .absent [] rest) (tokens.dropWhile (·.opensGroup))

def closeGroup (position : Nat) (inner : Reading) : Reading :=
  match inner.rest with
  | ⟨.closing, _⟩ :: rest => { inner with rest := rest }
  | _ => inner.report [.unclosedGroup position]

/-- Read an expression below which `room` more groups may stand inside each
other. -/
def readExpr : (room : Nat) → List Token → Reading
  | 0 => readOr (readNegation readTooDeep)
  | room + 1 => readOr (readNegation fun position rest => closeGroup position (readExpr room rest))

/-- The conjunction of two parts of a query, either of which may be absent. -/
def joinParts : (left right : Option Expr) → Option Expr
  | some left, some right => some (.and left right)
  | some left, none => some left
  | none, right => right

/-- Join what follows to the tree read so far. A token that begins no expression
is reported and left out. -/
def readParts (tree : Option Expr) : List Token → Reading
  | [] => { tree }
  | token :: behind =>
      let next := readExpr nestingLimit (token :: behind)
      if _consumed : next.rest.length ≤ behind.length then
        .after next (readParts (joinParts tree next.tree) next.rest)
      else
        .after (next.report [.unexpected token]) (readParts tree behind)
termination_by tokens => tokens.length
decreasing_by
  · exact Nat.lt_succ_of_le ‹_›
  · simp

def readTokens (tokens : List Token) : Reading := readParts none tokens

end SpecFinder.Query
