import SpecFinder.Proofs.Query.ReaderSteps

/-!
# Queries in parts

A token that joins or closes where there is nothing to join or to close is left out of a
query and reported.  It does not go on with the expression in front of it: what stands on its
two sides are parts of the query, and a conjunction of all parts is searched for.

A closing parenthesis is what ends a part, and whatever stray tokens follow it are only left
out: neither of them is taken as a connective between the parts.
-/

namespace SpecFinder.Query

/-- Tokens that close or join. -/
def AreStray (tokens : List Token) : Prop :=
  ∀ token ∈ tokens,
    token.lexeme = .closing ∨ token.lexeme = .and ∨ token.lexeme = .or

instance (tokens : List Token) : Decidable (AreStray tokens) :=
  inferInstanceAs (Decidable (∀ token ∈ tokens,
    token.lexeme = .closing ∨ token.lexeme = .and ∨ token.lexeme = .or))

theorem AreStray.startsOperand {tokens : List Token} (stray : AreStray tokens) :
    ∀ token ∈ tokens, token.lexeme.startsOperand = false := by
  intro token member
  rcases stray token member with closes | joins | joins
  · rw [closes]; rfl
  · rw [joins]; rfl
  · rw [joins]; rfl

/-- A part of a query: an expression of the grammar and its tree. -/
structure Part where
  tokens : List Token
  tree : Expr
  derivation : Derives .disjunction nestingLimit tokens tree
  noBlank : NoBlankPhrase tokens

/-- What stands behind a part: a closing parenthesis and other stray tokens. -/
structure Separator where
  closing : Token
  others : List Token
  closes : closing.lexeme = .closing
  stray : AreStray others

namespace Separator

/-- The tokens of a separator. -/
def tokens (separator : Separator) : List Token := separator.closing :: separator.others

theorem areStray_tokens (separator : Separator) : AreStray separator.tokens := by
  intro token member
  rcases List.mem_cons.mp member with rfl | other
  · exact .inl separator.closes
  · exact separator.stray token other

end Separator

/-- The tokens of a separator that may be absent. -/
def endTokens (trailing : Option Separator) : List Token :=
  (trailing.map (·.tokens)).getD []

/-- The tokens behind the first part of a query: further parts, each with a separator in
front of it, and possibly a last separator. -/
def laterTokens (later : List (Separator × Part)) (trailing : Option Separator) : List Token :=
  later.flatMap (fun (separator, part) => separator.tokens ++ part.tokens) ++ endTokens trailing

/-- The tokens of the separators behind the first part of a query. -/
def laterStrays (later : List (Separator × Part)) (trailing : Option Separator) : List Token :=
  later.flatMap (fun (separator, _) => separator.tokens) ++ endTokens trailing

/-- The conjunction of the parts of a query. -/
def joinTrees (first : Expr) (later : List (Separator × Part)) : Expr :=
  later.foldl (fun left (_, part) => .and left part.tree) first

/-- Every part stands in front of a closing parenthesis or the end. -/
theorem head_laterTokens (later : List (Separator × Part)) (trailing : Option Separator) :
    ∀ token ∈ (laterTokens later trailing).head?, token.lexeme = .closing := by
  intro token isHead
  cases later with
  | nil =>
      cases trailing with
      | none => simp [laterTokens, endTokens] at isHead
      | some separator =>
          obtain rfl : separator.closing = token := by
            simpa [laterTokens, endTokens, Separator.tokens] using isHead
          exact separator.closes
  | cons next later =>
      obtain rfl : next.1.closing = token := by
        simpa [laterTokens, Separator.tokens] using isHead
      exact next.1.closes

/-- A part is read as its tree, and joined to what has been read. -/
theorem Part.readParts_append (part : Part) {rest : List Token}
    (stops : ∀ token ∈ rest.head?, token.lexeme = .closing) (tree : Option Expr) :
    readParts tree (part.tokens ++ rest) =
      .after (.clean part.tree rest) (readParts (joinParts tree (some part.tree)) rest) := by
  have reads := readExpr_of_derives part.derivation part.noBlank stops
  rcases part.derivation.head with ⟨token, behind, same, starts⟩
  rw [same, List.cons_append] at reads ⊢
  rw [readParts_of_startsOperand tree starts, reads]
  rfl

/-- Behind the first part, each separator is left out and each part is joined. -/
theorem readParts_laterTokens (later : List (Separator × Part)) (trailing : Option Separator)
    (left : Expr) :
    (readParts (some left) (laterTokens later trailing)).tree = some (joinTrees left later) ∧
      (readParts (some left) (laterTokens later trailing)).faults =
        (laterStrays later trailing).map .unexpected := by
  induction later generalizing left with
  | nil =>
      have strays : AreStray (endTokens trailing) := by
        cases trailing with
        | none => simp [AreStray, endTokens]
        | some separator => exact separator.areStray_tokens
      have whole := readParts_append_of_strays strays.startsOperand (some left) []
      rw [List.append_nil] at whole
      simp only [laterTokens, laterStrays, List.flatMap_nil, List.nil_append]
      rw [whole, readParts]
      simp [Reading.absent, joinTrees]
  | cons next later ih =>
      rcases next with ⟨separator, part⟩
      have tokens : laterTokens ((separator, part) :: later) trailing =
          separator.tokens ++ (part.tokens ++ laterTokens later trailing) := by
        simp [laterTokens]
      have strays : laterStrays ((separator, part) :: later) trailing =
          separator.tokens ++ laterStrays later trailing := by
        simp [laterStrays]
      have rest := ih (.and left part.tree)
      rw [tokens, strays,
        readParts_append_of_strays separator.areStray_tokens.startsOperand,
        part.readParts_append (head_laterTokens later trailing)]
      simp only [Reading.tree_after, Reading.faults_after, joinParts, rest]
      simp [Reading.absent, Reading.clean, joinTrees]

theorem Fault.message_unexpected (token : Token) :
    (Fault.unexpected token).message =
      "Unexpected '".toList ++ token.lexeme.value ++ "' at position ".toList ++
        Text.ofNat token.position := by
  have quoted : "' at position ".toList = "'".toList ++ " at position ".toList := by decide
  have message : (Fault.unexpected token).message =
      "Unexpected '".toList ++ token.lexeme.value ++
        ("'".toList ++ " at position ".toList ++ Text.ofNat token.position) := rfl
  rw [message, quoted, List.append_assoc (_ ++ _)]

/-- Parts of a query with separators between them are read as the conjunction of their
trees.  Each stray token is reported as unexpected, and nothing else is. -/
theorem readTokens_parts (leading : List Token) (stray : AreStray leading) (first : Part)
    (later : List (Separator × Part)) (trailing : Option Separator) :
    (readTokens (leading ++ (first.tokens ++ laterTokens later trailing))).tree =
        some (joinTrees first.tree later) ∧
      (readTokens (leading ++ (first.tokens ++ laterTokens later trailing))).faults =
        (leading ++ laterStrays later trailing).map .unexpected ∧
      (readTokens (leading ++ (first.tokens ++ laterTokens later trailing))).faults.map
          Fault.message =
        (leading ++ laterStrays later trailing).map fun token =>
          "Unexpected '".toList ++ token.lexeme.value ++ "' at position ".toList ++
            Text.ofNat token.position := by
  rcases readParts_laterTokens later trailing first.tree with ⟨tree, faults⟩
  have reads := readParts_append_of_strays stray.startsOperand none
    (first.tokens ++ laterTokens later trailing)
  rw [first.readParts_append (head_laterTokens later trailing)] at reads
  have reported : (readTokens (leading ++ (first.tokens ++ laterTokens later trailing))).faults =
      (leading ++ laterStrays later trailing).map .unexpected := by
    rw [readTokens, reads, Reading.faults_after, Reading.faults_after, joinParts, faults]
    simp [Reading.absent, Reading.clean]
  refine ⟨?_, reported, ?_⟩
  · rw [readTokens, reads, Reading.tree_after, Reading.tree_after, joinParts, tree]
  · rw [reported, List.map_map]
    exact List.map_congr_left fun token _ => Fault.message_unexpected token

/-- The part `a OR b` behind a leading connective. -/
def eitherPart : Part where
  tokens := [⟨.term ['a'], 3⟩] ++ ⟨.or, 5⟩ :: [⟨.term ['b'], 8⟩]
  tree := .or (.operand (.term ['a'])) (.operand (.term ['b']))
  derivation :=
    .or (.conjunction (.negation (.atom (.leaf rfl)))) rfl (.negation (.atom (.leaf rfl)))
  noBlank := by decide

/-- The part `c` behind a closing parenthesis and a connective. -/
def lastPart : Part where
  tokens := [⟨.term ['c'], 16⟩]
  tree := .operand (.term ['c'])
  derivation := .conjunction (.negation (.atom (.leaf rfl)))
  noBlank := by decide

/-- The separator `) AND` between the two parts. -/
def joinedSeparator : Separator where
  closing := ⟨.closing, 10⟩
  others := [⟨.and, 12⟩]
  closes := rfl
  stray := by decide

/-- The closing parenthesis at the end. -/
def lastSeparator : Separator where
  closing := ⟨.closing, 18⟩
  others := []
  closes := rfl
  stray := by decide

/-- The tokens of `OR a OR b ) AND c )`. -/
def strayTokens : List Token :=
  [⟨.or, 0⟩, ⟨.term ['a'], 3⟩, ⟨.or, 5⟩, ⟨.term ['b'], 8⟩, ⟨.closing, 10⟩, ⟨.and, 12⟩,
    ⟨.term ['c'], 16⟩, ⟨.closing, 18⟩]

/-- In `OR a OR b ) AND c )`, only the second `OR` is a connective. -/
theorem readTokens_strayTokens :
    AreStray [⟨.or, 0⟩] ∧
      (readTokens strayTokens).tree =
        some (.and (.or (.operand (.term ['a'])) (.operand (.term ['b'])))
          (.operand (.term ['c']))) ∧
      (readTokens strayTokens).faults =
        [.unexpected ⟨.or, 0⟩, .unexpected ⟨.closing, 10⟩, .unexpected ⟨.and, 12⟩,
          .unexpected ⟨.closing, 18⟩] := by
  have stray : AreStray [⟨.or, 0⟩] := by decide
  rcases readTokens_parts [⟨.or, 0⟩] stray eitherPart [(joinedSeparator, lastPart)]
    (some lastSeparator) with ⟨tree, faults, -⟩
  exact ⟨stray, tree, faults⟩

end SpecFinder.Query
