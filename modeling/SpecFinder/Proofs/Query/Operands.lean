import Mathlib.Data.List.TakeWhile
import SpecFinder.Proofs.Query.Reading
import SpecFinder.Search

/-!
# The operands of a query

Whatever is wrong with a query, its tree holds the operands that its tokens write:
none is lost, none is doubled, and their order is that of the query.  What the
readers note beside the tree, the words to score and the filters, follows the same
sequence.

The invariant is `Keeps`: the operands of the tree and those of the tokens that are
left are together the operands of the tokens given.  A reader that finds no operand
has therefore not consumed any either.
-/

namespace SpecFinder.Query

/-- The operands that a token list writes, in order. -/
def written (tokens : List Token) : List Operand :=
  tokens.filterMap (·.lexeme.operand?)

@[simp] theorem written_nil : written [] = [] := rfl

theorem written_cons_of_operand {token : Token} {leaf : Operand} (rest : List Token)
    (writes : token.lexeme.operand? = some leaf) :
    written (token :: rest) = leaf :: written rest := by
  simp [written, writes]

theorem written_cons_of_none {token : Token} (rest : List Token)
    (writes : token.lexeme.operand? = none) : written (token :: rest) = written rest := by
  simp [written, writes]

theorem written_append (front back : List Token) :
    written (front ++ back) = written front ++ written back := by
  simp [written]

theorem written_of_forall_none {tokens : List Token}
    (silent : ∀ token ∈ tokens, token.lexeme.operand? = none) : written tokens = [] := by
  simpa [written, List.filterMap_eq_nil_iff] using silent

theorem written_dropWhile_opensGroup (tokens : List Token) :
    written (tokens.dropWhile (·.opensGroup)) = written tokens := by
  induction tokens with
  | nil => rfl
  | cons token rest ih =>
      by_cases opens : token.opensGroup = true
      · have isOpening : token.lexeme = .opening := by simpa [Token.opensGroup] using opens
        rw [List.dropWhile_cons_of_pos opens, ih]
        exact (written_cons_of_none rest (by simp [isOpening])).symm
      · rw [List.dropWhile_cons_of_neg opens]

theorem written_skipAnd (token : Token) (behind : List Token) :
    written (skipAnd token behind) = written (token :: behind) := by
  rw [skipAnd]
  split
  next isAnd => exact (written_cons_of_none behind (by simp [isAnd])).symm
  next => rfl

/-- The operands of a tree from left to right. -/
def Expr.operands : Expr → List Operand
  | .operand leaf => [leaf]
  | .not inner => inner.operands
  | .and left right | .or left right => left.operands ++ right.operands

theorem Expr.operands_ne_nil (tree : Expr) : tree.operands ≠ [] := by
  induction tree with
  | operand leaf => simp [operands]
  | not inner ih => exact ih
  | and left right leftIH _ | or left right leftIH _ => simp [operands, leftIH]

theorem Expr.operands_negations (negations : List Token) (tree : Expr) :
    (negations.foldl (fun tree _ => Expr.not tree) tree).operands = tree.operands := by
  induction negations generalizing tree with
  | nil => rfl
  | cons _ negations ih => exact ih (.not tree)

/-- The operands of a tree that may be absent. -/
def leaves : Option Expr → List Operand
  | some tree => tree.operands
  | none => []

@[simp] theorem leaves_none : leaves none = [] := rfl

@[simp] theorem leaves_some (tree : Expr) : leaves (some tree) = tree.operands := rfl

theorem leaves_eq_nil_iff {tree : Option Expr} : leaves tree = [] ↔ tree = none := by
  cases tree with
  | none => simp
  | some tree => simpa using tree.operands_ne_nil

theorem leaves_joinParts (left right : Option Expr) :
    leaves (joinParts left right) = leaves left ++ leaves right := by
  cases left <;> cases right <;> simp [joinParts, Expr.operands]

namespace Criteria

/-- What some operands ask for. -/
def ofOperands (leaves : List Operand) : Criteria :=
  leaves.foldr (fun leaf later => ofOperand leaf ++ later) {}

@[simp] theorem ofOperands_nil : ofOperands [] = {} := rfl

@[simp] theorem ofOperands_cons (leaf : Operand) (leaves : List Operand) :
    ofOperands (leaf :: leaves) = ofOperand leaf ++ ofOperands leaves := rfl

theorem ofOperands_append (left right : List Operand) :
    ofOperands (left ++ right) = ofOperands left ++ ofOperands right := by
  induction left with
  | nil => simp
  | cons leaf left ih => simp [ih, append_assoc]

end Criteria

/-- A reading that keeps its tokens' operands: those of its tree stand before those
that are left, and its criteria are those of its tree. -/
structure Keeps (tokens : List Token) (reading : Reading) : Prop where
  written : written tokens = leaves reading.tree ++ written reading.rest
  criteria : reading.criteria = .ofOperands (leaves reading.tree)

namespace Keeps

variable {tokens : List Token} {earlier next : Reading}

/-- Keeping operands goes from one reading to the next when the trees are joined. -/
theorem after {tree : Option Expr} (before : Keeps tokens earlier)
    (following : Keeps earlier.rest next)
    (joined : leaves tree = leaves earlier.tree ++ leaves next.tree) :
    Keeps tokens (earlier.after { next with tree }) where
  written := by
    simp only [Reading.tree_after, Reading.rest_after]
    rw [before.written, following.written, joined, List.append_assoc]
  criteria := by
    simp only [Reading.tree_after, Reading.criteria_after]
    rw [before.criteria, following.criteria, joined, Criteria.ofOperands_append]

theorem report {faults : List Fault} (kept : Keeps tokens next) :
    Keeps tokens (next.report faults) :=
  ⟨kept.written, kept.criteria⟩

/-- Only the operands of the tokens matter. -/
theorem of_written_eq {other : List Token} (kept : Keeps other next)
    (same : Query.written tokens = Query.written other) : Keeps tokens next :=
  ⟨same.trans kept.written, kept.criteria⟩

end Keeps

/-- Every reader keeps the operands of its tokens. -/
theorem Reads.keeps {room : Nat} {stage : Stage} {tokens : List Token} {reading : Reading}
    (reads : Reads room stage tokens reading) : Keeps tokens reading := by
  induction reads with
  | absent => exact ⟨rfl, rfl⟩
  | @leaf _ token rest leaf writes =>
      refine ⟨written_cons_of_operand rest writes, ?_⟩
      simp [Reading.ofOperand, Expr.operands]
  | @blank _ token rest isBlank =>
      exact ⟨written_cons_of_none rest (Lexeme.operand?_of_isBlankPhrase isBlank), rfl⟩
  | @group _ token rest inner opens _ ih =>
      have opening := written_cons_of_none rest (by simp [opens] : token.lexeme.operand? = none)
      refine ⟨?_, by simpa using ih.criteria⟩
      rcases closeGroup_cases token.position inner with
        ⟨closing, behind, closes, found, closed⟩ | ⟨_, unclosed⟩
      · have silent := written_cons_of_none behind (by simp [closes] :
          closing.lexeme.operand? = none)
        rw [closed, opening, ih.written, found, silent]
      · rw [unclosed, opening, ih.written]
        rfl
  | @tooDeep token rest inner opens _ ih =>
      have opening := written_cons_of_none rest (by simp [opens] : token.lexeme.operand? = none)
      refine ⟨?_, by simpa [Reading.absent] using ih.criteria⟩
      rw [opening, ← written_dropWhile_opensGroup rest, ih.written]
      rfl
  | @negated _ negations rest inner negate _ _ ih =>
      have silent : written negations = [] := by
        apply written_of_forall_none
        intro token member
        simp [negate token member]
      have sameLeaves : leaves (inner.negated negations).tree = leaves inner.tree := by
        rw [Reading.tree_negated]
        cases inner.tree with
        | none => rfl
        | some tree => exact tree.operands_negations negations
      constructor
      · rw [written_append, silent, sameLeaves, Reading.rest_negated]
        exact ih.written
      · rw [Reading.criteria_negated, sameLeaves]
        exact ih.criteria
  | firstAnd _ _ ih | noAnd _ _ ih | endAnd _ _ ih => exact ih
  | firstOr _ _ ih | noOr _ _ ih | endOr _ _ ih => exact ih
  | @nextAnd _ _ behind token _ _ _ _ _ held follows _ _ found beforeIH ih =>
      have following := ih.of_written_eq (written_skipAnd token behind).symm
      rw [← follows] at following
      exact beforeIH.after following (by simp [held, found, Expr.operands])
  | @breakAnd _ _ behind token _ _ _ _ held follows _ _ found beforeIH ih =>
      have following := ih.of_written_eq (written_skipAnd token behind).symm
      rw [← follows] at following
      exact beforeIH.after following.report (by simp [held, found])
  | @nextOr _ _ behind token _ _ _ _ _ held follows joins _ found beforeIH ih =>
      have following := ih.of_written_eq
        (written_cons_of_none behind (by simp [joins] : token.lexeme.operand? = none))
      rw [← follows] at following
      exact beforeIH.after following (by simp [held, found, Expr.operands])
  | @breakOr _ _ behind token _ _ _ _ held follows joins _ found beforeIH ih =>
      have following := ih.of_written_eq
        (written_cons_of_none behind (by simp [joins] : token.lexeme.operand? = none))
      rw [← follows] at following
      exact beforeIH.after following.report (by simp [held, found])

/-- Skipping a token that begins no expression loses no operand either. -/
theorem ReadsParts.keeps {tokens : List Token} {reading : Reading}
    (reads : ReadsParts tokens reading) : Keeps tokens reading := by
  induction reads with
  | start => exact ⟨rfl, rfl⟩
  | join _ next _ beforeIH =>
      exact beforeIH.after next.keeps (leaves_joinParts _ _)
  | @skip earlier next token behind _ follows reads stuck beforeIH =>
      have head := reads.head_of_stuck stuck token (by simp [follows])
      have silent := written_cons_of_none behind (Lexeme.operand?_of_isConnective head.1)
      have absent : next.tree = none := by
        by_cases found : next.tree = none
        · exact found
        · exact (Nat.not_lt_of_le stuck (reads.rest_length_lt found)).elim
      constructor
      · rw [beforeIH.written, follows, silent]
        rfl
      · have noCriteria := reads.keeps.criteria
        simp only [absent, leaves_none, Criteria.ofOperands_nil] at noCriteria
        simp [beforeIH.criteria, noCriteria]

/-- The tree of a token list has exactly the operands that the tokens write, and the
criteria are theirs. -/
theorem readTokens_keeps (tokens : List Token) :
    leaves (readTokens tokens).tree = written tokens ∧
      (readTokens tokens).criteria = .ofOperands (written tokens) := by
  rcases readsParts_readTokens tokens with ⟨reads, finished⟩
  have kept := reads.keeps
  have allWritten := kept.written
  rw [finished, written_nil, List.append_nil] at allWritten
  rw [allWritten]
  exact ⟨rfl, kept.criteria⟩

/-! ## What a query asks for -/

namespace Operand

/-- The lower-case text that a term or a phrase looks for. -/
def searchText? : Operand → Option Text
  | .term text | .phrase text => some (Text.lower text)
  | _ => none

/-- The lower-case word that a fuzzy operand looks for. -/
def fuzzyText? : Operand → Option Text
  | .fuzzy word => some (Text.lower word)
  | _ => none

/-- The name and the value of a field operand. -/
def field? : Operand → Option (Text × Text)
  | .field name value => some (name, value)
  | _ => none

/-- A field word falls apart at its first colon. -/
theorem ofFieldWord_eq (word : Text) :
    ofFieldWord word = .field (Text.lower (word.takeWhile (· != ':')))
      ((word.dropWhile (· != ':')).drop 1) := by
  have split : Text.splitFirst [':'] word =
      if ':' ∈ word then
        some (word.takeWhile (· != ':'), (word.dropWhile (· != ':')).drop 1)
      else none := by
    induction word with
    | nil => simp [Text.splitFirst]
    | cons char rest ih =>
        by_cases colon : char = ':'
        · simp [Text.splitFirst, colon]
        · have notPrefix : (':' == char) = false := by simpa using Ne.symm colon
          simp only [Text.splitFirst, List.isPrefixOf, notPrefix, ih]
          by_cases later : ':' ∈ rest <;> simp [later, colon, Ne.symm colon]
  rw [ofFieldWord, split]
  by_cases colon : ':' ∈ word
  · simp [colon]
  · have others : ∀ char ∈ word, (char != ':') = true := by
      intro char member
      have differs : char ≠ ':' := fun same => colon (same ▸ member)
      simpa using differs
    have whole := List.takeWhile_eq_self_iff.mpr others
    have nothing := List.dropWhile_eq_nil_iff.mpr others
    simp [colon, whole, nothing]

end Operand

namespace Criteria

theorem terms_ofOperands (leaves : List Operand) :
    (ofOperands leaves).terms = leaves.filterMap (·.searchText?) := by
  induction leaves with
  | nil => rfl
  | cons leaf leaves ih =>
      cases leaf with
      | term | phrase | fuzzy => simp [ih, ofOperand, Operand.searchText?]
      | field name value =>
          cases found : DateFilter.ofField? name value <;>
            simp [ih, ofOperand, Operand.searchText?, found]

theorem fuzzyTerms_ofOperands (leaves : List Operand) :
    (ofOperands leaves).fuzzyTerms = leaves.filterMap (·.fuzzyText?) := by
  induction leaves with
  | nil => rfl
  | cons leaf leaves ih =>
      cases leaf with
      | term | phrase | fuzzy => simp [ih, ofOperand, Operand.fuzzyText?]
      | field name value =>
          cases found : DateFilter.ofField? name value <;>
            simp [ih, ofOperand, Operand.fuzzyText?, found]

theorem dateFilters_ofOperands (leaves : List Operand) :
    (ofOperands leaves).dateFilters = (leaves.filterMap (·.field?)).filterMap
      fun (name, value) => DateFilter.ofField? name value := by
  induction leaves with
  | nil => rfl
  | cons leaf leaves ih =>
      cases leaf with
      | term | phrase | fuzzy => simp [ih, ofOperand, Operand.field?]
      | field name value =>
          cases found : DateFilter.ofField? name value <;>
            simp [ih, ofOperand, Operand.field?, found]

theorem fieldFilters_ofOperands (leaves : List Operand) :
    (ofOperands leaves).fieldFilters = (leaves.filterMap (·.field?)).filter
      fun (name, value) => (DateFilter.ofField? name value).isNone := by
  induction leaves with
  | nil => rfl
  | cons leaf leaves ih =>
      cases leaf with
      | term | phrase | fuzzy => simp [ih, ofOperand, Operand.field?]
      | field name value =>
          cases found : DateFilter.ofField? name value <;>
            simp [ih, ofOperand, Operand.field?, found]

end Criteria

/-- Reading a query keeps its operands in order, whatever its faults. The words to
score are the lower-case terms and phrases, and each field is either a date filter,
the one by which it is evaluated, or a field filter. -/
theorem read_preserves_operands (source : Text) :
    leaves (read source).tree = written (tokens source) ∧
      ((read source).tree = none ↔ written (tokens source) = []) ∧
      (∀ word, (Lexeme.field word).operand? =
        some (.field (Text.lower (word.takeWhile (· != ':')))
          ((word.dropWhile (· != ':')).drop 1))) ∧
      (read source).terms = (written (tokens source)).filterMap (·.searchText?) ∧
      (read source).fuzzyTerms = (written (tokens source)).filterMap (·.fuzzyText?) ∧
      (read source).dateFilters = ((written (tokens source)).filterMap (·.field?)).filterMap
        (fun (name, value) => DateFilter.ofField? name value) ∧
      (read source).fieldFilters = ((written (tokens source)).filterMap (·.field?)).filter
        (fun (name, value) => (DateFilter.ofField? name value).isNone) ∧
      ∀ name value, .field name value ∈ written (tokens source) → ∀ spec : Spec,
        (∀ filter, DateFilter.ofField? name value = some filter →
          filter ∈ (read source).dateFilters ∧
            spec.satisfies (.field name value) = spec.meetsDate filter) ∧
        (DateFilter.ofField? name value = none →
          (name, value) ∈ (read source).fieldFilters ∧
            spec.satisfies (.field name value) = spec.meetsField name value) := by
  rcases readTokens_keeps (tokens source) with ⟨sameLeaves, sameCriteria⟩
  have tree : (read source).tree = (readTokens (tokens source)).tree := rfl
  have criteria : (read source).toCriteria = .ofOperands (written (tokens source)) :=
    sameCriteria
  have dates := Criteria.dateFilters_ofOperands (written (tokens source))
  have fields := Criteria.fieldFilters_ofOperands (written (tokens source))
  refine ⟨sameLeaves, ?_, ?_, ?_, ?_, ?_, ?_, ?_⟩
  · rw [tree, ← leaves_eq_nil_iff, sameLeaves]
  · intro word
    rw [← Operand.ofFieldWord_eq]
    rfl
  · rw [criteria, Criteria.terms_ofOperands]
  · rw [criteria, Criteria.fuzzyTerms_ofOperands]
  · rw [criteria, dates]
  · rw [criteria, fields]
  · intro name value member spec
    have listed : (name, value) ∈ (written (tokens source)).filterMap (·.field?) :=
      List.mem_filterMap.mpr ⟨.field name value, member, rfl⟩
    constructor
    · intro filter found
      refine ⟨?_, by simp [Spec.satisfies, found]⟩
      rw [criteria, dates]
      exact List.mem_filterMap.mpr ⟨(name, value), listed, found⟩
    · intro absent
      refine ⟨?_, by simp [Spec.satisfies, absent]⟩
      rw [criteria, fields]
      exact List.mem_filter.mpr ⟨listed, by simp [absent]⟩

end SpecFinder.Query
