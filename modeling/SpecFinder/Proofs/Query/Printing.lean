import SpecFinder.Proofs.Query.BareWords
import SpecFinder.Proofs.Query.Grammar

/-!
# Writing a query

Every tree whose operands can be written is the tree of a query.  `Expr.print` writes a
tree with parentheses only where it binds less than its place demands.  Conjunctions and
disjunctions associate to the left, so that the place to the right of a connective demands
more than the place to its left.

Reading gives the tree back.  The invariant is `Writes`: wherever the text of a tree stands
in a query, the tokens of the text are an expression of the grammar with that tree.  It
speaks of characters and of the grammar at once, so that one induction over the tree goes
through both.
-/

namespace SpecFinder.Query

/-! ## The text of a tree -/

/-- How tightly the expressions of a level bind. -/
def Level.rank : Level → Nat
  | .disjunction => 0
  | .conjunction => 1
  | .negation => 2
  | .atom => 3

/-- Whether an expression of the level `own` has to stand in parentheses where one of the
level `due` is demanded. -/
def Level.needsGroup (due own : Level) : Bool := own.rank < due.rank

/-- A text, in parentheses if they are needed. -/
def enclose (needed : Bool) (text : Text) : Text :=
  if needed then '(' :: (text ++ [')']) else text

/-- The text of an operand. -/
def Operand.print : Operand → Text
  | .term word => word
  | .phrase body => '"' :: (body ++ ['"'])
  | .fuzzy word => word ++ ['~']
  | .field name value => name ++ ':' :: value

namespace Expr

/-- The text of a tree where an expression of the level `due` is demanded. -/
def print (due : Level) : Expr → Text
  | .operand leaf => leaf.print
  | .not inner =>
      enclose (due.needsGroup .negation) ("NOT".toList ++ ' ' :: inner.print .negation)
  | .and left right =>
      enclose (due.needsGroup .conjunction)
        (left.print .conjunction ++ ' ' :: ("AND".toList ++ ' ' :: right.print .negation))
  | .or left right =>
      enclose (due.needsGroup .disjunction)
        (left.print .disjunction ++ ' ' :: ("OR".toList ++ ' ' :: right.print .conjunction))

/-- How deep the parentheses in the text of a tree stand inside each other. -/
def groupDepth (due : Level) : Expr → Nat
  | .operand _ => 0
  | .not inner => (due.needsGroup .negation).toNat + inner.groupDepth .negation
  | .and left right =>
      (due.needsGroup .conjunction).toNat +
        max (left.groupDepth .conjunction) (right.groupDepth .negation)
  | .or left right =>
      (due.needsGroup .disjunction).toNat +
        max (left.groupDepth .disjunction) (right.groupDepth .conjunction)

end Expr

/-- A text that stands in a query as one bare word. -/
structure IsBareWord (text : Text) : Prop where
  nonempty : text ≠ []
  bare : ∀ char ∈ text, isBare char = true

/-- Whether an operand can be written in a query. A word has to be read as what it is
written for; a word that is read as a field has a value. -/
def Operand.IsExpressible : Operand → Prop
  | .term word => IsBareWord word ∧ Lexeme.ofWord word = .term word
  | .phrase body => '"' ∉ body ∧ Text.trim body ≠ []
  | .fuzzy word => IsBareWord (word ++ ['~']) ∧ Lexeme.ofWord (word ++ ['~']) = .fuzzy word
  | .field name value =>
      IsBareWord (name ++ ':' :: value) ∧
        Lexeme.ofWord (name ++ ':' :: value) = .field (name ++ ':' :: value) ∧
        ':' ∉ name ∧ Text.lower name = name

theorem isBareWord_iff {text : Text} : IsBareWord text ↔ text ≠ [] ∧ text.all isBare = true := by
  rw [List.all_eq_true]
  constructor
  · intro isWord
    exact ⟨isWord.nonempty, isWord.bare⟩
  · rintro ⟨nonempty, bare⟩
    exact ⟨nonempty, bare⟩

instance (text : Text) : Decidable (IsBareWord text) := decidable_of_iff _ isBareWord_iff.symm

instance (leaf : Operand) : Decidable leaf.IsExpressible :=
  match leaf with
  | .term word => inferInstanceAs (Decidable (IsBareWord word ∧ Lexeme.ofWord word = .term word))
  | .phrase body => inferInstanceAs (Decidable ('"' ∉ body ∧ Text.trim body ≠ []))
  | .fuzzy word => inferInstanceAs (Decidable
      (IsBareWord (word ++ ['~']) ∧ Lexeme.ofWord (word ++ ['~']) = .fuzzy word))
  | .field name value => inferInstanceAs (Decidable
      (IsBareWord (name ++ ':' :: value) ∧
        Lexeme.ofWord (name ++ ':' :: value) = .field (name ++ ':' :: value) ∧
        ':' ∉ name ∧ Text.lower name = name))

/-! ## The tokens of a text -/

/-- A bare word is one token when no character behind it goes on with the word. -/
theorem tokensFrom_word {word : Text} (isWord : IsBareWord word) (position : Nat) (rest : Text)
    (ends : ∀ mark ∈ rest.head?, isBare mark = false) :
    ∃ next, tokensFrom position (word ++ rest) =
      ⟨.ofWord word, position⟩ :: tokensFrom next rest := by
  cases word with
  | nil => exact (isWord.nonempty rfl).elim
  | cons first others =>
      have firstBare := isWord.bare first (by simp)
      have othersBare : ∀ char ∈ others, isBare char = true := by
        intro char member
        exact isWord.bare char (List.mem_cons_of_mem first member)
      have restStops : rest.takeWhile isBare = [] ∧ rest.dropWhile isBare = rest := by
        cases rest with
        | nil => exact ⟨rfl, rfl⟩
        | cons mark behind =>
            have notBare := ends mark (by simp)
            simp [notBare]
      have taken : (others ++ rest).takeWhile isBare = others := by
        rw [List.takeWhile_append_of_pos othersBare, restStops.1, List.append_nil]
      have dropped : (others ++ rest).dropWhile isBare = rest := by
        rw [List.dropWhile_append_of_pos othersBare, restStops.2]
      rw [List.cons_append, tokensFrom_of_isBare firstBare, taken, dropped]
      exact ⟨_, rfl⟩

theorem tokensFrom_word_blank {word : Text} (isWord : IsBareWord word) (position : Nat)
    (rest : Text) : ∃ next, tokensFrom position (word ++ ' ' :: rest) =
      ⟨.ofWord word, position⟩ :: tokensFrom next rest := by
  have blank : Text.isBlank ' ' = true := by decide
  have atBlank : ∀ mark ∈ (' ' :: rest).head?, isBare mark = false := by
    simp [isBare, blank]
  rcases tokensFrom_word isWord position (' ' :: rest) atBlank with ⟨next, reads⟩
  exact ⟨next + 1, by rw [reads, tokensFrom_of_isBlank blank]⟩

theorem isBareWord_not : IsBareWord "NOT".toList := by decide

theorem isBareWord_and : IsBareWord "AND".toList := by decide

theorem isBareWord_or : IsBareWord "OR".toList := by decide

/-- A phrase is one token. -/
theorem tokensFrom_phrase {body : Text} (unquoted : '"' ∉ body) (position : Nat)
    (rest : Text) : ∃ next, tokensFrom position ('"' :: (body ++ '"' :: rest)) =
      ⟨.phrase body, position⟩ :: tokensFrom next rest := by
  have inside : ∀ char ∈ body, (char != '"') = true := by
    intro char member
    have differs : char ≠ '"' := fun same => unquoted (same ▸ member)
    simpa using differs
  have taken : (body ++ '"' :: rest).takeWhile (· != '"') = body := by
    rw [List.takeWhile_append_of_pos inside]
    simp
  have dropped : (body ++ '"' :: rest).dropWhile (· != '"') = '"' :: rest := by
    rw [List.dropWhile_append_of_pos inside]
    simp
  have solid : Text.isBlank '"' = false := by decide
  refine ⟨position + body.length + 2, ?_⟩
  rw [tokensFrom, if_neg (by simp [solid]), if_pos rfl, taken]
  split
  next closed => simp [dropped] at closed
  next closed =>
    rw [dropped, List.cons.injEq] at closed
    rw [← closed.2]

theorem tokensFrom_opening (position : Nat) (rest : Text) : tokensFrom position ('(' :: rest) =
    ⟨.opening, position⟩ :: tokensFrom (position + 1) rest := by
  have solid : Text.isBlank '(' = false := by decide
  rw [tokensFrom, if_neg (by simp [solid]), if_neg (by decide), if_pos rfl]

theorem tokensFrom_closing (position : Nat) (rest : Text) : tokensFrom position (')' :: rest) =
    ⟨.closing, position⟩ :: tokensFrom (position + 1) rest := by
  have solid : Text.isBlank ')' = false := by decide
  rw [tokensFrom, if_neg (by simp [solid]), if_neg (by decide), if_neg (by decide), if_pos rfl]

/-- Wherever a text stands in a query, if only no character behind it goes on with its last
word, its tokens are an expression of a level with a given tree. -/
def Writes (level : Level) (room : Nat) (text : Text) (tree : Expr) : Prop :=
  ∀ position rest, (∀ mark ∈ rest.head?, isBare mark = false) →
    ∃ front next, tokensFrom position (text ++ rest) = front ++ tokensFrom next rest ∧
      NoBlankPhrase front ∧ Derives level room front tree

namespace Writes

variable {level side : Level} {room : Nat} {text other word : Text} {tree left right : Expr}
  {lexeme : Lexeme}

/-- What writes an expression of one level writes one of a level that includes it. -/
theorem weaken {higher : Level} (writes : Writes level room text tree)
    (includes : ∀ tokens, Derives level room tokens tree → Derives higher room tokens tree) :
    Writes higher room text tree := by
  intro position rest ends
  rcases writes position rest ends with ⟨front, next, reads, noBlank, derivation⟩
  exact ⟨front, next, reads, noBlank, includes front derivation⟩

/-- The text of a single token writes its operand. -/
theorem ofToken {leaf : Operand}
    (reads : ∀ position rest, (∀ mark ∈ rest.head?, isBare mark = false) →
      ∃ next, tokensFrom position (text ++ rest) = ⟨lexeme, position⟩ :: tokensFrom next rest)
    (writes : lexeme.operand? = some leaf) : Writes .atom room text (.operand leaf) := by
  rcases Lexeme.operand?_eq_some writes with ⟨notBlank, isLeaf⟩
  intro position rest ends
  rcases reads position rest ends with ⟨next, token⟩
  refine ⟨[⟨lexeme, position⟩], next, token, ?_, .leaf isLeaf⟩
  simpa [NoBlankPhrase] using notBlank

/-- A bare word writes the operand that it is read as. -/
theorem ofWord {leaf : Operand} (isWord : IsBareWord word)
    (writes : (Lexeme.ofWord word).operand? = some leaf) :
    Writes .atom room word (.operand leaf) :=
  ofToken (tokensFrom_word isWord) writes

theorem group (inside : Writes .disjunction room text tree) :
    Writes .atom (room + 1) ('(' :: (text ++ [')'])) tree := by
  intro position rest _
  have whole : '(' :: (text ++ [')']) ++ rest = '(' :: (text ++ ')' :: rest) := by simp
  have closes : ∀ mark ∈ (')' :: rest).head?, isBare mark = false := by
    have notBare : isBare ')' = false := by decide
    simp [notBare]
  rcases inside (position + 1) (')' :: rest) closes with
    ⟨front, next, reads, noBlank, derivation⟩
  refine ⟨⟨.opening, position⟩ :: front ++ [⟨.closing, next⟩], next + 1, ?_, ?_, ?_⟩
  · rw [whole, tokensFrom_opening, reads, tokensFrom_closing]
    simp
  · apply NoBlankPhrase.append.mpr
    constructor
    · exact NoBlankPhrase.cons.mpr ⟨rfl, noBlank⟩
    · simp [NoBlankPhrase, Lexeme.isBlankPhrase]
  · exact .group rfl derivation rfl

theorem not (inner : Writes .negation room text tree) :
    Writes .negation room ("NOT".toList ++ ' ' :: text) (.not tree) := by
  intro position rest ends
  rcases tokensFrom_word_blank isBareWord_not position (text ++ rest) with ⟨behind, negation⟩
  rcases inner behind rest ends with ⟨front, next, reads, noBlank, derivation⟩
  refine ⟨⟨.not, position⟩ :: front, next, ?_, ?_, .not rfl derivation⟩
  · rw [List.append_assoc, List.cons_append, negation, reads]
    rfl
  · exact NoBlankPhrase.cons.mpr ⟨rfl, noBlank⟩

/-- Two expressions with the word of a connective between them. -/
theorem joined {joint : Level} (front : Writes level room text left)
    (back : Writes side room other right) (isWord : IsBareWord word)
    (notBlank : (Lexeme.ofWord word).isBlankPhrase = false)
    (derives : ∀ position tokens others, Derives level room tokens left →
      Derives side room others right →
        Derives joint room (tokens ++ ⟨.ofWord word, position⟩ :: others) tree) :
    Writes joint room (text ++ ' ' :: (word ++ ' ' :: other)) tree := by
  intro position rest ends
  have whole : text ++ ' ' :: (word ++ ' ' :: other) ++ rest =
      text ++ ' ' :: (word ++ ' ' :: (other ++ rest)) := by simp
  have blank : Text.isBlank ' ' = true := by decide
  have atBlank : ∀ mark ∈ (' ' :: (word ++ ' ' :: (other ++ rest))).head?,
      isBare mark = false := by
    simp [isBare, blank]
  rcases front position _ atBlank with ⟨tokens, next, readsFront, frontNoBlank, derivation⟩
  rcases tokensFrom_word_blank isWord (next + 1) (other ++ rest) with ⟨behind, connective⟩
  rcases back behind rest ends with ⟨others, last, readsBack, backNoBlank, othersDerivation⟩
  refine ⟨tokens ++ ⟨.ofWord word, next + 1⟩ :: others, last, ?_, ?_, ?_⟩
  · rw [whole, readsFront, tokensFrom_of_isBlank blank, connective, readsBack]
    simp
  · apply NoBlankPhrase.append.mpr
    constructor
    · exact frontNoBlank
    · exact NoBlankPhrase.cons.mpr ⟨notBlank, backNoBlank⟩
  · exact derives (next + 1) tokens others derivation othersDerivation

theorem and (front : Writes .conjunction room text left)
    (back : Writes .negation room other right) :
    Writes .conjunction room (text ++ ' ' :: ("AND".toList ++ ' ' :: other))
      (.and left right) := by
  apply front.joined back isBareWord_and rfl
  intro position tokens others derivation othersDerivation
  exact .and derivation rfl othersDerivation

theorem or (front : Writes .disjunction room text left)
    (back : Writes .conjunction room other right) :
    Writes .disjunction room (text ++ ' ' :: ("OR".toList ++ ' ' :: other))
      (.or left right) := by
  apply front.joined back isBareWord_or rfl
  intro position tokens others derivation othersDerivation
  exact .or derivation rfl othersDerivation

end Writes

/-- A field word with a name in lower case is read as its name and its value. -/
theorem ofFieldWord_append {name : Text} (noColon : ':' ∉ name)
    (isLower : Text.lower name = name) (value : Text) :
    Operand.ofFieldWord (name ++ ':' :: value) = .field name value := by
  have others : ∀ char ∈ name, (char != ':') = true := by
    intro char member
    have differs : char ≠ ':' := fun same => noColon (same ▸ member)
    simpa using differs
  have taken : (name ++ ':' :: value).takeWhile (· != ':') = name := by
    rw [List.takeWhile_append_of_pos others]
    simp
  have dropped : (name ++ ':' :: value).dropWhile (· != ':') = ':' :: value := by
    rw [List.dropWhile_append_of_pos others]
    simp
  rw [Operand.ofFieldWord_eq, taken, dropped, isLower]
  rfl

/-- The text of an operand writes it. -/
theorem Operand.IsExpressible.writes {leaf : Operand} (expressible : leaf.IsExpressible)
    (room : Nat) : Writes .atom room leaf.print (.operand leaf) := by
  cases leaf with
  | term word =>
      rcases expressible with ⟨isWord, isTerm⟩
      have operand : (Lexeme.ofWord word).operand? = some (.term word) := by
        rw [isTerm]
        rfl
      exact .ofWord isWord operand
  | fuzzy word =>
      rcases expressible with ⟨isWord, isFuzzy⟩
      have operand : (Lexeme.ofWord (word ++ ['~'])).operand? = some (.fuzzy word) := by
        rw [isFuzzy]
        rfl
      exact .ofWord isWord operand
  | field name value =>
      rcases expressible with ⟨isWord, isField, noColon, isLower⟩
      have operand : (Lexeme.ofWord (name ++ ':' :: value)).operand? =
          some (.field name value) := by
        rw [isField, ← ofFieldWord_append noColon isLower value]
        rfl
      exact .ofWord isWord operand
  | phrase body =>
      rcases expressible with ⟨unquoted, notBlank⟩
      have operand : (Lexeme.phrase body).operand? = some (.phrase body) := by
        simp [Lexeme.operand?, Lexeme.isBlankPhrase, notBlank, Lexeme.leaf?]
      refine .ofToken ?_ operand
      intro position rest _
      rcases tokensFrom_phrase unquoted position rest with ⟨next, reads⟩
      exact ⟨next, by simpa [Operand.print] using reads⟩

theorem Level.rank_le_atom (due : Level) : due.rank ≤ Level.atom.rank := by
  cases due <;> decide

/-- An expression of a level is one of every level that binds no tighter. -/
theorem Derives.of_rank_le {own due : Level} {room : Nat} {tokens : List Token} {tree : Expr}
    (derivation : Derives own room tokens tree) (binds : due.rank ≤ own.rank) :
    Derives due room tokens tree := by
  cases own with
  | disjunction =>
      cases due with
      | disjunction => exact derivation
      | conjunction | negation | atom => simp [Level.rank] at binds
  | conjunction =>
      cases due with
      | disjunction => exact .conjunction derivation
      | conjunction => exact derivation
      | negation | atom => simp [Level.rank] at binds
  | negation =>
      cases due with
      | disjunction => exact .conjunction (.negation derivation)
      | conjunction => exact .negation derivation
      | negation => exact derivation
      | atom => simp [Level.rank] at binds
  | atom =>
      cases due with
      | disjunction => exact .conjunction (.negation (.atom derivation))
      | conjunction => exact .negation (.atom derivation)
      | negation => exact .atom derivation
      | atom => exact derivation

/-- In parentheses where they are needed, a text writes an expression of the level that is
demanded. The parentheses take one level of nesting from what is inside. -/
theorem writes_enclose {own due : Level} {room depth : Nat} {text : Text} {tree : Expr}
    (writes : ∀ inside, depth ≤ inside → Writes own inside text tree)
    (fits : (due.needsGroup own).toNat + depth ≤ room) :
    Writes due room (enclose (due.needsGroup own) text) tree := by
  cases needed : due.needsGroup own with
  | false =>
      have binds : due.rank ≤ own.rank := by simpa [Level.needsGroup] using needed
      have outside := writes room (by omega)
      exact outside.weaken fun _ derivation => derivation.of_rank_le binds
  | true =>
      rw [needed, Bool.toNat_true] at fits
      have positive : room = (room - 1) + 1 := by omega
      have inside : Writes .disjunction (room - 1) text tree :=
        (writes (room - 1) (by omega)).weaken
          fun _ derivation => derivation.of_rank_le (Nat.zero_le own.rank)
      rw [positive]
      exact inside.group.weaken fun _ derivation => derivation.of_rank_le due.rank_le_atom

/-- The text of a tree writes it. -/
theorem Expr.writes_print (tree : Expr)
    (expressible : ∀ leaf ∈ tree.operands, leaf.IsExpressible) (due : Level) (room : Nat)
    (fits : tree.groupDepth due ≤ room) : Writes due room (tree.print due) tree := by
  induction tree generalizing due room with
  | operand leaf =>
      have writes := (expressible leaf (by simp [operands])).writes room
      exact writes.weaken fun _ derivation => derivation.of_rank_le due.rank_le_atom
  | not inner ih =>
      refine writes_enclose ?_ fits
      intro inside fitsInside
      exact (ih expressible .negation inside fitsInside).not
  | and left right leftIH rightIH =>
      simp only [operands, List.mem_append, or_imp, forall_and] at expressible
      refine writes_enclose ?_ fits
      intro inside fitsInside
      have writesLeft := leftIH expressible.1 .conjunction inside (by omega)
      exact writesLeft.and (rightIH expressible.2 .negation inside (by omega))
  | or left right leftIH rightIH =>
      simp only [operands, List.mem_append, or_imp, forall_and] at expressible
      refine writes_enclose ?_ fits
      intro inside fitsInside
      have writesLeft := leftIH expressible.1 .disjunction inside (by omega)
      exact writesLeft.or (rightIH expressible.2 .conjunction inside (by omega))

/-! ## Quotes come in pairs -/

theorem IsBareWord.count_quote {word : Text} (isWord : IsBareWord word) :
    word.count '"' = 0 := by
  apply List.count_eq_zero_of_not_mem
  intro quoted
  have bare := isWord.bare '"' quoted
  simp [isBare] at bare

theorem Operand.IsExpressible.count_quote {leaf : Operand} (expressible : leaf.IsExpressible) :
    leaf.print.count '"' % 2 = 0 := by
  cases leaf with
  | term word => simp [print, expressible.1.count_quote]
  | fuzzy word => simp only [print, expressible.1.count_quote]
  | field name value => simp only [print, expressible.1.count_quote]
  | phrase body =>
      have noneInside := List.count_eq_zero_of_not_mem expressible.1
      simp [print, noneInside]

theorem count_quote_enclose (needed : Bool) (text : Text) :
    (enclose needed text).count '"' = text.count '"' := by
  cases needed <;> simp [enclose]

theorem Expr.count_quote_print (tree : Expr)
    (expressible : ∀ leaf ∈ tree.operands, leaf.IsExpressible) (due : Level) :
    (tree.print due).count '"' % 2 = 0 := by
  induction tree generalizing due with
  | operand leaf => exact (expressible leaf (by simp [operands])).count_quote
  | not inner ih =>
      have even := ih expressible .negation
      rw [print, count_quote_enclose, List.count_append]
      simp [even]
  | and left right leftIH rightIH =>
      simp only [operands, List.mem_append, or_imp, forall_and] at expressible
      have evenLeft := leftIH expressible.1 .conjunction
      have evenRight := rightIH expressible.2 .negation
      rw [print, count_quote_enclose]
      simp
      omega
  | or left right leftIH rightIH =>
      simp only [operands, List.mem_append, or_imp, forall_and] at expressible
      have evenLeft := leftIH expressible.1 .disjunction
      have evenRight := rightIH expressible.2 .conjunction
      rw [print, count_quote_enclose]
      simp
      omega

/-- A tree whose operands can be written, and whose parentheses are no deeper inside each
other than allowed, is the tree of the query that it is written as, and the query has no
fault. -/
theorem read_print (tree : Expr) (expressible : ∀ leaf ∈ tree.operands, leaf.IsExpressible)
    (shallow : tree.groupDepth .disjunction ≤ nestingLimit) :
    (read (tree.print .disjunction)).tree = some tree ∧
      (read (tree.print .disjunction)).faults = [] := by
  have writes := tree.writes_print expressible .disjunction nestingLimit shallow
  rcases writes 0 [] (by simp) with ⟨front, next, reads, noBlank, derivation⟩
  rw [List.append_nil, tokensFrom_nil, List.append_nil] at reads
  have reading : readTokens (tokens (tree.print .disjunction)) = .clean tree [] := by
    rw [tokens, reads]
    exact readTokens_of_derives derivation noBlank
  have closed : openQuote? (tree.print .disjunction) = none := by
    simp [openQuote?, tree.count_quote_print expressible .disjunction]
  constructor
  · simp [read, reading, Reading.clean]
  · simp [read, reading, closed, Reading.clean]

/-- A tree that needs parentheses below a negation and to the right of a disjunction. -/
def nestedTree : Expr :=
  .or (.and (.operand (.term ['a']))
      (.not (.or (.operand (.term ['b'])) (.operand (.phrase ['c', ' ', 'd'])))))
    (.or (.operand (.fuzzy ['e'])) (.operand (.field "name".toList ['f'])))

theorem read_print_nestedTree :
    ((∀ leaf ∈ nestedTree.operands, leaf.IsExpressible) ∧
      nestedTree.groupDepth .disjunction ≤ nestingLimit) ∧
    nestedTree.print .disjunction = "a AND NOT (b OR \"c d\") OR (e~ OR name:f)".toList ∧
    (read (nestedTree.print .disjunction)).tree = some nestedTree ∧
      (read (nestedTree.print .disjunction)).faults = [] := by
  have expressible : ∀ leaf ∈ nestedTree.operands, leaf.IsExpressible := by decide
  have shallow : nestedTree.groupDepth .disjunction ≤ nestingLimit := by decide
  exact ⟨⟨expressible, shallow⟩, by decide, read_print nestedTree expressible shallow⟩

end SpecFinder.Query
