import SpecFinder.Proofs.Match.Coverage
import SpecFinder.Proofs.Match.Windows
import SpecFinder.Proofs.Text.Folding

/-!
# What snippets highlight

The highlights of a snippet are looked for in its text, with the dots where the line was cut.
Away from the dots nothing is different from the line: an occurrence that lies in the window
is an occurrence in the line, at its place.  So the highlights are those of the line unless a
scan for a term comes upon a dot, and the leftmost occurrence is highlighted when it lies in
the window and no occurrence that begins with the dots reaches into it.

The window reaches as far behind the start of the leftmost occurrence as in front of it, so
that it shows all of an occurrence that is not longer than it reaches.
-/

namespace SpecFinder.Snippet

open Text

/-! ## The text of a window -/

namespace Window

variable {line : Text} (window : Window line)

/-- The place in the text of a window where a character of the line stands. -/
def placeOf (place : Nat) : Nat := window.lead.length + (place - window.start)

/-- Whether a place of the text of a window shows a character of the line, not a dot. -/
def Copies (place : Int) : Prop :=
  window.lead.length ≤ place ∧ place < window.lead.length + window.copied.length

theorem drop_placeOf {place : Nat} (behind : window.start ≤ place) (upTo : place ≤ window.stop) :
    window.text.drop (window.placeOf place) =
      (line.drop place).take (window.stop - place) ++ window.trail := by
  have room : place - window.start ≤ window.copied.length := by
    rw [window.length_copied]
    omega
  rw [placeOf, text, List.append_assoc, ← List.drop_drop, List.drop_left,
    List.drop_append_of_le_length room, copied, List.drop_drop, Nat.add_sub_cancel' behind,
    List.drop_take]

/-- Within the window, an occurrence in its text is one in the line. -/
theorem startsWithBy_placeOf {same : Char → Char → Bool} {part : Text} {place : Nat}
    (behind : window.start ≤ place) (room : place + part.length ≤ window.stop) :
    startsWithBy same part (window.text.drop (window.placeOf place)) = true ↔
      startsWithBy same part (line.drop place) = true := by
  have inLine := window.within
  have length : ((line.drop place).take (window.stop - place)).length = window.stop - place := by
    rw [List.length_take, List.length_drop]
    omega
  have front : (window.text.drop (window.placeOf place)).take (window.stop - place) =
      (line.drop place).take (window.stop - place) := by
    rw [window.drop_placeOf behind (by omega)]
    exact List.take_left' length
  have short : part.length ≤ window.stop - place := by omega
  calc startsWithBy same part (window.text.drop (window.placeOf place)) = true
      ↔ startsWithBy same part
          ((window.text.drop (window.placeOf place)).take (window.stop - place)) = true := by
        rw [startsWithBy_take_iff, and_iff_left short]
    _ ↔ startsWithBy same part (line.drop place) = true := by
        rw [front, startsWithBy_take_iff, and_iff_left short]

/-- What is not copied from the line is a dot. -/
theorem eq_dot_of_not_copies {place : Nat} {char : Char} (dotted : ¬ window.Copies place)
    (there : window.text[place]? = some char) : char = '.' := by
  have isDot {dots : Text} (side : dots = ellipsis ∨ dots = []) (member : char ∈ dots) :
      char = '.' := by
    rcases side with rfl | rfl
    · simpa [ellipsis] using member
    · cases member
  rw [Copies, not_and_or] at dotted
  rw [text, List.getElem?_append, List.getElem?_append, List.length_append] at there
  split at there
  next inFront =>
    split at there
    next inLead =>
      apply isDot _ (List.mem_of_getElem? there)
      rw [lead]
      split <;> simp
    next => omega
  next =>
    apply isDot _ (List.mem_of_getElem? there)
    rw [trail]
    split <;> simp

/-! ## Genuine highlights -/

/-- Whether a place of a line lies in an occurrence of a term, case being ignored: in a part
of the line with the letters of the term in lower case, or letters alike. -/
def OccursOver (line term : Text) (place : Nat) : Prop :=
  ∃ start, startsWithBy alike (lower term) (line.drop start) = true ∧
    start ≤ place ∧ place < start + (lower term).length

/-- Whether a highlight of the text of a window is one of the line: it lies in what is copied
from the line, and each of its characters lies in an occurrence of a term in the line. -/
structure IsGenuine (terms : List Text) (span : Span) : Prop where
  start_le : window.lead.length ≤ span.start
  stop_le : span.stop ≤ window.lead.length + window.copied.length
  occurs : ∀ place, window.start ≤ place → place < window.stop →
    span.Covers (window.placeOf place) → ∃ term ∈ terms, term ≠ [] ∧ OccursOver line term place

/-- Whether the scan for a term in the text of a window comes upon a dot. -/
def ReachesDots (term : Text) : Prop :=
  ∃ place, ScanCovers window.text term place ∧ ¬ window.Copies place

section

variable {window} {term : Text} {terms : List Text}

/-- Without dots, what a scan finds in the text of a window is an occurrence in the line. -/
theorem occursOver_of_scanCovers (nonempty : term ≠ []) (clear : ¬ window.ReachesDots term)
    {place : Nat} (behind : window.start ≤ place)
    (covered : ScanCovers window.text term (window.placeOf place)) :
    OccursOver line term place := by
  have positive : 0 < (lower term).length := List.length_pos_iff.mpr (by simpa using nonempty)
  rcases covered with ⟨starts, scan, start, listed, covers⟩
  have inText {other : Int} (within : Span.Covers other ⟨start, start + (lower term).length⟩) :
      window.Copies other := by
    by_contra dotted
    exact clear ⟨other, ⟨starts, scan, start, listed, within⟩, dotted⟩
  have first : window.Copies start := inText ⟨Int.le_refl _, by simp only; omega⟩
  have last : window.Copies (start + (lower term).length - 1 : Int) :=
    inText ⟨by simp only; omega, by simp only; omega⟩
  simp only [Copies, length_copied] at first last
  simp only [Span.Covers, placeOf] at covers
  have here : window.placeOf (window.start + (start - window.lead.length)) = start := by
    rw [placeOf]
    omega
  have occurs := (scan.occurs start listed).2
  rw [← here, window.startsWithBy_placeOf (by omega) (by omega)] at occurs
  exact ⟨_, occurs, by omega, by omega⟩

/-- The highlights of a window are genuine exactly when no scan comes upon a dot. -/
theorem isGenuine_iff :
    (∀ span ∈ SpecFinder.highlights window.text terms, window.IsGenuine terms span) ↔
      ∀ term ∈ terms, term ≠ [] → ¬ window.ReachesDots term := by
  rcases areCanonical_highlights window.text terms with ⟨canonical, covered⟩
  constructor
  · rintro genuine term isTerm nonempty ⟨place, scanned, dotted⟩
    rcases (covered place).mpr ⟨term, isTerm, nonempty, scanned⟩ with ⟨span, listed, covers⟩
    have within := genuine span listed
    exact dotted ⟨Int.le_trans within.start_le covers.1, Int.lt_of_lt_of_le covers.2 within.stop_le⟩
  · intro clear span listed
    have copies {place : Int} (covers : span.Covers place) : window.Copies place := by
      rcases (covered place).mp ⟨span, listed, covers⟩ with ⟨term, isTerm, nonempty, scanned⟩
      by_contra dotted
      exact clear term isTerm nonempty ⟨place, scanned, dotted⟩
    have solid := canonical.solid span listed
    have first := copies (Span.covers_start solid)
    have last : window.Copies (span.stop - 1) := copies ⟨by omega, by omega⟩
    refine ⟨first.1, ?_, ?_⟩
    · have before := last.2
      omega
    · intro place behind _ covers
      rcases (covered _).mp ⟨span, listed, covers⟩ with ⟨term, isTerm, nonempty, scanned⟩
      exact ⟨term, isTerm, nonempty,
        occursOver_of_scanCovers nonempty (clear term isTerm nonempty) behind scanned⟩

/-- A letter that is found on a dot is a dot. -/
theorem eq_dot_of_occurs {start index : Nat} {letter : Char}
    (occurs : startsWithBy alike (lower term) (window.text.drop start) = true)
    (isLetter : (lower term)[index]? = some letter)
    (dotted : ¬ window.Copies (start + index : Nat)) : letter = '.' := by
  rcases exists_same_of_startsWithBy occurs isLetter with ⟨char, there, same⟩
  rw [List.getElem?_drop] at there
  rw [window.eq_dot_of_not_copies dotted there, alike, beq_iff_eq] at same
  have small : smallLetter letter = letter :=
    smallLetter_of_mem_lowerFrom (List.mem_of_getElem? isLetter)
  exact eq_of_fold_eq small (by decide +kernel) (same.trans (by decide +kernel))

theorem isCaseless_dot : isCaseless '.' = true := by decide +kernel

/-- A term that begins on a dot begins with a dot. -/
theorem head?_of_occurs {start : Nat} (nonempty : term ≠ [])
    (occurs : startsWithBy alike (lower term) (window.text.drop start) = true)
    (dotted : ¬ window.Copies start) : term.head? = some '.' := by
  apply head?_of_head?_lower isCaseless_dot
  cases letters : lower term with
  | nil => exact (nonempty (lower_eq_nil_iff.mp letters)).elim
  | cons letter others =>
      have isFirst : (lower term)[0]? = some letter := by rw [letters, List.getElem?_cons_zero]
      rw [eq_dot_of_occurs occurs isFirst dotted, List.head?_cons]

/-- A term that ends on a dot ends with a dot. -/
theorem getLast?_of_occurs {start : Nat} (nonempty : term ≠ [])
    (occurs : startsWithBy alike (lower term) (window.text.drop start) = true)
    (dotted : ¬ window.Copies (start + ((lower term).length - 1) : Nat)) :
    term.getLast? = some '.' := by
  apply getLast?_of_getLast?_lower isCaseless_dot
  have letters : lower term ≠ [] := by simpa using nonempty
  rw [List.getLast?_eq_some_getLast letters]
  congr 1
  apply eq_dot_of_occurs occurs _ dotted
  rw [← List.getLast?_eq_getElem?, List.getLast?_eq_some_getLast letters]

/-- A scan comes upon a dot only for a term that begins or ends with one. -/
theorem dot_of_reachesDots (nonempty : term ≠ []) (reaches : window.ReachesDots term) :
    term.head? = some '.' ∨ term.getLast? = some '.' := by
  rcases reaches with ⟨place, ⟨starts, scan, start, listed, covers⟩, dotted⟩
  have occurs := (scan.occurs start listed).2
  simp only [Span.Covers] at covers
  rw [Copies, not_and_or] at dotted
  rcases dotted with inFront | behind
  · left
    refine head?_of_occurs nonempty occurs ?_
    rw [Copies]
    omega
  · right
    refine getLast?_of_occurs nonempty occurs ?_
    rw [Copies]
    omega

end

end Window

/-! ## Both snippets of a line -/

/-- The snippets of a line and the windows that they show. -/
inductive Extracts (text : Text) (index : Int) (terms : List Text) (reach : Nat) :
    Snippet → Window (lineAt text index) → Prop where
  | anywhere : Extracts text index terms reach (extract text index terms reach)
      (Window.around (lineAt text index) terms reach)
  | sentences : Extracts text index terms reach (extractSentences text index terms reach)
      (Window.around (lineAt text index) terms reach).snap

namespace Extracts

variable {text : Text} {index : Int} {terms : List Text} {reach : Nat}
variable {snippet : Snippet} {window : Window (lineAt text index)}

theorem eq_snippet (extracts : Extracts text index terms reach snippet window) :
    snippet = window.snippet terms := by
  cases extracts with
  | anywhere => exact extract_eq text index terms reach
  | sentences => exact extractSentences_eq text index terms reach

/-- A window reaches as far to the front as is asked for, when it does not begin the line. -/
theorem start_le (extracts : Extracts text index terms reach snippet window) :
    window.start ≤ leftmost (lineAt text index) terms - reach := by
  have start := Window.start_around_le (lineAt text index) terms reach
  cases extracts with
  | anywhere => exact start
  | sentences => exact Nat.le_trans (Window.widens_snap _).start_le start

/-- A window reaches as far to the back as is asked for, when it does not end the line. -/
theorem le_stop (extracts : Extracts text index terms reach snippet window) :
    min (lineAt text index).length (leftmost (lineAt text index) terms + reach) ≤
      window.stop := by
  have stop := Window.le_stop_around (lineAt text index) terms reach
  cases extracts with
  | anywhere => exact stop
  | sentences => exact Nat.le_trans stop (Window.widens_snap _).le_stop

end Extracts

/-- A snippet shows the text of its window.  Its highlights lie in what is copied from the line
and are highlights of occurrences in the line exactly when no scan for a term comes upon a dot,
and always when no term begins or ends with a full stop. -/
theorem highlights_genuine {text : Text} {index : Int} {terms : List Text} {reach : Nat}
    {snippet : Snippet} {window : Window (lineAt text index)}
    (extracts : Extracts text index terms reach snippet window) :
    snippet.text = window.text ∧
    ((∀ span ∈ snippet.highlights, window.IsGenuine terms span) ↔
      ∀ term ∈ terms, term ≠ [] → ¬ window.ReachesDots term) ∧
    ((∀ term ∈ terms, term.head? ≠ some '.' ∧ term.getLast? ≠ some '.') →
      ∀ span ∈ snippet.highlights, window.IsGenuine terms span) := by
  rw [extracts.eq_snippet]
  refine ⟨rfl, Window.isGenuine_iff, fun undotted => ?_⟩
  apply Window.isGenuine_iff.mpr
  intro term isTerm nonempty reaches
  rcases Window.dot_of_reachesDots nonempty reaches with begins | ends
  · exact (undotted term isTerm).1 begins
  · exact (undotted term isTerm).2 ends

/-- A line that is cut in front of a full stop that is searched for, and behind it. -/
def stopLine : Text := "ab.cdefgh".toList

/-- A letter is highlighted where the line has it, but a full stop also in the dots. -/
theorem highlights_stopLine :
    Extracts stopLine 0 [['b']] 1 (extract stopLine 0 [['b']] 1)
        (Window.around (lineAt stopLine 0) [['b']] 1) ∧
      (∀ span ∈ (extract stopLine 0 [['b']] 1).highlights,
        (Window.around (lineAt stopLine 0) [['b']] 1).IsGenuine [['b']] span) ∧
      ¬ ∀ span ∈ (extract stopLine 0 [['.']] 1).highlights,
        (Window.around (lineAt stopLine 0) [['.']] 1).IsGenuine [['.']] span := by
  have cuts (terms : List Text) : Extracts stopLine 0 terms 1 (extract stopLine 0 terms 1)
      (Window.around (lineAt stopLine 0) terms 1) := .anywhere
  refine ⟨cuts _, (highlights_genuine (cuts _)).2.2 (by simp), fun genuine => ?_⟩
  apply (highlights_genuine (cuts _)).2.1.mp genuine ['.'] (by simp) (by simp)
  have listed : 0 ∈ occurrences alike (lower ['.'])
      (Window.around (lineAt stopLine 0) [['.']] 1).text := by decide +kernel
  have cut : (Window.around (lineAt stopLine 0) [['.']] 1).lead.length = 3 := by decide +kernel
  refine ⟨0, (scanCovers_iff (by simp)).mpr ⟨0, listed, Int.le_refl _, by decide +kernel⟩, ?_⟩
  rw [Window.Copies, cut]
  omega

/-! ## The leftmost occurrence in a snippet -/

/-- Whether the leftmost occurrence of the terms in a line is one of this term. -/
structure IsLeftmost (line : Text) (terms : List Text) (term : Text) : Prop where
  listed : term ∈ terms
  nonempty : term ≠ []
  occurs : startsWithBy alike term (line.drop (leftmost line terms)) = true

/-- Whether a snippet shows all of the characters from a place of the line on, and one
highlight covers them. -/
structure ShowsWhole {line : Text} (snippet : Snippet) (window : Window line)
    (place count : Nat) : Prop where
  behind : window.start ≤ place
  room : place + count ≤ window.stop
  text : (snippet.text.drop (window.placeOf place)).take count = (line.drop place).take count
  highlighted : ∃ span ∈ snippet.highlights,
    span.start ≤ window.placeOf place ∧ (window.placeOf place + count : Nat) ≤ span.stop

section

variable {term : Text}

/-- Without a capital I with a dot, a term and its lower-case form have the same
occurrences. -/
theorem startsWithBy_lower_iff (plain : 'İ' ∉ term) (text : Text) :
    startsWithBy alike (lower term) text = true ↔ startsWithBy alike term text = true := by
  rw [startsWithBy_alike_iff, startsWithBy_alike_iff, map_fold_lower,
    flatMap_spread_of_notMem plain]

theorem IsLeftmost.add_length_le {line : Text} {terms : List Text}
    (isLeftmost : IsLeftmost line terms term) :
    leftmost line terms + term.length ≤ line.length := by
  have inLine := leftmost_le_length line terms
  have fits := length_le_of_startsWithBy isLeftmost.occurs
  rw [List.length_drop] at fits
  omega

namespace Extracts

variable {text : Text} {index : Int} {terms : List Text} {reach : Nat}
variable {snippet : Snippet} {window : Window (lineAt text index)}

/-- Nothing that the scan lists reaches into the leftmost occurrence, so the scan lists it. -/
theorem placeOf_mem_occurrences (extracts : Extracts text index terms reach snippet window)
    (isLeftmost : IsLeftmost (lineAt text index) terms term) (plain : 'İ' ∉ term)
    (room : leftmost (lineAt text index) terms + term.length ≤ window.stop)
    (clear : window.start = 0 ∨ term.length ≤ reach ∨ term.head? ≠ some '.') :
    window.placeOf (leftmost (lineAt text index) terms) ∈
      occurrences alike (lower term) window.text := by
  have length := length_lower_of_notMem plain
  have startLe := extracts.start_le
  have scan : IsScan alike (lower term) window.text 0
      (occurrences alike (lower term) window.text) :=
    isScan_occurrences (by simpa using isLeftmost.nonempty) _
  have here : startsWithBy alike (lower term)
      (window.text.drop (window.placeOf (leftmost (lineAt text index) terms))) = true := by
    rw [window.startsWithBy_placeOf (by omega) (by omega), startsWithBy_lower_iff plain]
    exact isLeftmost.occurs
  rcases scan.complete _ (Nat.zero_le _) here with ⟨found, isFound, before, reaches⟩
  rcases Nat.eq_or_lt_of_le before with same | earlier
  · exact same ▸ isFound
  · have occurs := (scan.occurs found isFound).2
    rw [Window.placeOf] at earlier reaches
    by_cases inLead : found < window.lead.length
    · -- It begins with the dots, which it has to leave to reach the leftmost occurrence.
      have cut : window.start ≠ 0 := by
        intro atStart
        simp [Window.lead, atStart] at inLead
      have dotted : ¬ window.Copies found := by
        rw [Window.Copies]
        omega
      have begins := Window.head?_of_occurs isLeftmost.nonempty occurs dotted
      rcases clear with atStart | short | otherwise
      · exact (cut atStart).elim
      · omega
      · exact (otherwise begins).elim
    · -- It is an occurrence in the line in front of the leftmost one.
      have isPlace : window.placeOf (window.start + (found - window.lead.length)) = found := by
        rw [Window.placeOf]
        omega
      rw [← isPlace, window.startsWithBy_placeOf (by omega) (by omega),
        startsWithBy_lower_iff plain] at occurs
      have atMost := leftmost_le isLeftmost.listed isLeftmost.nonempty occurs
      omega

/-- A snippet shows the leftmost occurrence when its window goes on as far as that. -/
theorem showsWhole (extracts : Extracts text index terms reach snippet window)
    (isLeftmost : IsLeftmost (lineAt text index) terms term) (plain : 'İ' ∉ term)
    (room : leftmost (lineAt text index) terms + term.length ≤ window.stop)
    (clear : window.start = 0 ∨ term.length ≤ reach ∨ term.head? ≠ some '.') :
    ShowsWhole snippet window (leftmost (lineAt text index) terms) term.length where
  behind := by
    have startLe := extracts.start_le
    omega
  room := room
  text := by
    have startLe := extracts.start_le
    have inLine := window.within
    rw [extracts.eq_snippet, Window.snippet, window.drop_placeOf (by omega) (by omega),
      List.take_append_of_le_length, List.take_take, Nat.min_eq_left (by omega)]
    rw [List.length_take, List.length_drop]
    omega
  highlighted := by
    have found := extracts.placeOf_mem_occurrences isLeftmost plain room clear
    have positive := List.length_pos_iff.mpr isLeftmost.nonempty
    rcases areCanonical_highlights window.text terms with ⟨canonical, covered⟩
    rw [extracts.eq_snippet]
    apply canonical.exists_span
    · omega
    · intro place behind before
      refine (covered place).mpr ⟨term, isLeftmost.listed, isLeftmost.nonempty, ?_⟩
      refine (scanCovers_iff isLeftmost.nonempty).mpr ⟨_, found, behind, ?_⟩
      simp only [length_lower_of_notMem plain]
      omega

/-- An occurrence that is not longer than the window reaches lies in it. -/
theorem add_length_le_stop (extracts : Extracts text index terms reach snippet window)
    (isLeftmost : IsLeftmost (lineAt text index) terms term) (short : term.length ≤ reach) :
    leftmost (lineAt text index) terms + term.length ≤ window.stop := by
  have leStop := extracts.le_stop
  have inLine := isLeftmost.add_length_le
  omega

end Extracts

/-! ## Terms that are always shown -/

theorem lineAt_zero (oneLine : '\n' ∉ term) : lineAt term 0 = term := by
  have uncut : ∀ char ∈ term, (char == '\n') = false := by
    intro char member
    have differs : char ≠ '\n' := fun same => oneLine (same ▸ member)
    simpa using differs
  rw [lineAt, rows, splitWhere_of_none uncut]
  rfl

theorem notMem_lineAt (text : Text) (index : Int) : '\n' ∉ lineAt text index := by
  rw [lineAt]
  split
  next => exact List.not_mem_nil
  next =>
    rw [List.getD_eq_getElem?_getD]
    cases found : (rows text)[index.toNat]? with
    | none => exact List.not_mem_nil
    | some row =>
        intro member
        have uncut := uncut_of_mem_splitWhere (List.mem_of_getElem? found) '\n' member
        simp at uncut

/-- A term with a line feed occurs in no line. -/
theorem IsLeftmost.oneLine {text : Text} {index : Int} {terms : List Text}
    (isLeftmost : IsLeftmost (lineAt text index) terms term) : '\n' ∉ term := by
  intro broken
  rcases List.getElem?_of_mem broken with ⟨place, isFeed⟩
  rcases exists_same_of_startsWithBy isLeftmost.occurs isFeed with ⟨char, there, same⟩
  have small : smallLetter char = '\n' := by
    apply eq_of_fold_eq (smallLetter_smallLetter char) (by decide +kernel)
    rw [fold_smallLetter, ← beq_iff_eq.mp same]
    decide +kernel
  have caseless : isCaseless (smallLetter char) = true := by
    rw [small]
    decide +kernel
  have feed : char = '\n' := (eq_of_isCaseless_smallLetter (.inl caseless)).symm.trans small
  exact notMem_lineAt text index (feed ▸ List.mem_of_mem_drop (List.mem_of_getElem? there))

/-- In a line that begins with a term, this is the leftmost occurrence. -/
theorem isLeftmost_append (nonempty : term ≠ []) (behind : Text) :
    leftmost (term ++ behind) [term] = 0 ∧ IsLeftmost (term ++ behind) [term] term := by
  have begins : startsWithBy alike term ((term ++ behind).drop 0) = true := by
    rw [startsWithBy_alike_iff, List.drop_zero, List.map_append]
    exact List.prefix_append _ _
  have isFirst : leftmost (term ++ behind) [term] = 0 :=
    Nat.le_zero.mp (leftmost_le (List.mem_singleton_self term) nonempty begins)
  refine ⟨isFirst, List.mem_singleton_self term, nonempty, ?_⟩
  rw [isFirst]
  exact begins

/-- The term is shown in every snippet in which it is the leftmost occurrence. -/
def IsAlwaysShown (term : Text) (reach : Nat) : Prop :=
  ∀ (text : Text) (index : Int) (terms : List Text) (snippet : Snippet)
    (window : Window (lineAt text index)), Extracts text index terms reach snippet window →
    IsLeftmost (lineAt text index) terms term →
    ShowsWhole snippet window (leftmost (lineAt text index) terms) term.length

variable {reach : Nat}

/-- In front of a long rest of a line, a term is cut where the window ends. -/
theorem IsAlwaysShown.length_le (shown : IsAlwaysShown term reach) (nonempty : term ≠ [])
    (oneLine : '\n' ∉ term) : term.length ≤ reach := by
  have positive := List.length_pos_iff.mpr nonempty
  rcases isLeftmost_append nonempty (List.replicate (2 * reach) 'x') with ⟨isFirst, isLeftmost⟩
  have line : lineAt (term ++ List.replicate (2 * reach) 'x') 0 =
      term ++ List.replicate (2 * reach) 'x' := by
    apply lineAt_zero
    simp [oneLine]
  have room := (shown _ 0 [term] _ _ .anywhere (line.symm ▸ isLeftmost)).room
  have long : 2 * reach < (term ++ List.replicate (2 * reach) 'x').length := by
    simp only [List.length_append, List.length_replicate]
    omega
  rw [line, (Window.around_of_long _ long).2, isFirst] at room
  omega

/-- A line that is a term with a capital I with a dot is too short for its lower-case form. -/
theorem IsAlwaysShown.notMem (shown : IsAlwaysShown term reach) (nonempty : term ≠ [])
    (oneLine : '\n' ∉ term) : 'İ' ∉ term := by
  have short := shown.length_le nonempty oneLine
  have line := lineAt_zero oneLine
  rcases isLeftmost_append nonempty [] with ⟨isFirst, isLeftmost⟩
  rw [List.append_nil] at isFirst isLeftmost
  rcases (shown term 0 [term] _ _ .anywhere (line.symm ▸ isLeftmost)).highlighted with
    ⟨span, listed, _⟩
  rw [extract_eq, line, Window.around_of_short (by omega), Window.snippet, Window.text_whole]
    at listed
  rcases areCanonical_highlights term [term] with ⟨canonical, covered⟩
  rcases (covered span.start).mp ⟨span, listed, Span.covers_start (canonical.solid span listed)⟩
    with ⟨other, isTerm, _, starts, scan, start, isStart, _⟩
  rw [List.mem_singleton.mp isTerm] at scan
  have fits := scan.place_add_length_le (by simpa using nonempty) isStart
  rw [length_lower] at fits
  exact List.count_eq_zero.mp (by omega)

/-- The leftmost occurrence of a term without a capital I with a dot is shown as soon as the
window goes on as far as the occurrence, as long as no dots in front of it can be taken for the
term.  The terms that are always shown are those without this letter that are not longer than
the window reaches, and those with a line feed, which occur in no line. -/
theorem leftmost_shown (term : Text) (reach : Nat) :
    (∀ (text : Text) (index : Int) (terms : List Text) (snippet : Snippet)
      (window : Window (lineAt text index)), Extracts text index terms reach snippet window →
      IsLeftmost (lineAt text index) terms term → 'İ' ∉ term →
      window.start = 0 ∨ term.length ≤ reach ∨ term.head? ≠ some '.' →
      (ShowsWhole snippet window (leftmost (lineAt text index) terms) term.length ↔
        leftmost (lineAt text index) terms + term.length ≤ window.stop)) ∧
    (IsAlwaysShown term reach ↔ '\n' ∈ term ∨ term.length ≤ reach ∧ 'İ' ∉ term) := by
  constructor
  · intro text index terms snippet window extracts isLeftmost plain clear
    constructor
    · intro shown
      exact shown.room
    · intro room
      exact extracts.showsWhole isLeftmost plain room clear
  · constructor
    · intro shown
      by_cases oneLine : '\n' ∈ term
      · exact .inl oneLine
      · right
        by_cases nonempty : term = []
        · simp [nonempty]
        · exact ⟨shown.length_le nonempty oneLine, shown.notMem nonempty oneLine⟩
    · rintro (broken | ⟨short, plain⟩) text index terms snippet window extracts isLeftmost
      · exact (isLeftmost.oneLine broken).elim
      · have room := extracts.add_length_le_stop isLeftmost short
        exact extracts.showsWhole isLeftmost plain room (.inr (.inl short))

/-- A line with a term in the middle, which is longer than two characters. -/
def middleLine : Text := "xxxxabcxxxx".toList

/-- A window of three characters to both sides shows the term, and one of two cuts it. -/
theorem leftmost_middleLine :
    IsLeftmost (lineAt middleLine 0) ["abc".toList] "abc".toList ∧ 'İ' ∉ "abc".toList ∧
      (∀ reach : Nat, Extracts middleLine 0 ["abc".toList] reach
        (extract middleLine 0 ["abc".toList] reach)
        (Window.around (lineAt middleLine 0) ["abc".toList] reach)) ∧
      ShowsWhole (extract middleLine 0 ["abc".toList] 3)
        (Window.around (lineAt middleLine 0) ["abc".toList] 3)
        (leftmost (lineAt middleLine 0) ["abc".toList]) 3 ∧
      ¬ ShowsWhole (extract middleLine 0 ["abc".toList] 2)
        (Window.around (lineAt middleLine 0) ["abc".toList] 2)
        (leftmost (lineAt middleLine 0) ["abc".toList]) 3 := by
  have isLeftmost : IsLeftmost (lineAt middleLine 0) ["abc".toList] "abc".toList :=
    ⟨by decide, by decide, by decide +kernel⟩
  have plain : 'İ' ∉ "abc".toList := by decide
  have extracts (reach : Nat) : Extracts middleLine 0 ["abc".toList] reach
      (extract middleLine 0 ["abc".toList] reach)
      (Window.around (lineAt middleLine 0) ["abc".toList] reach) := .anywhere
  have shown (reach : Nat) := (leftmost_shown "abc".toList reach).1 middleLine 0 ["abc".toList] _ _
    (extracts reach) isLeftmost plain (.inr (.inr (by decide)))
  refine ⟨isLeftmost, plain, extracts, (shown 3).mpr (by decide +kernel), fun cut => ?_⟩
  have fits := (shown 2).mp cut
  revert fits
  decide +kernel

example : extract "xxabcxx".toList 0 ["abc".toList] 1 = ⟨"...xa...".toList, []⟩ := by
  decide +kernel

end

end SpecFinder.Snippet
