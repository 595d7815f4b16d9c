import SpecFinder.Match.Collect
import SpecFinder.Proofs.Match.Places
import SpecFinder.Proofs.Text.Folding
import SpecFinder.Proofs.Text.Scanning

/-!
# Matches and highlights

A text holds a term when the two lower-case forms say so.  Its highlights are found in
the text as written, so that they are places of it, and there the characters are
compared one by one.  `highlights_agree` says where the two differ, for all texts and
terms: a match without a highlight needs a capital I with a dot in the text, and a
highlight without a match needs this letter or two letters that are alike but not the
same.
-/

namespace SpecFinder

open Text

/-! ## Where there is a highlight -/

theorem Span.mergeInto_ne_nil (current : Span) (spans : List Span) :
    Span.mergeInto current spans ≠ [] := by
  induction spans generalizing current with
  | nil => simp [Span.mergeInto]
  | cons next rest ih =>
      rw [Span.mergeInto]
      split
      · apply ih
      · simp

theorem Span.merge_eq_nil_iff {spans : List Span} : Span.merge spans = [] ↔ spans = [] := by
  cases spans with
  | nil => simp [Span.merge]
  | cons first rest => simp [Span.merge, Span.mergeInto_ne_nil]

/-- A text has a highlight exactly when a scan finds one of the terms in it. -/
theorem highlights_ne_nil_iff {text : Text} {terms : List Text} :
    highlights text terms ≠ [] ↔
      ∃ term ∈ terms, term ≠ [] ∧ occurrences alike (lower term) text ≠ [] := by
  have sorted (spans : List Span) : spans.mergeSort Span.precedes = [] ↔ spans = [] := by
    rw [← List.length_eq_zero_iff, List.length_mergeSort, List.length_eq_zero_iff]
  rw [highlights, ne_eq, Span.merge_eq_nil_iff, sorted, List.flatMap_eq_nil_iff]
  simp [searchedTerms, termSpans, and_assoc]

/-! ## One term -/

section

variable {text term : Text}

/-- A term of a text is highlighted there, unless it has a dot of a capital I in it. -/
theorem occurrences_ne_nil_of_occursIn (nonempty : term ≠ [])
    (noDot : 'İ' ∈ text → '\u0307' ∉ lower term)
    (occurs : occursIn (lower term) (lower text) = true) :
    occurrences alike (lower term) text ≠ [] := by
  have folded : (lower term).map fold <:+: text.flatMap spread := by
    rw [← map_fold_lower]
    exact (occursIn_iff_isInfix.mp occurs).map fold
  rw [occurrences_alike_ne_nil_iff (by simpa using nonempty)]
  by_cases dotted : 'İ' ∈ text
  · apply infix_map_fold_of_infix_spread _ text folded
    intro member
    rcases List.mem_map.mp member with ⟨letter, listed, isDot⟩
    have small := smallLetter_of_mem_lowerFrom listed
    have same : letter = '\u0307' := eq_of_fold_eq small (by decide +kernel) isDot
    exact noDot dotted (same ▸ listed)
  · rwa [flatMap_spread_of_notMem dotted] at folded

/-- A highlighted term is a term of the text when none of its letters is alike to another
letter of the text. -/
theorem occursIn_of_occurrences_ne_nil (nonempty : term ≠ [])
    (noI : 'İ' ∈ text → 'i' ∉ lower term)
    (apart : ∀ letter ∈ lower term, ∀ char ∈ lower text, alike letter char = true →
      letter = char)
    (found : occurrences alike (lower term) text ≠ []) :
    occursIn (lower term) (lower text) = true := by
  rw [occurrences_alike_ne_nil_iff (by simpa using nonempty)] at found
  have tells : ∀ letter ∈ lower term, ∀ char ∈ lower text, fold letter = fold char →
      letter = char := by
    intro letter member char charMember same
    exact apart letter member char charMember (beq_iff_eq.mpr same)
  rw [occursIn_iff_isInfix]
  apply infix_of_infix_map tells
  rw [map_fold_lower text]
  by_cases dotted : 'İ' ∈ text
  · apply infix_spread_of_infix_map_fold _ text found
    intro member
    rcases List.mem_map.mp member with ⟨letter, listed, isI⟩
    have same : letter = 'i' := by
      apply tells letter listed 'i' (i_mem_lower dotted)
      rw [isI, fold_i.1]
    exact noI dotted (same ▸ listed)
  · rwa [flatMap_spread_of_notMem dotted]

end

/-! ## All terms -/

/-- A character is found in the text that it is, and it has a highlight there, but for the
capital I with a dot. -/
theorem highlights_singleton_eq_nil_iff (char : Char) :
    containsAnyTerm [char] [[char]] = true ∧ (highlights [char] [[char]] = [] ↔ char = 'İ') := by
  have found : highlights [char] [[char]] ≠ [] ↔ spread char <:+: [fold char] := by
    have nonempty : lower [char] ≠ [] := by simp
    have forms := map_fold_lower [char]
    rw [List.flatMap_singleton] at forms
    simp [highlights_ne_nil_iff, occurrences_alike_ne_nil_iff nonempty, forms]
  constructor
  · apply containsAnyTerm_iff.mpr
    exact ⟨by simp, [char], by simp, occursIn_iff_isInfix.mpr List.infix_rfl⟩
  · rw [← not_iff_not, ← ne_eq, found, spread]
    split
    next dotted =>
      simp only [dotted, not_true_eq_false, iff_false]
      intro within
      have length := within.length_le
      simp at length
    next notDotted => simp [notDotted]

/-- Where a text is a match and has no highlight, it has a capital I with a dot, and every
term that occurs in it has the dot.  Where it has a highlight and is no match, every term
that is highlighted has the i of such a letter or a letter that is alike to another letter
of the text. -/
theorem highlights_agree {text : Text} {terms : List Text}
    (nonempty : ∀ term ∈ terms, term ≠ []) :
    (containsAnyTerm text terms = true → highlights text terms = [] →
      'İ' ∈ text ∧ ∀ term ∈ terms, occursIn (lower term) (lower text) = true →
        '\u0307' ∈ lower term) ∧
    (highlights text terms ≠ [] → containsAnyTerm text terms = false →
      ∀ term ∈ terms, occurrences alike (lower term) text ≠ [] →
        ('İ' ∈ text ∧ 'i' ∈ lower term) ∨
          ∃ letter ∈ lower term, ∃ char ∈ lower text, alike letter char = true ∧
            letter ≠ char) := by
  constructor
  · intro contains noHighlight
    have dot : ∀ term ∈ terms, occursIn (lower term) (lower text) = true →
        'İ' ∈ text ∧ '\u0307' ∈ lower term := by
      intro term listed occurs
      by_contra plain
      rw [not_and] at plain
      have found := occurrences_ne_nil_of_occursIn (nonempty term listed) plain occurs
      exact highlights_ne_nil_iff.mpr ⟨term, listed, nonempty term listed, found⟩ noHighlight
    rcases (containsAnyTerm_iff.mp contains).2 with ⟨term, listed, occurs⟩
    constructor
    · exact (dot term listed occurs).1
    · intro other otherListed otherOccurs
      exact (dot other otherListed otherOccurs).2
  · intro _ noMatch term listed found
    by_contra plain
    push Not at plain
    have occurs := occursIn_of_occurrences_ne_nil (nonempty term listed) plain.1 plain.2 found
    have contains := containsAnyTerm_iff.mpr
      ⟨ne_nil_of_occursIn (nonempty term listed) occurs, term, listed, occurs⟩
    rw [noMatch] at contains
    cases contains

/-- A Greek word in capital letters. -/
def capitalWord : Text := "ΟΔΟΣ".toList

/-- The word with a letter behind it, so that its sigma is not final. -/
def longerWord : Text := "ΟΔΟΣΑ".toList

/-- The capital I with a dot is a match of itself that is not highlighted.  A word that ends
with a sigma is highlighted in a longer one that it is no match of. -/
theorem highlights_disagree :
    ((∀ term ∈ [['İ']], term ≠ []) ∧ containsAnyTerm ['İ'] [['İ']] = true ∧
      highlights ['İ'] [['İ']] = [] ∧ '\u0307' ∈ lower ['İ']) ∧
    (∀ term ∈ [capitalWord], term ≠ []) ∧ highlights longerWord [capitalWord] ≠ [] ∧
      containsAnyTerm longerWord [capitalWord] = false ∧
      ∃ letter ∈ lower capitalWord, ∃ char ∈ lower longerWord, alike letter char = true ∧
        letter ≠ char := by
  have dotted : ∀ term ∈ [['İ']], term ≠ [] := by decide
  have capital : ∀ term ∈ [capitalWord], term ≠ [] := by decide
  have isMatch := (highlights_singleton_eq_nil_iff 'İ').1
  have noHighlight := (highlights_singleton_eq_nil_iff 'İ').2.mpr rfl
  have occurs : occursIn (lower ['İ']) (lower ['İ']) = true := by decide +kernel
  have scanned : occurrences alike (lower capitalWord) longerWord ≠ [] := by decide +kernel
  have highlighted : highlights longerWord [capitalWord] ≠ [] :=
    highlights_ne_nil_iff.mpr ⟨capitalWord, by simp, by decide, scanned⟩
  have noMatch : containsAnyTerm longerWord [capitalWord] = false := by decide +kernel
  have noDotted : ¬ ('İ' ∈ longerWord ∧ 'i' ∈ lower capitalWord) := by decide +kernel
  have dot := ((highlights_agree dotted).1 isMatch noHighlight).2 ['İ'] (by simp) occurs
  have letters := (highlights_agree capital).2 highlighted noMatch capitalWord (by simp) scanned
  exact ⟨⟨dotted, isMatch, noHighlight, dot⟩, capital, highlighted, noMatch,
    letters.resolve_left noDotted⟩

end SpecFinder
