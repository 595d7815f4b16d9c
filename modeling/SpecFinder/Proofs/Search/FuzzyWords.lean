import SpecFinder.Proofs.Match.Presence
import SpecFinder.Proofs.Search.Scores
import SpecFinder.Proofs.Text.Runs

/-!
# Words near to a fuzzy term

A fuzzy term is true of a spec when it occurs in one of the texts or is near to one of their
words, and words end at white space alone.  What is scored and shown for it are words that
end at any other punctuation than the hyphen, too.  The two agree when the words that are
near to the term have no punctuation in them.  Of a word that has, only its runs are compared
when it is shown, and none of them may be near to the term.
-/

namespace SpecFinder

open Text

namespace Spec

/-- The words of a spec are those of its texts in lower case. -/
theorem words_searchText (spec : Spec) :
    words spec.searchText = spec.texts.flatMap fun text => words (lower text) := by
  rw [searchText, lower_join, words_join, List.flatMap_map]

/-- The searched words of a spec are the runs in its words. -/
theorem searchWords_eq (spec : Spec) :
    spec.searchWords = (words spec.searchText).flatMap (runs isWordPart) :=
  runs_eq_flatMap_words (fun _ blank => isWordPart_of_isBlank blank) spec.searchText

theorem mem_words_searchText {spec : Spec} {word : Text} :
    word ∈ words spec.searchText ↔ ∃ text ∈ spec.texts, word ∈ words (lower text) := by
  rw [words_searchText, List.mem_flatMap]

end Spec

section

variable {value : Text}

theorem nearlyOccurs_iff {term text : Text} {limit : Int} :
    nearlyOccurs term text limit = true ↔
      occursIn (lower term) (lower text) = true ∨
        ∃ word ∈ words (lower text), withinDistance limit (lower term) word = true := by
  rw [nearlyOccurs, Bool.or_eq_true, List.any_eq_true]

/-- A fuzzy term is true of a spec when it occurs there or is near to a word. -/
theorem satisfies_fuzzy_iff (isWord : IsWord value) (spec : Spec) :
    spec.satisfies (.fuzzy value) = true ↔
      (∃ text ∈ spec.texts, occursIn (lower value) (lower text) = true) ∨
        ∃ text ∈ spec.texts, ∃ word ∈ words (lower text),
          withinDistance (allowedEdits value) (lower value) word = true := by
  have inText (text : Text) : (!text.isEmpty && nearlyOccurs value text (allowedEdits value)) =
      nearlyOccurs value text (allowedEdits value) := by
    cases text with
    | nil =>
        have absent : occursIn (lower value) [] = false := by
          simp [occursIn, isWord.lower.nonempty]
        simp [nearlyOccurs, absent]
    | cons char rest => rfl
  simp only [Spec.satisfies, inText, List.any_eq_true, nearlyOccurs_iff, and_or_left, exists_or]

/-- Every word that a fuzzy term stands for occurs in the spec. -/
theorem occursIn_of_mem_fuzzyWords {spec : Spec} {fuzzyTerms : List Text} {term : Text}
    (member : term ∈ spec.fuzzyWords fuzzyTerms) : occursIn term spec.searchText = true := by
  rw [Spec.fuzzyWords, List.mem_flatMap] at member
  rcases member with ⟨fuzzyTerm, _, stands⟩
  by_cases occurs : occursIn fuzzyTerm spec.searchText = true
  · rw [if_pos occurs, List.mem_singleton] at stands
    rw [stands]
    exact occurs
  · rw [if_neg occurs, List.mem_eraseDups, closeWords, List.mem_mergeSort] at stands
    have isRun : term ∈ spec.searchWords := List.mem_of_mem_filter stands
    exact occursIn_iff_isInfix.mpr (infix_of_mem_runs isRun)

/-- A fuzzy term stands for some words of a spec when it occurs there or is near to a run. -/
theorem fuzzyWords_ne_nil_iff (isWord : IsWord value) (spec : Spec) :
    spec.fuzzyWords [lower value] ≠ [] ↔
      (∃ text ∈ spec.texts, occursIn (lower value) (lower text) = true) ∨
        ∃ text ∈ spec.texts, ∃ word ∈ words (lower text), ∃ run ∈ runs isWordPart word,
          withinDistance (allowedEdits (lower value)) (lower value) run = true := by
  have near : spec.fuzzyWords [lower value] ≠ [] ↔ spec.holdsNear (lower value) = true := by
    rw [Ne, Spec.fuzzyWords_eq_nil_iff]
    simp
  rw [near, Spec.holdsNear, Bool.or_eq_true, occursIn_searchText_iff isWord, List.any_eq_true,
    Spec.searchWords_eq]
  apply or_congr Iff.rfl
  constructor
  · rintro ⟨run, isSearched, isNear⟩
    rcases List.mem_flatMap.mp isSearched with ⟨word, inSpec, inWord⟩
    rcases Spec.mem_words_searchText.mp inSpec with ⟨text, isText, inText⟩
    exact ⟨text, isText, word, inText, run, inWord, isNear⟩
  · rintro ⟨text, isText, word, inText, run, inWord, isNear⟩
    have inSpec := Spec.mem_words_searchText.mpr ⟨text, isText, inText⟩
    exact ⟨run, List.mem_flatMap.mpr ⟨word, inSpec, inWord⟩, isNear⟩

/-- As many edits are allowed for a term in lower case as for the term, or more. -/
theorem allowedEdits_le_lower (value : Text) : allowedEdits value ≤ allowedEdits (lower value) := by
  have longer := length_le_lower value
  simp only [allowedEdits]
  split <;> split <;> omega

/-- The words that a fuzzy term stands for occur in the spec.  There are some exactly when
the term occurs there itself or is near to a run in one of the words, and so whenever the
term is true of the spec and the words that are near to it have no punctuation in them. -/
theorem fuzzyWords_of_isWord (isWord : IsWord value) (spec : Spec) :
    (∀ term ∈ spec.fuzzyWords [lower value], occursIn term spec.searchText = true) ∧
    (spec.fuzzyWords [lower value] ≠ [] ↔
      (∃ text ∈ spec.texts, occursIn (lower value) (lower text) = true) ∨
        ∃ text ∈ spec.texts, ∃ word ∈ words (lower text), ∃ run ∈ runs isWordPart word,
          withinDistance (allowedEdits (lower value)) (lower value) run = true) ∧
    ((Query.Expr.operand (.fuzzy value)).evaluate spec.satisfies = true →
      (∀ text ∈ spec.texts, ∀ word ∈ words (lower text),
        withinDistance (allowedEdits value) (lower value) word = true →
          ∀ char ∈ word, isWordPart char = true) →
      spec.fuzzyWords [lower value] ≠ []) := by
  have nonempty := fuzzyWords_ne_nil_iff isWord spec
  refine ⟨fun term member => occursIn_of_mem_fuzzyWords member, nonempty, ?_⟩
  intro isTrue unpunctuated
  rw [Query.Expr.evaluate_eq_meaning] at isTrue
  rw [nonempty]
  rcases (satisfies_fuzzy_iff isWord spec).mp isTrue with
    occurs | ⟨text, isText, word, inText, near⟩
  · exact .inl occurs
  · have whole : runs isWordPart word = [word] :=
      runs_of_forall_keeps (isWord_of_mem_words inText).nonempty
        (unpunctuated text isText word inText near)
    have nearer : withinDistance (allowedEdits (lower value)) (lower value) word = true := by
      simp only [withinDistance, decide_eq_true_eq] at near ⊢
      have more := allowedEdits_le_lower value
      omega
    exact .inr ⟨text, isText, word, inText, word, by simp [whole], nearer⟩

/-- A spec with a full stop in its name. -/
def dottedSpec : Spec := { path := "a".toList, name := "dash.bord".toList }

/-- The name without its full stop. -/
def misspelled : Text := ['d', 'a', 's', 'h', 'b', 'o', 'r', 'd']

/-- The name is one edit away from the term, but each side of the full stop is further away:
the term is true of the spec, and it stands for none of its words. -/
theorem fuzzyWords_dottedSpec :
    IsWord misspelled ∧
      (Query.Expr.operand (.fuzzy misspelled)).evaluate dottedSpec.satisfies = true ∧
      dottedSpec.fuzzyWords [lower misspelled] = [] := by
  have listed : misspelled ∈ words misspelled := by decide +kernel
  have isWord : IsWord misspelled := isWord_of_mem_words listed
  have isTrue : (Query.Expr.operand (.fuzzy misspelled)).evaluate dottedSpec.satisfies =
      true := by
    rw [Query.Expr.evaluate_eq_meaning]
    decide +kernel
  have noRun : ¬ ((∃ text ∈ dottedSpec.texts,
        occursIn (lower misspelled) (lower text) = true) ∨
      ∃ text ∈ dottedSpec.texts, ∃ word ∈ words (lower text), ∃ run ∈ runs isWordPart word,
        withinDistance (allowedEdits (lower misspelled)) (lower misspelled) run =
          true) := by
    decide +kernel
  have stands := (fuzzyWords_of_isWord isWord dottedSpec).2.1
  refine ⟨isWord, isTrue, ?_⟩
  by_contra found
  exact noRun (stands.mp found)

end

end SpecFinder
