import SpecFinder.Proofs.Match.Places
import SpecFinder.Proofs.Match.Sorting

/-!
# Where words are found

A word occurs in a spec as a whole exactly when it occurs in one of its texts, and thus at
one of its places.  A spec that holds a word has therefore a match, and selecting matches
keeps at least one of them.
-/

namespace SpecFinder

open Text

/-! ## Words in a spec -/

/-- A word occurs in the joined texts of a spec exactly when it occurs in one of them. -/
theorem occursIn_searchText_iff {word : Text} (isWord : IsWord word) (spec : Spec) :
    occursIn (lower word) spec.searchText = true ↔
      ∃ text ∈ spec.texts, occursIn (lower word) (lower text) = true := by
  have absent : ' ' ∉ lower word := isWord.lower.not_mem (by decide)
  rw [Spec.searchText, occursIn_iff_isInfix, lower_join,
    infix_join_iff isWord.lower.nonempty absent]
  simp [occursIn_iff_isInfix]

/-- A spec contains words when there are any and each occurs in one of its texts. -/
theorem containsAll_iff {terms : List Text} (areWords : ∀ term ∈ terms, IsWord term)
    (spec : Spec) : spec.containsAll terms = true ↔
      terms ≠ [] ∧ ∀ term ∈ terms, ∃ text ∈ spec.texts,
        occursIn (lower term) (lower text) = true := by
  rw [Spec.containsAll, Bool.and_eq_true, List.all_eq_true]
  apply and_congr
  · simp
  · apply forall_congr'
    intro term
    apply imp_congr_right
    intro listed
    exact occursIn_searchText_iff (areWords term listed) spec

namespace Match

variable {σ : Type}

section

variable [Scoring σ]

/-! ## Collecting -/

/-- A spec with a word in one of its texts has a match. -/
theorem collect_ne_nil {spec : Spec} {text : Text} {terms : List Text} (reach : Int)
    (areWords : ∀ term ∈ terms, IsWord term) (isText : text ∈ spec.texts) {word : Text}
    (listed : word ∈ terms) (occurs : occursIn (lower word) (lower text) = true) :
    (collect spec terms reach : List (Match σ)) ≠ [] := by
  have shown : ShowAll terms (collect spec terms reach : List (Match σ)) spec.places :=
    showAll_collect (fun term isTerm => (areWords term isTerm).nonempty) spec reach
  have oneLine : '\n' ∉ word := (areWords word listed).not_mem (by decide)
  rcases (exists_place_iff oneLine spec).mpr ⟨text, isText, occurs⟩ with ⟨place, isPlace, within⟩
  exact shown.ne_nil_iff.mpr ⟨place, isPlace, Place.holds_iff.mpr ⟨word, listed, within⟩⟩

end

/-! ## Selecting -/

theorem sortRuns_ne_nil {precedes : Match σ → Match σ → Bool} {found : List (Match σ)}
    (nonempty : found ≠ []) : sortRuns precedes found ≠ [] := by
  intro sorted
  have same := (sortRuns_keepsRuns.perm precedes found).length_eq
  rw [sorted] at same
  exact nonempty (List.length_eq_zero_iff.mp same.symm)

/-- The best match is kept, since no match was kept before it. -/
theorem keepApart_ne_nil {found : List (Match σ)} (nonempty : found ≠ []) (distance : Int) :
    keepApart distance [] found ≠ [] := by
  cases found with
  | nil => exact (nonempty rfl).elim
  | cons first rest => by_cases inContent : first.isContent = true <;> simp [keepApart, inContent]

variable [LT σ] [∀ left right : σ, Decidable (left < right)]

theorem deduplicate_ne_nil [BEq σ] {found : List (Match σ)} (nonempty : found ≠ [])
    (distance : Int) : deduplicate found distance ≠ [] := by
  rw [deduplicate]
  apply sortRuns_ne_nil
  apply keepApart_ne_nil
  exact sortRuns_ne_nil nonempty

/-- A limit that leaves room for one match keeps one. -/
theorem limitTo_ne_nil {found : List (Match σ)} {limit : Int} (nonempty : found ≠ [])
    (room : 1 ≤ limit) : limitTo found limit ≠ [] := by
  rw [limitTo]
  split
  · exact nonempty
  · rw [List.partition_eq_filter_filter]
    intro nothing
    rcases List.append_eq_nil_iff.mp nothing with ⟨noOthers, noContent⟩
    have others : found.filter (not ∘ fun each => each.isContent) = [] := by
      by_contra some
      exact sortRuns_ne_nil some noOthers
    have content : found.filter (·.isContent) ≠ [] := by
      intro empty
      cases found with
      | nil => exact nonempty rfl
      | cons first rest =>
          have notContent := List.filter_eq_nil_iff.mp empty first (by simp)
          have isContent := List.filter_eq_nil_iff.mp others first (by simp)
          simp [notContent] at isContent
    rw [others, List.take_eq_nil_iff] at noContent
    rcases noContent with noRoom | noneSorted
    · simp only [List.length_nil] at noRoom
      omega
    · exact sortRuns_ne_nil content noneSorted

end Match

end SpecFinder
