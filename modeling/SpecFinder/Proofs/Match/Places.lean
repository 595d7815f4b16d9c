import Mathlib.Data.List.Forall2
import SpecFinder.Match.Collect
import SpecFinder.Match.FloatScore
import SpecFinder.Proofs.Query.Evaluation
import SpecFinder.Proofs.Text.LetterCase
import SpecFinder.Proofs.Text.Scanning
import SpecFinder.Search

/-!
# The places of a spec

A spec is shown place by place: its title, its name, each of its tags, its description,
and each row of its content.  Collecting matches walks along these places and makes one
match for each that holds a term, so that nothing is said about the order of matches, or
about the lines they have, that does not already hold of the places.

A query looks for a term in the whole content, a match is made for a row of it.  A term
without a line feed lies within a row, and since a line feed ends words, the lower-case
form of a row is the same alone and in its place.
-/

namespace SpecFinder

open Text

/-! ## Places -/

/-- A part of a spec that is shown as one match. Rows of the content have a number, which
counts from one. -/
structure Place where
  field : Text
  text : Text
  line : Option Int := none
  deriving DecidableEq, Repr

/-- Whether one of some terms occurs at a place, when case is ignored. -/
def Place.holds (terms : List Text) (place : Place) : Bool :=
  terms.any fun term => occursIn (lower term) (lower place.text)

namespace Spec

/-- The place of the row behind `index` others. -/
def rowPlace (row : Text) (index : Nat) : Place :=
  { field := Match.contentField, text := row, line := some (index + 1) }

/-- The places of a spec, in the order in which they are shown. -/
def places (spec : Spec) : List Place :=
  [{ field := "title".toList, text := spec.title.getD [] }]
    ++ [{ field := "name".toList, text := spec.name }]
    ++ spec.tags.map (fun tag => { field := "tags".toList, text := tag })
    ++ [{ field := "description".toList, text := spec.description.getD [] }]
    ++ (rows (spec.content.getD [])).zipIdx.map fun (row, index) => rowPlace row index

end Spec

/-- A match shows a place: it has the field and the line of the place, counts the terms in
it, and holds its text, of which only a part is shown in the content. -/
structure Match.Shows {σ : Type} (terms : List Text) (found : Match σ) (place : Place) :
    Prop where
  field : found.field = place.field
  line : found.line = place.line
  text : place.line = none → found.text = place.text
  occurrences : found.occurrences = termCount place.text terms

/-! ## Terms at a place -/

theorem containsAnyTerm_iff {text : Text} {terms : List Text} :
    containsAnyTerm text terms = true ↔
      text ≠ [] ∧ ∃ term ∈ terms, occursIn (lower term) (lower text) = true := by
  simp [containsAnyTerm]

/-- A text that holds a term with characters has characters itself. -/
theorem ne_nil_of_occursIn {text term : Text} (nonempty : term ≠ [])
    (occurs : occursIn (lower term) (lower text) = true) : text ≠ [] := by
  intro empty
  rw [empty, lower_nil, occursIn_iff_isInfix, List.infix_nil, lower_eq_nil_iff] at occurs
  exact nonempty occurs

theorem Place.holds_iff {place : Place} {terms : List Text} :
    place.holds terms = true ↔ ∃ term ∈ terms, occursIn (lower term) (lower place.text) = true := by
  simp [Place.holds]

section

variable {terms : List Text}

/-- Where no term is empty, a text contains one exactly when its place holds one. -/
theorem containsAnyTerm_eq_holds (nonempty : ∀ term ∈ terms, term ≠ []) (place : Place) :
    containsAnyTerm place.text terms = place.holds terms := by
  rw [Bool.eq_iff_iff, containsAnyTerm_iff, Place.holds_iff]
  constructor
  · intro contains
    exact contains.2
  · intro holds
    rcases holds with ⟨term, listed, occurs⟩
    exact ⟨ne_nil_of_occursIn (nonempty term listed) occurs, term, listed, occurs⟩

theorem le_foldr_add {counts : List Nat} {count : Nat} (listed : count ∈ counts) :
    count ≤ counts.foldr (· + ·) 0 := by
  induction counts with
  | nil => cases listed
  | cons first counts ih =>
      rw [List.foldr_cons]
      cases listed with
      | head => omega
      | tail _ later =>
          have bound := ih later
          omega

/-- The terms are counted at least once where one of them occurs. -/
theorem termCount_pos (nonempty : ∀ term ∈ terms, term ≠ []) {place : Place}
    (holds : place.holds terms = true) : 0 < termCount place.text terms := by
  rcases Place.holds_iff.mp holds with ⟨term, listed, occurs⟩
  have counted : countOccurrences (lower term) (lower place.text) ∈
      (searchedTerms terms).map fun term => countOccurrences term (lower place.text) := by
    apply List.mem_map_of_mem
    simp only [searchedTerms, List.mem_map, List.mem_filter]
    exact ⟨term, ⟨listed, by simpa using nonempty term listed⟩, rfl⟩
  have positive : 0 < countOccurrences (lower term) (lower place.text) := by
    apply (countOccurrences_pos_iff _ _).mpr
    · exact occursIn_iff_isInfix.mp occurs
    · simpa using nonempty term listed
  exact Nat.lt_of_lt_of_le positive (le_foldr_add counted)

/-- A term without a line feed occurs in a text exactly when it occurs in a row of it. -/
theorem occursIn_lower_iff_row {term : Text} (oneLine : '\n' ∉ term) (text : Text) :
    occursIn (lower term) (lower text) = true ↔
      ∃ row ∈ rows text, occursIn (lower term) (lower row) = true := by
  have uncut : ∀ char ∈ lower term, (char == '\n') = false := by
    apply uncut_lower
    · intro char isFeed
      rw [beq_iff_eq.mp isFeed]
      decide
    · intro char member
      have differs : char ≠ '\n' := fun same => oneLine (same ▸ member)
      simpa using differs
  have split := infix_iff_infix_piece uncut (lower text)
  rw [← rows, rows_lower] at split
  simp only [occursIn_iff_isInfix, split, List.mem_map, exists_exists_and_eq_and]

/-- A term without a line feed occurs at a place of a spec exactly when it occurs in one of
its texts. -/
theorem exists_place_iff {term : Text} (oneLine : '\n' ∉ term) (spec : Spec) :
    (∃ place ∈ spec.places, occursIn (lower term) (lower place.text) = true) ↔
      ∃ text ∈ spec.texts, occursIn (lower term) (lower text) = true := by
  have inRows : (∃ entry ∈ (rows (spec.content.getD [])).zipIdx,
      occursIn (lower term) (lower entry.1) = true) ↔
        occursIn (lower term) (lower (spec.content.getD [])) = true := by
    rw [occursIn_lower_iff_row oneLine]
    constructor
    · intro found
      rcases found with ⟨entry, listed, occurs⟩
      exact ⟨entry.1, List.fst_mem_of_mem_zipIdx listed, occurs⟩
    · intro found
      rcases found with ⟨row, listed, occurs⟩
      rcases List.getElem?_of_mem listed with ⟨index, isThere⟩
      exact ⟨(row, index), List.mk_mem_zipIdx_iff_getElem?.mpr isThere, occurs⟩
  simp [Spec.places, Spec.texts, Spec.rowPlace, or_and_right, exists_or, ← inRows]

end

/-! ## Matches of places -/

namespace Match

variable {σ : Type} {terms : List Text}

/-- The matches of some places, one for each that holds a term. -/
def ShowAll (terms : List Text) (found : List (Match σ)) (places : List Place) : Prop :=
  List.Forall₂ (Shows terms) found (places.filter (·.holds terms))

namespace ShowAll

variable {found : List (Match σ)} {places : List Place}

theorem append {left right : List (Match σ)} {front back : List Place}
    (first : ShowAll terms left front) (second : ShowAll terms right back) :
    ShowAll terms (left ++ right) (front ++ back) := by
  rw [ShowAll, List.filter_append]
  exact List.rel_append first second

/-- Every match shows a place that holds a term. -/
theorem exists_place (shown : ShowAll terms found places) {each : Match σ}
    (member : each ∈ found) :
    ∃ place ∈ places, place.holds terms = true ∧ Shows terms each place := by
  rw [ShowAll, List.forall₂_iff_get] at shown
  rcases List.getElem_of_mem member with ⟨index, inBounds, rfl⟩
  have there : index < (places.filter (·.holds terms)).length := by
    rw [← shown.1]
    exact inBounds
  have listed := List.mem_filter.mp (List.getElem_mem there)
  exact ⟨_, listed.1, listed.2, shown.2 index inBounds there⟩

theorem ne_nil_iff (shown : ShowAll terms found places) :
    found ≠ [] ↔ ∃ place ∈ places, place.holds terms = true := by
  have length := shown.length_eq
  rw [← List.length_pos_iff, length, List.length_pos_iff, ne_eq, List.filter_eq_nil_iff]
  simp

/-- The lines of the matches are those of the places that hold a term. -/
theorem lines_eq (shown : ShowAll terms found places) :
    found.filterMap (·.line) = (places.filter (·.holds terms)).filterMap (·.line) := by
  rw [ShowAll] at shown
  generalize places.filter (·.holds terms) = holding at shown ⊢
  induction shown with
  | nil => rfl
  | cons shows _ ih => rw [List.filterMap_cons, List.filterMap_cons, shows.line, ih]

end ShowAll

section

variable [Scoring σ]

theorem shows_ofField (field text : Text) (total position : Nat) :
    Shows terms (ofField field text terms total position : Match σ) { field, text } where
  field := rfl
  line := rfl
  text := fun _ => rfl
  occurrences := rfl

theorem showAll_ofField? (nonempty : ∀ term ∈ terms, term ≠ []) (field text : Text)
    (total position : Nat) :
    ShowAll terms (ofField? field text terms total position : Option (Match σ)).toList
      [{ field, text }] := by
  have same := containsAnyTerm_eq_holds nonempty { field, text }
  simp only at same
  rw [ShowAll, ofField?, same]
  cases holds : Place.holds terms { field, text } with
  | false => simp [holds]
  | true => simpa [holds] using shows_ofField field text total position

/-- The tags from `start` on. -/
theorem showAll_tags (nonempty : ∀ term ∈ terms, term ≠ []) (tags : List Text)
    (total start : Nat) :
    ShowAll terms
      ((tags.zipIdx start).filterMap fun (tag, index) =>
        (ofField? "tags".toList tag terms total index : Option (Match σ)))
      (tags.map fun tag => { field := "tags".toList, text := tag }) := by
  induction tags generalizing start with
  | nil => exact .nil
  | cons tag tags ih =>
      have first : ShowAll terms
          (ofField? "tags".toList tag terms total start : Option (Match σ)).toList
          [{ field := "tags".toList, text := tag }] :=
        showAll_ofField? nonempty _ tag total start
      rw [List.zipIdx_cons, List.filterMap_eq_flatMap_toList, List.flatMap_cons,
        ← List.filterMap_eq_flatMap_toList, List.map_cons]
      exact first.append (ih (start + 1))

theorem shows_ofLine (content row : Text) (index total : Nat) (reach : Int) :
    Shows terms (ofLine content row index total terms reach : Match σ)
      (Spec.rowPlace row index) where
  field := rfl
  line := rfl
  text := by
    intro noLine
    cases noLine
  occurrences := rfl

theorem showAll_ofContent (nonempty : ∀ term ∈ terms, term ≠ []) (content : Text)
    (reach : Int) :
    ShowAll terms (ofContent content terms reach : List (Match σ))
      ((rows content).zipIdx.map fun (row, index) => Spec.rowPlace row index) := by
  have same : (fun entry : Text × Nat => containsAnyTerm entry.1 terms) =
      (fun place : Place => place.holds terms) ∘ fun entry => Spec.rowPlace entry.1 entry.2 := by
    funext entry
    exact containsAnyTerm_eq_holds nonempty (Spec.rowPlace entry.1 entry.2)
  rw [ShowAll, ofContent, List.filter_map, ← same, List.forall₂_map_left_iff,
    List.forall₂_map_right_iff, List.forall₂_same]
  intro entry _
  apply shows_ofLine

/-- Collecting matches makes one for each place of a spec that holds a term. -/
theorem showAll_collect (nonempty : ∀ term ∈ terms, term ≠ []) (spec : Spec) (reach : Int) :
    ShowAll terms (collect spec terms reach : List (Match σ)) spec.places := by
  apply ShowAll.append
  · apply ShowAll.append
    · apply ShowAll.append
      · apply ShowAll.append
        · exact showAll_ofField? nonempty _ _ 1 0
        · exact showAll_ofField? nonempty _ _ 1 0
      · exact showAll_tags nonempty spec.tags spec.tags.length 0
    · exact showAll_ofField? nonempty _ _ 1 0
  · exact showAll_ofContent nonempty _ reach

end

end Match

/-! ## All matches of a spec -/

theorem Spec.lines_places (spec : Spec) :
    spec.places.filterMap (·.line) =
      (List.range' 0 (rows (spec.content.getD [])).length).map
        fun (index : Nat) => (index : Int) + 1 := by
  have fromContent : spec.places.filterMap (·.line) =
      (rows (spec.content.getD [])).zipIdx.map fun entry => (entry.2 : Int) + 1 := by
    simp [Spec.places, Spec.rowPlace, List.filterMap_append]
  rw [fromContent, ← List.zipIdx_map_snd 0, List.map_map]
  rfl

/-- A place with a line is a row of the content. -/
theorem Spec.row_of_line {spec : Spec} {place : Place} {number : Int}
    (listed : place ∈ spec.places) (numbered : place.line = some number) :
    place.field = Match.contentField ∧ ∃ index : Nat, number = index + 1 ∧
      (rows (spec.content.getD []))[index]? = some place.text := by
  simp only [Spec.places, List.mem_append, List.mem_singleton, List.mem_map] at listed
  rcases listed with (((rfl | rfl) | ⟨tag, _, rfl⟩) | rfl) | ⟨entry, member, rfl⟩
  · cases numbered
  · cases numbered
  · cases numbered
  · cases numbered
  · cases numbered
    exact ⟨rfl, entry.2, rfl, List.mk_mem_zipIdx_iff_getElem?.mp member⟩

namespace Match

section

variable {σ : Type} [Scoring σ]

/-- A spec has matches exactly when one of the terms is true of it.  They show the places
that hold a term, each once and in order; each counts at least one occurrence; and those in
the content have the ascending numbers of their rows. -/
theorem collect_shows_places (spec : Spec) (reach : Int) {terms : List Text}
    (nonempty : ∀ term ∈ terms, term ≠ []) (oneLine : ∀ term ∈ terms, '\n' ∉ term) :
    ((collect spec terms reach : List (Match σ)) ≠ [] ↔
      ∃ term ∈ terms, (Query.Expr.operand (.term term)).evaluate spec.satisfies = true) ∧
    List.Forall₂ (Shows terms) (collect spec terms reach : List (Match σ))
      (spec.places.filter (·.holds terms)) ∧
    (∀ found ∈ (collect spec terms reach : List (Match σ)), 1 ≤ found.occurrences) ∧
    ((collect spec terms reach : List (Match σ)).filterMap (·.line)).Pairwise (· < ·) ∧
    ∀ found ∈ (collect spec terms reach : List (Match σ)), ∀ number,
      found.line = some number → found.field = contentField ∧
        ∃ (index : Nat) (row : Text), number = index + 1 ∧
          (rows (spec.content.getD []))[index]? = some row ∧
          ∃ term ∈ terms, occursIn (lower term) (lower row) = true := by
  have shown : ShowAll terms (collect spec terms reach : List (Match σ)) spec.places :=
    showAll_collect nonempty spec reach
  refine ⟨?_, shown, ?_, ?_, ?_⟩
  · have evaluates (term : Text) :
        (Query.Expr.operand (.term term)).evaluate spec.satisfies = true ↔
          ∃ text ∈ spec.texts, occursIn (lower term) (lower text) = true := by
      rw [Query.Expr.evaluate_eq_meaning]
      simp [Query.Expr.meaning, Spec.satisfies]
    rw [shown.ne_nil_iff]
    constructor
    · intro found
      rcases found with ⟨place, listed, holds⟩
      rcases Place.holds_iff.mp holds with ⟨term, isTerm, occurs⟩
      refine ⟨term, isTerm, (evaluates term).mpr ?_⟩
      exact (exists_place_iff (oneLine term isTerm) spec).mp ⟨place, listed, occurs⟩
    · intro found
      rcases found with ⟨term, isTerm, holds⟩
      have inText := (evaluates term).mp holds
      rcases (exists_place_iff (oneLine term isTerm) spec).mpr inText with ⟨place, listed, occurs⟩
      exact ⟨place, listed, Place.holds_iff.mpr ⟨term, isTerm, occurs⟩⟩
  · intro found member
    rcases shown.exists_place member with ⟨place, _, holds, shows⟩
    have counted := termCount_pos nonempty holds
    rw [shows.occurrences]
    omega
  · rw [shown.lines_eq]
    have ascending : (spec.places.filterMap (·.line)).Pairwise (· < ·) := by
      rw [spec.lines_places, List.pairwise_map]
      apply List.Pairwise.imp _ List.pairwise_lt_range'
      intro first second before
      omega
    exact ascending.sublist (List.filter_sublist.filterMap _)
  · intro found member number numbered
    rcases shown.exists_place member with ⟨place, listed, holds, shows⟩
    rw [shows.line] at numbered
    rcases Spec.row_of_line listed numbered with ⟨isContent, index, counts, isRow⟩
    refine ⟨shows.field.trans isContent, index, place.text, counts, isRow, ?_⟩
    exact Place.holds_iff.mp holds

end

/-- A spec with a capital sigma at the end of a row, and a letter behind the line feed. -/
def sigmaSpec : Spec :=
  { path := "a".toList, name := "b".toList, content := some "odd\nΟΔΟΣ\nΑ".toList }

/-- The sigma ends a word in the whole content and in its row, so the term is true of the
spec and its row is the one match. -/
theorem collect_sigmaSpec :
    ((∀ term ∈ [['ς']], term ≠ []) ∧ ∀ term ∈ [['ς']], '\n' ∉ term) ∧
      (collect sigmaSpec [['ς']] 80 : List (Match Float)) ≠ [] ∧
      List.Forall₂ (Shows [['ς']]) (collect sigmaSpec [['ς']] 80 : List (Match Float))
        [Spec.rowPlace "ΟΔΟΣ".toList 1] := by
  have nonempty : ∀ term ∈ [['ς']], term ≠ [] := by decide
  have oneLine : ∀ term ∈ [['ς']], '\n' ∉ term := by decide
  have isTrue : (Query.Expr.operand (.term ['ς'])).evaluate sigmaSpec.satisfies = true := by
    rw [Query.Expr.evaluate_eq_meaning]
    decide +kernel
  have holding : sigmaSpec.places.filter (·.holds [['ς']]) = [Spec.rowPlace "ΟΔΟΣ".toList 1] := by
    decide +kernel
  have shown := @collect_shows_places Float _ sigmaSpec 80 [['ς']] nonempty oneLine
  rw [holding] at shown
  exact ⟨⟨nonempty, oneLine⟩, shown.1.mpr ⟨['ς'], by simp, isTrue⟩, shown.2.1⟩

end Match

end SpecFinder
