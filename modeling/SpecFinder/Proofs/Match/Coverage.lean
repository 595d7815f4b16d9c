import Mathlib.Data.List.Basic
import SpecFinder.Match.Highlight
import SpecFinder.Proofs.Text.LetterCase
import SpecFinder.Proofs.Text.Scanning

/-!
# What highlights cover

The highlights of a text are the spans of all its terms, joined where they overlap or touch.
Joined spans are in canonical form: there is a gap between any two of them, so that they are
determined by the places that they cover.  Merging changes no place that is covered, and so
the highlights only depend on the places that the scans for the terms cover.
-/

namespace SpecFinder

namespace Span

/-- Whether a place lies in a span. -/
def Covers (place : Int) (span : Span) : Prop := span.start ≤ place ∧ place < span.stop

/-- Whether a place lies in any of some spans. -/
def Covered (place : Int) (spans : List Span) : Prop := ∃ span ∈ spans, span.Covers place

/-- No span is empty. -/
def Solid (spans : List Span) : Prop := ∀ span ∈ spans, span.start < span.stop

/-- No span is empty, and there is a gap between any two. -/
structure AreCanonical (spans : List Span) : Prop where
  solid : Solid spans
  apart : spans.Pairwise fun left right => left.stop < right.start

theorem covers_start {span : Span} (solid : span.start < span.stop) :
    span.Covers span.start := ⟨Int.le_refl _, solid⟩

theorem not_covered_nil {place : Int} : ¬Covered place [] := by
  rintro ⟨_, listed, _⟩
  cases listed

theorem covered_cons {place : Int} {span : Span} {spans : List Span} :
    Covered place (span :: spans) ↔ span.Covers place ∨ Covered place spans :=
  List.exists_mem_cons_iff _ _ _

/-- Where the first span starts is covered. -/
theorem covered_start {first : Span} {firsts : List Span} (solid : Solid (first :: firsts)) :
    Covered first.start (first :: firsts) :=
  covered_cons.mpr (.inl (covers_start (solid first List.mem_cons_self)))

/-! ## Canonical spans -/

namespace AreCanonical

variable {first second : Span} {firsts seconds : List Span}

theorem tail (canonical : AreCanonical (first :: firsts)) : AreCanonical firsts where
  solid := (List.forall_mem_cons.mp canonical.solid).2
  apart := (List.pairwise_cons.mp canonical.apart).2

/-- What the later spans cover lies behind the first one, with a gap in between. -/
theorem stop_lt (canonical : AreCanonical (first :: firsts)) {place : Int}
    (covered : Covered place firsts) : first.stop < place := by
  rcases covered with ⟨span, listed, covers⟩
  exact Int.lt_of_lt_of_le ((List.pairwise_cons.mp canonical.apart).1 span listed) covers.1

/-- Nothing in front of the first span is covered. -/
theorem start_le (canonical : AreCanonical (first :: firsts)) {place : Int}
    (covered : Covered place (first :: firsts)) : first.start ≤ place := by
  rcases covered_cons.mp covered with here | later
  · exact here.1
  · have solid := canonical.solid first List.mem_cons_self
    have behind := canonical.stop_lt later
    omega

/-- The later spans cover what is covered behind the first one. -/
theorem covered_tail (canonical : AreCanonical (first :: firsts)) (place : Int) :
    Covered place firsts ↔ Covered place (first :: firsts) ∧ first.stop < place := by
  constructor
  · intro covered
    exact ⟨covered_cons.mpr (.inr covered), canonical.stop_lt covered⟩
  · rintro ⟨covered, behind⟩
    exact (covered_cons.mp covered).resolve_left fun covers => Int.lt_asymm behind covers.2

/-- The first span goes as far as the places that are covered without a gap. -/
theorem stop_le (canonical : AreCanonical (second :: seconds)) (same : second.start = first.start)
    (within : ∀ place, first.Covers place → Covered place (second :: seconds)) :
    first.stop ≤ second.stop := by
  by_contra shorter
  have solid := canonical.solid second List.mem_cons_self
  have reached : first.Covers second.stop := ⟨by omega, by omega⟩
  rcases covered_cons.mp (within second.stop reached) with here | later
  · exact Int.lt_irrefl _ here.2
  · exact Int.lt_irrefl _ (canonical.stop_lt later)

/-- Spans that cover the same have the same first span. -/
theorem head_eq (canonical : AreCanonical (first :: firsts))
    (otherCanonical : AreCanonical (second :: seconds))
    (same : ∀ place, Covered place (first :: firsts) ↔ Covered place (second :: seconds)) :
    first = second := by
  have sameStart : first.start = second.start := by
    refine Int.le_antisymm (canonical.start_le ?_) (otherCanonical.start_le ?_)
    · exact (same second.start).mpr (covered_start otherCanonical.solid)
    · exact (same first.start).mp (covered_start canonical.solid)
  have sameStop : first.stop = second.stop := by
    apply Int.le_antisymm
    · apply otherCanonical.stop_le sameStart.symm
      intro place covers
      exact (same place).mp (covered_cons.mpr (.inl covers))
    · apply canonical.stop_le sameStart
      intro place covers
      exact (same place).mpr (covered_cons.mpr (.inl covers))
  rcases first with ⟨start, stop⟩
  rcases second with ⟨otherStart, otherStop⟩
  obtain rfl : start = otherStart := sameStart
  obtain rfl : stop = otherStop := sameStop
  rfl

/-- Spans in canonical form are determined by what they cover. -/
theorem eq_of_covered (canonical : AreCanonical firsts) (otherCanonical : AreCanonical seconds)
    (same : ∀ place, Covered place firsts ↔ Covered place seconds) : firsts = seconds := by
  induction firsts generalizing seconds with
  | nil =>
      cases seconds with
      | nil => rfl
      | cons second seconds =>
          exact (not_covered_nil ((same _).mpr (covered_start otherCanonical.solid))).elim
  | cons first firsts ih =>
      cases seconds with
      | nil => exact (not_covered_nil ((same _).mp (covered_start canonical.solid))).elim
      | cons second seconds =>
          obtain rfl := canonical.head_eq otherCanonical same
          have rest := ih canonical.tail otherCanonical.tail fun place => by
            rw [canonical.covered_tail, otherCanonical.covered_tail, same]
          rw [rest]

/-- A stretch of places that are all covered lies in one span. -/
theorem exists_span (canonical : AreCanonical firsts) {start stop : Int} (solid : start < stop)
    (covered : ∀ place, start ≤ place → place < stop → Covered place firsts) :
    ∃ span ∈ firsts, span.start ≤ start ∧ stop ≤ span.stop := by
  induction firsts with
  | nil => exact (not_covered_nil (covered start (Int.le_refl _) solid)).elim
  | cons first firsts ih =>
      rcases covered_cons.mp (covered start (Int.le_refl _) solid) with here | later
      · refine ⟨first, List.mem_cons_self, here.1, ?_⟩
        -- Where the first span stops there is a gap.
        by_contra shorter
        rcases covered_cons.mp (covered first.stop (Int.le_of_lt here.2) (by omega)) with
          inFirst | behind
        · exact Int.lt_irrefl _ inFirst.2
        · exact Int.lt_irrefl _ (canonical.stop_lt behind)
      · have behind := canonical.stop_lt later
        rcases ih canonical.tail fun place after before =>
          (canonical.covered_tail place).mpr ⟨covered place after before, by omega⟩ with
          ⟨span, listed, bounds⟩
        exact ⟨span, List.mem_cons_of_mem first listed, bounds⟩

end AreCanonical

/-! ## Merging -/

/-- Spans whose starts do not go back. -/
def Ascending (spans : List Span) : Prop :=
  spans.Pairwise fun left right => left.start ≤ right.start

/-- Spans that have been merged are in canonical form and cover what they covered before. -/
structure Merges (spans merged : List Span) : Prop where
  canonical : AreCanonical merged
  covered : ∀ place, Covered place merged ↔ Covered place spans

/-- A span and the next one make one span when they overlap or touch. -/
theorem covers_joined {current next : Span} (ordered : current.start ≤ next.start)
    (touches : next.start ≤ current.stop) {place : Int} :
    Covers place ⟨current.start, max current.stop next.stop⟩ ↔
      current.Covers place ∨ next.Covers place := by
  simp only [Covers]
  omega

namespace Merges

variable {current next : Span} {spans merged : List Span}

theorem nil : Merges [] [] where
  canonical := ⟨by simp [Solid], .nil⟩
  covered := fun _ => Iff.rfl

theorem single (solid : current.start < current.stop) : Merges [current] [current] where
  canonical := ⟨by simpa [Solid] using solid, List.pairwise_singleton _ _⟩
  covered := fun _ => Iff.rfl

theorem joined (ordered : current.start ≤ next.start) (touches : next.start ≤ current.stop)
    (merges : Merges (⟨current.start, max current.stop next.stop⟩ :: spans) merged) :
    Merges (current :: next :: spans) merged where
  canonical := merges.canonical
  covered := by
    intro place
    rw [merges.covered, covered_cons, covered_cons, covered_cons, covers_joined ordered touches,
      or_assoc]

theorem behindGap (merges : Merges (next :: spans) merged) (ascending : Ascending (next :: spans))
    (solid : current.start < current.stop) (gap : current.stop < next.start) :
    Merges (current :: next :: spans) (current :: merged) where
  canonical := by
    refine ⟨List.forall_mem_cons.mpr ⟨solid, merges.canonical.solid⟩,
      .cons ?_ merges.canonical.apart⟩
    intro span listed
    have covers := covers_start (merges.canonical.solid span listed)
    rcases (merges.covered span.start).mp ⟨span, listed, covers⟩ with ⟨origin, isOne, reaches⟩
    have ordered : next.start ≤ origin.start := by
      rcases List.mem_cons.mp isOne with rfl | later
      · exact Int.le_refl _
      · exact (List.pairwise_cons.mp ascending).1 origin later
    have within := reaches.1
    omega
  covered := by
    intro place
    rw [covered_cons, merges.covered, ← covered_cons]

end Merges

theorem merges_mergeInto {current : Span} {spans : List Span} (solid : Solid (current :: spans))
    (ascending : Ascending (current :: spans)) :
    Merges (current :: spans) (mergeInto current spans) := by
  induction spans generalizing current with
  | nil => exact .single (solid current List.mem_cons_self)
  | cons next spans ih =>
      rcases List.forall_mem_cons.mp solid with ⟨here, further⟩
      rcases List.pairwise_cons.mp ascending with ⟨first, others⟩
      rw [mergeInto]
      split
      next touches =>
        have ordered := first next List.mem_cons_self
        rcases List.forall_mem_cons.mp further with ⟨_, behind⟩
        refine .joined ordered touches (ih ?_ ?_)
        · exact List.forall_mem_cons.mpr ⟨Int.lt_of_lt_of_le here (Int.le_max_left _ _), behind⟩
        · refine .cons ?_ (List.pairwise_cons.mp others).2
          exact fun span listed => first span (List.mem_cons_of_mem next listed)
      next gap => exact (ih further others).behindGap others here (Int.not_le.mp gap)

theorem merges_merge {spans : List Span} (solid : Solid spans) (ascending : Ascending spans) :
    Merges spans (merge spans) := by
  cases spans with
  | nil => exact .nil
  | cons first rest => exact merges_mergeInto solid ascending

example : merge [⟨0, 2⟩, ⟨1, 3⟩, ⟨3, 5⟩, ⟨6, 7⟩] = [⟨0, 5⟩, ⟨6, 7⟩] := by decide

theorem precedes_iff {left right : Span} : left.precedes right = true ↔
    left.start < right.start ∨ left.start = right.start ∧ left.stop ≤ right.stop := by
  simp [precedes]

/-- Sorted spans are ascending. -/
theorem ascending_mergeSort (spans : List Span) : Ascending (spans.mergeSort precedes) := by
  have trans (first second third : Span) :
      first.precedes second → second.precedes third → first.precedes third := by
    simp only [precedes_iff]
    omega
  have total (left right : Span) : (left.precedes right || right.precedes left) = true := by
    simp only [Bool.or_eq_true, precedes_iff]
    omega
  refine (List.pairwise_mergeSort trans total spans).imp ?_
  intro left right ordered
  have order := precedes_iff.mp ordered
  omega

end Span

/-! ## Highlights -/

open Text

/-- Whether a place of a text lies in one of the occurrences of a term that a scan from left to
right lists, without regard to case. -/
def ScanCovers (text term : Text) (place : Int) : Prop :=
  ∃ starts, IsScan alike (lower term) text 0 starts ∧
    ∃ start ∈ starts, Span.Covers place ⟨start, start + (lower term).length⟩

section

variable {text term : Text} {terms : List Text}

/-- There is only one scan, the one that lists the occurrences. -/
theorem scanCovers_iff (nonempty : term ≠ []) {place : Int} : ScanCovers text term place ↔
    ∃ start ∈ occurrences alike (lower term) text,
      Span.Covers place ⟨start, start + (lower term).length⟩ := by
  have scan : IsScan alike (lower term) text 0 (occurrences alike (lower term) text) :=
    isScan_occurrences (by simpa using nonempty) text
  constructor
  · rintro ⟨starts, isScan, covered⟩
    rwa [isScan.unique scan] at covered
  · intro covered
    exact ⟨_, scan, covered⟩

/-- What a scan covers is in the text. -/
theorem ScanCovers.within (nonempty : term ≠ []) {place : Int}
    (covered : ScanCovers text term place) : 0 ≤ place ∧ place < text.length := by
  rcases covered with ⟨starts, scan, start, listed, covers⟩
  have fits := scan.place_add_length_le (by simpa using nonempty) listed
  simp only [Span.Covers] at covers
  omega

/-- The spans of all terms, before they are merged. -/
theorem mem_flatMap_termSpans {span : Span} :
    span ∈ (searchedTerms terms).flatMap (termSpans text) ↔
      ∃ term ∈ terms, term ≠ [] ∧ ∃ start ∈ occurrences alike (lower term) text,
        span = ⟨start, start + (lower term).length⟩ := by
  simp only [searchedTerms, termSpans, List.mem_flatMap, List.mem_map, List.mem_filter]
  constructor
  · rintro ⟨_, ⟨term, ⟨isTerm, nonempty⟩, rfl⟩, start, found, rfl⟩
    exact ⟨term, isTerm, by simpa using nonempty, start, found, rfl⟩
  · rintro ⟨term, isTerm, nonempty, start, found, rfl⟩
    exact ⟨lower term, ⟨term, ⟨isTerm, by simpa using nonempty⟩, rfl⟩, start, found, rfl⟩

end

/-- The highlights of a text are in canonical form and cover what the scans for the terms
cover. -/
theorem areCanonical_highlights (text : Text) (terms : List Text) :
    Span.AreCanonical (highlights text terms) ∧
      ∀ place, Span.Covered place (highlights text terms) ↔
        ∃ term ∈ terms, term ≠ [] ∧ ScanCovers text term place := by
  have solid : Span.Solid
      (((searchedTerms terms).flatMap (termSpans text)).mergeSort Span.precedes) := by
    intro span listed
    rcases mem_flatMap_termSpans.mp (List.mem_mergeSort.mp listed) with
      ⟨term, _, nonempty, start, _, rfl⟩
    have positive : 0 < (lower term).length := List.length_pos_iff.mpr (by simpa using nonempty)
    change (start : Int) < start + (lower term).length
    omega
  have merges := Span.merges_merge solid (Span.ascending_mergeSort _)
  refine ⟨merges.canonical, fun place => (merges.covered place).trans ?_⟩
  constructor
  · rintro ⟨span, listed, covers⟩
    rcases mem_flatMap_termSpans.mp (List.mem_mergeSort.mp listed) with
      ⟨term, isTerm, nonempty, start, found, rfl⟩
    exact ⟨term, isTerm, nonempty, (scanCovers_iff nonempty).mpr ⟨start, found, covers⟩⟩
  · rintro ⟨term, isTerm, nonempty, covered⟩
    rcases (scanCovers_iff nonempty).mp covered with ⟨start, found, covers⟩
    exact ⟨_, List.mem_mergeSort.mpr (mem_flatMap_termSpans.mpr
      ⟨term, isTerm, nonempty, start, found, rfl⟩), covers⟩

/-- A highlight is a span of the text that is not empty. -/
theorem within_of_mem_highlights {text : Text} {terms : List Text} {span : Span}
    (listed : span ∈ highlights text terms) :
    0 ≤ span.start ∧ span.start < span.stop ∧ span.stop ≤ text.length := by
  rcases areCanonical_highlights text terms with ⟨canonical, covered⟩
  have inside (place : Int) (covers : span.Covers place) : 0 ≤ place ∧ place < text.length := by
    rcases (covered place).mp ⟨span, listed, covers⟩ with ⟨term, _, nonempty, scanned⟩
    exact scanned.within nonempty
  have solid := canonical.solid span listed
  have first := inside span.start (Span.covers_start solid)
  have last := inside (span.stop - 1) ⟨by omega, by omega⟩
  omega

/-- The highlights of a text are spans of it that are not empty, from left to right with a gap
between any two.  They cover exactly what the scans for the terms cover, where empty terms are
passed over.  Neither the order of the terms nor how often each is given makes a
difference. -/
theorem highlights_canonical (text : Text) (terms : List Text) :
    (∀ span ∈ highlights text terms,
      0 ≤ span.start ∧ span.start < span.stop ∧ span.stop ≤ text.length) ∧
    (highlights text terms).Pairwise (fun left right => left.stop < right.start) ∧
    (∀ place, Span.Covered place (highlights text terms) ↔
      ∃ term ∈ terms, term ≠ [] ∧ ScanCovers text term place) ∧
    ∀ others : List Text, (∀ term, term ≠ [] → (term ∈ terms ↔ term ∈ others)) →
      highlights text terms = highlights text others := by
  rcases areCanonical_highlights text terms with ⟨canonical, covered⟩
  have inside {place : Int} (covers : Span.Covered place (highlights text terms)) :
      0 ≤ place ∧ place < text.length := by
    rcases (covered place).mp covers with ⟨term, _, nonempty, scanned⟩
    exact scanned.within nonempty
  refine ⟨?_, canonical.apart, covered, ?_⟩
  · intro span listed
    have solid := canonical.solid span listed
    have first := inside ⟨span, listed, Span.covers_start solid⟩
    have last : span.Covers (span.stop - 1) := ⟨by omega, by omega⟩
    have reaches := inside ⟨span, listed, last⟩
    omega
  · intro others same
    rcases areCanonical_highlights text others with ⟨otherCanonical, otherCovered⟩
    refine canonical.eq_of_covered otherCanonical fun place => ?_
    rw [covered, otherCovered]
    constructor
    · rintro ⟨term, isTerm, nonempty, scanned⟩
      exact ⟨term, (same term nonempty).mp isTerm, nonempty, scanned⟩
    · rintro ⟨term, isTerm, nonempty, scanned⟩
      exact ⟨term, (same term nonempty).mpr isTerm, nonempty, scanned⟩

end SpecFinder
