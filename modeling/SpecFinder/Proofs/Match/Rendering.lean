import SpecFinder.Console.Column
import SpecFinder.Proofs.Match.Coverage

/-!
# Highlights as they are shown

The highlights of a text are shown in the text without the controls that have no place in a
line of output.  They are not moved along when such a control is dropped: a highlight keeps
its bounds, is cut at the end of what is left and lost behind it.  So a text is shown as it
is, with all of its highlights, exactly when it has no such control, and a highlight shows
what it covers when there is none in front of its end.
-/

namespace SpecFinder.StyledText

open Console

section

variable {text style : Text} {terms : List Text} {length : Nat} {span : Span} {spans : List Span}

/-! ## The shown text -/

theorem withoutControls_eq_self_iff :
    withoutControls text = text ↔ ∀ char ∈ text, isDropped char = false := by
  simp [withoutControls, List.filter_eq_self]

/-- A text is shown as it is up to a place exactly when nothing in front of it is dropped. -/
theorem take_withoutControls_iff {count : Nat} (within : count ≤ text.length) :
    (withoutControls text).take count = text.take count ↔
      ∀ char ∈ text.take count, isDropped char = false := by
  constructor
  · intro same char member
    rw [← same] at member
    have kept := (List.mem_filter.mp (List.mem_of_mem_take member)).2
    simpa using kept
  · intro kept
    have front : withoutControls (text.take count) = text.take count :=
      withoutControls_eq_self_iff.mpr kept
    have whole : withoutControls text = text.take count ++ withoutControls (text.drop count) :=
      calc withoutControls text
          = withoutControls (text.take count ++ text.drop count) := by
            rw [List.take_append_drop]
        _ = withoutControls (text.take count) ++ withoutControls (text.drop count) :=
            List.filter_append _ _
        _ = text.take count ++ withoutControls (text.drop count) := by rw [front]
    have long : (text.take count).length = count := List.length_take_of_le within
    rw [whole, List.take_append_of_le_length (Nat.le_of_eq long.symm), List.take_take,
      Nat.min_self]

/-! ## The shown spans -/

/-- The part of a span that lies in a text of some length. -/
def cutAt (length : Nat) (span : Span) : Span := ⟨span.start, min span.stop length⟩

theorem cutAt_eq_self_iff : cutAt length span = span ↔ span.stop ≤ length := by
  constructor
  · intro same
    have stop : min span.stop length = span.stop := congrArg Span.stop same
    omega
  · intro within
    rw [cutAt, Int.min_eq_left within]

/-- A span is cut at the end of a text, and lost behind it. -/
theorem resolve?_of_solid (nonneg : 0 ≤ span.start) (solid : span.start < span.stop) :
    resolve? length span = if span.start < length then some (cutAt length span) else none := by
  have notBefore : ¬ span.start < 0 := by omega
  have notEndBefore : ¬ span.stop < 0 := by omega
  have notEmpty : ¬ span.stop ≤ span.start := by omega
  simp only [resolve?, notBefore, notEndBefore, notEmpty, if_false, decide_false, Bool.or_false,
    decide_eq_true_eq]
  by_cases begins : span.start < length
  · rw [if_pos begins, if_neg (Int.not_le.mpr begins), cutAt]
  · rw [if_neg begins, if_pos (Int.not_lt.mp begins)]

theorem resolve?_of_within (nonneg : 0 ≤ span.start) (solid : span.start < span.stop)
    (within : span.stop ≤ length) : resolve? length span = some span := by
  have begins : span.start < length := by omega
  rw [resolve?_of_solid nonneg solid, if_pos begins, cutAt_eq_self_iff.mpr within]

theorem filterMap_resolve? (solid : ∀ span ∈ spans, 0 ≤ span.start ∧ span.start < span.stop) :
    spans.filterMap (resolve? length) =
      (spans.filter fun (span : Span) => span.start < length).map (cutAt length) := by
  induction spans with
  | nil => rfl
  | cons first spans ih =>
      rw [List.forall_mem_cons] at solid
      rw [List.filterMap_cons, resolve?_of_solid solid.1.1 solid.1.2, List.filter_cons,
        ih solid.2]
      by_cases begins : first.start < length <;> simp [begins]

/-- All spans are shown as they are exactly when they lie in the text. -/
theorem filterMap_resolve?_eq_self_iff
    (solid : ∀ span ∈ spans, 0 ≤ span.start ∧ span.start < span.stop) :
    spans.filterMap (resolve? length) = spans ↔ ∀ span ∈ spans, span.stop ≤ length := by
  constructor
  · intro same span listed
    rw [← same, filterMap_resolve? solid] at listed
    rcases List.mem_map.mp listed with ⟨whole, _, isCut⟩
    rw [← isCut, cutAt]
    exact Int.min_le_right _ _
  · intro within
    have kept : ∀ span ∈ spans, resolve? length span = some span := by
      intro span listed
      rcases solid span listed with ⟨nonneg, solid⟩
      exact resolve?_of_within nonneg solid (within span listed)
    exact (List.filterMap_congr kept).trans List.filterMap_some

/-! ## Highlights -/

theorem highlight_eq (named : style ≠ []) (spans : List Span) :
    highlight text spans style = ⟨withoutControls text,
      (spans.filterMap (resolve? (withoutControls text).length)).map (·, style)⟩ := by
  have isNamed : style.isEmpty = false := by simpa using named
  simp only [highlight, isNamed, Bool.false_eq_true, if_false, withoutControls]

theorem solid_highlights (text : Text) (terms : List Text) :
    ∀ span ∈ highlights text terms, 0 ≤ span.start ∧ span.start < span.stop := by
  intro span listed
  rcases within_of_mem_highlights listed with ⟨nonneg, solid, _⟩
  exact ⟨nonneg, solid⟩

/-- All highlights of a text are shown as they are when they lie in what is left of it. -/
theorem styled_highlight_iff (named : style ≠ []) (text : Text) (terms : List Text) :
    (highlight text (highlights text terms) style).styled =
        (highlights text terms).map (·, style) ↔
      ∀ span ∈ highlights text terms, span.stop ≤ (withoutControls text).length := by
  have paired : Function.Injective fun (span : Span) => (span, style) :=
    fun _ _ same => (Prod.mk.inj same).1
  rw [highlight_eq named, (List.map_injective_iff.mpr paired).eq_iff,
    filterMap_resolve?_eq_self_iff (solid_highlights text terms)]

theorem highlight_eq_self_iff (named : style ≠ []) (text : Text) (terms : List Text) :
    highlight text (highlights text terms) style =
        ⟨text, (highlights text terms).map (·, style)⟩ ↔
      ∀ char ∈ text, isDropped char = false := by
  rw [← withoutControls_eq_self_iff]
  constructor
  · intro same
    rw [highlight_eq named] at same
    exact congrArg StyledText.plain same
  · intro whole
    have inText : ∀ span ∈ highlights text terms, span.stop ≤ text.length :=
      fun span listed => (within_of_mem_highlights listed).2.2
    rw [highlight_eq named, whole,
      (filterMap_resolve?_eq_self_iff (solid_highlights text terms)).mpr inText]

/-- A highlight with no control in front of its end is shown as it is. -/
theorem mem_styled_highlight (named : style ≠ []) (listed : span ∈ highlights text terms)
    (kept : ∀ char ∈ text.take span.stop.toNat, isDropped char = false) :
    (span, style) ∈ (highlight text (highlights text terms) style).styled := by
  rcases within_of_mem_highlights listed with ⟨nonneg, solid, within⟩
  have inText : span.stop.toNat ≤ text.length := by omega
  have front := (take_withoutControls_iff inText).mpr kept
  have long : span.stop ≤ (withoutControls text).length := by
    have lengths := congrArg List.length front
    rw [List.length_take, List.length_take] at lengths
    omega
  rw [highlight_eq named]
  apply List.mem_map_of_mem
  exact List.mem_filterMap.mpr ⟨span, listed, resolve?_of_within nonneg solid long⟩

/-- The highlights of a text are shown in the text without its controls, with the bounds that
they have in the text itself: they are cut at the end of what is left, and lost behind it.
They are all shown as they are exactly when none of them goes on behind that end, and the
text is shown as it is, too, exactly when it has no control.  The text is shown as it is up
to the end of a highlight exactly when it has no control in front of that end, and then the
highlight is shown as it is. -/
theorem highlight_highlights (text : Text) (terms : List Text) (named : style ≠ []) :
    highlight text (highlights text terms) style =
      ⟨withoutControls text,
        (((highlights text terms).filter fun (span : Span) =>
          span.start < (withoutControls text).length).map
            (cutAt (withoutControls text).length)).map (·, style)⟩ ∧
    ((highlight text (highlights text terms) style).styled =
        (highlights text terms).map (·, style) ↔
      ∀ span ∈ highlights text terms, span.stop ≤ (withoutControls text).length) ∧
    (highlight text (highlights text terms) style =
        ⟨text, (highlights text terms).map (·, style)⟩ ↔
      ∀ char ∈ text, isDropped char = false) ∧
    ∀ span ∈ highlights text terms,
      ((withoutControls text).take span.stop.toNat = text.take span.stop.toNat ↔
        ∀ char ∈ text.take span.stop.toNat, isDropped char = false) ∧
      ((∀ char ∈ text.take span.stop.toNat, isDropped char = false) →
        (span, style) ∈ (highlight text (highlights text terms) style).styled) := by
  refine ⟨?_, styled_highlight_iff named text terms, highlight_eq_self_iff named text terms, ?_⟩
  · rw [highlight_eq named, filterMap_resolve? (solid_highlights text terms)]
  · intro span listed
    constructor
    · apply take_withoutControls_iff
      have within := (within_of_mem_highlights listed).2.2
      omega
    · exact mem_styled_highlight named listed

end

/-- A vertical tabulator in front of a letter. -/
def tabulatedText : Text := ['\u000B', 'a']

/-- The highlight of the letter is lost, because the text that is shown ends where the letter
was. -/
theorem highlight_tabulatedText :
    "match".toList ≠ [] ∧ highlights tabulatedText [['a']] = [⟨1, 2⟩] ∧
      highlight tabulatedText (highlights tabulatedText [['a']]) "match".toList = ⟨['a'], []⟩ ∧
      highlight tabulatedText (highlights tabulatedText [['a']]) "match".toList ≠
        ⟨tabulatedText, [(⟨1, 2⟩, "match".toList)]⟩ := by
  have named : "match".toList ≠ [] := by decide
  have found : highlights tabulatedText [['a']] = [⟨1, 2⟩] := by decide +kernel
  rcases highlight_highlights tabulatedText [['a']] named with ⟨shown, _, whole, _⟩
  refine ⟨named, found, ?_, ?_⟩
  · rw [shown, found]
    decide +kernel
  · intro same
    rw [found] at whole same
    have kept := whole.mp same '\u000B' List.mem_cons_self
    cases kept

end SpecFinder.StyledText
