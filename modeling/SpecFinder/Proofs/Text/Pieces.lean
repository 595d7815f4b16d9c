import SpecFinder.Text.Basic
import Mathlib.Data.List.TakeWhile

/-!
# Pieces of a text

How occurrences, words and rows behave when a text is cut at a separator.  A part
without separators cannot lie across a cut, so it occurs in a text exactly when it
occurs in one of its pieces, and in texts joined by a separator exactly when it
occurs in one of them.

Every text is a piece without separators, possibly with a separator and another text
behind it; `cutInduction` is the induction along these cuts.
-/

namespace SpecFinder.Text

/-! ## Occurrences -/

theorem occursIn_iff_isInfix {part text : Text} : occursIn part text = true ↔ part <:+: text := by
  induction text with
  | nil => simp [occursIn]
  | cons char rest ih => simp [occursIn, List.infix_cons_iff, ih]

/-- A part without the mark lies on one side of it. -/
theorem infix_append_cons_iff {part front back : Text} {mark : Char} (absent : mark ∉ part) :
    part <:+: front ++ mark :: back ↔ part <:+: front ∨ part <:+: back := by
  constructor
  · rintro ⟨before, after, whole⟩
    rcases List.append_eq_append_iff.mp whole with ⟨gap, atFront, _⟩ | ⟨gap, across, atBack⟩
    · exact .inl ⟨before, gap, atFront.symm⟩
    · cases gap with
      | nil => exact .inl ⟨before, [], by simpa using across⟩
      | cons head gap =>
          rw [List.cons_append, List.cons.injEq] at atBack
          rcases atBack with ⟨rfl, rfl⟩
          rcases List.append_eq_append_iff.mp across with ⟨inner, _, crossing⟩ | ⟨inner, _, behind⟩
          · exact (absent (by simp [crossing])).elim
          · cases inner with
            | nil =>
                rw [List.nil_append] at behind
                exact (absent (behind ▸ List.mem_cons_self)).elim
            | cons first inner =>
                rw [List.cons_append, List.cons.injEq] at behind
                exact .inr ⟨inner, after, by simp [behind.2]⟩
  · rintro (inFront | inBack)
    · exact inFront.trans (List.prefix_append front (mark :: back)).isInfix
    · have behind : back <:+ front ++ mark :: back :=
        (List.suffix_cons mark back).trans (List.suffix_append front (mark :: back))
      exact inBack.trans behind.isInfix

/-- A part without the mark occurs in texts that are joined by it exactly when it occurs
in one of them. -/
theorem infix_join_iff {part : Text} {mark : Char} (nonempty : part ≠ [])
    (absent : mark ∉ part) (texts : List Text) :
    part <:+: join [mark] texts ↔ ∃ text ∈ texts, part <:+: text := by
  induction texts with
  | nil => simp [join, nonempty]
  | cons text texts ih =>
      cases texts with
      | nil => simp [join]
      | cons next texts =>
          have cut : join [mark] (text :: next :: texts) =
              text ++ mark :: join [mark] (next :: texts) := by
            simp [join]
          rw [cut, infix_append_cons_iff absent, ih]
          simp

/-! ## Cutting -/

section

variable {separates : Char → Bool}

theorem splitWhere_ne_nil (text : Text) : splitWhere separates text ≠ [] := by
  cases text with
  | nil => simp [splitWhere]
  | cons char rest =>
      cases found : splitWhere separates rest with
      | nil => simp [splitWhere, found]
      | cons piece pieces =>
          by_cases cut : separates char = true <;> simp [splitWhere, found, cut]

theorem splitWhere_append_cons {mark : Char} (cut : separates mark = true)
    (front back : Text) :
    splitWhere separates (front ++ mark :: back) =
      splitWhere separates front ++ splitWhere separates back := by
  induction front with
  | nil =>
      cases found : splitWhere separates back with
      | nil => exact (splitWhere_ne_nil back found).elim
      | cons piece pieces => simp [splitWhere, found, cut]
  | cons char front ih =>
      cases found : splitWhere separates front with
      | nil => exact (splitWhere_ne_nil front found).elim
      | cons piece pieces =>
          rw [found] at ih
          rw [List.cons_append, splitWhere, ih]
          by_cases here : separates char = true <;> simp [splitWhere, found, here]

theorem splitWhere_of_none {text : Text} (uncut : ∀ char ∈ text, separates char = false) :
    splitWhere separates text = [text] := by
  induction text with
  | nil => rfl
  | cons char rest ih =>
      have restUncut : ∀ other ∈ rest, separates other = false := by
        intro other member
        exact uncut other (List.mem_cons_of_mem char member)
      simp [splitWhere, ih restUncut, uncut char (by simp)]

/-- Induction along the cuts of a text. -/
theorem cutInduction {motive : Text → Prop} (separates : Char → Bool)
    (last : ∀ piece, (∀ char ∈ piece, separates char = false) → motive piece)
    (cut : ∀ piece mark back, (∀ char ∈ piece, separates char = false) →
      separates mark = true → motive back → motive (piece ++ mark :: back))
    (text : Text) : motive text := by
  have uncut : ∀ char ∈ text.takeWhile (!separates ·), separates char = false := by
    intro char member
    simpa using List.mem_takeWhile_imp member
  have whole := List.takeWhile_append_dropWhile (p := (!separates ·)) (l := text)
  cases found : text.dropWhile (!separates ·) with
  | nil =>
      rw [found, List.append_nil] at whole
      rw [← whole]
      exact last _ uncut
  | cons mark back =>
      have cuts := List.head?_dropWhile_not (!separates ·) text
      rw [found] at whole cuts
      have shorter : back.length < text.length := by
        rw [← whole]
        simp
        omega
      rw [← whole]
      exact cut _ mark back uncut (by simpa using cuts) (cutInduction separates last cut back)
termination_by text.length

/-- No piece holds a separator. -/
theorem uncut_of_mem_splitWhere {text piece : Text} (member : piece ∈ splitWhere separates text) :
    ∀ char ∈ piece, separates char = false := by
  induction text using cutInduction separates with
  | last front whole =>
      rw [splitWhere_of_none whole, List.mem_singleton] at member
      rw [member]
      exact whole
  | cut front mark back whole cuts ih =>
      rw [splitWhere_append_cons cuts, splitWhere_of_none whole, List.mem_append] at member
      rcases member with isFirst | isBehind
      · rw [List.mem_singleton.mp isFirst]
        exact whole
      · exact ih isBehind

/-- A part without separators occurs in a text exactly when it occurs in a piece. -/
theorem infix_iff_infix_piece {part : Text} (uncut : ∀ char ∈ part, separates char = false)
    (text : Text) : part <:+: text ↔ ∃ piece ∈ splitWhere separates text, part <:+: piece := by
  induction text using cutInduction separates with
  | last piece whole => simp [splitWhere_of_none whole]
  | cut piece mark back whole cuts ih =>
      have absent : mark ∉ part := by
        intro member
        simp [uncut mark member] at cuts
      rw [infix_append_cons_iff absent, splitWhere_append_cons cuts, splitWhere_of_none whole, ih]
      simp

end

/-! ## The first mark -/

section

variable {first : Char} {text front : Text}

theorem splitFirst_eq_none (absent : first ∉ text) (mark : Text) :
    splitFirst (first :: mark) text = none := by
  induction text with
  | nil => rfl
  | cons char rest ih =>
      rw [List.mem_cons, not_or] at absent
      simp [splitFirst, absent.1, ih absent.2]

/-- Behind a text that does not hold its first character, a mark is found. -/
theorem splitFirst_append (absent : first ∉ front) (mark back : Text) :
    splitFirst (first :: mark) (front ++ first :: mark ++ back) = some (front, back) := by
  induction front with
  | nil => simp [splitFirst]
  | cons char front ih =>
      rw [List.mem_cons, not_or] at absent
      have behind := ih absent.2
      simp only [List.append_assoc, List.cons_append] at behind ⊢
      simp [splitFirst, absent.1, behind]

end

/-! ## Words -/

/-- A text of one word: it has characters, none of them white space. -/
structure IsWord (text : Text) : Prop where
  nonempty : text ≠ []
  solid : ∀ char ∈ text, isBlank char = false

theorem IsWord.not_mem {word : Text} {mark : Char} (isWord : IsWord word)
    (blank : isBlank mark = true) : mark ∉ word := by
  intro member
  simp [isWord.solid mark member] at blank

theorem words_append_cons {mark : Char} (blank : isBlank mark = true) (front back : Text) :
    words (front ++ mark :: back) = words front ++ words back := by
  simp only [words]
  rw [splitWhere_append_cons blank, List.filter_append]

@[simp] theorem words_nil : words [] = [] := rfl

theorem IsWord.words_eq {text : Text} (isWord : IsWord text) : words text = [text] := by
  rw [words, splitWhere_of_none isWord.solid]
  simp [isWord.nonempty]

/-- A word that is followed by white space, or by nothing, is the first of the words. -/
theorem IsWord.words_append {word : Text} (isWord : IsWord word) {rest : Text}
    (ends : ∀ mark ∈ rest.head?, isBlank mark = true) :
    words (word ++ rest) = word :: words rest := by
  cases rest with
  | nil => simp [isWord.words_eq]
  | cons mark back =>
      have blank := ends mark (by simp)
      have skipped : words (mark :: back) = words back := words_append_cons blank [] back
      rw [words_append_cons blank, isWord.words_eq, skipped]
      rfl

theorem isWord_of_mem_words {text word : Text} (member : word ∈ words text) : IsWord word := by
  induction text using cutInduction isBlank with
  | last piece solid =>
      cases piece with
      | nil => simp at member
      | cons char piece =>
          have isWord : IsWord (char :: piece) := ⟨by simp, solid⟩
          rw [isWord.words_eq, List.mem_singleton] at member
          exact member ▸ isWord
  | cut piece mark back solid blank ih =>
      rw [words_append_cons blank, List.mem_append] at member
      rcases member with inPiece | inBack
      · cases piece with
        | nil => simp at inPiece
        | cons char piece =>
            have isWord : IsWord (char :: piece) := ⟨by simp, solid⟩
            rw [isWord.words_eq, List.mem_singleton] at inPiece
            exact inPiece ▸ isWord
      · exact ih inBack

/-- Every character that is not blank belongs to a word. -/
theorem exists_word_of_mem {text : Text} {char : Char} (member : char ∈ text)
    (solid : isBlank char = false) : ∃ word ∈ words text, char ∈ word := by
  induction text using cutInduction isBlank with
  | last piece pieceSolid =>
      have isWord : IsWord piece := ⟨List.ne_nil_of_mem member, pieceSolid⟩
      exact ⟨piece, by simp [isWord.words_eq], member⟩
  | cut piece mark back pieceSolid blank ih =>
      rw [words_append_cons blank]
      rcases List.mem_append.mp member with inPiece | behind
      · have isWord : IsWord piece := ⟨List.ne_nil_of_mem inPiece, pieceSolid⟩
        exact ⟨piece, by simp [isWord.words_eq], inPiece⟩
      · rcases List.mem_cons.mp behind with rfl | inBack
        · simp [solid] at blank
        · rcases ih inBack with ⟨word, listed, holds⟩
          exact ⟨word, List.mem_append_right _ listed, holds⟩

end SpecFinder.Text
