import Mathlib.Data.List.Infix
import SpecFinder.Text.WordCharacter
import SpecFinder.Proofs.Text.LetterCase

/-!
# Runs of characters

The runs of a text are cut at the characters that they do not keep.  Where white space is
not kept, no run goes beyond a word: the runs of a text are those of its words, one word
after the other.
-/

namespace SpecFinder.Text

section

variable {keeps : Char → Bool}

theorem runs_append_cons {mark : Char} (cut : keeps mark = false) (front back : Text) :
    runs keeps (front ++ mark :: back) = runs keeps front ++ runs keeps back := by
  simp only [runs]
  rw [splitWhere_append_cons (by simp [cut]), List.filter_append]

@[simp] theorem runs_nil : runs keeps [] = [] := rfl

/-- A text of which every character is kept is the only run of it. -/
theorem runs_of_forall_keeps {text : Text} (nonempty : text ≠ [])
    (kept : ∀ char ∈ text, keeps char = true) : runs keeps text = [text] := by
  have uncut : ∀ char ∈ text, (!keeps char) = false := by
    intro char member
    simp [kept char member]
  rw [runs, splitWhere_of_none uncut]
  simp [nonempty]

/-- A run is a part of the text. -/
theorem infix_of_mem_runs {run text : Text} (member : run ∈ runs keeps text) : run <:+: text := by
  induction text using cutInduction (!keeps ·) with
  | last piece uncut =>
      rw [runs, splitWhere_of_none uncut] at member
      rw [List.mem_singleton.mp (List.mem_of_mem_filter member)]
  | cut piece mark back uncut cut ih =>
      rw [runs_append_cons (by simpa using cut), List.mem_append] at member
      rcases member with inPiece | inBack
      · rw [runs, splitWhere_of_none uncut] at inPiece
        rw [List.mem_singleton.mp (List.mem_of_mem_filter inPiece)]
        exact (List.prefix_append piece (mark :: back)).isInfix
      · have behind : back <:+ piece ++ mark :: back :=
          (List.suffix_cons mark back).trans (List.suffix_append piece (mark :: back))
        exact (ih inBack).trans behind.isInfix

/-- The runs of a text are those of its words. -/
theorem runs_eq_flatMap_words (dropsBlank : ∀ char, isBlank char = true → keeps char = false)
    (text : Text) : runs keeps text = (words text).flatMap (runs keeps) := by
  have single {piece : Text} (solid : ∀ char ∈ piece, isBlank char = false) :
      runs keeps piece = (words piece).flatMap (runs keeps) := by
    cases piece with
    | nil => rfl
    | cons char piece =>
        have isWord : IsWord (char :: piece) := ⟨by simp, solid⟩
        rw [isWord.words_eq, List.flatMap_singleton]
  induction text using cutInduction isBlank with
  | last piece solid => exact single solid
  | cut piece mark back solid blank ih =>
      rw [runs_append_cons (dropsBlank mark blank), words_append_cons blank, List.flatMap_append,
        single solid, ih]

end

/-! ## Searched words -/

/-- The words of joined texts are the words of each text. -/
theorem words_join (texts : List Text) : words (join [' '] texts) = texts.flatMap words := by
  induction texts with
  | nil => rfl
  | cons text texts ih =>
      cases texts with
      | nil => simp [join]
      | cons next texts =>
          have blank : isBlank ' ' = true := by decide
          calc words (join [' '] (text :: next :: texts))
              = words (text ++ ' ' :: join [' '] (next :: texts)) := by simp [join]
            _ = words text ++ words (join [' '] (next :: texts)) := words_append_cons blank _ _
            _ = (text :: next :: texts).flatMap words := by rw [ih, ← List.flatMap_cons]

/-- Whether a character belongs to a searched word: a hyphen does. -/
def isWordPart (char : Char) : Bool := isWordCharacter char || char == '-'

/-- The code points of the characters that belong to a searched word. -/
def wordPartRanges : List (Nat × Nat) :=
  [(0x2D, 0x2D), (0x30, 0x39), (0x41, 0x5A), (0x5F, 0x5F), (0x61, 0x7A)] ++ wordRanges

theorem inRanges_of_isWordPart {char : Char} (part : isWordPart char = true) :
    inRanges wordPartRanges char.toNat = true := by
  simp only [isWordPart, isWordCharacter, Bool.or_eq_true, beq_iff_eq] at part
  rw [inRanges_eq_true]
  rcases part with character | rfl
  · split at character
    · simp only [Bool.or_eq_true, beq_iff_eq] at character
      rcases character with alphanumeric | rfl
      · delta Char.isAlphanum Char.isAlpha Char.isUpper Char.isLower Char.isDigit at alphanumeric
        simp only [Bool.or_eq_true, Bool.and_eq_true, decide_eq_true_eq,
          UInt32.le_iff_toNat_le] at alphanumeric
        rcases alphanumeric with (upper | lower) | digit
        · exact ⟨(0x41, 0x5A), by simp [wordPartRanges], upper⟩
        · exact ⟨(0x61, 0x7A), by simp [wordPartRanges], lower⟩
        · exact ⟨(0x30, 0x39), by simp [wordPartRanges], digit⟩
      · exact ⟨(0x5F, 0x5F), by simp [wordPartRanges], by decide⟩
    · rcases inRanges_eq_true.mp character with ⟨range, listed, within⟩
      exact ⟨range, List.mem_append_right _ listed, within⟩
  · exact ⟨(0x2D, 0x2D), by simp [wordPartRanges], by decide⟩

/-- White space belongs to no searched word. -/
theorem isWordPart_of_isBlank {char : Char} (blank : isBlank char = true) :
    isWordPart char = false := by
  have apart : areApart blankRanges wordPartRanges = true := by decide +kernel
  have outside : inRanges wordPartRanges char.toNat = false := inRanges_of_areApart apart blank
  rw [← Bool.not_eq_true]
  intro part
  rw [inRanges_of_isWordPart part] at outside
  cases outside

end SpecFinder.Text
