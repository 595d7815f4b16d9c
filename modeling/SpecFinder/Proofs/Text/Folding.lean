import SpecFinder.Text.Folding
import SpecFinder.Proofs.Text.LetterCase

/-!
# Lower case and likeness

There are two ways to ignore case.  Two texts may be lowered and compared, or their
characters may be compared one by one for being alike.  They nearly agree: a lower-case
form consists of characters that are alike to those of the text, but for the capital I
with a dot above, which becomes two characters, and characters that are alike may have
different lower-case forms, as the two forms of the small sigma have.

An occurrence of the one kind is one of the other kind as long as neither of these
two things comes into play.
-/

namespace SpecFinder.Text

/-! ## Characters -/

/-- What the lower-case form of a character stands for, wherever the character stands. -/
def spread (char : Char) : Text :=
  if char = 'İ' then ['i', '\u0307'] else [fold char]

@[simp] theorem fold_smallLetter (char : Char) : fold (smallLetter char) = fold char := by
  simp only [fold, smallLetter_smallLetter]

/-- What the characters stand for whose lower-case form has a rule of its own, and those
that they become. -/
theorem fold_ruledLetters :
    (fold 'i' = 'i' ∧ fold 'İ' = 'i' ∧ fold '\u0307' = '\u0307') ∧
      fold 'ς' = fold 'Σ' ∧ fold 'σ' = fold 'Σ' := by
  decide +kernel

/-- The capital I with a dot is alike to the small i. -/
theorem fold_i : fold 'i' = 'i' ∧ fold 'İ' = 'i' :=
  ⟨fold_ruledLetters.1.1, fold_ruledLetters.1.2.1⟩

/-- The forms of the sigma are alike. -/
theorem fold_sigma : fold 'ς' = fold 'Σ' ∧ fold 'σ' = fold 'Σ' := fold_ruledLetters.2

/-- A small letter that stands for a mark is the mark, unless the mark stands for others. -/
theorem eq_of_fold_eq {char mark : Char} (small : smallLetter char = char)
    (alone : (letterVariants.all fun group => group.head? != some mark) = true)
    (same : fold char = mark) : char = mark := by
  simp only [fold, small] at same
  cases found : letterVariants.find? (·.contains char) with
  | none =>
      rw [found] at same
      exact same
  | some group =>
      have notFirst := List.all_eq_true.mp alone group (List.mem_of_find?_eq_some found)
      cases group with
      | nil =>
          rw [found] at same
          exact same
      | cons representative others =>
          rw [found] at same
          simp [same] at notFirst

theorem map_fold_lowerAt (before : Text) (char : Char) (after : Text) :
    (lowerAt before char after).map fold = spread char := by
  have dotted : ['i', '\u0307'].map fold = ['i', '\u0307'] := by
    simp [fold_ruledLetters.1]
  simp only [lowerAt, spread, beq_iff_eq]
  split
  next isSigma =>
    subst isSigma
    split
    · simp [fold_sigma]
    · simp [fold_sigma]
  next =>
    split
    · exact dotted
    · simp

/-! ## Texts -/

theorem map_fold_lower (text : Text) : (lower text).map fold = text.flatMap spread := by
  rw [lower]
  generalize ([] : Text) = before
  induction text generalizing before with
  | nil => rfl
  | cons char rest ih =>
      rw [lowerFrom, List.map_append, map_fold_lowerAt, ih, List.flatMap_cons]

/-- A text becomes longer by its capital letters I with a dot. -/
theorem length_lower (text : Text) : (lower text).length = text.length + text.count 'İ' := by
  rw [← List.length_map fold, map_fold_lower]
  induction text with
  | nil => rfl
  | cons char rest ih =>
      rw [List.flatMap_cons, List.length_append, ih, spread, List.length_cons, List.count_cons]
      split
      next dotted =>
        simp [dotted]
        omega
      next notDotted =>
        simp [notDotted]
        omega

theorem length_lower_of_notMem {text : Text} (plain : 'İ' ∉ text) :
    (lower text).length = text.length := by
  rw [length_lower, List.count_eq_zero.mpr plain, Nat.add_zero]

theorem flatMap_spread_of_notMem {text : Text} (plain : 'İ' ∉ text) :
    text.flatMap spread = text.map fold := by
  induction text with
  | nil => rfl
  | cons char rest ih =>
      rw [List.mem_cons, not_or] at plain
      have notDotted : char ≠ 'İ' := fun same => plain.1 same.symm
      rw [List.flatMap_cons, List.map_cons, ih plain.2]
      simp [spread, notDotted]

/-- Induction along the capital letters I with a dot in a text. -/
theorem dottedInduction {motive : Text → Prop}
    (last : ∀ piece, 'İ' ∉ piece → motive piece)
    (cut : ∀ piece back, 'İ' ∉ piece → motive back → motive (piece ++ 'İ' :: back))
    (text : Text) : motive text := by
  have absent {piece : Text} (uncut : ∀ char ∈ piece, (char == 'İ') = false) : 'İ' ∉ piece := by
    intro member
    have differs := uncut 'İ' member
    simp at differs
  induction text using cutInduction (· == 'İ') with
  | last piece uncut => exact last piece (absent uncut)
  | cut piece mark back uncut cuts ih =>
      rw [beq_iff_eq] at cuts
      rw [cuts]
      exact cut piece back (absent uncut) ih

/-- What a text stands for, in front of a capital I with a dot and behind it. -/
theorem infix_map_fold_of_infix_spread {part : Text} (noDot : '\u0307' ∉ part) (text : Text)
    (occurs : part <:+: text.flatMap spread) : part <:+: text.map fold := by
  induction text using dottedInduction with
  | last piece plain => rwa [flatMap_spread_of_notMem plain] at occurs
  | cut piece back plain ih =>
      have cut : (piece ++ 'İ' :: back).flatMap spread =
          (piece.map fold ++ ['i']) ++ '\u0307' :: back.flatMap spread := by
        simp [flatMap_spread_of_notMem plain, spread]
      have whole : (piece ++ 'İ' :: back).map fold =
          (piece.map fold ++ ['i']) ++ back.map fold := by
        simp [fold_i]
      -- A part that has no dot cannot lie across it.
      rw [cut, infix_append_cons_iff noDot] at occurs
      rw [whole]
      rcases occurs with inFront | inBack
      · exact inFront.trans (List.prefix_append _ _).isInfix
      · exact (ih inBack).trans (List.suffix_append _ _).isInfix

theorem infix_spread_of_infix_map_fold {part : Text} (noI : 'i' ∉ part) (text : Text)
    (occurs : part <:+: text.map fold) : part <:+: text.flatMap spread := by
  induction text using dottedInduction with
  | last piece plain => rwa [flatMap_spread_of_notMem plain]
  | cut piece back plain ih =>
      have cut : (piece ++ 'İ' :: back).flatMap spread =
          piece.map fold ++ (['i', '\u0307'] ++ back.flatMap spread) := by
        simp [flatMap_spread_of_notMem plain, spread]
      have whole : (piece ++ 'İ' :: back).map fold = piece.map fold ++ 'i' :: back.map fold := by
        simp [fold_i]
      -- The text itself has no dot to be cut at, only the i in front of it.
      rw [whole, infix_append_cons_iff noI] at occurs
      rw [cut]
      rcases occurs with inFront | inBack
      · exact inFront.trans (List.prefix_append _ _).isInfix
      · have behind : back.flatMap spread <:+
            piece.map fold ++ (['i', '\u0307'] ++ back.flatMap spread) :=
          (List.suffix_append _ _).trans (List.suffix_append _ _)
        exact (ih inBack).trans behind.isInfix

theorem i_mem_lower {text : Text} (dotted : 'İ' ∈ text) : 'i' ∈ lower text := by
  rw [lower]
  generalize ([] : Text) = before
  induction text generalizing before with
  | nil => cases dotted
  | cons char rest ih =>
      rw [lowerFrom, List.mem_append]
      rcases List.mem_cons.mp dotted with isFirst | later
      · left
        rw [← isFirst]
        simp [lowerAt]
      · right
        exact ih later (char :: before)

/-- Texts with the same keys are the same when the key tells their characters apart. -/
theorem eq_of_map_eq {key : Char → Char} {left right : Text}
    (apart : ∀ first ∈ left, ∀ second ∈ right, key first = key second → first = second)
    (same : left.map key = right.map key) : left = right := by
  induction left generalizing right with
  | nil => simpa using same.symm
  | cons first left ih =>
      cases right with
      | nil => simp at same
      | cons second right =>
          simp only [List.map_cons, List.cons.injEq] at same
          have sameFirst := apart first (by simp) second (by simp) same.1
          have sameRest : left = right := by
            apply ih _ same.2
            intro char member other otherMember
            exact apart char (List.mem_cons_of_mem first member) other
              (List.mem_cons_of_mem second otherMember)
          rw [sameFirst, sameRest]

/-- An occurrence of keys is an occurrence when the key tells the characters apart. -/
theorem infix_of_infix_map {key : Char → Char} {part text : Text}
    (apart : ∀ letter ∈ part, ∀ char ∈ text, key letter = key char → letter = char)
    (occurs : part.map key <:+: text.map key) : part <:+: text := by
  rcases occurs with ⟨before, after, whole⟩
  rcases List.map_eq_append_iff.mp whole.symm with ⟨upTo, behind, rfl, keys, _⟩
  rcases List.map_eq_append_iff.mp keys with ⟨front, middle, rfl, _, sameKeys⟩
  have same : part = middle := by
    apply eq_of_map_eq _ sameKeys.symm
    intro letter member char charMember
    exact apart letter member char (by simp [charMember])
  rw [same]
  exact ⟨front, behind, rfl⟩

end SpecFinder.Text
