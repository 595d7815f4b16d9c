import Mathlib.Data.List.Lex
import SpecFinder.Text.Basic

/-!
# The order of texts

Texts are ordered by their first characters that differ, a text before those that go on behind
it.  A list of texts without repetitions has one ascending form, whatever order it comes in.
-/

namespace SpecFinder.Text

variable {left middle right : Text}

theorem isBelow_cons {first other : Char} :
    isBelow (first :: left) (other :: right) = true ↔
      first.toNat < other.toNat ∨ first = other ∧ isBelow left right = true := by
  simp [isBelow]

theorem not_isBelow_self (text : Text) : ¬ isBelow text text = true := by
  induction text with
  | nil => simp [isBelow]
  | cons char text ih => simp [isBelow_cons, ih]

theorem isBelow_trans (below : isBelow left middle = true) (above : isBelow middle right = true) :
    isBelow left right = true := by
  induction left generalizing middle right with
  | nil =>
      cases right with
      | nil => simp [isBelow] at above
      | cons char right => rfl
  | cons first left ih =>
      cases middle with
      | nil => simp [isBelow] at below
      | cons second middle =>
          cases right with
          | nil => simp [isBelow] at above
          | cons third right =>
              rw [isBelow_cons] at below above ⊢
              rcases below with firstBelow | ⟨rfl, restBelow⟩
              · rcases above with secondBelow | ⟨rfl, _⟩
                · exact .inl (Nat.lt_trans firstBelow secondBelow)
                · exact .inl firstBelow
              · rcases above with secondBelow | ⟨rfl, restAbove⟩
                · exact .inl secondBelow
                · exact .inr ⟨rfl, ih restBelow restAbove⟩

theorem not_isBelow_of_isBelow (below : isBelow left right = true) :
    ¬ isBelow right left = true :=
  fun above => not_isBelow_self left (isBelow_trans below above)

/-- Of two texts one is before the other, or they are the same. -/
theorem isBelow_trichotomy (left right : Text) :
    isBelow left right = true ∨ left = right ∨ isBelow right left = true := by
  induction left generalizing right with
  | nil =>
      cases right with
      | nil => exact .inr (.inl rfl)
      | cons char right => exact .inl rfl
  | cons first left ih =>
      cases right with
      | nil => exact .inr (.inr rfl)
      | cons other right =>
          rw [isBelow_cons, isBelow_cons]
          rcases Nat.lt_trichotomy first.toNat other.toNat with lower | same | higher
          · exact .inl (.inl lower)
          · have sameChar : first = other := Char.toNat_inj.mp same
            subst sameChar
            rcases ih right with below | rfl | above
            · exact .inl (.inr ⟨rfl, below⟩)
            · exact .inr (.inl rfl)
            · exact .inr (.inr (.inr ⟨rfl, above⟩))
          · exact .inr (.inr (.inl higher))

/-- The order of texts is the one of their code points, the first different ones compared. -/
theorem isBelow_iff_codePoints :
    isBelow left right = true ↔ left.map Char.toNat < right.map Char.toNat := by
  induction left generalizing right with
  | nil => cases right <;> simp [isBelow]
  | cons first left ih =>
      cases right with
      | nil => simp [isBelow]
      | cons other right =>
          rw [isBelow_cons, List.map_cons, List.map_cons, List.cons_lt_cons_iff, ih,
            Char.toNat_inj]

/-- Of two texts that begin with equally many characters, these are compared first. -/
theorem isBelow_append (sameLength : left.length = right.length) (rest behind : Text) :
    isBelow (left ++ rest) (right ++ behind) = true ↔
      isBelow left right = true ∨ left = right ∧ isBelow rest behind = true := by
  induction left generalizing right with
  | nil =>
      obtain rfl : right = [] := List.length_eq_zero_iff.mp sameLength.symm
      simp [not_isBelow_self]
  | cons first left ih =>
      cases right with
      | nil => cases sameLength
      | cons other right =>
          have shorter : left.length = right.length := Nat.succ.inj sameLength
          rw [List.cons_append, List.cons_append, isBelow_cons, isBelow_cons, ih shorter,
            List.cons.injEq, and_or_left, or_assoc, and_assoc]

/-! ## At most -/

theorem isAtMost_iff : isAtMost left right = true ↔ isBelow left right = true ∨ left = right := by
  rw [isAtMost, Bool.not_eq_true', ← Bool.not_eq_true]
  constructor
  · intro notAbove
    rcases isBelow_trichotomy left right with below | same | above
    · exact .inl below
    · exact .inr same
    · exact absurd above notAbove
  · rintro (below | rfl)
    · exact not_isBelow_of_isBelow below
    · exact not_isBelow_self left

theorem isAtMost_iff_codePoints :
    isAtMost left right = true ↔ left.map Char.toNat ≤ right.map Char.toNat := by
  rw [isAtMost, Bool.not_eq_true', ← Bool.not_eq_true, isBelow_iff_codePoints, not_lt]

theorem isAtMost_trans (left middle right : Text) (below : isAtMost left middle = true)
    (above : isAtMost middle right = true) : isAtMost left right = true := by
  rw [isAtMost_iff] at below above ⊢
  rcases below with below | rfl
  · rcases above with above | rfl
    · exact .inl (isBelow_trans below above)
    · exact .inl below
  · exact above

theorem isAtMost_total (left right : Text) :
    (isAtMost left right || isAtMost right left) = true := by
  rw [Bool.or_eq_true, isAtMost_iff, isAtMost_iff]
  rcases isBelow_trichotomy left right with below | same | above
  · exact .inl (.inl below)
  · exact .inl (.inr same)
  · exact .inr (.inl above)

theorem isAtMost_antisymm (atMost : isAtMost left right = true)
    (atLeast : isAtMost right left = true) : left = right := by
  rcases isAtMost_iff.mp atMost with below | same
  · rcases isAtMost_iff.mp atLeast with above | same
    · exact absurd above (not_isBelow_of_isBelow below)
    · exact same.symm
  · exact same

/-! ## Ascending lists -/

/-- Whether each text of a list is before the next ones. -/
def IsAscending (texts : List Text) : Prop :=
  texts.Pairwise fun left right => isBelow left right = true

/-- Sorting does not depend on the order that the texts come in. -/
theorem mergeSort_eq_of_perm {texts others : List Text} (perm : texts.Perm others) :
    texts.mergeSort isAtMost = others.mergeSort isAtMost := by
  have sorted (texts : List Text) := List.pairwise_mergeSort isAtMost_trans isAtMost_total texts
  have samePerm : (texts.mergeSort isAtMost).Perm (others.mergeSort isAtMost) :=
    (List.mergeSort_perm texts _).trans (perm.trans (List.mergeSort_perm others _).symm)
  exact samePerm.eq_of_pairwise (fun _ _ _ _ => isAtMost_antisymm) (sorted texts) (sorted others)

theorem isAscending_mergeSort {texts : List Text} (nodup : texts.Nodup) :
    IsAscending (texts.mergeSort isAtMost) := by
  have sorted := List.pairwise_mergeSort isAtMost_trans isAtMost_total texts
  have distinct := (List.mergeSort_perm texts isAtMost).symm.nodup nodup
  refine (sorted.and distinct).imp ?_
  rintro left right ⟨atMost, differ⟩
  exact (isAtMost_iff.mp atMost).resolve_right differ

end SpecFinder.Text
