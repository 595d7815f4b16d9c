import Mathlib.Order.Bounds.Basic
import Mathlib.Order.MinMax
import SpecFinder.EditDistance

/-!
# Edit scripts

An edit inserts, deletes or replaces one character anywhere in a text, and a script makes
one edit after the other.  The distance of two texts is computed along their characters,
without a script in sight; `isLeast_editDistance` says that it is the length of a shortest
one.  One edit changes the distance to any third text by at most one, so no script is
shorter, and the cases of the recurrence tell how to write one that is not longer.

That the distance is the same both ways, nothing only between a text and itself, and no
shorter by way of a third text are facts about scripts.
-/

namespace SpecFinder

/-! ## The recurrence -/

section

variable {char wanted : Char} {source target : Text}

/-- Behind its first entry, a row of distances is the row for the rest of the target. -/
theorem EditDistance.tail_distances (wanted : Char) (target source : Text) :
    (distances (wanted :: target) source).tail = distances target source := by
  induction source with
  | nil => simp [distances, List.range_succ (n := target.length + 1)]
  | cons char source ih => rw [distances, extend, List.tail_cons, ih, distances]

@[simp] theorem editDistance_nil_left (target : Text) :
    editDistance [] target = target.length := by
  simp [editDistance, EditDistance.distances, List.range_succ]

theorem editDistance_cons_nil :
    editDistance (char :: source) [] = editDistance source [] + 1 := rfl

/-- The first characters are paired, or the one of the source is deleted, or the one of the
target is inserted. -/
theorem editDistance_cons_cons :
    editDistance (char :: source) (wanted :: target) =
      min (editDistance source target + if char = wanted then 0 else 1)
        (min (editDistance source (wanted :: target) + 1)
          (editDistance (char :: source) target + 1)) := by
  have behind := EditDistance.tail_distances wanted target source
  simp only [editDistance, EditDistance.distances, EditDistance.extend, behind,
    List.headD_cons]

@[simp] theorem editDistance_nil_right (source : Text) :
    editDistance source [] = source.length := by
  induction source with
  | nil => rfl
  | cons char source ih => rw [editDistance_cons_nil, ih, List.length_cons]

/-- A character in front of the source costs a deletion at most. -/
theorem editDistance_cons_left_le (char : Char) (source target : Text) :
    editDistance (char :: source) target ≤ editDistance source target + 1 := by
  cases target with
  | nil => exact Nat.le_of_eq editDistance_cons_nil
  | cons wanted target =>
      rw [editDistance_cons_cons]
      exact (Nat.min_le_right _ _).trans (Nat.min_le_left _ _)

/-- A character in front of the target costs an insertion at most. -/
theorem editDistance_cons_right_le (wanted : Char) (source target : Text) :
    editDistance source (wanted :: target) ≤ editDistance source target + 1 := by
  cases source with
  | nil => simp
  | cons char source =>
      rw [editDistance_cons_cons]
      exact (Nat.min_le_right _ _).trans (Nat.min_le_right _ _)

end

/-! ## Scripts -/

/-- One edit turns a text into another. -/
inductive Edit : Text → Text → Prop where
  | insert (front back : Text) (char : Char) : Edit (front ++ back) (front ++ char :: back)
  | delete (front back : Text) (char : Char) : Edit (front ++ char :: back) (front ++ back)
  | replace (front back : Text) (old new : Char) :
      Edit (front ++ old :: back) (front ++ new :: back)

/-- Some number of edits, one after the other, turns a text into another. -/
inductive Edits : Nat → Text → Text → Prop where
  | done (text : Text) : Edits 0 text text
  | step {count : Nat} {first second third : Text} :
      Edit first second → Edits count second third → Edits (count + 1) first third

section

variable {first second third : Text} {count more : Nat}

theorem Edit.symm (edit : Edit first second) : Edit second first := by
  cases edit with
  | insert front back char => exact .delete front back char
  | delete front back char => exact .insert front back char
  | replace front back old new => exact .replace front back new old

/-- The same edit behind one more character. -/
theorem Edit.cons (char : Char) (edit : Edit first second) :
    Edit (char :: first) (char :: second) := by
  cases edit with
  | insert front back other => exact .insert (char :: front) back other
  | delete front back other => exact .delete (char :: front) back other
  | replace front back old new => exact .replace (char :: front) back old new

/-- An edit makes a text longer or shorter by one character at most. -/
theorem Edit.length_le (edit : Edit first second) : first.length ≤ second.length + 1 := by
  cases edit <;> simp only [List.length_append, List.length_cons] <;> omega

namespace Edits

theorem single (edit : Edit first second) : Edits 1 first second := .step edit (.done second)

theorem trans (edits : Edits count first second) (others : Edits more second third) :
    Edits (count + more) first third := by
  induction edits with
  | done text => rwa [Nat.zero_add]
  | @step count _ _ _ edit _ ih =>
      rw [Nat.add_right_comm]
      exact .step edit (ih others)

theorem symm (edits : Edits count first second) : Edits count second first := by
  induction edits with
  | done text => exact .done text
  | step edit _ ih => exact ih.trans (single edit.symm)

theorem cons (char : Char) (edits : Edits count first second) :
    Edits count (char :: first) (char :: second) := by
  induction edits with
  | done text => exact .done (char :: text)
  | step edit _ ih => exact .step (edit.cons char) ih

/-- The shorter one of two scripts. -/
theorem min (edits : Edits count first second) (others : Edits more first second) :
    Edits (min count more) first second := by
  cases min_choice count more with
  | inl shorter => rwa [shorter]
  | inr shorter => rwa [shorter]

theorem length_le (edits : Edits count first second) :
    first.length ≤ second.length + count := by
  induction edits with
  | done text => exact Nat.le_refl _
  | step edit _ ih =>
      have once := edit.length_le
      omega

end Edits

theorem edits_zero_iff : Edits 0 first second ↔ first = second := by
  constructor
  · intro edits
    cases edits
    rfl
  · intro same
    rw [same]
    exact .done second

end

/-! ## No script is shorter -/

section

variable {source target first second : Text} {count : Nat}

theorem editDistance_self (text : Text) : editDistance text text = 0 := by
  induction text with
  | nil => rfl
  | cons char text ih => simp [editDistance_cons_cons, ih]

/-- A character less in front of the source saves one edit at most. -/
theorem editDistance_le_cons_left (char : Char) (source target : Text) :
    editDistance source target ≤ editDistance (char :: source) target + 1 := by
  induction target with
  | nil =>
      rw [editDistance_cons_nil]
      omega
  | cons wanted target ih =>
      have inserted := editDistance_cons_right_le wanted source target
      rw [editDistance_cons_cons]
      omega

/-- Another character in front of the source saves one edit at most. -/
theorem editDistance_cons_le_cons (old new : Char) (source target : Text) :
    editDistance (old :: source) target ≤ editDistance (new :: source) target + 1 := by
  induction target with
  | nil => exact Nat.le_succ _
  | cons wanted target ih =>
      rw [editDistance_cons_cons, editDistance_cons_cons]
      split <;> split <;> omega

/-- What one edit saves at most is the same behind characters that both sources have: the
recurrence treats them alike. -/
theorem editDistance_append_le (front : Text)
    (here : ∀ target, editDistance first target ≤ editDistance second target + 1) :
    ∀ target,
      editDistance (front ++ first) target ≤ editDistance (front ++ second) target + 1 := by
  induction front with
  | nil => exact here
  | cons char front ih =>
      intro target
      induction target with
      | nil =>
          have nothing := ih []
          rw [List.cons_append, List.cons_append, editDistance_cons_nil, editDistance_cons_nil]
          omega
      | cons wanted target inner =>
          have paired := ih target
          have deleted := ih (wanted :: target)
          rw [List.cons_append, List.cons_append] at inner ⊢
          rw [editDistance_cons_cons, editDistance_cons_cons]
          split <;> omega

/-- A step: one edit changes the distance to a target by one at most. -/
theorem editDistance_le_of_edit (edit : Edit first second) (target : Text) :
    editDistance first target ≤ editDistance second target + 1 := by
  cases edit with
  | insert front back char =>
      exact editDistance_append_le front (editDistance_le_cons_left char back) target
  | delete front back char =>
      exact editDistance_append_le front (editDistance_cons_left_le char back) target
  | replace front back old new =>
      exact editDistance_append_le front (editDistance_cons_le_cons old new back) target

/-- A run: a script is as long as the distance or longer. -/
theorem editDistance_le_of_edits (edits : Edits count source target) :
    editDistance source target ≤ count := by
  induction edits with
  | done text => rw [editDistance_self]
  | @step _ _ _ final edit _ ih =>
      have once := editDistance_le_of_edit edit final
      omega

/-! ## There is a script -/

/-- A script deletes or inserts all characters of a text. -/
theorem edits_nil_left (target : Text) : Edits target.length [] target := by
  induction target with
  | nil => exact .done []
  | cons wanted target ih => exact .step (.insert [] [] wanted) (ih.cons wanted)

/-- The recurrence tells the first edit of a script and where to go on. -/
theorem edits_editDistance (source target : Text) :
    Edits (editDistance source target) source target := by
  induction source generalizing target with
  | nil =>
      rw [editDistance_nil_left]
      exact edits_nil_left target
  | cons char source ih =>
      induction target with
      | nil =>
          rw [editDistance_cons_nil]
          exact .step (.delete [] source char) (ih [])
      | cons wanted target inner =>
          have paired : Edits (editDistance source target + if char = wanted then 0 else 1)
              (char :: source) (wanted :: target) := by
            by_cases same : char = wanted
            · rw [if_pos same, same]
              exact (ih target).cons wanted
            · rw [if_neg same]
              exact .step (.replace [] source char wanted) ((ih target).cons wanted)
          have deleted : Edits (editDistance source (wanted :: target) + 1)
              (char :: source) (wanted :: target) :=
            .step (.delete [] source char) (ih (wanted :: target))
          have inserted : Edits (editDistance (char :: source) target + 1)
              (char :: source) (wanted :: target) :=
            .step (.insert [] (char :: source) wanted) (inner.cons wanted)
          rw [editDistance_cons_cons]
          exact paired.min (deleted.min inserted)

/-- The distance of two texts is the length of a shortest script. -/
theorem isLeast_editDistance (source target : Text) :
    IsLeast {count | Edits count source target} (editDistance source target) := by
  constructor
  · exact edits_editDistance source target
  · intro count edits
    exact editDistance_le_of_edits edits

/-! ## A metric -/

theorem editDistance_comm (source target : Text) :
    editDistance source target = editDistance target source := by
  apply Nat.le_antisymm
  · exact editDistance_le_of_edits (edits_editDistance target source).symm
  · exact editDistance_le_of_edits (edits_editDistance source target).symm

theorem editDistance_eq_zero_iff : editDistance source target = 0 ↔ source = target := by
  constructor
  · intro nothing
    have edits := edits_editDistance source target
    rw [nothing] at edits
    exact edits_zero_iff.mp edits
  · intro same
    rw [same, editDistance_self]

theorem editDistance_triangle (first second third : Text) :
    editDistance first third ≤ editDistance first second + editDistance second third :=
  editDistance_le_of_edits
    ((edits_editDistance first second).trans (edits_editDistance second third))

theorem length_le_add_editDistance (source target : Text) :
    source.length ≤ target.length + editDistance source target :=
  (edits_editDistance source target).length_le

/-- Pairing the characters from the front and deleting or inserting the others is a script. -/
theorem editDistance_le_max (source target : Text) :
    editDistance source target ≤ max source.length target.length := by
  induction source generalizing target with
  | nil => simp
  | cons char source ih =>
      cases target with
      | nil => simp
      | cons wanted target =>
          have paired : editDistance (char :: source) (wanted :: target) ≤
              editDistance source target + if char = wanted then 0 else 1 := by
            rw [editDistance_cons_cons]
            exact Nat.min_le_left _ _
          have shorter := ih target
          rw [List.length_cons, List.length_cons]
          split at paired <;> omega

end

/-- What makes a number for any two texts their distance in edits: it is the length of a
shortest script, and so a metric that the lengths of the texts bound on both sides. -/
structure MeasuresEdits (distance : Text → Text → Nat) : Prop where
  least : ∀ source target, IsLeast {count | Edits count source target} (distance source target)
  comm : ∀ source target, distance source target = distance target source
  eq_zero_iff : ∀ source target, distance source target = 0 ↔ source = target
  triangle : ∀ first second third,
    distance first third ≤ distance first second + distance second third
  length_le : ∀ source target, source.length ≤ target.length + distance source target
  le_max : ∀ source target, distance source target ≤ max source.length target.length

theorem measuresEdits_editDistance : MeasuresEdits editDistance where
  least := isLeast_editDistance
  comm := editDistance_comm
  eq_zero_iff := fun _ _ => editDistance_eq_zero_iff
  triangle := editDistance_triangle
  length_le := length_le_add_editDistance
  le_max := editDistance_le_max

end SpecFinder
