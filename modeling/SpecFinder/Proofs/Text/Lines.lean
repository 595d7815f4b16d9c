import SpecFinder.Text.Lines

/-!
# Lines that are taken apart and joined

Lines that are written one after the other may not be the lines of what they make: a text
without a break at its end goes on in the next one, and a carriage return and a line feed
that meet are one break.  Neither happens between lines of one text, so some of them that
stand together are the lines of what they make, and a text that ends its last line keeps
its lines in front of anything that does not begin with a line feed.
-/

namespace SpecFinder.Text

/-- Whether a text leaves no line open: it is empty, or its last character ends a line. -/
def EndsLine (text : Text) : Prop := ∀ char ∈ text.getLast?, isLineBreak char = true

/-- Whether the last character of a text and the first one of the next are one break. -/
def Fuses (front back : Text) : Prop := front.getLast? = some '\r' ∧ back.head? = some '\n'

section

variable {char : Char} {text front back : Text}

theorem EndsLine.tail (ends : EndsLine (char :: text)) : EndsLine text := by
  intro last isLast
  apply ends last
  simp [List.getLast?_cons, Option.mem_def.mp isLast]

theorem Fuses.cons (char : Char) (fuses : Fuses front back) : Fuses (char :: front) back :=
  ⟨by simp [List.getLast?_cons, fuses.1], fuses.2⟩

/-! ## One line -/

theorem lines_cons_of_break (isBreak : isLineBreak char = true)
    (apart : char = '\r' → text.head? ≠ some '\n') :
    lines (char :: text) = [char] :: lines text := by
  rw [lines]
  · rw [if_pos isBreak]
  · intro rest isReturn begins
    exact apart isReturn (by rw [begins, List.head?_cons])

theorem lines_cons_of_not_break (noBreak : isLineBreak char = false) {line : Text}
    {more : List Text} (found : lines text = line :: more) :
    lines (char :: text) = (char :: line) :: more := by
  rw [lines, found]
  · simp [noBreak]
  · intro rest isReturn
    rw [isReturn] at noBreak
    cases noBreak

theorem lines_eq_nil_iff : lines text = [] ↔ text = [] := by
  constructor
  · intro none
    have whole := flatten_lines text
    rw [none] at whole
    exact whole.symm
  · intro empty
    rw [empty, lines]

/-! ## Joining -/

/-- A text that ends its last line keeps its lines in front of another one. -/
theorem lines_append (ends : EndsLine front) (apart : ¬ Fuses front back) :
    lines (front ++ back) = lines front ++ lines back := by
  fun_induction lines front with
  | case1 => rfl
  | case2 rest ih =>
      have behind := ih ends.tail.tail fun fuses => apart ((fuses.cons '\n').cons '\r')
      simp [lines, behind]
  | case3 char rest notPair isBreak ih =>
      have behind := ih ends.tail fun fuses => apart (fuses.cons char)
      have single : char = '\r' → (rest ++ back).head? ≠ some '\n' := by
        rintro rfl begins
        cases rest with
        | nil => exact apart ⟨rfl, begins⟩
        | cons next rest =>
            rw [List.cons_append, List.head?_cons, Option.some.injEq] at begins
            exact notPair rest rfl (by rw [begins])
      rw [List.cons_append, lines_cons_of_break isBreak single, behind, List.cons_append]
  | case4 char rest _ notBreak empty ih =>
      rw [lines_eq_nil_iff.mp empty] at ends
      exact absurd (ends char rfl) notBreak
  | case5 char rest _ notBreak line more found ih =>
      have behind := ih ends.tail fun fuses => apart (fuses.cons char)
      rw [found] at behind
      rw [List.cons_append] at behind
      exact lines_cons_of_not_break (Bool.not_eq_true _ ▸ notBreak) behind

/-! ## Taking apart -/

/-- The first lines of a text are the lines of what they make. -/
theorem lines_flatten_front {before behind : List Text} (whole : lines text = before ++ behind) :
    lines before.flatten = before := by
  fun_induction lines text generalizing before with
  | case1 =>
      rw [(List.append_eq_nil_iff.mp whole.symm).1]
      rfl
  | case2 rest ih =>
      cases before with
      | nil => rfl
      | cons first before =>
          rw [List.cons_append, List.cons.injEq] at whole
          rw [List.flatten_cons, ← whole.1]
          simp [lines, ih whole.2]
  | case3 char rest notPair isBreak ih =>
      cases before with
      | nil => rfl
      | cons first before =>
          rw [List.cons_append, List.cons.injEq] at whole
          have made := flatten_lines rest
          rw [whole.2, List.flatten_append] at made
          have single : char = '\r' → before.flatten.head? ≠ some '\n' := by
            intro isReturn begins
            rcases List.head?_eq_some_iff.mp begins with ⟨more, begun⟩
            apply notPair (more ++ behind.flatten) isReturn
            rw [← made, begun, List.cons_append]
          rw [List.flatten_cons, ← whole.1, List.singleton_append,
            lines_cons_of_break isBreak single, ih whole.2]
  | case4 char rest _ notBreak empty _ =>
      cases before with
      | nil => rfl
      | cons first before =>
          rw [List.cons_append, List.cons.injEq] at whole
          rw [(List.append_eq_nil_iff.mp whole.2.symm).1, ← whole.1]
          simp [lines, notBreak]
  | case5 char rest _ notBreak line more found ih =>
      cases before with
      | nil => rfl
      | cons first before =>
          rw [List.cons_append, List.cons.injEq] at whole
          have restLines : lines (line :: before).flatten = line :: before := by
            apply ih
            rw [found, whole.2, List.cons_append]
          rw [← whole.1]
          exact lines_cons_of_not_break (Bool.not_eq_true _ ▸ notBreak) restLines

/-- The last lines of a text are the lines of what they make. -/
theorem lines_flatten_behind {before behind : List Text} (whole : lines text = before ++ behind) :
    lines behind.flatten = behind := by
  have rest (text : Text) : lines (lines text).tail.flatten = (lines text).tail := by
    fun_induction lines text with
    | case1 => rfl
    | case2 rest _ => rw [List.tail_cons, flatten_lines]
    | case3 char rest _ isBreak _ => rw [List.tail_cons, flatten_lines]
    | case4 char rest _ notBreak empty _ => rfl
    | case5 char rest _ notBreak line more found ih =>
        rw [found] at ih
        exact ih
  induction before generalizing text with
  | nil =>
      rw [List.nil_append] at whole
      rw [← whole, flatten_lines]
  | cons first before ih =>
      have later := rest text
      rw [whole, List.cons_append, List.tail_cons] at later
      exact ih later

end

end SpecFinder.Text
