import SpecFinder.Text.LetterCase

/-!
# The letter case tables

What the letter case tables have to say for lower case to be a normal form: no small
letter that a run gives is a capital of a run, and white space lies apart from every
letter.  The tables are checked as intervals, a pair of intervals at a time, so that no
check enumerates code points.
-/

namespace SpecFinder.Text

/-- Whether two closed ranges have no code point in common. -/
def liesApart (left right : Nat × Nat) : Bool :=
  Nat.blt left.2 right.1 || Nat.blt right.2 left.1

/-- Whether no range of one table has a code point in common with one of the other. -/
def areApart (left right : List (Nat × Nat)) : Bool :=
  left.all fun range => right.all (liesApart range)

theorem inRanges_eq_true {ranges : List (Nat × Nat)} {codePoint : Nat} :
    inRanges ranges codePoint = true ↔
      ∃ range ∈ ranges, range.1 ≤ codePoint ∧ codePoint ≤ range.2 := by
  simp [inRanges]

theorem inRanges_of_areApart {left right : List (Nat × Nat)} {codePoint : Nat}
    (apart : areApart left right = true) (inLeft : inRanges left codePoint = true) :
    inRanges right codePoint = false := by
  rw [← Bool.not_eq_true, inRanges_eq_true]
  rintro ⟨range, listed, lower, upper⟩
  rcases inRanges_eq_true.mp inLeft with ⟨other, otherListed, otherLower, otherUpper⟩
  have disjoint := List.all_eq_true.mp (List.all_eq_true.mp apart other otherListed) range listed
  simp only [liesApart, Bool.or_eq_true, Nat.blt_eq] at disjoint
  omega

namespace CapitalRun

/-- The first small letter of a run. -/
def smallFirst (run : CapitalRun) : Nat := run.first + run.up - run.down

/-- The last small letter of a run. -/
def smallLast (run : CapitalRun) : Nat := run.last + run.up - run.down

/-- Whether the small letters of a run are letters of their own: characters, small ones
where they belong to the basic alphabet, and not the capital I with a dot. -/
def isProper (run : CapitalRun) : Bool :=
  Nat.ble run.down run.first && Nat.ble 0x80 run.first && Nat.ble 0x61 run.smallFirst
    && (Nat.blt run.smallLast 0xD800
      || (Nat.ble 0xE000 run.smallFirst && Nat.blt run.smallLast 0x110000))
    && liesApart (0x130, 0x130) (run.smallFirst, run.smallLast)

/-- Whether no small letter of a run is a capital of another run: the ranges are apart,
or every second code point is a capital and the small letters are the others. -/
def avoids (run other : CapitalRun) : Bool :=
  liesApart (run.smallFirst, run.smallLast) (other.first, other.last)
    || (Nat.beq other.step 2 && (Nat.beq run.step 2 || Nat.beq run.first run.last)
      && !Nat.beq (run.smallFirst % 2) (other.first % 2))

/-- What the table of runs is checked for. -/
theorem isProper_and_avoids_of_mem {run : CapitalRun} (listed : run ∈ capitalRuns) :
    run.isProper = true ∧ capitalRuns.all run.avoids = true := by
  have checked : (capitalRuns.all fun run => run.isProper && capitalRuns.all run.avoids) =
      true := by
    decide +kernel
  exact Bool.and_eq_true_iff.mp (List.all_eq_true.mp checked run listed)

theorem isProper_of_mem {run : CapitalRun} (listed : run ∈ capitalRuns) :
    run.isProper = true := (isProper_and_avoids_of_mem listed).1

theorem avoids_of_mem {run other : CapitalRun} (listed : run ∈ capitalRuns)
    (otherListed : other ∈ capitalRuns) : run.avoids other = true :=
  List.all_eq_true.mp (isProper_and_avoids_of_mem listed).2 other otherListed

theorem smallOf?_eq_some {run : CapitalRun} {codePoint small : Nat} :
    run.smallOf? codePoint = some small ↔
      (run.first ≤ codePoint ∧ codePoint ≤ run.last ∧ (codePoint - run.first) % run.step = 0) ∧
        codePoint + run.up - run.down = small := by
  simp [smallOf?, and_assoc]

/-- The small letters of a run lie in its range of small letters. -/
theorem small_mem_range {run : CapitalRun} {codePoint small : Nat}
    (found : run.smallOf? codePoint = some small) :
    run.smallFirst ≤ small ∧ small ≤ run.smallLast := by
  rcases smallOf?_eq_some.mp found with ⟨⟨lower, upper, _⟩, rfl⟩
  simp only [smallFirst, smallLast]
  omega

/-- A small letter that a run gives has no other small letter. -/
theorem smallOf?_small {run other : CapitalRun} (listed : run ∈ capitalRuns)
    (otherListed : other ∈ capitalRuns) {codePoint small : Nat}
    (found : run.smallOf? codePoint = some small) : other.smallOf? small = none := by
  rw [Option.eq_none_iff_forall_ne_some]
  intro smaller foundAgain
  have range := small_mem_range found
  rcases smallOf?_eq_some.mp found with ⟨⟨lower, upper, stepped⟩, shifted⟩
  rcases smallOf?_eq_some.mp foundAgain with ⟨⟨otherLower, otherUpper, otherStepped⟩, _⟩
  have proper := isProper_of_mem listed
  have avoided := avoids_of_mem listed otherListed
  simp only [isProper, Bool.and_eq_true, Nat.ble_eq] at proper
  have notBelow : run.down ≤ run.first := proper.1.1.1.1
  simp only [avoids, liesApart, Bool.or_eq_true, Bool.and_eq_true, Nat.blt_eq, Nat.beq_eq,
    Bool.not_eq_true', ← Bool.not_eq_true] at avoided
  rcases avoided with apart | ⟨⟨everySecond, evenly⟩, parity⟩
  · omega
  · rw [everySecond] at otherStepped
    have sameParity : small % 2 = run.smallFirst % 2 := by
      simp only [smallFirst]
      rcases evenly with everySecondToo | single
      · rw [everySecondToo] at stepped
        omega
      · omega
    omega

end CapitalRun

/-- The code points that letter case bears on: the capitals and their small letters, and
what the capital I with a dot and the capital sigma become. -/
def caseRanges : List (Nat × Nat) :=
  [(0x41, 0x5A), (0x61, 0x7A), (0x130, 0x130), (0x307, 0x307), (0x3C2, 0x3C3)]
    ++ capitalRuns.flatMap fun run => [(run.first, run.last), (run.smallFirst, run.smallLast)]

/-- Whether letter case does not bear on a character. -/
def isCaseless (char : Char) : Bool := !inRanges caseRanges char.toNat

/-- White space is apart from all that bears on case. -/
theorem areApart_blankRanges :
    areApart blankRanges caseRanges = true ∧
      areApart blankRanges caseIgnorableRanges = true ∧
        areApart blankRanges casedRanges = true := by
  decide +kernel

/-- White space has no case. -/
theorem isCaseless_of_isBlank {char : Char} (blank : isBlank char = true) :
    isCaseless char = true := by
  simp [isCaseless, inRanges_of_areApart areApart_blankRanges.1 blank]

/-- White space ends a word for the final sigma. -/
theorem ends_word_of_isBlank {char : Char} (blank : isBlank char = true) :
    isCaseIgnorable char = false ∧ isCased char = false :=
  ⟨inRanges_of_areApart areApart_blankRanges.2.1 blank,
    inRanges_of_areApart areApart_blankRanges.2.2 blank⟩

/-- A code point that a run gives a small letter, and the small letter, have case. -/
theorem inRanges_caseRanges_of_mem {run : CapitalRun} (listed : run ∈ capitalRuns)
    {codePoint small : Nat} (found : run.smallOf? codePoint = some small) :
    inRanges caseRanges codePoint = true ∧ inRanges caseRanges small = true := by
  have range := CapitalRun.small_mem_range found
  rcases CapitalRun.smallOf?_eq_some.mp found with ⟨⟨lower, upper, _⟩, _⟩
  have capitals : (run.first, run.last) ∈ caseRanges :=
    List.mem_append_right _ (List.mem_flatMap.mpr ⟨run, listed, by simp⟩)
  have smalls : (run.smallFirst, run.smallLast) ∈ caseRanges :=
    List.mem_append_right _ (List.mem_flatMap.mpr ⟨run, listed, by simp⟩)
  exact ⟨inRanges_eq_true.mpr ⟨_, capitals, lower, upper⟩,
    inRanges_eq_true.mpr ⟨_, smalls, range.1, range.2⟩⟩

end SpecFinder.Text
