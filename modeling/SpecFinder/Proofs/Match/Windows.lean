import SpecFinder.Match.Snippet
import SpecFinder.Proofs.Text.Scanning

/-!
# The windows of snippets

A snippet shows a window of its line: the characters from one place up to another, with dots
on a side where the line goes on.  A short line is shown whole.  In a longer one the window
reaches equally far to both sides of the leftmost occurrence of a term, and the window that
prefers sentences is the same one with its ends moved outwards to the next ends of sentences,
where these are near.
-/

namespace SpecFinder.Snippet

open Text

/-! ## The leftmost occurrence -/

section

variable {line : Text} {terms : List Text}

theorem le_foldl_min_iff {places : List Nat} {bound least : Nat} :
    least ≤ places.foldl min bound ↔ least ≤ bound ∧ ∀ place ∈ places, least ≤ place := by
  induction places generalizing bound with
  | nil => simp
  | cons place places ih =>
      rw [List.foldl_cons, ih, Nat.le_min, List.forall_mem_cons, and_assoc]

theorem leftmost_le_length (line : Text) (terms : List Text) :
    leftmost line terms ≤ line.length :=
  (le_foldl_min_iff.mp (Nat.le_refl _)).1

/-- No occurrence of a term stands in front of the leftmost one. -/
theorem leftmost_le {term : Text} (listed : term ∈ terms) (nonempty : term ≠ []) {place : Nat}
    (occurs : startsWithBy alike term (line.drop place) = true) :
    leftmost line terms ≤ place := by
  have scan : IsScan alike term line 0 (occurrences alike term line) :=
    isScan_occurrences nonempty line
  cases found : occurrences alike term line with
  | nil =>
      rw [found] at scan
      rcases scan.complete place (Nat.zero_le _) occurs with ⟨_, absent, _⟩
      cases absent
  | cons first others =>
      rw [found] at scan
      have isFirst : firstOccurrence? alike term line = some first := by
        rw [firstOccurrence?, found, List.head?_cons]
      have counted : first ∈ (terms.filter (!·.isEmpty)).filterMap
          (firstOccurrence? alike · line) := by
        apply List.mem_filterMap.mpr
        exact ⟨term, List.mem_filter.mpr ⟨listed, by simpa using nonempty⟩, isFirst⟩
      have atMost := (le_foldl_min_iff.mp (Nat.le_refl (leftmost line terms))).2 first counted
      exact Nat.le_trans atMost (scan.head_le (Nat.zero_le _) occurs)

end

/-! ## Windows -/

/-- A part of a line, from one place up to another. -/
@[ext]
structure Window (line : Text) where
  start : Nat
  stop : Nat
  ordered : start ≤ stop
  within : stop ≤ line.length

namespace Window

/-- The whole line. -/
def whole (line : Text) : Window line := ⟨0, line.length, Nat.zero_le _, Nat.le_refl _⟩

section

variable {line : Text} (window : Window line)

/-- The characters in a window. -/
def copied : Text := (line.take window.stop).drop window.start

/-- The dots in front of a window, when the line has characters there. -/
def lead : Text := if 0 < window.start then ellipsis else []

/-- The dots behind a window, when the line has characters there. -/
def trail : Text := if window.stop < line.length then ellipsis else []

/-- A window as it is shown. -/
def text : Text := window.lead ++ window.copied ++ window.trail

/-- The snippet that shows a window. -/
def snippet (terms : List Text) : Snippet :=
  ⟨window.text, SpecFinder.highlights window.text terms⟩

@[simp] theorem length_copied : window.copied.length = window.stop - window.start := by
  rw [copied, List.length_drop, List.length_take, Nat.min_eq_left window.within]

end

@[simp] theorem copied_whole (line : Text) : (whole line).copied = line := by
  simp [copied, whole]

@[simp] theorem text_whole (line : Text) : (whole line).text = line := by
  rw [text, copied_whole]
  simp [lead, trail, whole]

end Window

theorem clampBound_natCast (length bound : Nat) :
    clampBound length (bound : Int) = min bound length := by
  rw [clampBound, if_neg (by omega), Int.toNat_natCast]

/-- The part of a text between two bounds that are not negative. -/
theorem slice_eq_drop_take (text : Text) (start stop : Nat) :
    slice text start stop = (text.take stop).drop start := by
  rw [slice, clampBound_natCast, clampBound_natCast]
  rcases Nat.le_total start text.length with inText | beyond
  · rw [Nat.min_eq_left inText]
    congr 1
    exact List.take_eq_take_min.symm
  · have short : (text.take stop).length ≤ text.length := List.length_take_le' _ _
    rw [Nat.min_eq_right beyond, List.drop_eq_nil_of_le, List.drop_eq_nil_of_le]
    · omega
    · rw [List.length_take]
      omega

/-- A window that is cut out is the snippet that shows it. -/
theorem window_eq {line : Text} (cut : Window line) (terms : List Text) :
    window line cut.start cut.stop terms = cut.snippet terms := by
  have same : (if (0 : Int) < cut.start then ellipsis else []) ++ slice line cut.start cut.stop
      ++ (if (cut.stop : Int) < line.length then ellipsis else []) = cut.text := by
    rw [slice_eq_drop_take]
    simp [Window.text, Window.lead, Window.copied, Window.trail]
  rw [window, Window.snippet, same]

/-! ## The window around the leftmost occurrence -/

/-- The window that reaches to both sides of the leftmost occurrence, the whole of a short
line. -/
def Window.around (line : Text) (terms : List Text) (reach : Nat) : Window line :=
  if isShort line reach then
    whole line
  else
    { start := leftmost line terms - reach
      stop := min line.length (leftmost line terms + reach)
      ordered := by
        have inLine := leftmost_le_length line terms
        omega
      within := Nat.min_le_left _ _ }

section

variable {line : Text} {terms : List Text} {reach : Nat}

theorem isShort_iff : isShort line reach = true ↔ line.length ≤ 2 * reach := by
  simp only [isShort, decide_eq_true_eq]
  omega

theorem Window.around_of_short (short : line.length ≤ 2 * reach) :
    around line terms reach = whole line := by
  rw [around, if_pos (isShort_iff.mpr short)]

theorem Window.around_of_long (terms : List Text) (long : 2 * reach < line.length) :
    (around line terms reach).start = leftmost line terms - reach ∧
      (around line terms reach).stop = min line.length (leftmost line terms + reach) := by
  have notShort : ¬ isShort line reach = true := by
    rw [isShort_iff]
    omega
  rw [around, if_neg notShort]
  exact ⟨rfl, rfl⟩

theorem Window.start_around_le (line : Text) (terms : List Text) (reach : Nat) :
    (around line terms reach).start ≤ leftmost line terms - reach := by
  rcases Nat.lt_or_ge (2 * reach) line.length with long | short
  · exact Nat.le_of_eq (around_of_long terms long).1
  · rw [around_of_short short]
    exact Nat.zero_le _

theorem Window.le_stop_around (line : Text) (terms : List Text) (reach : Nat) :
    min line.length (leftmost line terms + reach) ≤ (around line terms reach).stop := by
  rcases Nat.lt_or_ge (2 * reach) line.length with long | short
  · exact Nat.le_of_eq (around_of_long terms long).2.symm
  · rw [around_of_short short]
    exact Nat.min_le_left _ _

theorem bounds_eq (long : 2 * reach < line.length) :
    bounds line terms reach =
      (((Window.around line terms reach).start : Int),
        ((Window.around line terms reach).stop : Int)) := by
  rcases Window.around_of_long terms long with ⟨start, stop⟩
  rw [start, stop, bounds, Prod.mk.injEq]
  constructor
  · omega
  · omega

end

/-- The snippet that is cut at any character shows the window around the leftmost
occurrence. -/
theorem extract_eq (text : Text) (index : Int) (terms : List Text) (reach : Nat) :
    extract text index terms reach =
      (Window.around (lineAt text index) terms reach).snippet terms := by
  rw [extract]
  split
  next short =>
    rw [Window.around_of_short (isShort_iff.mp short), Window.snippet, Window.text_whole]
  next long =>
    rw [isShort_iff, Nat.not_le] at long
    rw [bounds_eq long]
    exact window_eq _ terms

/-! ## Ends of sentences -/

theorem length_sentenceBreak : sentenceBreak.length = 2 := by decide

/-- Whether a sentence of a line ends at a place, with a full stop and a blank behind it. -/
def EndsSentence (line : Text) (place : Nat) : Prop :=
  sentenceBreak <+: line.drop place

theorem startsWithBy_beq_iff {part text : Text} :
    startsWithBy (· == ·) part text = true ↔ part <+: text := by
  have byKey : startsWithBy (fun left right => id left == id right) part text = true ↔
      part.map id <+: text.map id := startsWithBy_iff_isPrefix part text
  simpa only [id_eq, List.map_id] using byKey

namespace EndsSentence

variable {line : Text} {place : Nat}

theorem exists_behind (ends : EndsSentence line place) :
    ∃ behind, line.drop place = '.' :: ' ' :: behind := by
  rcases ends with ⟨behind, whole⟩
  exact ⟨behind, whole.symm⟩

/-- Behind the full stop there is a blank, so that no other sentence ends there. -/
theorem not_next (ends : EndsSentence line place) : ¬ EndsSentence line (place + 1) := by
  intro next
  rcases ends.exists_behind with ⟨behind, here⟩
  rcases next.exists_behind with ⟨_, there⟩
  rw [← List.drop_drop, here] at there
  simp at there

theorem add_two_le (ends : EndsSentence line place) : place + 2 ≤ line.length := by
  have length := ends.length_le
  rw [List.length_drop, length_sentenceBreak] at length
  omega

/-- Up to its end and the blank behind it, a line ends with these two. -/
theorem suffix_take (ends : EndsSentence line place) : sentenceBreak <:+ line.take (place + 2) := by
  rw [List.take_add, ← length_sentenceBreak, ← List.prefix_iff_eq_take.mp ends]
  exact List.suffix_append _ _

/-- What goes up to the end of a sentence ends with the full stop. -/
theorem suffix_drop_take (ends : EndsSentence line place) {start : Nat} (before : start ≤ place) :
    ['.'] <:+ (line.take (place + 1)).drop start := by
  rcases ends.exists_behind with ⟨behind, here⟩
  have room := ends.add_two_le
  have length : start ≤ (line.take place).length := by
    rw [List.length_take]
    omega
  rw [List.take_add, here, List.drop_append_of_le_length length]
  exact List.suffix_append _ _

end EndsSentence

/-- Since the mark of an end does not overlap itself, a scan lists all ends. -/
theorem mem_occurrences_sentenceBreak {text : Text} {place : Nat} :
    place ∈ occurrences (· == ·) sentenceBreak text ↔ EndsSentence text place := by
  have scan : IsScan (· == ·) sentenceBreak text 0 (occurrences (· == ·) sentenceBreak text) :=
    isScan_occurrences (by decide) text
  constructor
  · intro listed
    exact startsWithBy_beq_iff.mp (scan.occurs place listed).2
  · intro ends
    rcases scan.complete place (Nat.zero_le _) (startsWithBy_beq_iff.mpr ends) with
      ⟨found, listed, before, reaches⟩
    have isEnd : EndsSentence text found := startsWithBy_beq_iff.mp (scan.occurs found listed).2
    rcases Nat.eq_or_lt_of_le before with rfl | earlier
    · exact listed
    · rw [length_sentenceBreak] at reaches
      obtain rfl : place = found + 1 := by omega
      exact (isEnd.not_next ends).elim

/-- The ends of sentences in the front of a line are the ends in the line that have room
there. -/
theorem endsSentence_take {line : Text} {stop place : Nat} :
    EndsSentence (line.take stop) place ↔ EndsSentence line place ∧ place + 2 ≤ stop := by
  rw [EndsSentence, EndsSentence, List.drop_take, List.prefix_take_iff, length_sentenceBreak]
  exact and_congr_right' (by omega)

theorem mem_occurrences_slice {line : Text} {stop place : Nat} :
    place ∈ occurrences (· == ·) sentenceBreak (slice line 0 stop) ↔
      EndsSentence line place ∧ place + 2 ≤ stop := by
  have front : slice line 0 stop = line.take stop := slice_eq_drop_take line 0 stop
  rw [mem_occurrences_sentenceBreak, front, endsSentence_take]

section

variable {line : Text} {start stop place : Nat}

theorem lastBreak?_eq_none (found : lastBreak? line start = none) :
    ∀ other, EndsSentence line other → ¬ other + 2 ≤ start := by
  intro other ends room
  have listed := mem_occurrences_slice.mpr ⟨ends, room⟩
  rw [List.getLast?_eq_none_iff.mp found] at listed
  cases listed

theorem lastBreak?_eq_some (found : lastBreak? line start = some place) :
    (EndsSentence line place ∧ place + 2 ≤ start) ∧
      ∀ other, EndsSentence line other → other + 2 ≤ start → other ≤ place := by
  have scan : IsScan (· == ·) sentenceBreak (slice line 0 start) 0
      (occurrences (· == ·) sentenceBreak (slice line 0 start)) :=
    isScan_occurrences (by decide) _
  have apart := scan.apart
  rcases List.getLast?_eq_some_iff.mp found with ⟨earlier, split⟩
  constructor
  · apply mem_occurrences_slice.mp
    simp [split]
  · intro other ends room
    have listed := mem_occurrences_slice.mpr ⟨ends, room⟩
    rw [split] at listed apart
    rcases List.mem_append.mp listed with inFront | isLast
    · have before := (List.pairwise_append.mp apart).2.2 other inFront place (by simp)
      omega
    · exact Nat.le_of_eq (List.mem_singleton.mp isLast)

/-- The first end of a sentence in the back of a line is the first one there in the line. -/
theorem nextBreak?_eq (within : stop ≤ line.length) : nextBreak? line stop =
    (occurrences (· == ·) sentenceBreak (line.drop stop)).head?.map (stop + ·) := by
  rw [nextBreak?, clampBound_natCast, Nat.min_eq_left within, firstOccurrence?]

theorem endsSentence_drop : EndsSentence (line.drop stop) place ↔
    EndsSentence line (stop + place) := by
  rw [EndsSentence, EndsSentence, List.drop_drop]

theorem nextBreak?_eq_none (within : stop ≤ line.length) (found : nextBreak? line stop = none) :
    ∀ other, EndsSentence line other → ¬ stop ≤ other := by
  intro other ends behind
  rw [nextBreak?_eq within, Option.map_eq_none_iff, List.head?_eq_none_iff] at found
  rw [← Nat.add_sub_cancel' behind, ← endsSentence_drop, ← mem_occurrences_sentenceBreak,
    found] at ends
  cases ends

theorem nextBreak?_eq_some (within : stop ≤ line.length)
    (found : nextBreak? line stop = some place) :
    (EndsSentence line place ∧ stop ≤ place) ∧
      ∀ other, EndsSentence line other → stop ≤ other → place ≤ other := by
  have scan : IsScan (· == ·) sentenceBreak (line.drop stop) 0
      (occurrences (· == ·) sentenceBreak (line.drop stop)) :=
    isScan_occurrences (by decide) _
  rw [nextBreak?_eq within, Option.map_eq_some_iff] at found
  rcases found with ⟨first, isFirst, rfl⟩
  rcases List.head?_eq_some_iff.mp isFirst with ⟨others, listed⟩
  constructor
  · refine ⟨?_, Nat.le_add_right _ _⟩
    rw [← endsSentence_drop, ← mem_occurrences_sentenceBreak, listed]
    exact List.mem_cons_self
  · intro other ends behind
    rw [← Nat.add_sub_cancel' behind, ← endsSentence_drop] at ends
    rw [listed] at scan
    have atMost := scan.head_le (Nat.zero_le _) (startsWithBy_beq_iff.mpr ends)
    omega

/-- The start of a window moves back behind the last end of a sentence in front of it, when
this is near. -/
theorem snapStart_cases (line : Text) (start : Nat) :
    (∃ place : Nat, snapStart line start = (place + 2 : Nat) ∧ EndsSentence line place ∧
      place + 2 ≤ start ∧ start < place + 20 ∧
      ∀ other, EndsSentence line other → other + 2 ≤ start → other ≤ place) ∨
    (snapStart line start = start ∧
      ∀ other, EndsSentence line other → other + 2 ≤ start → other + 20 ≤ start) := by
  rw [snapStart]
  cases found : lastBreak? line start with
  | none =>
      right
      refine ⟨rfl, fun other ends room => ?_⟩
      exact (lastBreak?_eq_none found other ends room).elim
  | some place =>
      rcases lastBreak?_eq_some found with ⟨⟨ends, room⟩, last⟩
      have near_iff : (start : Int) - place < snapDistance ↔ start < place + 20 := by
        rw [snapDistance]
        omega
      simp only [near_iff, length_sentenceBreak]
      split
      next near => exact .inl ⟨place, by omega, ends, room, near, last⟩
      next far =>
        right
        refine ⟨rfl, fun other otherEnds otherRoom => ?_⟩
        have before := last other otherEnds otherRoom
        omega

/-- The end of a window moves on to the first end of a sentence behind it, when this is
near. -/
theorem snapStop_cases (within : stop ≤ line.length) :
    (∃ place : Nat, snapStop line stop = (place + 1 : Nat) ∧ EndsSentence line place ∧
      stop ≤ place ∧ place < stop + 20 ∧
      ∀ other, EndsSentence line other → stop ≤ other → place ≤ other) ∨
    (snapStop line stop = stop ∧
      ∀ other, EndsSentence line other → stop ≤ other → stop + 20 ≤ other) := by
  rw [snapStop]
  cases found : nextBreak? line stop with
  | none =>
      right
      refine ⟨rfl, fun other ends behind => ?_⟩
      exact (nextBreak?_eq_none within found other ends behind).elim
  | some place =>
      rcases nextBreak?_eq_some within found with ⟨⟨ends, behind⟩, first⟩
      have near_iff : (place : Int) - stop < snapDistance ↔ place < stop + 20 := by
        rw [snapDistance]
        omega
      simp only [near_iff]
      split
      next near => exact .inl ⟨place, by omega, ends, behind, near, first⟩
      next far =>
        right
        refine ⟨rfl, fun other otherEnds otherBehind => ?_⟩
        have before := first other otherEnds otherBehind
        omega

end

/-! ## Windows that prefer sentences -/

namespace Window

variable {line : Text}

/-- A window is moved outwards to the ends of sentences: behind the last full stop and blank
in front of it, and up to the first full stop behind it that has a blank behind it, where
these are less than twenty characters away. -/
structure Widens (window wide : Window line) : Prop where
  start_le : wide.start ≤ window.start
  le_stop : window.stop ≤ wide.stop
  start_near : window.start ≤ wide.start + 17
  stop_near : wide.stop ≤ window.stop + 20
  opens : wide.start < window.start → sentenceBreak <:+ line.take wide.start
  closes : window.stop < wide.stop →
    ['.'] <:+ wide.copied ∧ EndsSentence line (wide.stop - 1)
  last : ∀ place, EndsSentence line place → place + 2 ≤ window.start →
    window.start < place + 20 → place + 2 ≤ wide.start
  first : ∀ place, EndsSentence line place → window.stop ≤ place →
    place < window.stop + 20 → wide.stop ≤ place + 1

/-- A window with its ends moved to near ends of sentences. -/
def snap (window : Window line) : Window line where
  start := (snapStart line window.start).toNat
  stop := (snapStop line window.stop).toNat
  ordered := by
    have ordered := window.ordered
    rcases snapStart_cases line window.start with ⟨place, start, _⟩ | ⟨start, _⟩ <;>
      rcases snapStop_cases window.within with ⟨other, stop, _⟩ | ⟨stop, _⟩ <;>
      rw [start, stop, Int.toNat_natCast, Int.toNat_natCast] <;> omega
  within := by
    rcases snapStop_cases window.within with ⟨place, stop, ends, _⟩ | ⟨stop, _⟩
    · have room := ends.add_two_le
      rw [stop, Int.toNat_natCast]
      omega
    · rw [stop, Int.toNat_natCast]
      exact window.within

variable (window : Window line)

theorem snapStart_eq : snapStart line window.start = window.snap.start := by
  have notNegative : 0 ≤ snapStart line window.start := by
    rcases snapStart_cases line window.start with ⟨place, start, _⟩ | ⟨start, _⟩ <;> omega
  exact (Int.toNat_of_nonneg notNegative).symm

theorem snapStop_eq : snapStop line window.stop = window.snap.stop := by
  have notNegative : 0 ≤ snapStop line window.stop := by
    rcases snapStop_cases window.within with ⟨place, stop, _⟩ | ⟨stop, _⟩ <;> omega
  exact (Int.toNat_of_nonneg notNegative).symm

/-- What the start of a widened window has to satisfy. -/
theorem snap_start (window : Window line) :
    window.snap.start ≤ window.start ∧ window.start ≤ window.snap.start + 17 ∧
      (window.snap.start < window.start → sentenceBreak <:+ line.take window.snap.start) ∧
      ∀ place, EndsSentence line place → place + 2 ≤ window.start →
        window.start < place + 20 → place + 2 ≤ window.snap.start := by
  have moved := snapStart_cases line window.start
  rw [snapStart_eq, Int.natCast_inj, exists_congr fun _ => and_congr_left' Int.natCast_inj] at moved
  rcases moved with ⟨place, start, ends, room, near, last⟩ | ⟨start, far⟩
  · rw [start]
    refine ⟨room, by omega, fun _ => ends.suffix_take, ?_⟩
    intro other otherEnds otherRoom _
    have before := last other otherEnds otherRoom
    omega
  · rw [start]
    refine ⟨Nat.le_refl _, by omega, by omega, ?_⟩
    intro other ends room near
    have notNear := far other ends room
    omega

/-- What the end of a widened window has to satisfy. -/
theorem snap_stop (window : Window line) :
    window.stop ≤ window.snap.stop ∧ window.snap.stop ≤ window.stop + 20 ∧
      (window.stop < window.snap.stop →
        ['.'] <:+ window.snap.copied ∧ EndsSentence line (window.snap.stop - 1)) ∧
      ∀ place, EndsSentence line place → window.stop ≤ place →
        place < window.stop + 20 → window.snap.stop ≤ place + 1 := by
  have moved := snapStop_cases window.within
  rw [snapStop_eq, Int.natCast_inj, exists_congr fun _ => and_congr_left' Int.natCast_inj] at moved
  rcases moved with ⟨place, stop, ends, behind, near, first⟩ | ⟨stop, far⟩
  · have before : window.snap.start ≤ place := by
      have ordered := window.ordered
      have startLe := window.snap_start.1
      omega
    rw [copied, stop]
    refine ⟨by omega, by omega, fun _ => ⟨ends.suffix_drop_take before, ends⟩, ?_⟩
    intro other otherEnds otherBehind _
    have after := first other otherEnds otherBehind
    omega
  · rw [stop]
    refine ⟨Nat.le_refl _, by omega, by omega, ?_⟩
    intro other ends behind near
    have notNear := far other ends behind
    omega

/-- Moving its ends to near ends of sentences widens a window. -/
theorem widens_snap (window : Window line) : Widens window window.snap := by
  rcases window.snap_start with ⟨start_le, start_near, opens, last⟩
  rcases window.snap_stop with ⟨le_stop, stop_near, closes, first⟩
  exact ⟨start_le, le_stop, start_near, stop_near, opens, closes, last, first⟩

/-- There is nothing to widen a whole line to. -/
theorem snap_whole (line : Text) : (whole line).snap = whole line := by
  have widens := widens_snap (whole line)
  ext
  · exact Nat.le_zero.mp widens.start_le
  · exact Nat.le_antisymm (whole line).snap.within widens.le_stop

end Window

/-- The snippet that prefers sentences shows the window around the leftmost occurrence with
its ends moved to near ends of sentences. -/
theorem extractSentences_eq (text : Text) (index : Int) (terms : List Text) (reach : Nat) :
    extractSentences text index terms reach =
      (Window.around (lineAt text index) terms reach).snap.snippet terms := by
  rw [extractSentences]
  split
  next short =>
    rw [extract_eq, Window.around_of_short (isShort_iff.mp short), Window.snap_whole]
  next long =>
    rw [isShort_iff, Nat.not_le] at long
    rw [bounds_eq long]
    simp only [Window.snapStart_eq, Window.snapStop_eq]
    exact window_eq _ terms

/-! ## Both windows of a line -/

/-- A line that is not longer than both sides of the window is shown whole.  In a longer line
the window begins and ends as far from the leftmost occurrence as it reaches, or where the line
does, and the window that prefers sentences is this one, widened. -/
theorem extractSentences_widens (text : Text) (index : Int) (terms : List Text) (reach : Nat) :
    let line := lineAt text index
    let first := leftmost line terms
    (line.length ≤ 2 * reach →
      (extract text index terms reach).text = line ∧
        (extractSentences text index terms reach).text = line) ∧
    (2 * reach < line.length → ∃ window wide : Window line,
      window.start = first - reach ∧ window.stop = min line.length (first + reach) ∧
      window.start ≤ first ∧ first ≤ window.stop ∧
      (extract text index terms reach).text = window.text ∧
      (extractSentences text index terms reach).text = wide.text ∧
      window.Widens wide) := by
  intro line first
  rw [extractSentences_eq, extract_eq]
  constructor
  · intro short
    rw [Window.around_of_short short, Window.snap_whole]
    exact ⟨Window.text_whole line, Window.text_whole line⟩
  · intro long
    rcases Window.around_of_long terms long with ⟨start, stop⟩
    have inLine : first ≤ line.length := leftmost_le_length line terms
    refine ⟨Window.around line terms reach, (Window.around line terms reach).snap, start, stop,
      ?_, ?_, rfl, rfl, Window.widens_snap _⟩
    · omega
    · omega

end SpecFinder.Snippet
