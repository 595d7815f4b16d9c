import SpecFinder.Text.Folding
import SpecFinder.Text.Occurrence
import SpecFinder.Proofs.Text.Pieces

/-!
# What a scan finds

A scan lists occurrences that do not overlap, so it passes over some of them.  It still
finds one exactly when there is one.  This holds for every way of comparing characters
that looks at a key of each: the character itself, or what stands for it when case is
ignored.
-/

namespace SpecFinder.Text

section

variable {key : Char → Char} {part : Text}

/-- A text starts with a part when the keys of the text start with those of the part. -/
theorem startsWithBy_iff_isPrefix (part text : Text) :
    startsWithBy (fun left right => key left == key right) part text = true ↔
      part.map key <+: text.map key := by
  induction part generalizing text with
  | nil => simp [startsWithBy]
  | cons wanted part ih =>
      cases text with
      | nil => simp [startsWithBy]
      | cons char text => simp [startsWithBy, ih, List.cons_prefix_cons]

theorem scanFrom_ne_nil_iff (nonempty : part ≠ []) (start : Nat) (text : Text) :
    scanFrom (fun left right => key left == key right) part start 0 text ≠ [] ↔
      part.map key <:+: text.map key := by
  induction text generalizing start with
  | nil => simp [scanFrom, nonempty]
  | cons char rest ih =>
      rw [List.map_cons, List.infix_cons_iff, ← List.map_cons, ← startsWithBy_iff_isPrefix,
        ← ih (start + 1), scanFrom]
      cases startsWithBy (fun left right => key left == key right) part (char :: rest) with
      | false => simp
      | true => simp

/-- A scan finds an occurrence exactly when there is one. -/
theorem occurrences_ne_nil_iff (nonempty : part ≠ []) (text : Text) :
    occurrences (fun left right => key left == key right) part text ≠ [] ↔
      part.map key <:+: text.map key :=
  scanFrom_ne_nil_iff nonempty 0 text

end

/-- A count is positive exactly when the part occurs. -/
theorem countOccurrences_pos_iff {part : Text} (nonempty : part ≠ []) (text : Text) :
    0 < countOccurrences part text ↔ part <:+: text := by
  have found : occurrences (· == ·) part text ≠ [] ↔ part.map id <:+: text.map id :=
    occurrences_ne_nil_iff nonempty text
  rw [List.map_id, List.map_id] at found
  rw [countOccurrences, List.length_pos_iff]
  exact found

/-- When case is ignored, a scan finds an occurrence exactly when there is one in what
stands for the text. -/
theorem occurrences_alike_ne_nil_iff {part : Text} (nonempty : part ≠ []) (text : Text) :
    occurrences alike part text ≠ [] ↔ part.map fold <:+: text.map fold :=
  occurrences_ne_nil_iff nonempty text

/-- When case is ignored, a text starts with a part when what stands for the text does. -/
theorem startsWithBy_alike_iff {part text : Text} :
    startsWithBy alike part text = true ↔ part.map fold <+: text.map fold :=
  startsWithBy_iff_isPrefix part text

/-! ## What a scan lists -/

/-- The places that a scan from left to right lists, from a first place on: there the part
occurs, they follow each other without an overlap, and an occurrence is passed over only when
one in front of it reaches into it. -/
structure IsScan (same : Char → Char → Bool) (part text : Text) (first : Nat)
    (places : List Nat) : Prop where
  occurs : ∀ place ∈ places, first ≤ place ∧ startsWithBy same part (text.drop place) = true
  apart : places.Pairwise fun earlier later => earlier + part.length ≤ later
  complete : ∀ place, first ≤ place → startsWithBy same part (text.drop place) = true →
    ∃ found ∈ places, found ≤ place ∧ place < found + part.length

section

variable {same : Char → Char → Bool} {part text : Text}

theorem length_le_of_startsWithBy (starts : startsWithBy same part text = true) :
    part.length ≤ text.length := by
  induction part generalizing text with
  | nil => exact Nat.zero_le _
  | cons wanted part ih =>
      cases text with
      | nil => cases starts
      | cons char text =>
          simp only [startsWithBy, Bool.and_eq_true] at starts
          exact Nat.succ_le_succ (ih starts.2)

/-- The front of a text starts with a part when the text does and the front has room for it. -/
theorem startsWithBy_take_iff {count : Nat} :
    startsWithBy same part (text.take count) = true ↔
      startsWithBy same part text = true ∧ part.length ≤ count := by
  induction part generalizing text count with
  | nil => simp [startsWithBy]
  | cons wanted part ih =>
      cases text with
      | nil => simp [startsWithBy]
      | cons char text =>
          cases count with
          | zero => simp [startsWithBy]
          | succ count => simp [startsWithBy, ih, and_assoc]

/-- Each character of a part that a text starts with is compared to one of the text. -/
theorem exists_same_of_startsWithBy (starts : startsWithBy same part text = true) {index : Nat}
    {wanted : Char} (inPart : part[index]? = some wanted) :
    ∃ char, text[index]? = some char ∧ same wanted char = true := by
  induction part generalizing text index with
  | nil => cases inPart
  | cons first part ih =>
      cases text with
      | nil => cases starts
      | cons char text =>
          simp only [startsWithBy, Bool.and_eq_true] at starts
          cases index with
          | zero =>
              cases inPart
              exact ⟨char, rfl, starts.1⟩
          | succ index => exact ih starts.2 inPart

namespace IsScan

variable {first place : Nat} {places others : List Nat}

/-- Every place that is listed has room for the part behind it. -/
theorem place_add_length_le (scan : IsScan same part text first places) (nonempty : part ≠ [])
    (listed : place ∈ places) : place + part.length ≤ text.length := by
  have fits := length_le_of_startsWithBy (scan.occurs place listed).2
  have positive := List.length_pos_iff.mpr nonempty
  rw [List.length_drop] at fits
  omega

/-- A scan that finds nothing at a place goes on at the next one. -/
theorem skip (scan : IsScan same part text (place + 1) places)
    (absent : startsWithBy same part (text.drop place) = false) :
    IsScan same part text place places where
  occurs := by
    intro found listed
    have occurs := scan.occurs found listed
    exact ⟨by omega, occurs.2⟩
  apart := scan.apart
  complete := by
    intro other behind occurs
    rcases Nat.eq_or_lt_of_le behind with rfl | later
    · rw [absent] at occurs
      cases occurs
    · exact scan.complete other later occurs

/-- A scan that finds the part goes on behind it. -/
theorem cons (scan : IsScan same part text (place + part.length) places)
    (here : startsWithBy same part (text.drop place) = true) :
    IsScan same part text place (place :: places) where
  occurs := by
    refine List.forall_mem_cons.mpr ⟨⟨Nat.le_refl place, here⟩, ?_⟩
    intro found listed
    have occurs := scan.occurs found listed
    exact ⟨by omega, occurs.2⟩
  apart := .cons (fun found listed => (scan.occurs found listed).1) scan.apart
  complete := by
    intro other behind occurs
    by_cases covered : other < place + part.length
    · exact ⟨place, List.mem_cons_self, behind, covered⟩
    · rcases scan.complete other (by omega) occurs with ⟨found, listed, before⟩
      exact ⟨found, List.mem_cons_of_mem place listed, before⟩

/-- Behind the first occurrence there is a scan again. -/
theorem tail (scan : IsScan same part text first (place :: places)) :
    IsScan same part text (place + part.length) places where
  occurs := by
    intro found listed
    have occurs := scan.occurs found (List.mem_cons_of_mem place listed)
    exact ⟨(List.pairwise_cons.mp scan.apart).1 found listed, occurs.2⟩
  apart := (List.pairwise_cons.mp scan.apart).2
  complete := by
    intro other behind occurs
    have start := (scan.occurs place List.mem_cons_self).1
    rcases scan.complete other (by omega) occurs with ⟨found, listed, before, reaches⟩
    rcases List.mem_cons.mp listed with rfl | later
    · omega
    · exact ⟨found, later, before, reaches⟩

/-- No occurrence stands in front of the first one that is listed. -/
theorem head_le (scan : IsScan same part text first (place :: places)) {other : Nat}
    (behind : first ≤ other) (occurs : startsWithBy same part (text.drop other) = true) :
    place ≤ other := by
  rcases scan.complete other behind occurs with ⟨found, listed, before, _⟩
  rcases List.mem_cons.mp listed with rfl | later
  · exact before
  · have follows := (List.pairwise_cons.mp scan.apart).1 found later
    omega

/-- There is only one scan. -/
theorem unique (scan : IsScan same part text first places)
    (otherScan : IsScan same part text first others) : places = others := by
  -- What one list begins with, the other one has to find.
  have nothing {first place : Nat} {places : List Nat}
      (scan : IsScan same part text first (place :: places))
      (empty : IsScan same part text first []) : False := by
    have occurs := scan.occurs place List.mem_cons_self
    rcases empty.complete place occurs.1 occurs.2 with ⟨found, listed, _⟩
    cases listed
  induction places generalizing first others with
  | nil =>
      cases others with
      | nil => rfl
      | cons place others => exact (nothing otherScan scan).elim
  | cons place places ih =>
      cases others with
      | nil => exact (nothing scan otherScan).elim
      | cons other others =>
          have occurs := scan.occurs place List.mem_cons_self
          have otherOccurs := otherScan.occurs other List.mem_cons_self
          obtain rfl : place = other := Nat.le_antisymm
            (scan.head_le otherOccurs.1 otherOccurs.2) (otherScan.head_le occurs.1 occurs.2)
          rw [ih scan.tail otherScan.tail]

end IsScan

theorem isScan_scanFrom (nonempty : part ≠ []) {whole : Text} {start skip : Nat}
    (here : whole.drop start = text) :
    IsScan same part whole (start + skip) (scanFrom same part start skip text) := by
  have next {char : Char} {rest : Text} {place : Nat} (found : whole.drop place = char :: rest) :
      whole.drop (place + 1) = rest := by
    rw [← List.drop_drop, found, List.drop_one, List.tail_cons]
  fun_induction scanFrom same part start skip text with
  | case1 start skip =>
      refine ⟨by simp, .nil, ?_⟩
      intro place behind occurs
      have positive := List.length_pos_iff.mpr nonempty
      have beyond := List.drop_eq_nil_iff.mp here
      have fits := length_le_of_startsWithBy occurs
      rw [List.length_drop] at fits
      omega
  | case2 start skip char rest ih =>
      have scan := ih (next here)
      rwa [Nat.add_right_comm] at scan
  | case3 start char rest occurs ih =>
      have positive := List.length_pos_iff.mpr nonempty
      have scan := ih (next here)
      have behind : start + 1 + (part.length - 1) = start + part.length := by omega
      rw [behind] at scan
      exact scan.cons (by rw [here]; exact occurs)
  | case4 start char rest absent ih =>
      exact (ih (next here)).skip (by rw [here]; simpa using absent)

/-- The occurrences of a part are the scan of the text. -/
theorem isScan_occurrences (nonempty : part ≠ []) (text : Text) :
    IsScan same part text 0 (occurrences same part text) := by
  have scan : IsScan same part text (0 + 0) (scanFrom same part 0 0 text) :=
    isScan_scanFrom nonempty List.drop_zero
  exact scan

end

end SpecFinder.Text
