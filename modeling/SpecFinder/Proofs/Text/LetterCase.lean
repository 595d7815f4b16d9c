import Mathlib.Data.List.Basic
import SpecFinder.Proofs.Text.CaseTable
import SpecFinder.Proofs.Text.Pieces

/-!
# Laws of lower case

Lower case is a normal form: to lower a text twice is to lower it once.  It also
respects white space.  White space stays as it is, nothing else becomes white space, and
since it ends words, the form of a sigma never depends on what stands behind it.  To
lower a text is therefore to lower its words, or its rows, one by one.
-/

namespace SpecFinder.Text

/-! ## One character -/

theorem not_basic_letter_of_isCaseless {char : Char} (caseless : isCaseless char = true) :
    ¬ (0x41 ≤ char.toNat ∧ char.toNat ≤ 0x5A) ∧ ¬ (0x61 ≤ char.toNat ∧ char.toNat ≤ 0x7A) := by
  have outside : ∀ range ∈ caseRanges, ¬ (range.1 ≤ char.toNat ∧ char.toNat ≤ range.2) := by
    intro range listed within
    have inside := inRanges_eq_true.mpr ⟨range, listed, within⟩
    simp [isCaseless, inside] at caseless
  exact ⟨outside (0x41, 0x5A) (by simp [caseRanges]), outside (0x61, 0x7A) (by simp [caseRanges])⟩

theorem toLower_eq_or (char : Char) :
    char.toLower = char ∨
      (0x41 ≤ char.toNat ∧ char.toNat ≤ 0x5A) ∧ char.toLower.toNat = char.toNat + 32 := by
  delta Char.toLower
  split
  next capital =>
    have range : 0x41 ≤ char.toNat ∧ char.toNat ≤ 0x5A := capital
    refine .inr ⟨range, ?_⟩
    change (char.val + 32).toNat = char.toNat + 32
    rw [UInt32.toNat_add]
    exact Nat.mod_eq_of_lt (by change char.toNat + 32 < _; omega)
  next => exact .inl rfl

theorem toLower_toLower (char : Char) : char.toLower.toLower = char.toLower := by
  rcases toLower_eq_or char with same | ⟨range, shifted⟩
  · rw [same, same]
  · rcases toLower_eq_or char.toLower with same | ⟨capital, _⟩
    · exact same
    · omega

/-- The ways in which a character has its small letter. -/
theorem smallLetter_cases (char : Char) :
    smallLetter char = char ∨
      (char.toNat < 0x80 ∧ smallLetter char = char.toLower) ∨
      (char = 'İ' ∧ smallLetter char = 'i') ∨
      ∃ run ∈ capitalRuns, ∃ small, run.smallOf? char.toNat = some small ∧
        smallLetter char = Char.ofNat small := by
  by_cases basic : char.toNat < 0x80
  · exact .inr (.inl ⟨basic, by simp [smallLetter, basic]⟩)
  · by_cases dotted : char = 'İ'
    · exact .inr (.inr (.inl ⟨dotted, by simp [smallLetter, dotted]⟩))
    · cases found : capitalRuns.findSome? (·.smallOf? char.toNat) with
      | none => exact .inl (by simp [smallLetter, basic, dotted, found])
      | some small =>
          rcases List.exists_of_findSome?_eq_some found with ⟨run, listed, gives⟩
          refine .inr (.inr (.inr ⟨run, listed, small, gives, ?_⟩))
          simp [smallLetter, basic, dotted, found]

/-- The small letter that a run gives is the character of its code point. -/
theorem toNat_small {run : CapitalRun} (listed : run ∈ capitalRuns) {codePoint small : Nat}
    (found : run.smallOf? codePoint = some small) : (Char.ofNat small).toNat = small := by
  have range := CapitalRun.small_mem_range found
  have proper := CapitalRun.isProper_of_mem listed
  simp only [CapitalRun.isProper, Bool.and_eq_true, Bool.or_eq_true, Nat.ble_eq, Nat.blt_eq]
    at proper
  have valid : small.isValidChar := by
    simp only [Nat.isValidChar]
    omega
  rw [Char.ofNat, dif_pos valid]
  rfl

/-- A small letter that a run gives is small. -/
theorem smallLetter_small {run : CapitalRun} (listed : run ∈ capitalRuns)
    {codePoint small : Nat} (found : run.smallOf? codePoint = some small) :
    smallLetter (Char.ofNat small) = Char.ofNat small := by
  have range := CapitalRun.small_mem_range found
  have proper := CapitalRun.isProper_of_mem listed
  simp only [CapitalRun.isProper, liesApart, Bool.and_eq_true, Bool.or_eq_true, Nat.ble_eq,
    Nat.blt_eq] at proper
  have code := toNat_small listed found
  by_cases basic : small < 0x80
  · rcases toLower_eq_or (Char.ofNat small) with same | ⟨capital, _⟩
    · simp [smallLetter, code, basic, same]
    · omega
  · have notDotted : Char.ofNat small ≠ 'İ' := by
      intro dotted
      have sameCode := congrArg Char.toNat dotted
      rw [code] at sameCode
      have dottedCode : 'İ'.toNat = 0x130 := by decide
      omega
    have noRun : capitalRuns.findSome? (·.smallOf? small) = none := by
      rw [List.findSome?_eq_none_iff]
      intro other otherListed
      exact CapitalRun.smallOf?_small listed otherListed found
    simp [smallLetter, code, basic, notDotted, noRun]

/-- The small letter of a character has no other small letter. -/
@[simp] theorem smallLetter_smallLetter (char : Char) :
    smallLetter (smallLetter char) = smallLetter char := by
  rcases smallLetter_cases char with same | ⟨basic, lowers⟩ | ⟨_, dotless⟩ |
    ⟨run, listed, small, found, isSmall⟩
  · rw [same, same]
  · have stillBasic : char.toLower.toNat < 0x80 := by
      rcases toLower_eq_or char with same | ⟨range, shifted⟩
      · rwa [same]
      · omega
    rw [lowers]
    simp [smallLetter, stillBasic, toLower_toLower]
  · rw [dotless]
    decide
  · rw [isSmall]
    exact smallLetter_small listed found

/-- The characters whose lower-case form has a rule of its own, and those that they become. -/
def ruledLetters : Text := ['Σ', 'ς', 'σ', 'İ', 'i', '\u0307']

theorem isCaseless_of_mem_ruledLetters {char : Char} (ruled : char ∈ ruledLetters) :
    isCaseless char = false := by
  have checked : (ruledLetters.all fun char => !isCaseless char) = true := by decide +kernel
  simpa using List.all_eq_true.mp checked char ruled

/-- Of these, just the capital ones have a small letter. -/
theorem smallLetter_ruledLetters {char : Char} (ruled : char ∈ ruledLetters) :
    smallLetter char = char ↔ char ≠ 'Σ' ∧ char ≠ 'İ' := by
  have checked : (ruledLetters.all fun char =>
      (smallLetter char == char) == (char != 'Σ' && char != 'İ')) = true := by
    decide +kernel
  have same := List.all_eq_true.mp checked char ruled
  rw [beq_iff_eq, Bool.eq_iff_iff] at same
  simpa using same

/-- Only a character without case becomes one. -/
theorem eq_of_isCaseless_smallLetter {char : Char}
    (caseless : isCaseless (smallLetter char) = true ∨ isCaseless char = true) :
    smallLetter char = char := by
  have noCase {other : Char} (bears : inRanges caseRanges other.toNat = true) :
      isCaseless other = false := by
    simp [isCaseless, bears]
  rcases smallLetter_cases char with same | ⟨_, lowers⟩ | ⟨dotted, dotless⟩ |
    ⟨run, listed, small, found, isSmall⟩
  · exact same
  · rw [lowers] at caseless ⊢
    rcases toLower_eq_or char with same | ⟨range, shifted⟩
    · exact same
    · rcases caseless with after | before
      · have letter := (not_basic_letter_of_isCaseless after).2
        omega
      · exact ((not_basic_letter_of_isCaseless before).1 range).elim
  · rw [dotless, dotted, isCaseless_of_mem_ruledLetters (by simp [ruledLetters]),
      isCaseless_of_mem_ruledLetters (by simp [ruledLetters])] at caseless
    simp at caseless
  · have bears := inRanges_caseRanges_of_mem listed found
    rw [isSmall] at caseless
    rcases caseless with after | before
    · simp [noCase (by rw [toNat_small listed found]; exact bears.2)] at after
    · simp [noCase bears.1] at before

/-! ## A whole text -/

/-- The characters of a lower-case form have no other small letter. -/
theorem smallLetter_of_mem_lowerFrom {before text : Text} {char : Char}
    (member : char ∈ lowerFrom before text) : smallLetter char = char := by
  induction text generalizing before with
  | nil => simp [lowerFrom] at member
  | cons first rest ih =>
      rw [lowerFrom, List.mem_append] at member
      rcases member with here | later
      · simp only [lowerAt] at here
        split at here
        · rw [List.mem_singleton] at here
          split at here
          · rw [here, smallLetter_ruledLetters (by simp [ruledLetters])]
            decide
          · rw [here, smallLetter_ruledLetters (by simp [ruledLetters])]
            decide
        · split at here
          · rcases List.mem_cons.mp here with isLetter | isDot
            · rw [isLetter, smallLetter_ruledLetters (by simp [ruledLetters])]
              decide
            · rw [List.mem_singleton.mp isDot, smallLetter_ruledLetters (by simp [ruledLetters])]
              decide
          · rw [List.mem_singleton.mp here, smallLetter_smallLetter]
      · exact ih later

/-- A text of small characters is its own lower-case form. -/
theorem lowerFrom_of_small {before text : Text}
    (small : ∀ char ∈ text, smallLetter char = char) : lowerFrom before text = text := by
  induction text generalizing before with
  | nil => rfl
  | cons char rest ih =>
      have isSmall := small char (by simp)
      have notSigma : char ≠ 'Σ' := by
        rintro rfl
        exact ((smallLetter_ruledLetters (by simp [ruledLetters])).mp isSmall).1 rfl
      have notDotted : char ≠ 'İ' := by
        rintro rfl
        exact ((smallLetter_ruledLetters (by simp [ruledLetters])).mp isSmall).2 rfl
      have restSmall : ∀ other ∈ rest, smallLetter other = other := by
        intro other member
        exact small other (List.mem_cons_of_mem char member)
      simp [lowerFrom, lowerAt, notSigma, notDotted, isSmall, ih restSmall]

/-- Lower case is a normal form. -/
@[simp] theorem lower_lower (text : Text) : lower (lower text) = lower text := by
  apply lowerFrom_of_small
  intro char member
  exact smallLetter_of_mem_lowerFrom member

@[simp] theorem lower_nil : lower [] = [] := rfl

theorem lowerAt_ne_nil (before : Text) (char : Char) (after : Text) :
    lowerAt before char after ≠ [] := by
  simp only [lowerAt]
  split
  · simp
  · split <;> simp

@[simp] theorem lower_eq_nil_iff {text : Text} : lower text = [] ↔ text = [] := by
  cases text with
  | nil => simp
  | cons char rest => simp [lower, lowerFrom, lowerAt_ne_nil]

/-- No text is shorter in lower case. -/
theorem length_le_lower (text : Text) : text.length ≤ (lower text).length := by
  have longer (before : Text) : text.length ≤ (lowerFrom before text).length := by
    induction text generalizing before with
    | nil => exact Nat.zero_le _
    | cons char rest ih =>
        have behind := ih (char :: before)
        have here := List.length_pos_iff.mpr (lowerAt_ne_nil before char rest)
        rw [lowerFrom, List.length_append, List.length_cons]
        omega
  exact longer []

theorem lowerAt_of_isCaseless {char : Char} (caseless : isCaseless char = true)
    (before after : Text) : lowerAt before char after = [char] := by
  have same := eq_of_isCaseless_smallLetter (.inr caseless)
  have notRuled : char ∉ ruledLetters := by
    intro ruled
    simp [isCaseless_of_mem_ruledLetters ruled] at caseless
  have notSigma : char ≠ 'Σ' := by
    rintro rfl
    simp [ruledLetters] at notRuled
  have notDotted : char ≠ 'İ' := by
    rintro rfl
    simp [ruledLetters] at notRuled
  simp [lowerAt, notSigma, notDotted, same]

/-- A character without case in a character's lower-case form is that character. -/
theorem eq_of_mem_lowerAt {before after : Text} {char other : Char}
    (caseless : isCaseless char = true) (member : char ∈ lowerAt before other after) :
    char = other := by
  have notRuled : char ∉ ruledLetters := by
    intro ruled
    simp [isCaseless_of_mem_ruledLetters ruled] at caseless
  simp only [lowerAt] at member
  split at member
  · rw [List.mem_singleton] at member
    split at member <;> simp [member, ruledLetters] at notRuled
  · split at member
    · rcases List.mem_cons.mp member with isLetter | isDot
      · simp [isLetter, ruledLetters] at notRuled
      · simp [List.mem_singleton.mp isDot, ruledLetters] at notRuled
    · rw [List.mem_singleton] at member
      rw [member] at caseless ⊢
      exact eq_of_isCaseless_smallLetter (.inl caseless)

/-- Characters without case are those of the text. -/
theorem mem_lower_iff {text : Text} {char : Char} (caseless : isCaseless char = true) :
    char ∈ lower text ↔ char ∈ text := by
  simp only [lower]
  generalize ([] : Text) = before
  induction text generalizing before with
  | nil => simp [lowerFrom]
  | cons first rest ih =>
      rw [lowerFrom, List.mem_append, List.mem_cons, ih]
      constructor
      · rintro (here | later)
        · exact .inl (eq_of_mem_lowerAt caseless here)
        · exact .inr later
      · rintro (rfl | later)
        · exact .inl (by simp [lowerAt_of_isCaseless caseless])
        · exact .inr later

/-- A text begins with a character without case when its lower-case form does. -/
theorem head?_of_head?_lower {text : Text} {char : Char} (caseless : isCaseless char = true)
    (begins : (lower text).head? = some char) : text.head? = some char := by
  cases text with
  | nil => simp at begins
  | cons first rest =>
      rw [lower, lowerFrom, List.head?_append_of_ne_nil _ (lowerAt_ne_nil [] first rest)] at begins
      rw [eq_of_mem_lowerAt caseless (List.mem_of_head? begins), List.head?_cons]

/-- A text ends with a character without case when its lower-case form does. -/
theorem getLast?_of_getLast?_lower {text : Text} {char : Char} (caseless : isCaseless char = true)
    (ends : (lower text).getLast? = some char) : text.getLast? = some char := by
  rw [lower] at ends
  generalize ([] : Text) = before at ends
  induction text generalizing before with
  | nil => simp [lowerFrom] at ends
  | cons first rest ih =>
      rw [lowerFrom] at ends
      cases rest with
      | nil =>
          rw [lowerFrom, List.append_nil] at ends
          rw [eq_of_mem_lowerAt caseless (List.mem_of_getLast? ends), List.getLast?_singleton]
      | cons second rest =>
          have behind : lowerFrom (first :: before) (second :: rest) ≠ [] := by
            simp [lowerFrom, lowerAt_ne_nil]
          rw [List.getLast?_append_of_ne_nil _ behind] at ends
          rw [List.getLast?_cons_cons]
          exact ih (first :: before) ends

/-! ## Separators -/

theorem meetsCased_append_cons {mark : Char} (blank : isBlank mark = true)
    (front back : Text) : meetsCased (front ++ mark :: back) = meetsCased front := by
  rcases ends_word_of_isBlank blank with ⟨notIgnorable, notCased⟩
  induction front with
  | nil => simp [meetsCased, notIgnorable, notCased]
  | cons char front ih =>
      simp only [meetsCased] at ih ⊢
      by_cases ignorable : isCaseIgnorable char = true
      · simpa [ignorable] using ih
      · simp [ignorable]

/-- What stands behind white space is lowered as if nothing stood before. -/
theorem lowerFrom_behind {mark : Char} (blank : isBlank mark = true)
    (near far text : Text) : lowerFrom (near ++ mark :: far) text = lowerFrom near text := by
  induction text generalizing near with
  | nil => rfl
  | cons char rest ih =>
      have sameForm : lowerAt (near ++ mark :: far) char rest = lowerAt near char rest := by
        simp only [lowerAt]
        rw [meetsCased_append_cons blank]
      have sameRest := ih (char :: near)
      rw [List.cons_append] at sameRest
      rw [lowerFrom, lowerFrom, sameForm, sameRest]

theorem lowerFrom_append_cons {mark : Char} (blank : isBlank mark = true)
    (before front back : Text) :
    lowerFrom before (front ++ mark :: back) = lowerFrom before front ++ mark :: lower back := by
  induction front generalizing before with
  | nil =>
      have alone := lowerAt_of_isCaseless (isCaseless_of_isBlank blank) before back
      have apart : lowerFrom (mark :: before) back = lower back :=
        lowerFrom_behind blank [] before back
      simp [lowerFrom, alone, apart]
  | cons char front ih =>
      have sameForm : lowerAt before char (front ++ mark :: back) = lowerAt before char front := by
        simp only [lowerAt]
        rw [meetsCased_append_cons blank]
      rw [List.cons_append, lowerFrom, lowerFrom, sameForm, ih, List.append_assoc]

/-- White space cuts a text into parts that are lowered each on its own. -/
theorem lower_append_cons {mark : Char} (blank : isBlank mark = true) (front back : Text) :
    lower (front ++ mark :: back) = lower front ++ mark :: lower back :=
  lowerFrom_append_cons blank [] front back

/-- Lowering a text brings no white space into it. -/
theorem uncut_lower {separates : Char → Bool}
    (blank : ∀ char, separates char = true → isBlank char = true) {text : Text}
    (uncut : ∀ char ∈ text, separates char = false) :
    ∀ char ∈ lower text, separates char = false := by
  intro char member
  cases cuts : separates char with
  | false => rfl
  | true =>
      have original := (mem_lower_iff (isCaseless_of_isBlank (blank char cuts))).mp member
      rw [uncut char original] at cuts
      cases cuts

theorem IsWord.lower {word : Text} (isWord : IsWord word) : IsWord (lower word) where
  nonempty := by simpa using isWord.nonempty
  solid := uncut_lower (fun _ blank => blank) isWord.solid

/-- To cut the lower-case form at white space is to lower the pieces. -/
theorem splitWhere_lower {separates : Char → Bool}
    (blank : ∀ char, separates char = true → isBlank char = true) (text : Text) :
    splitWhere separates (lower text) = (splitWhere separates text).map lower := by
  induction text using cutInduction separates with
  | last piece uncut =>
      rw [splitWhere_of_none uncut, splitWhere_of_none (uncut_lower blank uncut)]
      rfl
  | cut piece mark back uncut cuts ih =>
      rw [lower_append_cons (blank mark cuts), splitWhere_append_cons cuts,
        splitWhere_append_cons cuts, splitWhere_of_none uncut,
        splitWhere_of_none (uncut_lower blank uncut), ih]
      rfl

/-- The words of the lower-case form are the lower-case words. -/
theorem words_lower (text : Text) : words (lower text) = (words text).map lower := by
  have nonempty : ((fun piece : Text => !piece.isEmpty) ∘ lower) =
      fun piece : Text => !piece.isEmpty := by
    funext piece
    cases piece with
    | nil => rfl
    | cons char piece =>
        cases found : lower (char :: piece) with
        | nil => simp at found
        | cons first rest => simp [found]
  simp only [words]
  rw [splitWhere_lower (fun _ blank => blank), List.filter_map, nonempty]

/-- The rows of the lower-case form are the lower-case rows. -/
theorem rows_lower (text : Text) : rows (lower text) = (rows text).map lower := by
  apply splitWhere_lower
  intro char isFeed
  rw [beq_iff_eq.mp isFeed]
  decide

/-- Texts joined by blanks are lowered each on its own. -/
theorem lower_join (texts : List Text) :
    lower (join [' '] texts) = join [' '] (texts.map lower) := by
  induction texts with
  | nil => rfl
  | cons text texts ih =>
      cases texts with
      | nil => rfl
      | cons next texts =>
          have blank : isBlank ' ' = true := by decide
          calc lower (join [' '] (text :: next :: texts))
              = lower (text ++ ' ' :: join [' '] (next :: texts)) := by simp [join]
            _ = lower text ++ ' ' :: lower (join [' '] (next :: texts)) :=
                lower_append_cons blank text _
            _ = join [' '] ((text :: next :: texts).map lower) := by
                rw [ih]
                simp [join]

end SpecFinder.Text
