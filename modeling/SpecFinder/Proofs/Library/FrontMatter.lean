import SpecFinder.FrontMatter
import SpecFinder.Proofs.Text.Lines

/-!
# Heads and bodies

A document with a head is a line of dashes, the head, a second such line and the body, and
nothing of it is lost.  The head goes as far as it can without such a line, so the parts are
found again in what they make, if the head ends its last line and has no line of dashes.
A document without a second such line, or with another line in front, is a body as a whole.
-/

namespace SpecFinder.FrontMatter

open Text

/-- The line between head and body, without the white space around it. -/
def dashes : Text := "---".toList

section

variable {text head body line : Text} {all before behind : List Text}

theorem isDelimiter_iff : isDelimiter line = true ↔ trim line = dashes := beq_iff_eq

theorem isDelimiter_eq_false_iff : isDelimiter line = false ↔ trim line ≠ dashes := by
  rw [← Bool.not_eq_true, isDelimiter_iff]

/-! ## The first delimiter -/

theorem cutAtDelimiter_cons_of_isDelimiter (delimits : isDelimiter line = true) :
    cutAtDelimiter (line :: behind) = some ([], behind) := if_pos delimits

theorem cutAtDelimiter_cons_of_not_isDelimiter (goesOn : ¬ isDelimiter line = true) :
    cutAtDelimiter (line :: all) = (cutAtDelimiter all).map (Prod.map (line :: ·) id) :=
  if_neg goesOn

theorem cutAtDelimiter_eq_none_iff :
    cutAtDelimiter all = none ↔ ∀ line ∈ all, trim line ≠ dashes := by
  induction all with
  | nil => exact iff_of_true rfl (List.forall_mem_nil _)
  | cons first all ih =>
      rw [List.forall_mem_cons, ← ih, ne_eq, ← isDelimiter_iff]
      by_cases delimits : isDelimiter first = true
      · simp [cutAtDelimiter_cons_of_isDelimiter delimits, delimits]
      · simp [cutAtDelimiter_cons_of_not_isDelimiter delimits, delimits]

/-- Lines are cut at the first delimiter among them. -/
theorem cutAtDelimiter_append {closing : Text} (undivided : ∀ line ∈ before, trim line ≠ dashes)
    (closes : trim closing = dashes) (behind : List Text) :
    cutAtDelimiter (before ++ closing :: behind) = some (before, behind) := by
  induction before with
  | nil => exact cutAtDelimiter_cons_of_isDelimiter (isDelimiter_iff.mpr closes)
  | cons first before ih =>
      rw [List.forall_mem_cons, ne_eq, ← isDelimiter_iff] at undivided
      rw [List.cons_append, cutAtDelimiter_cons_of_not_isDelimiter undivided.1, ih undivided.2]
      rfl

theorem of_cutAtDelimiter_eq_some (cut : cutAtDelimiter all = some (before, behind)) :
    (∀ line ∈ before, trim line ≠ dashes) ∧
      ∃ closing, trim closing = dashes ∧ all = before ++ closing :: behind := by
  induction all generalizing before with
  | nil => cases cut
  | cons first all ih =>
      by_cases delimits : isDelimiter first = true
      · rw [cutAtDelimiter_cons_of_isDelimiter delimits] at cut
        cases cut
        exact ⟨List.forall_mem_nil _, first, isDelimiter_iff.mp delimits, rfl⟩
      · rw [cutAtDelimiter_cons_of_not_isDelimiter delimits] at cut
        rcases Option.map_eq_some_iff.mp cut with ⟨⟨before, behind⟩, later, whole⟩
        cases whole
        rcases ih later with ⟨undivided, closing, closes, rest⟩
        rw [isDelimiter_iff] at delimits
        exact ⟨List.forall_mem_cons.mpr ⟨delimits, undivided⟩, closing, closes, by rw [rest]; rfl⟩

/-! ## Splitting -/

/-- Whether a text has no head: its first line, if there is one, is no delimiter, or none of the
others is. -/
def HasNoHead (text : Text) : Prop :=
  (∀ first ∈ (lines text).head?, trim first ≠ dashes) ∨
    ∀ line ∈ (lines text).tail, trim line ≠ dashes

/-- Whether a text is made of a head and a body, with a delimiter in front of each that is a
line of the text, and no other between them. -/
structure IsMadeOf (text head body first closing : Text) : Prop where
  text_eq : text = first ++ head ++ closing ++ body
  lines_eq : lines text = first :: lines head ++ closing :: lines body
  opens : trim first = dashes
  closes : trim closing = dashes
  undivided : ∀ line ∈ lines head, trim line ≠ dashes

theorem split_of_hasNoHead (noHead : HasNoHead text) : split text = (none, text) := by
  rw [split]
  cases all : lines text with
  | nil => rfl
  | cons first rest =>
      simp only [HasNoHead, all, List.head?_cons, Option.mem_some_iff, forall_eq',
        List.tail_cons, ← @isDelimiter_eq_false_iff first,
        ← cutAtDelimiter_eq_none_iff] at noHead
      rcases noHead with notFirst | noOther
      · simp [notFirst]
      · simp [noOther]

/-- The head and the body of a text are found in its lines. -/
theorem split_of_lines_eq {first closing : Text}
    (whole : lines text = first :: before ++ closing :: behind) (opens : trim first = dashes)
    (closes : trim closing = dashes) (undivided : ∀ line ∈ before, trim line ≠ dashes) :
    split text = (some before.flatten, behind.flatten) := by
  rw [split, whole, List.cons_append]
  simp only [isDelimiter_iff.mpr opens, if_true, cutAtDelimiter_append undivided closes]

theorem IsMadeOf.split_eq {first closing : Text}
    (made : IsMadeOf text head body first closing) : split text = (some head, body) := by
  rw [split_of_lines_eq made.lines_eq made.opens made.closes made.undivided, flatten_lines,
    flatten_lines]

/-- Lines that are cut at a delimiter behind a first one make a head and a body. -/
theorem isMadeOf_of_lines_eq {first closing : Text}
    (whole : lines text = first :: before ++ closing :: behind) (opens : trim first = dashes)
    (closes : trim closing = dashes) (undivided : ∀ line ∈ before, trim line ≠ dashes) :
    IsMadeOf text before.flatten behind.flatten first closing := by
  have headLines : lines before.flatten = before := by
    have front : lines text = [first] ++ (before ++ closing :: behind) := whole
    exact lines_flatten_front (lines_flatten_behind front)
  have bodyLines : lines behind.flatten = behind := by
    have back : lines text = (first :: before ++ [closing]) ++ behind := by
      rw [whole, List.append_assoc, List.singleton_append]
    exact lines_flatten_behind back
  constructor
  · rw [← flatten_lines text, whole]
    simp
  · rw [headLines, bodyLines, whole]
  · exact opens
  · exact closes
  · rwa [headLines]

/-- A text has no head and is a body as a whole, or it is made of a head and a body. -/
theorem split_cases (text : Text) :
    (HasNoHead text ∧ split text = (none, text)) ∨
      ∃ head body first closing, split text = (some head, body) ∧
        IsMadeOf text head body first closing := by
  by_cases noHead : HasNoHead text
  · exact .inl ⟨noHead, split_of_hasNoHead noHead⟩
  · right
    cases all : lines text with
    | nil => simp [HasNoHead, all] at noHead
    | cons first rest =>
        simp only [HasNoHead, all, List.head?_cons, Option.mem_some_iff, forall_eq',
          List.tail_cons, ← cutAtDelimiter_eq_none_iff, not_or, ne_eq, Decidable.not_not] at noHead
        rcases Option.ne_none_iff_exists'.mp noHead.2 with ⟨⟨before, behind⟩, cut⟩
        rcases of_cutAtDelimiter_eq_some cut with ⟨undivided, closing, closes, cuts⟩
        have whole : lines text = first :: before ++ closing :: behind := by
          rw [all, cuts, List.cons_append]
        have made := isMadeOf_of_lines_eq whole noHead.1 closes undivided
        exact ⟨_, _, first, closing, made.split_eq, made⟩

theorem IsMadeOf.not_hasNoHead {first closing : Text}
    (made : IsMadeOf text head body first closing) : ¬ HasNoHead text := by
  intro noHead
  have whole := split_of_hasNoHead noHead
  rw [made.split_eq] at whole
  cases whole

/-- Dashes with a line feed behind them. -/
def delimiter : Text := dashes ++ ['\n']

theorem lines_delimiter_append (text : Text) :
    lines (delimiter ++ text) = delimiter :: lines text := by
  have ends : EndsLine delimiter := by
    intro last isLast
    cases isLast
    rfl
  have apart : ¬ Fuses delimiter text := by
    intro fuses
    cases fuses.1
  rw [lines_append ends apart]
  rfl

/-- Delimiters in front of a head that ends its last line and in front of a body are lines of
their own. -/
theorem isMadeOf_join (ends : EndsLine head) (undivided : ∀ line ∈ lines head, trim line ≠ dashes)
    (body : Text) :
    IsMadeOf (delimiter ++ head ++ delimiter ++ body) head body delimiter delimiter where
  text_eq := rfl
  lines_eq := by
    have apart : ¬ Fuses head (delimiter ++ body) := by
      intro fuses
      cases fuses.2
    rw [List.append_assoc, List.append_assoc, lines_delimiter_append, lines_append ends apart,
      lines_delimiter_append, List.cons_append]
  opens := by decide
  closes := by decide
  undivided := undivided

/-- Splitting gives the whole text as a body exactly when its first line is no delimiter or no
other one is.  Otherwise the text is made of the head and the body that splitting gives, and
the lines of the head are none of them delimiters.  A head and a body are found again in what
they make, if the head is empty or ends its last line and has no delimiter among its lines. -/
theorem split_recovers (text : Text) :
    (∀ body, split text = (none, body) → body = text) ∧
    ((split text).1 = none ↔ HasNoHead text) ∧
    (∀ head body, split text = (some head, body) →
      ∃ first closing, IsMadeOf text head body first closing) ∧
    ∀ head body, EndsLine head → (∀ line ∈ lines head, trim line ≠ dashes) →
      split (delimiter ++ head ++ delimiter ++ body) = (some head, body) := by
  refine ⟨?_, ?_, ?_, ?_⟩
  · intro body isBody
    rcases split_cases text with ⟨_, whole⟩ | ⟨_, _, _, _, parts, _⟩
    · rw [whole] at isBody
      exact (Prod.mk.inj isBody).2.symm
    · rw [parts] at isBody
      cases isBody
  · rcases split_cases text with ⟨noHead, whole⟩ | ⟨head, _, _, _, parts, made⟩
    · simp [whole, noHead]
    · simp [parts, made.not_hasNoHead]
  · intro head body isSplit
    rcases split_cases text with ⟨_, whole⟩ | ⟨_, _, first, closing, parts, made⟩
    · rw [whole] at isSplit
      cases isSplit
    · rw [parts] at isSplit
      cases isSplit
      exact ⟨first, closing, made⟩
  · intro head body ends undivided
    exact (isMadeOf_join ends undivided body).split_eq

end

/-- A document whose lines end in three ways, and whose second delimiter is indented. -/
def mixedDocument : Text := "---\r\na: 1\u2028 ---\nbody".toList

/-- A head that ends with a carriage return. -/
def returnedHead : Text := "a: 1\r".toList

/-- The parts of the document are found in it, and the head with the carriage return is found
again in front of a body that begins with a line feed. -/
theorem split_recovers_mixedDocument :
    (∃ first closing, IsMadeOf mixedDocument "a: 1\u2028".toList "body".toList first closing) ∧
    (split mixedDocument).1 ≠ none ∧ EndsLine returnedHead ∧
    (∀ line ∈ lines returnedHead, trim line ≠ dashes) ∧
    split (delimiter ++ returnedHead ++ delimiter ++ ['\n']) = (some returnedHead, ['\n']) := by
  have isSplit : split mixedDocument = (some "a: 1\u2028".toList, "body".toList) := rfl
  have ends : EndsLine returnedHead := by
    intro last isLast
    cases isLast
    rfl
  have undivided : ∀ line ∈ lines returnedHead, trim line ≠ dashes := by decide
  rcases split_recovers mixedDocument with ⟨_, _, isMade, found⟩
  exact ⟨isMade _ _ isSplit, by simp [isSplit], ends, undivided, found _ _ ends undivided⟩

end SpecFinder.FrontMatter
