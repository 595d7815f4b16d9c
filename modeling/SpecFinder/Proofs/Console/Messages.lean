import Mathlib.Data.List.TakeWhile
import SpecFinder.Console

/-!
# Messages

What stands between a tag and the one that closes it is shown without them, and so is what
stands around them.  Therefore the messages of the console are printed, as long as what they
say holds no bracket and no backslash: their own tags are always closed, and stand for no style
whose colour could be wrong.
-/

namespace SpecFinder.Console

/-- Whether a text holds nothing of markup. -/
def IsPlain (text : Text) : Prop := ∀ char ∈ text, char ≠ '[' ∧ char ≠ '\\'

instance (text : Text) : Decidable (IsPlain text) :=
  decidable_of_iff (text.all (fun char => char != '[' && char != '\\') = true) (by simp [IsPlain])

/-- Whether a word names a tag, but no style. -/
structure IsTagName (name : Text) : Prop where
  nonempty : name ≠ []
  letters : ∀ char ∈ name, 'a' ≤ char ∧ char ≤ 'z'
  trimmed : Text.trim name = name
  lowered : Text.lower name = name
  noStyle : Style.read name = .error .unknownWord

/-- What is shown of a text without markup. -/
def shown (text : Text) : Text := withoutControls (withPictures text)

/-- A text within a tag, with texts in front of it and behind it. -/
def styled (name front inside back : Text) : Text :=
  front ++ '[' :: name ++ ']' :: inside ++ '[' :: '/' :: name ++ ']' :: back

variable {name text front inside back : Text}

/-! ## Cutting -/

theorem IsPlain.append (plain : IsPlain front) (plainBack : IsPlain back) :
    IsPlain (front ++ back) := by
  intro char member
  rcases List.mem_append.mp member with isFront | isBack
  · exact plain char isFront
  · exact plainBack char isBack

theorem withoutBackslash_of_isPlain (plain : IsPlain text) : withoutBackslash text = text := by
  induction text with
  | nil => rfl
  | cons char text ih =>
      rw [withoutBackslash, ih fun other member => plain other (by simp [member])]
      rintro rest rfl
      exact absurd rfl (plain '\\' (by simp)).2

theorem cut_append_of_isPlain (plain : IsPlain text) (before rest : Text) :
    Piece.cut before 0 (text ++ rest) = Piece.cut (before ++ text) 0 rest := by
  induction text generalizing before with
  | nil => simp
  | cons char text ih =>
      have isPlain := plain char (by simp)
      have further := ih (fun other member => plain other (by simp [member])) (before ++ [char])
      rw [List.append_assoc, List.singleton_append] at further
      rw [List.cons_append, Piece.cut.eq_def]
      simpa [isPlain, backslashes] using further

/-- A bracket that begins as a tag does is cut off as one. -/
theorem cut_bracket {first : Char} (begins : beginsTag first = true)
    (letters : ∀ char ∈ inside, 'a' ≤ char ∧ char ≤ 'z') (before rest : Text) :
    Piece.cut before 0 ('[' :: first :: inside ++ ']' :: rest) =
      Piece.ofText before ++ .tag (first :: inside) :: Piece.cut [] 0 rest := by
  have within : ∀ char ∈ inside, (char != ']' && char != '[') = true := by
    intro char member
    have isLetter := letters char member
    have notClosing : char ≠ ']' := by
      rintro rfl
      exact absurd isLetter (by decide)
    have notOpening : char ≠ '[' := by
      rintro rfl
      exact absurd isLetter (by decide)
    simp [notClosing, notOpening]
  have taken : (inside ++ ']' :: rest).takeWhile (fun char => char != ']' && char != '[') =
      inside := by
    rw [List.takeWhile_append_of_pos within, List.takeWhile_cons_of_neg (by simp),
      List.append_nil]
  have isBracket : bracketed? (first :: (inside ++ ']' :: rest)) = some (first :: inside) := by
    simp [bracketed?, taken, begins]
  rw [List.cons_append, List.cons_append, Piece.cut.eq_def]
  simp [isBracket, Piece.ofBracket, Piece.ofText, backslashes, behind]

theorem cut_styled (isTag : IsTagName name) (plainFront : IsPlain front)
    (plainInside : IsPlain inside) (plainBack : IsPlain back) :
    Piece.cut [] 0 (styled name front inside back) =
      Piece.ofText front ++ .tag name :: (Piece.ofText inside ++
        .tag ('/' :: name) :: Piece.ofText back) := by
  have closing := cut_bracket (by decide : beginsTag '/' = true) isTag.letters inside back
  have ending := cut_append_of_isPlain plainBack [] []
  rw [List.append_nil, List.nil_append] at ending
  have last : Piece.cut back 0 [] = Piece.ofText back := by
    rw [Piece.cut.eq_def]
    simp [backslashes]
  have within := cut_append_of_isPlain plainInside [] ('[' :: '/' :: name ++ ']' :: back)
  rw [List.nil_append, closing, ending, last] at within
  rcases List.exists_cons_of_ne_nil isTag.nonempty with ⟨first, others, rfl⟩
  have begins : beginsTag first = true := by
    have isLetter := isTag.letters first (by simp)
    simp [beginsTag, isLetter]
  have letters : ∀ char ∈ others, 'a' ≤ char ∧ char ≤ 'z' := by
    intro char member
    exact isTag.letters char (by simp [member])
  have opening := cut_bracket begins letters front
    (inside ++ ('[' :: '/' :: first :: others ++ ']' :: back))
  rw [within] at opening
  have all := cut_append_of_isPlain plainFront []
    ('[' :: first :: others ++ ']' :: (inside ++ ('[' :: '/' :: first :: others ++ ']' :: back)))
  rw [List.nil_append, opening] at all
  simpa [styled] using all

/-! ## Reading -/

namespace Rendering

theorem foldlM_ofText (plain : IsPlain text) (rendering : Rendering) :
    (Piece.ofText text).foldlM read rendering = .ok (rendering.add text) := by
  cases text with
  | nil => simp [Piece.ofText, add, withPictures, withoutControls, pure, Except.pure]
  | cons char text =>
      rw [Piece.ofText, if_neg (by simp), List.foldlM_cons, read, withoutBackslash_of_isPlain plain]
      rfl

end Rendering

namespace IsTagName

variable (isTag : IsTagName name)

include isTag

theorem takeWhile_eq : name.takeWhile (· != '=') = name := by
  rw [List.takeWhile_eq_self_iff]
  intro char member
  rw [bne_iff_ne]
  rintro rfl
  exact absurd (isTag.letters '=' member) (by decide)

theorem fullName_eq : OpenTag.fullName name = .ok name := by
  rw [OpenTag.fullName, styleName?, isTag.noStyle, isTag.trimmed, isTag.lowered]

theorem checkStyle_eq : OpenTag.checkStyle ⟨name, none⟩ = .ok () := by
  rw [OpenTag.checkStyle, Option.map_none, Option.getD_none, List.append_nil, isTag.noStyle]

/-- A tag is open once it has been read. -/
theorem read_opening (rendering : Rendering) :
    rendering.read (.tag name) = .ok { rendering with
      opened := (⟨name, none⟩, rendering.text.length) :: rendering.opened } := by
  rcases List.exists_cons_of_ne_nil isTag.nonempty with ⟨first, others, rfl⟩
  have notSlash : first ≠ '/' := by
    rintro rfl
    exact absurd (isTag.letters '/' (by simp)) (by decide)
  rw [Rendering.read, isTag.takeWhile_eq]
  split
  next isSlash =>
    cases isSlash
    exact absurd rfl notSlash
  next => simp [OpenTag.ofBracket, isTag.takeWhile_eq, isTag.fullName_eq, bind, Except.bind, pure,
      Except.pure]

/-- The tag is closed that was opened last. -/
theorem read_closing (rendering : Rendering) {start : Nat} {others : List (OpenTag × Nat)}
    (isOpen : rendering.opened = (⟨name, none⟩, start) :: others) :
    rendering.read (.tag ('/' :: name)) = .ok { rendering with
      opened := others
      closed := (⟨name, none⟩, rendering.text.drop start) :: rendering.closed } := by
  have closes : rendering.close? (· == name) = .ok (some { rendering with
      opened := others
      closed := (⟨name, none⟩, rendering.text.drop start) :: rendering.closed }) := by
    simp [Rendering.close?, isOpen, OpenTag.close, bind, Except.bind, pure, Except.pure]
  have taken : ('/' :: name).takeWhile (· != '=') = '/' :: name := by
    rw [List.takeWhile_cons_of_pos (by decide), isTag.takeWhile_eq]
  simp [Rendering.read, taken, isTag.trimmed, isTag.nonempty, isTag.fullName_eq, closes, bind,
    Except.bind, pure, Except.pure]

/-- Nothing is wrong with the style of a text within the tag. -/
theorem checkStyles_eq (text inside : Text) :
    Rendering.checkStyles { text, closed := [(⟨name, none⟩, inside)] } = .ok () := by
  have checked (isBare : Bool) :
      (if isBare then .ok () else OpenTag.checkStyle ⟨name, none⟩) = .ok () := by
    rw [isTag.checkStyle_eq, ite_self]
  change (ite _ _ _ >>= fun _ => pure ()) = _
  rw [checked]
  rfl

/-- What is within the tag is shown without it. -/
theorem markedText_styled (plainFront : IsPlain front) (plainInside : IsPlain inside)
    (plainBack : IsPlain back) :
    markedText (styled name front inside back) =
      .ok (shown front ++ shown inside ++ shown back) := by
  have rendered : (Piece.ofText front ++ .tag name :: (Piece.ofText inside ++
      .tag ('/' :: name) :: Piece.ofText back)).foldlM Rendering.read {} =
        .ok { text := shown front ++ shown inside ++ shown back
              closed := [(⟨name, none⟩, shown inside)] } := by
    rw [List.foldlM_append, Rendering.foldlM_ofText plainFront]
    dsimp only [bind, Except.bind]
    rw [List.foldlM_cons, isTag.read_opening]
    dsimp only [bind, Except.bind]
    rw [List.foldlM_append, Rendering.foldlM_ofText plainInside]
    dsimp only [bind, Except.bind]
    rw [List.foldlM_cons, isTag.read_closing _ rfl]
    dsimp only [bind, Except.bind]
    rw [Rendering.foldlM_ofText plainBack]
    simp [Rendering.add, shown]
  rw [markedText, cut_styled isTag plainFront plainInside plainBack, rendered]
  have checked := isTag.checkStyles_eq (shown front ++ shown inside ++ shown back) (shown inside)
  change (Rendering.checkStyles _ >>= fun _ => pure _) = _
  rw [checked]
  rfl

end IsTagName

/-! ## The tags of messages -/

/-- The names of the tags that stand in messages. -/
def tagNames : List Text :=
  ["info".toList, "success".toList, "warning".toList, "error".toList]

theorem isColorName_of_mem_tagNames (member : name ∈ tagNames) : isColorName name = false := by
  rw [isColorName, colorLines]
  simp only [List.any_cons, List.any_nil, Bool.or_false]
  -- The lines are written out as characters, as no proof reads them from a string in good time.
  repeat rw [String.toList_ofList]
  revert name
  decide +kernel

theorem lower_of_mem_tagNames (member : name ∈ tagNames) : Text.lower name = name := by
  revert name
  decide +kernel

theorem readColor_of_mem_tagNames (member : name ∈ tagNames) :
    readColor name = .error .unknownWord := by
  have noOther : ∀ name ∈ tagNames, name ≠ "default".toList ∧ (name.head? == some '#') = false ∧
      argument? "color(" name = none ∧ argument? "rgb(" name = none := by decide +kernel
  rcases noOther name member with ⟨notDefault, notHex, noNumber, noMixture⟩
  rw [readColor, lower_of_mem_tagNames member, isColorName_of_mem_tagNames member,
    decide_eq_false notDefault, notHex, noNumber, noMixture]
  rfl

theorem read_of_mem_tagNames (member : name ∈ tagNames) :
    Style.read name = .error .unknownWord := by
  have noOther : ∀ name ∈ tagNames, Text.trim name ≠ "none".toList ∧ Text.words name = [name] ∧
      switch? (String.ofList name).toList = none ∧
      String.ofList name ∉ ["on", "not", "link"] := by decide +kernel
  rcases noOther name member with ⟨notNone, alone, noSwitch, noKeyword⟩
  simp only [List.mem_cons, List.not_mem_nil, or_false, not_or] at noKeyword
  rw [Style.read, if_neg notNone, alone, Style.readWords.eq_def]
  dsimp only
  rw [lower_of_mem_tagNames member]
  split
  next isOn _ => exact absurd isOn noKeyword.1
  next isNot _ => exact absurd isNot noKeyword.2.1
  next isLink _ => exact absurd isLink noKeyword.2.2
  next isOn _ => exact absurd isOn noKeyword.1
  next isNot _ => exact absurd isNot noKeyword.2.1
  next isLink _ => exact absurd isLink noKeyword.2.2
  next =>
    rw [noSwitch, readColor_of_mem_tagNames member]
    rfl

/-- The tags of messages stand for no style. -/
theorem isTagName_of_mem (member : name ∈ tagNames) : IsTagName name := by
  have isWord : ∀ name ∈ tagNames, name ≠ [] ∧
      (name.all fun char => 'a' ≤ char && char ≤ 'z') = true ∧ Text.trim name = name := by
    decide +kernel
  rcases isWord name member with ⟨nonempty, letters, trimmed⟩
  exact ⟨nonempty, by simpa using letters, trimmed, lower_of_mem_tagNames member,
    read_of_mem_tagNames member⟩

/-! ## Printing -/

/-- Whether a passage is a message that holds no markup but its own. -/
inductive IsPlainMessage : Passage → Prop
  | information {message : Text} (plain : IsPlain message) : IsPlainMessage (information message)
  | success {message : Text} (plain : IsPlain message) : IsPlainMessage (success message)
  | warning {message : Text} (plain : IsPlain message) : IsPlainMessage (warning message)
  | error {message : Text} (plain : IsPlain message) : IsPlainMessage (error message)
  | hint {message : Text} (plain : IsPlain message) : IsPlainMessage (hint message)

/-- A message is one line with a tag in it. -/
theorem exists_styled {passage : Passage} (isMessage : IsPlainMessage passage) :
    ∃ channel name front inside back, passage = .lines channel
        [[.marked (styled name front inside back)]] ∧
      name ∈ tagNames ∧ IsPlain front ∧ IsPlain inside ∧ IsPlain back := by
  have plainNil : IsPlain [] := by decide
  have plainBlank {message : Text} (plain : IsPlain message) : IsPlain (' ' :: message) :=
    IsPlain.append (by decide : IsPlain [' ']) plain
  cases isMessage with
  | @information message plain =>
      refine ⟨.output, "info".toList, [], message, [], ?_, by simp [tagNames], plainNil, plain,
        plainNil⟩
      simp [information, styled]
  | @success message plain =>
      refine ⟨.output, "success".toList, [], message, [], ?_, by simp [tagNames], plainNil, plain,
        plainNil⟩
      simp [success, styled]
  | @warning message plain =>
      refine ⟨.errors, "warning".toList, [], "Warning:".toList, ' ' :: message, ?_,
        by simp [tagNames], plainNil, by decide +kernel, plainBlank plain⟩
      simp [warning, styled]
  | @error message plain =>
      refine ⟨.errors, "error".toList, [], "Error:".toList, ' ' :: message, ?_,
        by simp [tagNames], plainNil, by decide +kernel, plainBlank plain⟩
      simp [error, styled]
  | @hint message plain =>
      refine ⟨.errors, "info".toList, [' ', ' '], "Hint:".toList, ' ' :: message, ?_,
        by simp [tagNames], by decide, by decide +kernel, plainBlank plain⟩
      simp [hint, styled]

/-- Messages without markup of their own are printed to the end. -/
theorem print_of_isPlainMessage {passages : List Passage}
    (messages : ∀ passage ∈ passages, IsPlainMessage passage) (transcript : Transcript) :
    ∃ printed, transcript.print passages = (printed, none) := by
  induction passages generalizing transcript with
  | nil => exact ⟨transcript, rfl⟩
  | cons passage passages ih =>
      have isMessage := messages passage (by simp)
      rcases exists_styled isMessage with
        ⟨channel, name, front, inside, back, rfl, member, plainFront, plainInside, plainBack⟩
      have marked := (isTagName_of_mem member).markedText_styled plainFront plainInside plainBack
      have line : lineText [.marked (styled name front inside back)] =
          .ok (alignTabs (shown front ++ shown inside ++ shown back) ++ ['\n']) := by
        rw [lineText, List.mapM_cons, Part.text, marked]
        rfl
      have written : [[Part.marked (styled name front inside back)]].mapM lineText =
          .ok [alignTabs (shown front ++ shown inside ++ shown back) ++ ['\n']] := by
        rw [List.mapM_cons, line]
        rfl
      rw [Transcript.print]
      simp only [written]
      exact ih (fun other isOther => messages other (by simp [isOther])) _

end SpecFinder.Console
