import SpecFinder.Proofs.Text.LetterCase

/-!
# The final sigma

What a capital sigma becomes in lower case depends on its place: a final sigma where a
letter stands in front of it and none behind it, whatever is passed over in between.
Every other character has one lower-case form.  A part of a text is therefore lowered in
its place as it is lowered alone, unless the text around it has a say in one of its
sigmas, and `settlesSigma` says for which sigmas it has none.
-/

namespace SpecFinder.Text

/-! ## What is passed over -/

theorem meetsCased_append (front back : Text) :
    meetsCased (front ++ back) =
      if front.all isCaseIgnorable then meetsCased back else meetsCased front := by
  induction front with
  | nil => rfl
  | cons char front ih =>
      simp only [meetsCased] at ih
      by_cases ignorable : isCaseIgnorable char = true
      · simpa [meetsCased, ignorable] using ih
      · simp [meetsCased, ignorable]

theorem meetsCased_of_all {text : Text} (passed : text.all isCaseIgnorable = true) :
    meetsCased text = false := by
  have nothing := meetsCased_append text []
  rw [if_pos passed, List.append_nil] at nothing
  rw [nothing]
  rfl

/-- A sigma and a plain letter have a case that is not passed over. -/
theorem sigma_and_letter : isCaseIgnorable 'Σ' = false ∧ meetsCased ['a'] = true := by
  decide +kernel

theorem not_isCaseIgnorable_sigma : isCaseIgnorable 'Σ' = false := sigma_and_letter.1

theorem meetsCased_letter : meetsCased ['a'] = true := sigma_and_letter.2

/-- A sigma is not passed over, so that nothing is met behind it. -/
theorem meetsCased_append_of_sigma {front : Text} (sigma : 'Σ' ∈ front) (back : Text) :
    meetsCased (front ++ back) = meetsCased front := by
  have stops : front.all isCaseIgnorable = false := by
    rw [List.all_eq_false]
    exact ⟨'Σ', sigma, by simp [not_isCaseIgnorable_sigma]⟩
  simp [meetsCased_append, stops]

theorem sigma_notMem_of_all {text : Text} (ignorable : text.all isCaseIgnorable = true) :
    'Σ' ∉ text := by
  intro sigma
  have passed := List.all_eq_true.mp ignorable 'Σ' sigma
  simp [not_isCaseIgnorable_sigma] at passed

/-! ## A part in its place -/

/-- Whether a capital sigma becomes a final one between the characters `before` it,
nearest first, and those `after` it. -/
def isFinalSigma (before after : Text) : Bool := meetsCased before && !meetsCased after

theorem lowerAt_sigma (before after : Text) :
    lowerAt before 'Σ' after = [if isFinalSigma before after then 'ς' else 'σ'] := rfl

theorem lowerAt_of_ne_sigma {char : Char} (notSigma : char ≠ 'Σ')
    (before after otherBefore otherAfter : Text) :
    lowerAt before char after = lowerAt otherBefore char otherAfter := by
  simp [lowerAt, notSigma]

/-- The lower-case form of a part of a text that stands behind `before`, nearest first,
and in front of `after`. -/
def lowerBetween (before : Text) : (part after : Text) → Text
  | [], _ => []
  | char :: rest, after =>
      lowerAt before char (rest ++ after) ++ lowerBetween (char :: before) rest after

theorem lowerBetween_append (before front back after : Text) :
    lowerBetween before (front ++ back) after =
      lowerBetween before front (back ++ after) ++
        lowerBetween (front.reverse ++ before) back after := by
  induction front generalizing before with
  | nil => rfl
  | cons char front ih => simp [lowerBetween, ih]

theorem lowerFrom_eq_lowerBetween (before text : Text) :
    lowerFrom before text = lowerBetween before text [] := by
  induction text generalizing before with
  | nil => rfl
  | cons char rest ih => simp [lowerFrom, lowerBetween, ih]

/-- A text is lowered part by part, each part in its place. -/
theorem lower_append_append (front part back : Text) :
    lower (front ++ part ++ back) =
      lowerBetween [] front (part ++ back) ++ lowerBetween front.reverse part back ++
        lowerBetween (part.reverse ++ front.reverse) back [] := by
  rw [lower, lowerFrom_eq_lowerBetween, List.append_assoc, lowerBetween_append,
    lowerBetween_append]
  simp

/-- A part has the same lower-case form in two places where its sigmas have. -/
theorem lowerBetween_congr {before after otherBefore otherAfter part : Text}
    (same : ∀ front back, part = front ++ 'Σ' :: back →
      isFinalSigma (front.reverse ++ before) (back ++ after) =
        isFinalSigma (front.reverse ++ otherBefore) (back ++ otherAfter)) :
    lowerBetween before part after = lowerBetween otherBefore part otherAfter := by
  induction part generalizing before otherBefore with
  | nil => rfl
  | cons char rest ih =>
      have here : lowerAt before char (rest ++ after) =
          lowerAt otherBefore char (rest ++ otherAfter) := by
        by_cases sigma : char = 'Σ'
        · have form := same [] rest (by rw [sigma, List.nil_append])
          rw [List.reverse_nil, List.nil_append, List.nil_append] at form
          rw [sigma, lowerAt_sigma, lowerAt_sigma, form]
        · exact lowerAt_of_ne_sigma sigma _ _ _ _
      have behind : lowerBetween (char :: before) rest after =
          lowerBetween (char :: otherBefore) rest otherAfter := by
        apply ih
        intro front back isRest
        simpa using same (char :: front) back (by rw [isRest, List.cons_append])
      rw [lowerBetween, lowerBetween, here, behind]

/-- A part without sigmas is lowered alike in all places. -/
theorem lowerBetween_of_no_sigma {part : Text} (plain : 'Σ' ∉ part)
    (before after otherBefore otherAfter : Text) :
    lowerBetween before part after = lowerBetween otherBefore part otherAfter := by
  apply lowerBetween_congr
  intro front back isPart
  exact (plain (by simp [isPart])).elim

/-- Whether the sigmas of a part become in its place what they become alone. -/
def KeepsSigmas (before part after : Text) : Prop :=
  ∀ front back, part = front ++ 'Σ' :: back →
    isFinalSigma (front.reverse ++ before) (back ++ after) = isFinalSigma front.reverse back

/-- A part that keeps its sigmas is lowered in its place as it is alone. -/
theorem infix_lower_of_keepsSigmas {front part back : Text}
    (keeps : KeepsSigmas front.reverse part back) :
    lower part <:+: lower (front ++ part ++ back) := by
  have inPlace : lowerBetween front.reverse part back = lower part := by
    rw [lower, lowerFrom_eq_lowerBetween]
    apply lowerBetween_congr
    intro before after isPart
    simpa using keeps before after isPart
  rw [lower_append_append, inPlace]
  exact List.infix_append _ _ _

/-! ## Sigmas that no place changes -/

/-- Whether the text before a sigma, nearest first, and the text after it settle what it
becomes, wherever they stand together.  Where nothing but characters that are passed over
stands in front of it, only a letter behind it does, since it may come to stand behind a
letter; behind a letter, something has to follow that is not passed over, since it may
come to stand in front of a letter. -/
def settlesSigma (before after : Text) : Bool :=
  if before.all isCaseIgnorable then meetsCased after
  else !meetsCased before || !after.all isCaseIgnorable

theorem isFinalSigma_of_settlesSigma {before after : Text}
    (settles : settlesSigma before after = true) (front back : Text) :
    isFinalSigma (before ++ front) (after ++ back) = isFinalSigma before after := by
  rw [isFinalSigma, isFinalSigma, meetsCased_append, meetsCased_append]
  simp only [settlesSigma] at settles
  by_cases open_ : before.all isCaseIgnorable = true
  · rw [if_pos open_] at settles ⊢
    have closed : after.all isCaseIgnorable = false := by
      by_contra passed
      rw [Bool.not_eq_false] at passed
      rw [meetsCased_of_all passed] at settles
      cases settles
    simp [closed, settles]
  · rw [if_neg open_] at settles ⊢
    rw [Bool.or_eq_true, Bool.not_eq_true', Bool.not_eq_true'] at settles
    rcases settles with noLetter | closed
    · simp [noLetter]
    · simp [closed]

/-- Behind a letter, a sigma that nothing settles becomes a final one. -/
theorem not_infix_behind_letter {before after : Text}
    (passed : before.reverse.all isCaseIgnorable = true) (noLetter : meetsCased after = false) :
    ¬ lower (before ++ 'Σ' :: after) <:+: lower (['a'] ++ (before ++ 'Σ' :: after) ++ []) := by
  have plain : 'Σ' ∉ before := by
    simpa using sigma_notMem_of_all passed
  have alone : isFinalSigma before.reverse after = false := by
    simp [isFinalSigma, meetsCased_of_all passed]
  have inPlace : isFinalSigma (before.reverse ++ ['a']) after = true := by
    simp [isFinalSigma, meetsCased_append, passed, meetsCased_letter, noLetter]
  have sameBefore : lowerBetween ['a'] before ('Σ' :: after) =
      lowerBetween [] before ('Σ' :: after) := lowerBetween_of_no_sigma plain _ _ _ _
  have sameAfter : lowerBetween ('Σ' :: (before.reverse ++ ['a'])) after [] =
      lowerBetween ('Σ' :: before.reverse) after [] := by
    apply lowerBetween_congr
    intro front back _
    have shielded : meetsCased (front.reverse ++ 'Σ' :: before.reverse ++ ['a']) =
        meetsCased (front.reverse ++ 'Σ' :: before.reverse) :=
      meetsCased_append_of_sigma (by simp) ['a']
    rw [List.append_assoc, List.cons_append] at shielded
    rw [isFinalSigma, isFinalSigma, shielded]
  intro occurs
  have fewer := occurs.sublist.count_le 'σ'
  have lowerLetter : lowerBetween [] ['a'] (before ++ 'Σ' :: after ++ []) = ['a'] := rfl
  rw [lower_append_append, lowerLetter, lower, lowerFrom_eq_lowerBetween, lowerBetween_append,
    lowerBetween_append] at fewer
  simp only [lowerBetween, List.append_nil, List.reverse_singleton, lowerAt_sigma, alone, inPlace,
    sameBefore, sameAfter] at fewer
  simp +arith at fewer

/-- In front of a letter, a sigma that nothing settles is no final one. -/
theorem not_infix_before_letter {before after : Text}
    (letterBefore : meetsCased before.reverse = true) (passed : after.all isCaseIgnorable = true) :
    ¬ lower (before ++ 'Σ' :: after) <:+: lower ([] ++ (before ++ 'Σ' :: after) ++ ['a']) := by
  have plain : 'Σ' ∉ after := sigma_notMem_of_all passed
  have alone : isFinalSigma before.reverse after = true := by
    simp [isFinalSigma, letterBefore, meetsCased_of_all passed]
  have inPlace : isFinalSigma before.reverse (after ++ ['a']) = false := by
    simp [isFinalSigma, meetsCased_append, passed, meetsCased_letter]
  have sameBefore : lowerBetween [] before ('Σ' :: (after ++ ['a'])) =
      lowerBetween [] before ('Σ' :: after) := by
    apply lowerBetween_congr
    intro front back _
    have shielded : meetsCased (back ++ 'Σ' :: after ++ ['a']) =
        meetsCased (back ++ 'Σ' :: after) := meetsCased_append_of_sigma (by simp) ['a']
    rw [List.append_assoc, List.cons_append] at shielded
    rw [isFinalSigma, isFinalSigma, shielded]
  have sameAfter : lowerBetween ('Σ' :: before.reverse) after ['a'] =
      lowerBetween ('Σ' :: before.reverse) after [] := lowerBetween_of_no_sigma plain _ _ _ _
  intro occurs
  have fewer := occurs.sublist.count_le 'ς'
  have lowerLetter (front : Text) : lowerBetween front ['a'] [] = ['a'] := rfl
  rw [lower_append_append, lowerLetter, lower, lowerFrom_eq_lowerBetween, lowerBetween_append,
    lowerBetween_append] at fewer
  simp only [lowerBetween, List.append_nil, List.nil_append, List.reverse_nil, List.cons_append,
    lowerAt_sigma, alone, inPlace, sameBefore, sameAfter] at fewer
  simp +arith at fewer

/-- A text is found in lower case wherever it stands exactly when all of its sigmas are
settled. -/
theorem infix_lower_everywhere_iff (value : Text) :
    (∀ front back, lower value <:+: lower (front ++ value ++ back)) ↔
      ∀ before after, value = before ++ 'Σ' :: after →
        settlesSigma before.reverse after = true := by
  constructor
  · rintro everywhere before after rfl
    by_contra unsettled
    rw [Bool.not_eq_true] at unsettled
    simp only [settlesSigma] at unsettled
    by_cases passed : before.reverse.all isCaseIgnorable = true
    · rw [if_pos passed] at unsettled
      exact not_infix_behind_letter passed unsettled (everywhere ['a'] [])
    · rw [if_neg passed, Bool.or_eq_false_iff, Bool.not_eq_false', Bool.not_eq_false'] at unsettled
      exact not_infix_before_letter unsettled.1 unsettled.2 (everywhere [] ['a'])
  · intro settled front back
    apply infix_lower_of_keepsSigmas
    intro before after isValue
    exact isFinalSigma_of_settlesSigma (settled before after isValue) _ _

end SpecFinder.Text
