import Mathlib.Data.List.Basic
import SpecFinder.Toml.Reader
import SpecFinder.Toml.Writer

/-!
# Scalars read back

What is written for a scalar is read as that scalar, at the end of a line.  A string is
read character by character, each as itself or by its escape.  An integer is no date, no
time and no float, since only digits stand in front of the end of the line.
-/

namespace SpecFinder.Toml

/-! ## Strings -/

/-- Two hexadecimal digits give back a number below 256. -/
theorem hexPair_of_lt {value : Nat} (small : value < 256) :
    (hexPair value).length = 2 ∧ (hexPair value).all isHexDigit = true ∧
      hexValue ('0' :: '0' :: hexPair value) = value := by
  have checked : ((List.range 256).all fun value =>
      Nat.beq (hexPair value).length 2 && (hexPair value).all isHexDigit
        && Nat.beq (hexValue ('0' :: '0' :: hexPair value)) value) = true := by
    decide +kernel
  have holds := List.all_eq_true.mp checked value (List.mem_range.mpr small)
  simpa [and_assoc] using holds

/-- A control is read from its code point. -/
theorem readEscape_hexPair {char : Char} (small : char.toNat < 256) (rest : Text) :
    readEscape false ('u' :: '0' :: '0' :: (hexPair char.toNat ++ rest)) = .ok ([char], rest) := by
  rcases hexPair_of_lt small with ⟨length, hexadecimal, value⟩
  have digits : ('0' :: '0' :: (hexPair char.toNat ++ rest)).take 4 =
      '0' :: '0' :: hexPair char.toNat := by
    simp [length]
  have behind : ('0' :: '0' :: (hexPair char.toNat ++ rest)).drop 4 = rest := by
    simp [length]
  have isZero : isHexDigit '0' = true := by decide
  have below : char.toNat < 0xD800 := by omega
  have read : readCodePoint 4 ('0' :: '0' :: (hexPair char.toNat ++ rest)) = .ok (char, rest) := by
    simp only [readCodePoint, digits, behind, value]
    simp [length, hexadecimal, isZero, below]
  simp [readEscape, read, bind, Except.bind, pure, Except.pure]

/-- A character of a string is written as itself or by an escape that is read as it. -/
theorem writeChar_cases (char : Char) :
    (writeChar char = [char] ∧ char ≠ '"' ∧ char ≠ '\\' ∧ isControl char = false) ∨
      ∃ escape, writeChar char = '\\' :: escape ∧
        ∀ rest, readEscape false (escape ++ rest) = .ok ([char], rest) := by
  by_cases quote : char = '"'
  · subst quote
    exact .inr ⟨['"'], rfl, fun _ => rfl⟩
  by_cases backslash : char = '\\'
  · subst backslash
    exact .inr ⟨['\\'], rfl, fun _ => rfl⟩
  by_cases backspace : char = '\x08'
  · subst backspace
    exact .inr ⟨['b'], rfl, fun _ => rfl⟩
  by_cases lineFeed : char = '\n'
  · subst lineFeed
    exact .inr ⟨['n'], rfl, fun _ => rfl⟩
  by_cases formFeed : char = '\x0C'
  · subst formFeed
    exact .inr ⟨['f'], rfl, fun _ => rfl⟩
  by_cases return_ : char = '\r'
  · subst return_
    exact .inr ⟨['r'], rfl, fun _ => rfl⟩
  by_cases control : isControl char = true
  · refine .inr ⟨'u' :: '0' :: '0' :: hexPair char.toNat, ?_, ?_⟩
    · simp [writeChar, quote, backslash, backspace, lineFeed, formFeed, return_, control]
    · intro rest
      have small : char.toNat < 256 := by
        simp only [isControl, Bool.or_eq_true, Bool.and_eq_true, decide_eq_true_eq,
          beq_iff_eq] at control
        omega
      exact readEscape_hexPair small rest
  · refine .inl ⟨?_, quote, backslash, by simpa using control⟩
    simp [writeChar, quote, backslash, backspace, lineFeed, formFeed, return_, control]

/-- The characters of a string are read up to its last quote. -/
theorem readBasic_writeChar (text rest : Text) {steps : Nat} (enough : text.length < steps) :
    readBasic steps (text.flatMap writeChar ++ '"' :: rest) = .ok (text, rest) := by
  induction text generalizing steps with
  | nil =>
      cases steps with
      | zero => simp at enough
      | succ steps => rfl
  | cons char text ih =>
      cases steps with
      | zero => simp at enough
      | succ steps =>
          have behind := ih (by simpa using enough)
          rw [List.flatMap_cons, List.append_assoc]
          rcases writeChar_cases char with ⟨plain, notQuote, notBackslash, notControl⟩ |
            ⟨escape, written, read⟩
          · rw [plain, List.singleton_append, readBasic]
            · simp [notControl, behind, prepend, Except.map]
            · exact notQuote
            · exact notBackslash
          · rw [written, List.cons_append, readBasic, read]
            simp [behind, prepend, Except.map, bind, Except.bind]

/-- The written form of a character does not begin with a quote. -/
theorem writeChar_eq_cons (char : Char) :
    ∃ first more, writeChar char = first :: more ∧ first ≠ '"' := by
  rcases writeChar_cases char with ⟨plain, notQuote, _⟩ | ⟨escape, written, _⟩
  · exact ⟨char, [], plain, notQuote⟩
  · exact ⟨'\\', escape, written, by decide⟩

theorem length_le_flatMap_writeChar (text : Text) :
    text.length ≤ (text.flatMap writeChar).length := by
  induction text with
  | nil => simp
  | cons char text ih =>
      rcases writeChar_eq_cons char with ⟨first, more, written, _⟩
      simp only [List.flatMap_cons, written, List.length_append, List.length_cons]
      omega

/-- A written string is read back where no quote follows it. -/
theorem readString?_writeString (text : Text) {rest : Text} (ends : rest.head? ≠ some '"') :
    readString? (writeString text ++ rest) = some (.ok (text, rest)) := by
  have whole : writeString text ++ rest = '"' :: (text.flatMap writeChar ++ '"' :: rest) := by
    simp [writeString]
  have enough : text.length < ('"' :: (text.flatMap writeChar ++ '"' :: rest)).length := by
    have longer := length_le_flatMap_writeChar text
    simp only [List.length_cons, List.length_append]
    omega
  have read := readBasic_writeChar text rest enough
  rw [whole]
  cases text with
  | nil =>
      cases rest with
      | nil => exact congrArg some read
      | cons next rest =>
          have notQuote : next ≠ '"' := by simpa using ends
          simpa [readString?, notQuote] using read
  | cons char text =>
      rcases writeChar_eq_cons char with ⟨first, more, written, notQuote⟩
      simp only [List.flatMap_cons, written, List.cons_append] at read ⊢
      simpa [readString?, notQuote] using read

/-! ## Integers -/

/-- A text that begins with digits, behind which the line ends. -/
def IsDigitLine (text : Text) : Prop :=
  ∃ digits rest, text = digits ++ '\n' :: rest ∧ ∀ digit ∈ digits, digit.isDigit = true

theorem ne_of_isDigit {digit mark : Char} (isDigit : digit.isDigit = true)
    (noDigit : mark.isDigit = false) : digit ≠ mark := by
  rintro rfl
  simp [isDigit] at noDigit

namespace IsDigitLine

theorem takeChar_eq_none {text : Text} (line : IsDigitLine text) {mark : Char}
    (noDigit : mark.isDigit = false) (noBreak : mark ≠ '\n') : takeChar mark text = none := by
  rcases line with ⟨digits, rest, rfl, areDigits⟩
  cases digits with
  | nil => simp [takeChar, noBreak.symm]
  | cons digit digits =>
      have differs : digit ≠ mark := ne_of_isDigit (areDigits digit (by simp)) noDigit
      simp [takeChar, differs]

/-- Behind two digits, the digits of the line go on. -/
theorem of_takePair {text rest : Text} {low high value : Nat}
    (line : IsDigitLine text) (taken : takePair low high text = some (value, rest)) :
    IsDigitLine rest := by
  rcases line with ⟨digits, behind, rfl, areDigits⟩
  have noDigit : '\n'.isDigit = false := by decide
  match digits with
  | [] =>
      cases behind with
      | nil => simp [takePair] at taken
      | cons next behind => simp [takePair, noDigit] at taken
  | [digit] => simp [takePair, noDigit] at taken
  | tens :: ones :: digits =>
      simp only [takePair, List.cons_append] at taken
      split at taken
      next =>
        simp only [Option.some.injEq, Prod.mk.injEq] at taken
        refine ⟨digits, behind, taken.2.symm, ?_⟩
        intro digit member
        exact areDigits digit (by simp [member])
      next => simp at taken

/-- A line of digits is no date. -/
theorem readDate?_eq_none {text : Text} (line : IsDigitLine text) : readDate? text = none := by
  cases century : takePair 0 99 text with
  | none => simp [readDate?, century]
  | some taken =>
      cases years : takePair 0 99 taken.2 with
      | none => simp [readDate?, century, years]
      | some takenMore =>
          have noDash : takeChar '-' takenMore.2 = none :=
            ((line.of_takePair century).of_takePair years).takeChar_eq_none (by decide) (by decide)
          simp [readDate?, century, years, noDash]

/-- A line of digits is no time of day. -/
theorem afterTime?_eq_none {text : Text} (line : IsDigitLine text) : afterTime? text = none := by
  cases hour : takePair 0 23 text with
  | none => simp [afterTime?, hour]
  | some taken =>
      have noColon : takeChar ':' taken.2 = none :=
        (line.of_takePair hour).takeChar_eq_none (by decide) (by decide)
      simp [afterTime?, hour, noColon]

end IsDigitLine

theorem isDigit_of_mem_ofNat {count : Nat} {digit : Char} (member : digit ∈ Text.ofNat count) :
    digit.isDigit = true := Nat.isDigit_of_mem_toDigits (by decide) (by decide) member

/-- No number but zero is written with a zero in front. -/
theorem ofNat_cases (count : Nat) :
    Text.ofNat count = ['0'] ∨
      ∃ digit digits, Text.ofNat count = digit :: digits ∧ digit ≠ '0' := by
  have ten : 1 < 10 := by decide
  rw [Text.ofNat]
  induction count using Nat.strongRecOn with
  | ind count ih =>
      by_cases small : count < 10
      · rw [Nat.toDigits_of_lt_base small]
        have checked : ∀ count < 10, count.digitChar = '0' ∨ count.digitChar ≠ '0' := by decide
        rcases checked count small with zero | other
        · exact .inl (by rw [zero])
        · exact .inr ⟨_, [], rfl, other⟩
      · have tens : Nat.toDigits 10 count =
            Nat.toDigits 10 (count / 10) ++ [(count % 10).digitChar] :=
          Nat.toDigits_of_base_le ten (by omega)
        rcases ih (count / 10) (by omega) with zero | ⟨digit, digits, written, notZero⟩
        · have value : Nat.ofDigitChars 10 (Nat.toDigits 10 (count / 10)) 0 = count / 10 :=
            Nat.ofDigitChars_ten_toDigits
          rw [zero] at value
          have nothing : count / 10 = 0 := by
            rw [← value]
            rfl
          omega
        · have longer : Nat.toDigits 10 count = digit :: (digits ++ [(count % 10).digitChar]) := by
            rw [tens, written]
            rfl
          exact .inr ⟨digit, _, longer, notZero⟩

/-- The digits of a line are taken up to its end. -/
theorem takeDigits_more {digits : Text} (areDigits : ∀ digit ∈ digits, digit.isDigit = true)
    (rest : Text) :
    takeDigits.more Char.isDigit (digits ++ '\n' :: rest) = (digits, '\n' :: rest) := by
  induction digits with
  | nil =>
      rw [List.nil_append, takeDigits.more]
      · rfl
      · simp
  | cons digit digits ih =>
      have isDigit := areDigits digit (by simp)
      have behind := ih fun other member => areDigits other (by simp [member])
      rw [List.cons_append, takeDigits.more]
      · simp [isDigit, behind]
      · intro _ _ isMark
        exact absurd isMark (ne_of_isDigit isDigit (by decide))

/-- A written number is read up to the end of the line. -/
theorem readWhole?_ofNat (count : Nat) (rest : Text) :
    readWhole? (Text.ofNat count ++ '\n' :: rest) = some (Text.ofNat count, '\n' :: rest) := by
  rcases ofNat_cases count with zero | ⟨digit, digits, written, notZero⟩
  · rw [zero]
    rfl
  · have areDigits : ∀ other ∈ digit :: digits, other.isDigit = true := by
      rw [← written]
      exact fun other => isDigit_of_mem_ofNat
    have restDigits : ∀ other ∈ digits, other.isDigit = true :=
      fun other member => areDigits other (by simp [member])
    have behind := takeDigits_more restDigits rest
    rw [written, List.cons_append, readWhole?]
    · simp [takeDigits, areDigits digit, behind]
    · intro _ begins
      exact notZero (List.cons.inj begins).1

theorem hexDigitValue_of_isDigit {digit : Char} (isDigit : digit.isDigit = true) :
    hexDigitValue digit = digit.toNat - '0'.toNat := if_pos isDigit

/-- The value of the digits of a number is the number. -/
theorem foldl_ofNat (count : Nat) :
    (Text.ofNat count).foldl (fun (total : Int) digit => total * 10 + hexDigitValue digit) 0 =
      count := by
  have sameStep : ∀ (digits : Text) (total : Nat), (∀ digit ∈ digits, digit.isDigit = true) →
      digits.foldl (fun (total : Int) digit => total * 10 + hexDigitValue digit) total =
        (Nat.ofDigitChars 10 digits total : Nat) := by
    intro digits
    induction digits with
    | nil => intro total _; rfl
    | cons digit digits ih =>
        intro total areDigits
        have next : (total * 10 + hexDigitValue digit : Int) =
            (10 * total + (digit.toNat - '0'.toNat) : Nat) := by
          rw [hexDigitValue_of_isDigit (areDigits digit (by simp))]
          omega
        rw [List.foldl_cons, Nat.ofDigitChars_cons, next]
        exact ih _ fun other member => areDigits other (by simp [member])
  have value := sameStep (Text.ofNat count) 0 fun digit => isDigit_of_mem_ofNat
  exact value.trans (congrArg Nat.cast Nat.ofDigitChars_ten_toDigits)

/-- A written number begins with a digit. -/
theorem ofNat_append_ne_cons {mark : Char} (noDigit : mark.isDigit = false) (count : Nat)
    (rest behind : Text) : Text.ofNat count ++ rest ≠ mark :: behind := by
  cases written : Text.ofNat count with
  | nil => exact absurd written Nat.toDigits_ne_nil
  | cons digit digits =>
      have isDigit : digit.isDigit = true := isDigit_of_mem_ofNat (by rw [written]; simp)
      intro begins
      exact ne_of_isDigit isDigit noDigit (List.cons.inj begins).1

/-- A written integer is read up to the end of the line, if it is not too long. -/
theorem readDecimal?_ofInt {value : Int}
    (short : (Text.ofNat value.natAbs).length ≤ integerDigitLimit) (rest : Text) :
    readDecimal? (Text.ofInt value ++ '\n' :: rest) = some (.ok (.int value, '\n' :: rest)) := by
  have noFloat : afterExponent (afterFraction ('\n' :: rest)) = '\n' :: rest := rfl
  have whole := readWhole?_ofNat value.natAbs rest
  have size := foldl_ofNat value.natAbs
  have notLong : ¬ integerDigitLimit < (Text.ofNat value.natAbs).length := by omega
  cases value with
  | ofNat count =>
      rw [Int.ofNat_eq_natCast, Int.natAbs_natCast] at whole size notLong
      rw [Text.ofInt, readDecimal?]
      · simp [whole, noFloat, notLong, size]
      · exact ofNat_append_ne_cons (by decide) count _
      · exact ofNat_append_ne_cons (by decide) count _
  | negSucc count =>
      rw [Int.natAbs_negSucc, Nat.succ_eq_add_one] at whole size notLong
      rw [Text.ofInt, List.cons_append, readDecimal?]
      simp [whole, noFloat, notLong, size, Int.negSucc_eq]

/-- What begins with a minus is no date and no time. -/
theorem takePair_minus (low high : Nat) (rest : Text) : takePair low high ('-' :: rest) = none := by
  have noDigit : '-'.isDigit = false := by decide
  cases rest with
  | nil => rfl
  | cons next rest => simp [takePair, noDigit]

/-- A written integer is in no base but ten. -/
theorem readBased?_ofInt (value : Int) (rest : Text) :
    readBased? (Text.ofInt value ++ '\n' :: rest) = none := by
  cases value with
  | negSucc count => rfl
  | ofNat count =>
      rw [Text.ofInt]
      rcases ofNat_cases count with zero | ⟨digit, digits, written, notZero⟩
      · rw [zero]
        rfl
      · rw [written, List.cons_append, readBased?]
        intro _ _ begins
        exact notZero (List.cons.inj begins).1

theorem readNumber?_ofInt {value : Int}
    (short : (Text.ofNat value.natAbs).length ≤ integerDigitLimit) (rest : Text) :
    readNumber? (Text.ofInt value ++ '\n' :: rest) = some (.ok (.int value, '\n' :: rest)) := by
  have noTime : readDate? (Text.ofInt value ++ '\n' :: rest) = none ∧
      afterTime? (Text.ofInt value ++ '\n' :: rest) = none := by
    cases value with
    | ofNat count =>
        have line : IsDigitLine (Text.ofNat count ++ '\n' :: rest) :=
          ⟨_, rest, rfl, fun digit => isDigit_of_mem_ofNat⟩
        exact ⟨line.readDate?_eq_none, line.afterTime?_eq_none⟩
    | negSucc count =>
        constructor
        · simp [Text.ofInt, readDate?, takePair_minus]
        · simp [Text.ofInt, afterTime?, takePair_minus]
  simp [readNumber?, noTime, readBased?_ofInt, readDecimal?_ofInt short]

/-! ## Values -/

/-- The value that a scalar stands for. -/
def Scalar.value : Scalar → Value
  | .string text => .string text
  | .bool value => .bool value
  | .int value => .int value

/-- Whether a scalar is no integer with more digits than are read. -/
def Scalar.IsShort : Scalar → Prop
  | .string _ | .bool _ => True
  | .int value => (Text.ofNat value.natAbs).length ≤ integerDigitLimit

theorem readValue_ofInt {value : Int}
    (short : (Text.ofNat value.natAbs).length ≤ integerDigitLimit) (steps depth : Nat)
    (rest : Text) :
    readValue (steps + 1) depth (Text.ofInt value ++ '\n' :: rest) =
      .ok (.int value, '\n' :: rest) := by
  have number := readNumber?_ofInt short rest
  have begins : ∃ first behind, Text.ofInt value ++ '\n' :: rest = first :: behind ∧
      (first = '-' ∨ first.isDigit = true) := by
    cases value with
    | negSucc count => exact ⟨'-', _, rfl, .inl rfl⟩
    | ofNat count =>
        rw [Text.ofInt]
        cases written : Text.ofNat count with
        | nil => exact absurd written Nat.toDigits_ne_nil
        | cons digit digits =>
            exact ⟨digit, _, rfl, .inr (isDigit_of_mem_ofNat (by rw [written]; simp))⟩
  rcases begins with ⟨first, behind, whole, isNumeral⟩
  rw [whole] at number ⊢
  have differs {mark : Char} (noMinus : mark ≠ '-') (noDigit : mark.isDigit = false) :
      first ≠ mark := by
    rcases isNumeral with rfl | isDigit
    · exact noMinus.symm
    · exact ne_of_isDigit isDigit noDigit
  have noString : readString? (first :: behind) = none := by
    have notQuote : first ≠ '"' := differs (by decide) (by decide)
    have notApostrophe : first ≠ '\'' := differs (by decide) (by decide)
    simp [readString?, notQuote, notApostrophe]
  rw [readValue]
  · simp [noString, number]
  all_goals
    intro _ same
    exact differs (by decide) (by decide) (List.cons.inj same).1

/-- A written scalar is read back at the end of its line. -/
theorem readValue_write {scalar : Scalar} (short : scalar.IsShort) (steps depth : Nat)
    (rest : Text) :
    readValue (steps + 1) depth (scalar.write ++ '\n' :: rest) =
      .ok (scalar.value, '\n' :: rest) := by
  cases scalar with
  | string text =>
      have read : readString? (writeString text ++ '\n' :: rest) =
          some (.ok (text, '\n' :: rest)) := readString?_writeString text (by simp)
      simp [Scalar.write, readValue, read, Except.map, Scalar.value]
  | bool value => cases value <;> rfl
  | int value => exact readValue_ofInt short steps depth rest

end SpecFinder.Toml
