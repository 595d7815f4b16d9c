import Mathlib.Data.List.Lex
import SpecFinder.Proofs.Number.PaddedNumbers
import SpecFinder.Proofs.Text.Pieces
import SpecFinder.Spec

/-!
# Dates and filters

A filter compares a date as a text with what it names, cut to the same length.  A date has a
fixed number of digits for its year, month and day, so this is the order of time: the numbers
of the date are compared with those of the filter, as many as the filter names.  A written
filter is read as it was meant, with any of the four signs in front of a date or with two
dots between two dates of which each may be missing.
-/

namespace SpecFinder

open Text Yaml

/-! ## Dates -/

/-- A day that fits into the digits of a date. -/
structure CalendarDay where
  year : Fin 10000
  month : Fin 100
  day : Fin 100

/-- A date that may leave out the day, or the month and the day. -/
inductive PartialDate where
  | wholeYear (year : Fin 10000)
  | wholeMonth (year : Fin 10000) (month : Fin 100)
  | oneDay (year : Fin 10000) (month day : Fin 100)

/-- A day as it is written. -/
def CalendarDay.text (date : CalendarDay) : Text := Date.text ⟨date.year, date.month, date.day⟩

namespace PartialDate

/-- A date as it is written: four digits, and two more behind each dash. -/
def text : PartialDate → Text
  | .wholeYear year => padded 4 year
  | .wholeMonth year month => padded 4 year ++ '-' :: padded 2 month
  | .oneDay year month day => padded 4 year ++ '-' :: padded 2 month ++ '-' :: padded 2 day

/-- The numbers of a date, the year first. Their order, the first different ones compared, is
the order of time. -/
def numbers : PartialDate → List Nat
  | .wholeYear year => [year]
  | .wholeMonth year month => [year, month]
  | .oneDay year month day => [year, month, day]

end PartialDate

/-- As much of a day as a date tells. -/
def CalendarDay.upTo (date : CalendarDay) : PartialDate → PartialDate
  | .wholeYear _ => .wholeYear date.year
  | .wholeMonth _ _ => .wholeMonth date.year date.month
  | .oneDay _ _ _ => .oneDay date.year date.month date.day

namespace PartialDate

theorem length_year (year : Fin 10000) : (padded 4 year).length = 4 :=
  length_padded (by decide) year.isLt

theorem length_two (number : Fin 100) : (padded 2 number).length = 2 :=
  length_padded (by decide) number.isLt

@[simp] theorem length_text_upTo (date : CalendarDay) (value : PartialDate) :
    (date.upTo value).text.length = value.text.length := by
  cases value <;> simp [CalendarDay.upTo, text, length_year, length_two]

theorem text_ne_nil (value : PartialDate) : value.text ≠ [] := by
  have long : 4 ≤ value.text.length := by
    cases value <;> simp [text, length_year]
  intro empty
  rw [empty] at long
  contradiction

/-- A date is written in digits and dashes. -/
theorem mem_text {value : PartialDate} {char : Char} (member : char ∈ value.text) :
    char.isDigit = true ∨ char = '-' := by
  have digits {width number : Nat} (inNumber : char ∈ padded width number) :
      char.isDigit = true := areDigits_padded width number char inNumber
  cases value <;> simp only [text, List.mem_append, List.mem_cons] at member
  case wholeYear => exact .inl (digits member)
  case wholeMonth =>
    rcases member with inYear | isDash | inMonth
    · exact .inl (digits inYear)
    · exact .inr isDash
    · exact .inl (digits inMonth)
  case oneDay =>
    rcases member with (inYear | isDash | inMonth) | isDash | inDay
    · exact .inl (digits inYear)
    · exact .inr isDash
    · exact .inl (digits inMonth)
    · exact .inr isDash
    · exact .inl (digits inDay)

theorem notMem_text {mark : Char} (noDigit : mark.isDigit = false) (noDash : mark ≠ '-')
    (value : PartialDate) : mark ∉ value.text := by
  intro member
  rcases mem_text member with isDigit | isDash
  · rw [noDigit] at isDigit
    cases isDigit
  · exact noDash isDash

/-- A date begins with as much of it as another one tells. -/
theorem take_text (date : CalendarDay) (rest : Text) (value : PartialDate) :
    (date.text ++ rest).take value.text.length = (date.upTo value).text := by
  have begins : (date.upTo value).text <+: date.text ++ rest := by
    cases value <;> simp [CalendarDay.upTo, CalendarDay.text, text, Date.text, List.append_assoc]
  rw [← length_text_upTo date value]
  exact (List.prefix_iff_eq_take.mp begins).symm

theorem isBelow_dash (rest behind : Text) :
    isBelow ('-' :: rest) ('-' :: behind) = true ↔ isBelow rest behind = true := by
  simp [isBelow_cons]

theorem isBelow_year_append (year other : Fin 10000) (rest behind : Text) :
    isBelow (padded 4 year ++ rest) (padded 4 other ++ behind) = true ↔
      year.val < other.val ∨ year.val = other.val ∧ isBelow rest behind = true :=
  isBelow_padded_append (by decide) year.isLt other.isLt rest behind

theorem isBelow_two_append (number other : Fin 100) (rest behind : Text) :
    isBelow (padded 2 number ++ rest) (padded 2 other ++ behind) = true ↔
      number.val < other.val ∨ number.val = other.val ∧ isBelow rest behind = true :=
  isBelow_padded_append (by decide) number.isLt other.isLt rest behind

theorem isBelow_year (year other : Fin 10000) :
    isBelow (padded 4 year) (padded 4 other) = true ↔ year.val < other.val :=
  isBelow_padded (by decide) year.isLt other.isLt

theorem isBelow_two (number other : Fin 100) :
    isBelow (padded 2 number) (padded 2 other) = true ↔ number.val < other.val :=
  isBelow_padded (by decide) number.isLt other.isLt

/-- Dates of the same precision are ordered as texts as their numbers are. -/
theorem isBelow_text {left right : PartialDate}
    (same : left.numbers.length = right.numbers.length) :
    isBelow left.text right.text = true ↔ left.numbers < right.numbers := by
  cases left <;> cases right <;> simp only [numbers, List.length_cons] at same
  case wholeYear.wholeYear =>
    simp [text, numbers, List.cons_lt_cons_iff, isBelow_year]
  case wholeMonth.wholeMonth =>
    simp [text, numbers, List.cons_lt_cons_iff, isBelow_year_append, isBelow_dash, isBelow_two]
  case oneDay.oneDay =>
    simp [text, numbers, List.cons_lt_cons_iff, isBelow_year_append, isBelow_two_append,
      isBelow_dash, isBelow_two, List.append_assoc]
  all_goals omega

theorem isAtMost_text {left right : PartialDate}
    (same : left.numbers.length = right.numbers.length) :
    isAtMost left.text right.text = true ↔ left.numbers ≤ right.numbers := by
  rw [isAtMost, Bool.not_eq_true', ← Bool.not_eq_true, isBelow_text same.symm, not_lt]

theorem length_numbers_upTo (date : CalendarDay) (value : PartialDate) :
    (date.upTo value).numbers.length = value.numbers.length := by
  cases value <;> rfl

end PartialDate

/-! ## Orders -/

namespace DateOrder

/-- Whether the numbers of a date stand in an order to those of another. -/
def Relates : DateOrder → (actual value : List Nat) → Prop
  | .after, actual, value => value < actual
  | .onOrAfter, actual, value => value ≤ actual
  | .before, actual, value => actual < value
  | .onOrBefore, actual, value => actual ≤ value

instance (order : DateOrder) (actual value : List Nat) : Decidable (order.Relates actual value) :=
  match order with
  | .after => inferInstanceAs (Decidable (value < actual))
  | .onOrAfter => inferInstanceAs (Decidable (value ≤ actual))
  | .before => inferInstanceAs (Decidable (actual < value))
  | .onOrBefore => inferInstanceAs (Decidable (actual ≤ value))

/-- A date stands in an order to what a filter names when its numbers do. -/
theorem holds_iff_relates (order : DateOrder) (date : CalendarDay) (rest : Text)
    (value : PartialDate) :
    order.holds ((date.text ++ rest).take value.text.length) value.text = true ↔
      order.Relates (date.upTo value).numbers value.numbers := by
  have same := PartialDate.length_numbers_upTo date value
  rw [PartialDate.take_text]
  cases order with
  | after => exact PartialDate.isBelow_text same.symm
  | onOrAfter => exact PartialDate.isAtMost_text same.symm
  | before => exact PartialDate.isBelow_text same
  | onOrBefore => exact PartialDate.isAtMost_text same

/-- A sign is read as far as it goes, if what follows cannot make it a longer one. -/
theorem read?_sign (order : DateOrder) {date : Text} (absent : '=' ∉ date) :
    read? (order.sign ++ date) = some (order, date) := by
  cases order with
  | onOrAfter => rfl
  | onOrBefore => rfl
  | after =>
      cases date with
      | nil => rfl
      | cons char date =>
          have differs : char ≠ '=' := fun same => absent (same ▸ List.mem_cons_self)
          simp [sign, read?, differs]
  | before =>
      cases date with
      | nil => rfl
      | cons char date =>
          have differs : char ≠ '=' := fun same => absent (same ▸ List.mem_cons_self)
          simp [sign, read?, differs]

end DateOrder

/-! ## Conditions -/

/-- One end of a period as it is written, nothing when it is open. -/
def endText (value : Option PartialDate) : Text := (value.map PartialDate.text).getD []

namespace DateCondition

variable {date : CalendarDay} {rest : Text}

/-- A sign and a date are read as a comparison with the date. -/
theorem read?_compare (order : DateOrder) (value : PartialDate) :
    read? (order.sign ++ value.text) = some (.compare order value.text) := by
  have noDot : '.' ∉ order.sign ++ value.text := by
    rw [List.mem_append, not_or]
    constructor
    · cases order <;> decide
    · exact value.notMem_text (by decide) (by decide)
  have noEquals : '=' ∉ value.text := value.notMem_text (by decide) (by decide)
  rw [read?, splitFirst_eq_none noDot, order.read?_sign noEquals]
  rfl

/-- Two dots between the ends are read as a period. -/
theorem read?_period (first last : Option PartialDate) :
    read? (endText first ++ "..".toList ++ endText last) =
      some (.period (endText first) (endText last)) := by
  have noDot : '.' ∉ endText first := by
    cases first with
    | none => simp [endText]
    | some value => exact value.notMem_text (by decide) (by decide)
  have dots : "..".toList = ['.', '.'] := rfl
  rw [read?, dots, splitFirst_append noDot]

theorem holds_endText (order : DateOrder) (value : Option PartialDate) :
    ((endText value).isEmpty ||
        order.holds ((date.text ++ rest).take (endText value).length) (endText value)) = true ↔
      ∀ known ∈ value, order.Relates (date.upTo known).numbers known.numbers := by
  cases value with
  | none => simp [endText]
  | some known =>
      have notOpen : known.text.isEmpty = false := by
        simpa using known.text_ne_nil
      simp [endText, notOpen, order.holds_iff_relates]

end DateCondition

/-! ## Specs -/

namespace Spec

/-- A spec without a date meets no filter on it. -/
theorem meetsDate_of_absent {spec : Spec} {field : Text}
    (absent : spec.text? field = none ∨ spec.text? field = some []) (condition : DateCondition) :
    spec.meetsDate ⟨field, condition⟩ = false := by
  rw [meetsDate]
  rcases absent with none | empty
  · rw [none]
  · rw [empty]

theorem meetsDate_eq_holds {spec : Spec} {field : Text} {date : CalendarDay} {rest : Text}
    (dated : spec.text? field = some (date.text ++ rest)) (condition : DateCondition) :
    spec.meetsDate ⟨field, condition⟩ = condition.holds (date.text ++ rest) := by
  have begun : date.text ++ rest ≠ [] := by
    have whole : date.text = (PartialDate.oneDay date.year date.month date.day).text := rfl
    rw [whole]
    simp [PartialDate.text_ne_nil]
  rw [meetsDate, dated]
  cases written : date.text ++ rest with
  | nil => exact absurd written begun
  | cons char more => rfl

/-- A sign in front of a date, and two dots between dates that may be missing, are read as
filters.  A spec whose date begins with a day meets them exactly when the numbers of the day,
as many as the filter tells, stand in the order to those of the filter.  A spec without a date
meets none. -/
theorem meetsDate_chronological :
    (∀ (spec : Spec) (field : Text) (date : CalendarDay) (rest : Text),
      spec.text? field = some (date.text ++ rest) →
      (∀ (order : DateOrder) (value : PartialDate), ∃ condition,
        DateCondition.read? (order.sign ++ value.text) = some condition ∧
          (spec.meetsDate ⟨field, condition⟩ = true ↔
            order.Relates (date.upTo value).numbers value.numbers)) ∧
      ∀ first last : Option PartialDate, ∃ condition,
        DateCondition.read? (endText first ++ "..".toList ++ endText last) = some condition ∧
          (spec.meetsDate ⟨field, condition⟩ = true ↔
            (∀ value ∈ first, value.numbers ≤ (date.upTo value).numbers) ∧
              ∀ value ∈ last, (date.upTo value).numbers ≤ value.numbers)) ∧
    ∀ (spec : Spec) (field : Text),
      spec.text? field = none ∨ spec.text? field = some [] →
        ∀ condition, spec.meetsDate ⟨field, condition⟩ = false := by
  constructor
  · intro spec field date rest dated
    constructor
    · intro order value
      refine ⟨_, DateCondition.read?_compare order value, ?_⟩
      rw [meetsDate_eq_holds dated, DateCondition.holds]
      exact order.holds_iff_relates date rest value
    · intro first last
      refine ⟨_, DateCondition.read?_period first last, ?_⟩
      rw [meetsDate_eq_holds dated, DateCondition.holds, Bool.and_eq_true,
        DateCondition.holds_endText, DateCondition.holds_endText]
      rfl
  · intro spec field absent condition
    exact meetsDate_of_absent absent condition

/-- A spec that was created on the first of November, with the time of day behind its date, and
never updated. -/
def timestampSpec : Spec :=
  { path := "p".toList, name := "n".toList, created := some "2025-11-01T10:00:00".toList }

/-- The first of November is behind October, no later than November, and between the last day
of October and the end of the year; a date that is absent meets no filter. -/
theorem meetsDate_timestampSpec :
    (∃ condition, DateCondition.read? ">2025-10".toList = some condition ∧
      timestampSpec.meetsDate ⟨"created".toList, condition⟩ = true) ∧
    (∃ condition, DateCondition.read? "<=2025-11".toList = some condition ∧
      timestampSpec.meetsDate ⟨"created".toList, condition⟩ = true) ∧
    (∃ condition, DateCondition.read? "2025-10-31..2025".toList = some condition ∧
      timestampSpec.meetsDate ⟨"created".toList, condition⟩ = true) ∧
    ∀ condition, timestampSpec.meetsDate ⟨"updated".toList, condition⟩ = false := by
  have dated : timestampSpec.text? "created".toList =
      some (CalendarDay.text ⟨2025, 11, 1⟩ ++ "T10:00:00".toList) := rfl
  have absent : timestampSpec.text? "updated".toList = none := rfl
  rcases meetsDate_chronological with ⟨ofDay, ofAbsent⟩
  rcases ofDay timestampSpec "created".toList ⟨2025, 11, 1⟩ "T10:00:00".toList dated with
    ⟨compares, isWithin⟩
  refine ⟨?_, ?_, ?_, ofAbsent timestampSpec "updated".toList (.inl absent)⟩
  · rcases compares .after (.wholeMonth 2025 10) with ⟨condition, reads, meets⟩
    exact ⟨condition, reads, meets.mpr (by decide)⟩
  · rcases compares .onOrBefore (.wholeMonth 2025 11) with ⟨condition, reads, meets⟩
    exact ⟨condition, reads, meets.mpr (by decide)⟩
  · rcases isWithin (some (.oneDay 2025 10 31)) (some (.wholeYear 2025)) with
      ⟨condition, reads, meets⟩
    refine ⟨condition, reads, meets.mpr ⟨?_, ?_⟩⟩
    · intro value known
      cases known
      decide
    · intro value known
      cases known
      decide

end Spec

end SpecFinder
