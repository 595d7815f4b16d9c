import SpecFinder.Text.Basic

/-!
# Date filters

Dates are texts that begin with a year, a month and a day, so their order in
time is their order as texts.  A filter compares only as many characters as it
names itself: a month stands for all of its days.
-/

namespace SpecFinder

/-- How a date has to stand to the one that a filter names. -/
inductive DateOrder where
  | after
  | onOrAfter
  | before
  | onOrBefore
  deriving DecidableEq, Repr

/-- The condition that a filter puts on a date. An empty end of a period leaves
it open on that side. -/
inductive DateCondition where
  | compare (order : DateOrder) (date : Text)
  | period (first last : Text)
  deriving DecidableEq, Repr

structure DateFilter where
  field : Text
  condition : DateCondition
  deriving DecidableEq, Repr

namespace DateOrder

def sign : DateOrder → Text
  | .after => ['>']
  | .onOrAfter => ['>', '=']
  | .before => ['<']
  | .onOrBefore => ['<', '=']

/-- Read the sign that a text begins with; a sign of two characters goes before
the one it extends. -/
def read? : Text → Option (DateOrder × Text)
  | '>' :: '=' :: rest => some (.onOrAfter, rest)
  | '<' :: '=' :: rest => some (.onOrBefore, rest)
  | '>' :: rest => some (.after, rest)
  | '<' :: rest => some (.before, rest)
  | _ => none

def holds : DateOrder → (actual date : Text) → Bool
  | .after, actual, date => Text.isBelow date actual
  | .onOrAfter, actual, date => Text.isAtMost date actual
  | .before, actual, date => Text.isBelow actual date
  | .onOrBefore, actual, date => Text.isAtMost actual date

end DateOrder

namespace DateCondition

/-- Read a condition: two dots make a period, a leading sign a comparison. -/
def read? (value : Text) : Option DateCondition :=
  match Text.splitFirst ['.', '.'] value with
  | some (first, last) => some (.period first last)
  | none => (DateOrder.read? value).map fun (order, date) => .compare order date

/-- The condition with a given sign, or the word `range`, between its parts. -/
def ofParts? (sign first : Text) (last : Option Text) : Option DateCondition :=
  if sign = "range".toList then
    some (.period first (last.getD []))
  else
    match DateOrder.read? sign with
    | some (order, []) => some (.compare order first)
    | _ => none

/-- Whether a date, cut to the length of what it is compared with, meets a
condition. -/
def holds : DateCondition → (actual : Text) → Bool
  | .compare order date, actual => order.holds (actual.take date.length) date
  | .period first last, actual =>
      (first.isEmpty || DateOrder.holds .onOrAfter (actual.take first.length) first) &&
        (last.isEmpty || DateOrder.holds .onOrBefore (actual.take last.length) last)

end DateCondition

def DateFilter.fieldNames : List Text :=
  ["created".toList, "updated".toList]

/-- The date filter that a field and its value stand for, if they are one. -/
def DateFilter.ofField? (name value : Text) : Option DateFilter :=
  if DateFilter.fieldNames.contains name then
    (DateCondition.read? value).map (⟨name, ·⟩)
  else
    none

end SpecFinder
