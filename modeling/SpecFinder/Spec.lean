import SpecFinder.Text.LetterCase
import SpecFinder.Query.DateFilter

/-!
# Specs

A spec is one document of a library: a name, a body, and what its head says about
it.  Here are its views as texts and the filters on its fields.
-/

namespace SpecFinder

/-- A spec as a search sees it. Dates are texts that begin with year, month and
day; what a spec does not say is absent. -/
structure Spec where
  path : Text
  name : Text
  status : Text := []
  priority : Option Text := none
  tags : List Text := []
  title : Option Text := none
  description : Option Text := none
  content : Option Text := none
  created : Option Text := none
  updated : Option Text := none
  assignee : Option Text := none
  deriving DecidableEq, Repr

namespace Spec

/-- The searched texts of a spec. Every tag is a text of its own, so that nothing
is found across two tags. -/
def texts (spec : Spec) : List Text :=
  [spec.title.getD [], spec.name] ++ spec.tags
    ++ [spec.description.getD [], spec.content.getD []]

/-- All searched texts as one, in lower case. -/
def searchText (spec : Spec) : Text :=
  Text.lower (Text.join [' '] spec.texts)

/-- The text of a field that holds a single text, by name. -/
def text? (spec : Spec) (field : Text) : Option Text :=
  [("path", some spec.path), ("name", some spec.name), ("status", some spec.status),
    ("priority", spec.priority), ("title", spec.title),
    ("description", spec.description), ("content", spec.content),
    ("created", spec.created), ("updated", spec.updated),
    ("assignee", spec.assignee)].findSome? fun (name, text) =>
      if name.toList = field then text else none

/-- Whether the date of a spec meets a filter. An absent date meets none. -/
def meetsDate (spec : Spec) (filter : DateFilter) : Bool :=
  match spec.text? filter.field with
  | none | some [] => false
  | some date => filter.condition.holds date

/-- Whether a spec meets a field filter. Case is ignored except in dates: a
single word has to be the whole field, a title, name or description has to hold
the value, a date has to begin with it. A field of another name stands for its
value as plain text. -/
def meetsField (spec : Spec) (field value : Text) : Bool :=
  let wanted := Text.lower value
  let equals (actual : Text) : Bool := Text.lower actual == wanted
  let holds (actual : Text) : Bool := Text.occursIn wanted (Text.lower actual)
  let begins (date : Option Text) : Bool := value.isPrefixOf (date.getD [])
  if field = "status".toList then equals spec.status
  else if field = "priority".toList then equals (spec.priority.getD [])
  else if field = "assignee".toList then equals (spec.assignee.getD [])
  else if field = "tag".toList || field = "tags".toList then spec.tags.any equals
  else if field = "title".toList then holds (spec.title.getD [])
  else if field = "name".toList then holds spec.name
  else if field = "description".toList then holds (spec.description.getD [])
  else if field = "created".toList then begins spec.created
  else if field = "updated".toList then begins spec.updated
  else Text.occursIn wanted spec.searchText

/-- Whether every term occurs somewhere in a spec. An empty list of terms is met
by no spec. -/
def containsAll (spec : Spec) (terms : List Text) : Bool :=
  !terms.isEmpty && terms.all fun term => Text.occursIn (Text.lower term) spec.searchText

end Spec

end SpecFinder
