import SpecFinder.FrontMatter
import SpecFinder.Machine
import SpecFinder.Spec
import SpecFinder.Yaml.Construction

/-!
# Specs from documents

A spec is made of a document: its head fills the fields, its body is the content,
and a head without a title takes the first heading of the body for one.
-/

namespace SpecFinder.Spec

/-- Why a document is no spec: its head has no value or is no mapping, or a field holds
an integer with too many digits to be written. -/
inductive DocumentError where
  | head (fault : Yaml.Fault)
  | headNotMapping
  | longInteger
  deriving DecidableEq, Repr

def written (head : Yaml.Document) (value : Yaml.Value) : Except DocumentError Text :=
  match head.text? value with
  | some text => .ok text
  | none => .error .longInteger

/-- The text of a value, none for nothing. A moment is written with a `T`. -/
def textOf (head : Yaml.Document) : Yaml.Value → Except DocumentError (Option Text)
  | .null => .ok none
  | .moment time => .ok (some (time.text 'T'))
  | value => some <$> written head value

/-- The tags of a value: the items of a list, the parts of a text between commas, or the
value itself. -/
def tagsOf (head : Yaml.Document) (value : Yaml.Value) : Except DocumentError (List Text) :=
  match value with
  | .null => .ok []
  | .string text =>
      .ok (((Text.splitWhere (· == ',') text).map Text.trim).filter (!·.isEmpty))
  | .collection number =>
      match head.collection number with
      | .list items => items.mapM (written head)
      | .pair _ _ | .mapping _ | .set _ => return [← written head value]
  | value => return [← written head value]

def readHead (room : Nat) (head : Option Text) :
    Except DocumentError (Yaml.Document × List (Yaml.Value × Yaml.Value)) := do
  let document ← match Yaml.Document.ofText room (head.getD []) with
    | .ok document => pure document
    | .error fault => throw (.head fault)
  match document.root with
  | .null => return (document, [])
  | .collection number =>
      match document.collection number with
      | .mapping entries => return (document, entries)
      | .list _ | .pair _ _ | .set _ => throw .headNotMapping
  | _ => throw .headNotMapping

/-- The spec of a document, whose head may hold as many collections in one another as there is
room for. -/
def ofDocument (path name document : Text) (room : Nat := ({} : NestingRoom).head) :
    Except DocumentError Spec := do
  let (head, body) := FrontMatter.split document
  let (head, entries) ← readHead room head
  let get (key : String) : Yaml.Value := (Yaml.Value.get? key entries).getD .null
  let field (key : String) : Except DocumentError (Option Text) := textOf head (get key)
  let dateField (key other : String) : Except DocumentError (Option Text) :=
    textOf head (if head.isFalsy (get key) then get other else get key)
  let title ← field "title"
  return {
    path, name
    status := (← field "status").getD []
    priority := ← field "priority"
    tags := ← tagsOf head (get "tags")
    title := match title with
      | none | some [] => FrontMatter.firstHeading? body
      | title => title
    description := ← field "description"
    content := some body
    created := ← dateField "created" "created_at"
    updated := ← dateField "updated" "updated_at"
    assignee := ← field "assignee" }

end SpecFinder.Spec
