import SpecFinder.Console
import SpecFinder.Json
import SpecFinder.Search

/-!
# Presenting results

A result as lines for people, which show the spec and its matches, and as a record
for other programs.
-/

namespace SpecFinder

def statusSigns : List (String × Char) :=
  [("planned", '○'), ("in-progress", '◐'), ("complete", '●'), ("archived", '□')]

namespace Result

open Console

variable {σ : Type}

def statusSign (status : Text) : Text × Char :=
  match statusSigns.find? fun (known, _) => known.toList == status with
  | some (_, sign) => ("status.".toList ++ status, sign)
  | none => ("info".toList, '·')

/-- A message in a style. -/
def styled (style message : Text) : Text :=
  '[' :: style ++ ']' :: message ++ '[' :: '/' :: style ++ [']']

def headLine (result : Result σ) : Line :=
  let (style, sign) := statusSign result.spec.status
  let score := '(' :: Text.ofNat result.score ++ "% match)".toList
  [.marked (styled style [sign] ++ ' ' :: styled "path".toList (escape result.spec.name)
    ++ ' ' :: styled "score".toList score)]

/-- The line with what the head of the spec says, if it says any of it. -/
def factLines (spec : Spec) : List Line :=
  let texts := ([some spec.status, spec.priority].filterMap id).filter (!·.isEmpty)
  let tags := if spec.tags.isEmpty then []
    else ['[' :: Text.join ", ".toList spec.tags ++ [']']]
  let facts := texts ++ tags
  if facts.isEmpty then [] else [[.unmarked ("   ".toList ++ Text.join " • ".toList facts)]]

def matchText (found : Match σ) : Text :=
  (StyledText.highlight found.text found.highlights "match".toList).plain

/-- A line with a label in front. -/
def labelled (label : String) (text : Text) : Line :=
  [.marked "   ".toList, .marked (styled "field".toList (label.toList ++ [':'])), .exact text]

def ofField (result : Result σ) (field : String) : List (Match σ) :=
  result.shown.filter fun found => found.field == field.toList

def fieldLines (result : Result σ) (label field : String) : List Line :=
  (result.ofField field).head?.toList.map fun found => labelled label (matchText found)

def tagLines (result : Result σ) : List Line :=
  let tags := result.ofField "tags"
  if tags.isEmpty then []
  else [labelled "Tags" (Text.join ", ".toList (tags.map matchText))]

/-- The lines with the matches in the content, each after its line number. -/
def contentLines (result : Result σ) : List Line :=
  let found := result.ofField "content"
  let place (found : Match σ) : Text :=
    "   ".toList ++ styled "dim".toList ("\\[L".toList ++ Text.ofInt found.lineOrZero ++ [']'])
  if found.isEmpty then []
  else
    [.marked ("   ".toList ++ styled "field".toList "Content matches:".toList)] ::
      found.map fun found => [.marked (place found), .exact (matchText found)]

def restLines (result : Result σ) : List Line :=
  let count := result.totalMatches - result.shown.length
  let ending := if count = 1 then "" else "es"
  let message := "... and ".toList ++ Text.ofNat count ++ " more match".toList ++ ending.toList
  if count = 0 then [] else [[.marked ("   ".toList ++ styled "dim".toList message)]]

/-- The lines of a result. A blank one comes last. -/
def lines (result : Result σ) : List Line :=
  result.headLine :: factLines result.spec ++ result.fieldLines "Title" "title"
    ++ result.fieldLines "Description" "description" ++ result.tagLines
    ++ result.contentLines ++ result.restLines ++ [[]]

def record (entries : List (String × Json)) : Json :=
  .record (entries.map fun (name, value) => (name.toList, value))

/-- A spec as a record, without its content. -/
def specRecord (spec : Spec) : Json := record [
  ("path", .string spec.path), ("name", .string spec.name), ("status", .string spec.status),
  ("priority", .ofText? spec.priority), ("tags", .list (spec.tags.map .string)),
  ("title", .ofText? spec.title), ("description", .ofText? spec.description),
  ("created", .ofText? spec.created), ("updated", .ofText? spec.updated),
  ("assignee", .ofText? spec.assignee)]

def matchRecord (found : Match Float) : Json := record [
  ("field", .string found.field), ("text", .string found.text), ("score", .float found.score),
  ("highlights", .list (found.highlights.map fun span =>
    .list [.int span.start, .int span.stop])),
  ("occurrences", .int found.occurrences),
  ("line_number", (found.line.map .int).getD .null)]

def toRecord (result : Result Float) : Json := record [
  ("spec", specRecord result.spec), ("score", .int result.score),
  ("total_matches", .int result.totalMatches),
  ("matches", .list (result.shown.map matchRecord))]

end Result

end SpecFinder
