import SpecFinder.Text.Lines

/-!
# Front matter

A document may begin with a head between two lines of three dashes.  The head
tells about the document; what follows it is the body.
-/

namespace SpecFinder.FrontMatter

def isDelimiter (line : Text) : Bool := Text.trim line == "---".toList

def cutAtDelimiter : List Text → Option (List Text × List Text)
  | [] => none
  | line :: rest =>
      if isDelimiter line then some ([], rest)
      else (cutAtDelimiter rest).map fun (before, behind) => (line :: before, behind)

/-- The head of a document, if it has one, and its body. A head that is never
closed is part of the body. -/
def split (text : Text) : Option Text × Text :=
  match Text.lines text with
  | [] => (none, text)
  | first :: rest =>
      if isDelimiter first then
        match cutAtDelimiter rest with
        | some (head, body) => (some head.flatten, body.flatten)
        | none => (none, text)
      else
        (none, text)

/-- The first heading of the highest level in a body. -/
def firstHeading? (body : Text) : Option Text :=
  ((Text.lines body).map Text.withoutBreak).findSome? fun line =>
    match line with
    | '#' :: ' ' :: heading => some (Text.trim heading)
    | _ => none

end SpecFinder.FrontMatter
