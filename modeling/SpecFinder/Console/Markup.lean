import SpecFinder.Console.Column
import SpecFinder.Console.Literal
import SpecFinder.Console.Picture
import SpecFinder.Console.Style

/-!
# Markup

A message may hold tags in brackets, which style what is between them and are not
shown.  A backslash in front of a tag shows the tag instead.  Without colours,
only the text is left; a closing tag still has to close one that is open.
-/

namespace SpecFinder.Console

def beginsTag (char : Char) : Bool :=
  ('a' ≤ char && char ≤ 'z') || char == '#' || char == '/' || char == '@'

/-- The inside of a bracket that was opened before a text, up to the first closing
bracket. It begins as a tag does and holds no further opening bracket. -/
def bracketed? : Text → Option Text
  | [] => none
  | first :: rest =>
      let inside := rest.takeWhile fun char => char != ']' && char != '['
      if beginsTag first && (rest.drop inside.length).head? == some ']' then
        some (first :: inside)
      else
        none

/-- What is left behind a bracket and its closing one. -/
def behind (inside rest : Text) : Text := rest.drop (inside.length + 1)

def backslashes (count : Nat) : Text := List.replicate count '\\'

/-- Put backslashes so that a text shows as it is when it is read as markup. Those in
front of a tag are doubled, and so is a single one at the end. -/
def escape (text : Text) : Text :=
  let escaped := within 0 text
  let endsAlone := escaped.getLast? == some '\\' && escaped.dropLast.getLast? != some '\\'
  if endsAlone then escaped ++ ['\\'] else escaped
where
  /-- Escape a text in front of which some backslashes stand. -/
  within (count : Nat) : Text → Text
    | [] => backslashes count
    | '\\' :: rest => within (count + 1) rest
    | '[' :: rest =>
        match bracketed? rest with
        | none => backslashes count ++ '[' :: within 0 rest
        | some inside =>
            backslashes (2 * count + 1) ++ '[' :: inside ++ ']' :: within 0 (behind inside rest)
    | char :: rest => backslashes count ++ char :: within 0 rest
  termination_by text => text.length
  decreasing_by all_goals (simp only [behind, List.length_drop, List.length_cons]; omega)

inductive Piece where
  | shown (text : Text)
  | tag (inside : Text)
  deriving DecidableEq, Repr

namespace Piece

/-- A text as a piece, unless it is empty. -/
def ofText (text : Text) : List Piece := if text.isEmpty then [] else [.shown text]

/-- The pieces of a bracket behind some backslashes. Two of them show as one; one
that is left shows the bracket. -/
def ofBracket (count : Nat) (inside : Text) : List Piece :=
  ofText (backslashes (count / 2)) ++
    if count % 2 = 1 then [.shown ('[' :: inside ++ [']'])] else [.tag inside]

/-- Cut a message into pieces. The text `before` comes in front of it, and then
some backslashes. -/
def cut (before : Text) (count : Nat) : Text → List Piece
  | [] => ofText (before ++ backslashes count)
  | '\\' :: rest => cut before (count + 1) rest
  | '[' :: rest =>
      match bracketed? rest with
      | none => cut (before ++ backslashes count ++ ['[']) 0 rest
      | some inside =>
          ofText before ++ ofBracket count inside ++ cut [] 0 (behind inside rest)
  | char :: rest => cut (before ++ backslashes count ++ [char]) 0 rest
termination_by text => text.length
decreasing_by all_goals (simp only [behind, List.length_drop, List.length_cons]; omega)

end Piece

/-- Show an opening bracket without the backslash in front of it. -/
def withoutBackslash : Text → Text
  | '\\' :: '[' :: rest => '[' :: withoutBackslash rest
  | char :: rest => char :: withoutBackslash rest
  | [] => []

/-- Why a message cannot be shown: a closing tag closes nothing, what a handler is given is
no value, or a part of a mixed colour is no number. -/
inductive MarkupFault where
  | nothingOpen (inside : Text)
  | badHandler (call : Text)
  | badColor
  deriving DecidableEq, Repr

/-- A tag that is open: the full name of its style, and what stands behind an equals
sign. -/
structure OpenTag where
  name : Text
  argument : Option Text
  deriving DecidableEq, Repr

namespace OpenTag

def fullName (name : Text) : Except MarkupFault Text :=
  match styleName? name with
  | some name => .ok name
  | none => .error .badColor

def ofBracket (inside : Text) : Except MarkupFault OpenTag := do
  let name := inside.takeWhile (· != '=')
  return ⟨← fullName name, (inside.drop name.length).tail?⟩

/-- What a handler is given, as it is written behind its name. A text that is no call is
given as a whole. -/
def givenTo (call : Text) : Text :=
  let arguments := call.dropWhile fun char => Text.isWordCharacter char || char == '.'
  if arguments.isEmpty then
    "()".toList
  else if arguments.head? == some '(' && arguments.getLast? == some ')'
      && !arguments.contains '\n' then
    arguments
  else
    call

/-- Check what the handler of a tag is given when the tag is closed. -/
def close (tag : OpenTag) : Except MarkupFault Unit :=
  match tag.name, tag.argument with
  | '@' :: _, some (char :: call) =>
      if Literal.isWritten (givenTo (Text.trim (char :: call))) then .ok ()
      else .error (.badHandler (char :: call))
  | _, _ => .ok ()

/-- Check the style that the text within a tag is shown in. Words that are no style leave
the text as it is. -/
def checkStyle (tag : OpenTag) : Except MarkupFault Unit :=
  let style := tag.name ++ ((tag.argument.map (' ' :: ·)).getD [])
  match Style.read style with
  | .error .noNumber => .error .badColor
  | .ok _ | .error .unknownWord => .ok ()

end OpenTag

/-- What has been read of a message: the text it shows, the tags that are open, innermost
first, and those that are closed. Each open tag comes with how much text is before it,
each closed one with the text that it styles. -/
structure Rendering where
  text : Text := []
  opened : List (OpenTag × Nat) := []
  closed : List (OpenTag × Text) := []
  deriving DecidableEq, Repr

namespace Rendering

def add (rendering : Rendering) (text : Text) : Rendering :=
  { rendering with text := rendering.text ++ withoutControls (withPictures text) }

/-- Close the innermost tag that is chosen by its name, if there is one. -/
def close? (rendering : Rendering) (isChosen : Text → Bool) :
    Except MarkupFault (Option Rendering) :=
  match rendering.opened.find? fun entry => isChosen entry.1.name with
  | none => return none
  | some (tag, start) => do
      tag.close
      return some { rendering with
        opened := rendering.opened.eraseP fun entry => isChosen entry.1.name
        closed := (tag, rendering.text.drop start) :: rendering.closed }

def read (rendering : Rendering) : Piece → Except MarkupFault Rendering
  | .shown text => .ok (rendering.add (withoutBackslash text))
  | .tag inside => do
      match inside.takeWhile (· != '=') with
      | '/' :: name =>
          let name := Text.trim name
          let closed? ← if name.isEmpty then rendering.close? fun _ => true else do
            let name ← OpenTag.fullName name
            rendering.close? (· == name)
          match closed? with
          | some closed => return closed
          | none => throw (.nothingOpen inside)
      | _ =>
          let tag ← OpenTag.ofBracket inside
          return { rendering with opened := (tag, rendering.text.length) :: rendering.opened }

/-- Check the styles of the texts within tags. In a text that has to be divided, no
part is left for a tag that styles nothing or only line ends. -/
def checkStyles (rendering : Rendering) : Except MarkupFault Unit :=
  let isDivided := rendering.text.any fun char => char == '\n' || char == '\t'
  let left := rendering.opened.map fun (tag, start) => (tag, rendering.text.drop start)
  (left ++ rendering.closed).forM fun (tag, styled) =>
    if isDivided && styled.all (· == '\n') then .ok () else tag.checkStyle

end Rendering

/-- The text of a message. The styles are looked at when all tags have been read. -/
def markedText (message : Text) : Except MarkupFault Text := do
  let rendering ← (Piece.cut [] 0 message).foldlM Rendering.read {}
  rendering.checkStyles
  return rendering.text

end SpecFinder.Console
