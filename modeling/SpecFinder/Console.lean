import SpecFinder.Console.Column
import SpecFinder.Console.Markup

/-!
# The console

What a command prints: messages with markup, which are laid out in lines, and texts
that are printed as they are.  Errors and warnings go to a channel of their own.
-/

namespace SpecFinder.Console

/-- A part of a line: a message with markup, a message without, or a text that is
shown as it is. -/
inductive Part where
  | marked (message : Text)
  | unmarked (message : Text)
  | exact (text : Text)
  deriving DecidableEq, Repr

def Part.text : Part → Except MarkupFault Text
  | .marked message => markedText message
  | .unmarked message => .ok (withoutControls (withPictures message))
  | .exact text => .ok (withoutControls text)

/-- A line, in parts with a blank between each two. -/
abbrev Line := List Part

def lineText (line : Line) : Except MarkupFault Text := do
  let texts ← line.mapM Part.text
  return alignTabs (Text.join [' '] texts) ++ ['\n']

inductive Channel where
  | output
  | errors
  deriving DecidableEq, Repr

/-- What is printed at once: lines, all or none of them, or a text as it is. -/
inductive Passage where
  | lines (channel : Channel) (lines : List Line)
  | verbatim (channel : Channel) (text : Text)
  deriving DecidableEq, Repr

/-- A message for the reader. -/
def information (message : Text) : Passage :=
  .lines .output [[.marked ("[info]".toList ++ message ++ "[/info]".toList)]]

def success (message : Text) : Passage :=
  .lines .output [[.marked ("[success]".toList ++ message ++ "[/success]".toList)]]

def warning (message : Text) : Passage :=
  .lines .errors [[.marked ("[warning]Warning:[/warning] ".toList ++ message)]]

def error (message : Text) : Passage :=
  .lines .errors [[.marked ("[error]Error:[/error] ".toList ++ message)]]

/-- What can be done about an error. -/
def hint (message : Text) : Passage :=
  .lines .errors [[.marked ("  [info]Hint:[/info] ".toList ++ message)]]

/-- A text that is printed as a line of its own. -/
def echo (text : Text) : Passage := .verbatim .output (text ++ ['\n'])

structure Transcript where
  output : Text := []
  errors : Text := []
  deriving DecidableEq, Repr

namespace Transcript

def add (transcript : Transcript) (text : Text) : Channel → Transcript
  | .output => { transcript with output := transcript.output ++ text }
  | .errors => { transcript with errors := transcript.errors ++ text }

/-- Print passages. The first one whose markup is wrong ends the printing. -/
def print (transcript : Transcript) : List Passage → Transcript × Option MarkupFault
  | [] => (transcript, none)
  | .verbatim channel text :: passages => (transcript.add text channel).print passages
  | .lines channel lines :: passages =>
      match lines.mapM lineText with
      | .error fault => (transcript, some fault)
      | .ok texts => (transcript.add texts.flatten channel).print passages

end Transcript

end SpecFinder.Console
