import SpecFinder.Text.Basic

/-!
# Places in a YAML text

A cursor stands in front of the rest of a text and knows its line and column.
-/

namespace SpecFinder.Yaml

/-- Why a YAML text has no value: it breaks a rule of the format, or a scalar of
a kind that its tag names does not stand for any value of this kind. -/
inductive Fault where
  | malformed
  /-- A value that there is not, such as the thirtieth of February, or a number that
  has too many digits. -/
  | noSuchValue
  /-- A number that is too large for what it counts. -/
  | beyondRange
  /-- A number without a single character. -/
  | emptyNumber
  /-- A truth value that is none of the known words. -/
  | unknownWord
  /-- A date that does not look like one. -/
  | unlikeDate
  /-- A date that is not a scalar. -/
  | dateOfMapping
  /-- Collections within each other without an end, or too many of them. -/
  | tooDeep
  deriving DecidableEq, Repr

def isBreak (char : Char) : Bool :=
  char == '\n' || char == '\r' || char == '\u0085' || char == '\u2028' || char == '\u2029'

/-- Whether a line ends where the next character stands, if there is one. -/
def endsLine : Option Char → Bool
  | none => true
  | some char => isBreak char

/-- Whether a word ends where the next character stands, tabs not counted. -/
def endsWord : Option Char → Bool
  | none => true
  | some char => char == ' ' || isBreak char

/-- Whether a token ends where the next character stands. -/
def endsToken (next : Option Char) : Bool :=
  next == some '\t' || endsWord next

def isPrintable (char : Char) : Bool :=
  Text.inRanges [(0x09, 0x0A), (0x0D, 0x0D), (0x20, 0x7E), (0x85, 0x85), (0xA0, 0xD7FF),
    (0xE000, 0xFFFD), (0x10000, 0x10FFFF)] char.toNat

/-- The rest of a text and the place where it begins. -/
structure Cursor where
  rest : Text
  index : Nat := 0
  line : Nat := 0
  column : Nat := 0
  deriving Repr

namespace Cursor

def peek (cursor : Cursor) (ahead : Nat) : Option Char := cursor.rest[ahead]?

def sees (cursor : Cursor) (char : Char) : Bool := cursor.rest.head? == some char

/-- Move past one character. A byte order mark takes no column. -/
def step (cursor : Cursor) : Cursor :=
  match cursor.rest with
  | [] => cursor
  | char :: rest =>
      if isBreak char && !(char == '\r' && rest.head? == some '\n') then
        ⟨rest, cursor.index + 1, cursor.line + 1, 0⟩
      else if char == '\uFEFF' then
        ⟨rest, cursor.index + 1, cursor.line, cursor.column⟩
      else
        ⟨rest, cursor.index + 1, cursor.line, cursor.column + 1⟩

def advance (cursor : Cursor) : (count : Nat) → Cursor
  | 0 => cursor
  | count + 1 => cursor.step.advance count

/-- Move to where a later part of the rest begins. -/
def moveTo (cursor : Cursor) (rest : Text) : Cursor :=
  cursor.advance (cursor.rest.length - rest.length)

def takeWhile (accepts : Char → Bool) (cursor : Cursor) : Text × Cursor :=
  let taken := cursor.rest.takeWhile accepts
  (taken, cursor.advance taken.length)

def dropWhile (accepts : Char → Bool) (cursor : Cursor) : Cursor :=
  (cursor.takeWhile accepts).2

def dropSpaces (cursor : Cursor) : Cursor := cursor.dropWhile (· == ' ')

def dropComment (cursor : Cursor) : Cursor :=
  if cursor.sees '#' then cursor.dropWhile (!isBreak ·) else cursor

/-- The line break at the front of a text and what follows it. All breaks but the
two separators of lines and paragraphs are read as line feeds. -/
def breakOf? : Text → Option (Char × Text)
  | '\r' :: '\n' :: rest => some ('\n', rest)
  | char :: rest =>
      if char == '\u2028' || char == '\u2029' then some (char, rest)
      else if isBreak char then some ('\n', rest)
      else none
  | [] => none

/-- The line break ahead and the place behind it. -/
def lineBreak? (cursor : Cursor) : Option (Char × Cursor) :=
  (breakOf? cursor.rest).map fun (char, rest) => (char, cursor.moveTo rest)

/-- Whether a text begins with a mark between documents. -/
def isDocumentMark : Text → Bool
  | '-' :: '-' :: '-' :: rest | '.' :: '.' :: '.' :: rest => endsToken rest.head?
  | _ => false

/-- Move past the rest of a line that may hold only a comment. -/
def endLine (cursor : Cursor) : Except Fault Cursor :=
  let cursor := cursor.dropSpaces.dropComment
  if endsLine cursor.rest.head? then
    .ok (((cursor.lineBreak?).map (·.2)).getD cursor)
  else
    .error .malformed

end Cursor

end SpecFinder.Yaml
