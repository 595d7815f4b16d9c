import SpecFinder.Yaml.Cursor

/-!
# YAML scalars as written

The text of a scalar in each of its four styles: plain, in single quotes, in
double quotes, and as a block of lines.  A scalar that runs over several lines is
folded: a single line break counts as a space, and of several the first is lost.
-/

namespace SpecFinder.Yaml.Scalar

/-- The breaks at the front of a text, where each line may begin with blanks. A
mark between documents may not stand there. -/
def moreBreaks : (steps : Nat) → Text → Except Fault (Text × Text)
  | 0, text => .ok ([], text)
  | steps + 1, text =>
      if Cursor.isDocumentMark text then
        .error .malformed
      else
        let line := text.dropWhile fun char => char == ' ' || char == '\t'
        match Cursor.breakOf? line with
        | none => .ok ([], line)
        | some (char, rest) => do
            let (breaks, rest) ← moreBreaks steps rest
            return (char :: breaks, rest)

/-- What a break and the breaks after it stand for. -/
def folded (first : Char) (breaks : Text) : Text :=
  if first != '\n' then first :: breaks
  else if breaks.isEmpty then [' ']
  else breaks

/-- The character that a letter behind a backslash stands for. -/
def escapes : List (Char × Char) := [
  ('0', '\x00'), ('a', '\x07'), ('b', '\x08'), ('t', '\t'), ('\t', '\t'),
  ('n', '\n'), ('v', '\x0B'), ('f', '\x0C'), ('r', '\r'), ('e', '\x1B'),
  (' ', ' '), ('"', '"'), ('\\', '\\'), ('/', '/'), ('N', '\u0085'),
  ('_', '\u00A0'), ('L', '\u2028'), ('P', '\u2029')]

/-- How many hexadecimal digits follow a letter behind a backslash. -/
def codeLengths : List (Char × Nat) := [('x', 2), ('u', 4), ('U', 8)]

def isHexDigit (char : Char) : Bool :=
  char.isDigit || ('a' ≤ char && char ≤ 'f') || ('A' ≤ char && char ≤ 'F')

def digitValue (char : Char) : Nat :=
  if char.isDigit then char.toNat - '0'.toNat
  else if 'a' ≤ char && char ≤ 'f' then char.toNat - 'a'.toNat + 10
  else char.toNat - 'A'.toNat + 10

def valueOf (base : Nat) (digits : Text) : Nat :=
  digits.foldl (fun total digit => total * base + digitValue digit) 0

def charOfCode (code : Nat) : Except Fault Char :=
  if 0x80000000 ≤ code then .error .beyondRange
  else if 0x110000 ≤ code then .error .noSuchValue
  else .ok (Char.ofNat code)

/-- Read the escape behind a backslash: the characters it stands for and the rest.
A backslash before a line break joins two lines. -/
def readEscape (text : Text) : Except Fault (Text × Text) :=
  match text with
  | [] => .error .malformed
  | letter :: rest =>
      match escapes.lookup letter, codeLengths.lookup letter, Cursor.breakOf? text with
      | some char, _, _ => .ok ([char], rest)
      | none, some length, _ =>
          let digits := rest.take length
          if digits.length = length && digits.all isHexDigit then do
            return ([← charOfCode (valueOf 16 digits)], rest.drop length)
          else
            .error .malformed
      | none, none, some (_, rest) => moreBreaks rest.length.succ rest
      | none, none, none => .error .malformed

/-- Read a quoted scalar behind its first quote, `done` being its text so far. -/
def readQuoted (isDouble : Bool) : (steps : Nat) → (done : Text) → Text →
    Except Fault (Text × Text)
  | 0, _, _ | _, _, [] => .error .malformed
  | steps + 1, done, char :: rest =>
      if char == '\'' && !isDouble then
        match rest with
        | '\'' :: rest => readQuoted isDouble steps (done ++ ['\'']) rest
        | _ => .ok (done, rest)
      else if char == '"' && isDouble then
        .ok (done, rest)
      else if char == '\\' && isDouble then do
        let (chars, rest) ← readEscape rest
        readQuoted isDouble steps (done ++ chars) rest
      else if char == ' ' || char == '\t' || isBreak char then
        let text := char :: rest
        let isSpace (char : Char) : Bool := char == ' ' || char == '\t'
        match Cursor.breakOf? (text.dropWhile isSpace) with
        | none =>
            readQuoted isDouble steps (done ++ text.takeWhile isSpace) (text.dropWhile isSpace)
        | some (first, rest) => do
            let (breaks, rest) ← moreBreaks rest.length.succ rest
            readQuoted isDouble steps (done ++ folded first breaks) rest
      else
        readQuoted isDouble steps (done ++ [char]) rest

/-- The characters of a plain scalar up to the next blank or the end of the
scalar. A colon ends it only before a blank, or before a bracket in a flow
collection. -/
def plainRun (inFlow : Bool) : Text → Text
  | [] => []
  | char :: rest =>
      let closes : Bool := endsToken rest.head?
        || (inFlow && (rest.head?.any fun next => ",[]\x7b\x7d".toList.contains next))
      if endsToken (some char) || (char == ':' && closes)
          || (inFlow && ",?[]\x7b\x7d".toList.contains char) then
        []
      else
        char :: plainRun inFlow rest

/-- What stands between two runs of a plain scalar: the text it stands for, empty
when the scalar ends there, and whether it crosses a line break. -/
structure Gap where
  filling : Text
  cursor : Cursor
  crossesBreak : Bool

/-- The further breaks in a plain scalar, none when a mark between documents
follows one. -/
def plainBreaks : (steps : Nat) → (done : Text) → Cursor → Option Text × Cursor
  | 0, done, cursor => (some done, cursor)
  | steps + 1, done, cursor =>
      if cursor.sees ' ' then
        plainBreaks steps done cursor.step
      else
        match cursor.lineBreak? with
        | none => (some done, cursor)
        | some (char, behind) =>
            if Cursor.isDocumentMark behind.rest then (none, behind)
            else plainBreaks steps (done ++ [char]) behind

/-- The gap ahead in a plain scalar. -/
def plainGap (cursor : Cursor) : Gap :=
  let (blanks, cursor) := cursor.takeWhile (· == ' ')
  match cursor.lineBreak? with
  | none => ⟨blanks, cursor, false⟩
  | some (first, behind) =>
      if Cursor.isDocumentMark behind.rest then
        ⟨[], behind, true⟩
      else
        match plainBreaks behind.rest.length.succ [] behind with
        | (none, cursor) => ⟨[], cursor, true⟩
        | (some breaks, cursor) => ⟨folded first breaks, cursor, true⟩

/-- Read a plain scalar: its text, the place behind it, and whether the last gap
crossed a line break. Outside flow collections its lines are indented by at least
`indent`. -/
def readPlain (inFlow : Bool) (indent : Int) : (steps : Nat) → (done : Text) → Gap →
    Text × Cursor × Bool
  | 0, done, gap => (done, gap.cursor, gap.crossesBreak)
  | steps + 1, done, gap =>
      let run := plainRun inFlow gap.cursor.rest
      if gap.cursor.sees '#' || run.isEmpty then
        (done, gap.cursor, gap.crossesBreak)
      else
        let next := plainGap (gap.cursor.advance run.length)
        let done := done ++ gap.filling ++ run
        if next.filling.isEmpty || next.cursor.sees '#'
            || (!inFlow && next.cursor.column < indent) then
          (done, next.cursor, next.crossesBreak)
        else
          readPlain inFlow indent steps done next

/-- What becomes of the breaks at the end of a block: one is kept unless the
header says otherwise. -/
inductive Chomping where
  | clip
  | strip
  | keep
  deriving DecidableEq, Repr

/-- Read the signs behind the mark of a block: how its end is treated, and how far
it is indented. -/
def readHeader (cursor : Cursor) : Except Fault (Chomping × Option Nat × Cursor) :=
  let chomping (cursor : Cursor) : Chomping × Cursor :=
    if cursor.sees '+' then (.keep, cursor.step)
    else if cursor.sees '-' then (.strip, cursor.step)
    else (.clip, cursor)
  let indentation (cursor : Cursor) : Option Nat × Cursor :=
    match cursor.rest.head? with
    | some digit => if digit.isDigit then (some (digitValue digit), cursor.step) else (none, cursor)
    | none => (none, cursor)
  let (first, behind) := chomping cursor
  let (indent, behind) := indentation behind
  let (style, behind) :=
    if first == .clip && indent.isSome then chomping behind else (first, behind)
  if indent == some 0 || !endsWord behind.rest.head? then .error .malformed
  else .ok (style, indent, behind)

/-- The breaks at the front of a block, and the greatest indentation met. -/
def findIndent : (steps : Nat) → (breaks : Text) → (deepest : Nat) → Cursor →
    Text × Nat × Cursor
  | 0, breaks, deepest, cursor => (breaks, deepest, cursor)
  | steps + 1, breaks, deepest, cursor =>
      if cursor.sees ' ' then
        findIndent steps breaks (max deepest cursor.step.column) cursor.step
      else
        match cursor.lineBreak? with
        | some (char, behind) => findIndent steps (breaks ++ [char]) deepest behind
        | none => (breaks, deepest, cursor)

/-- Move past spaces up to a column. -/
def dropIndent (indent : Nat) (cursor : Cursor) : Cursor :=
  let spaces := (cursor.rest.takeWhile (· == ' ')).length
  cursor.advance (min spaces (indent - cursor.column))

/-- The breaks ahead, where each line may be indented up to a column. -/
def blockBreaks (indent : Nat) : (steps : Nat) → (breaks : Text) → Cursor → Text × Cursor
  | 0, breaks, cursor => (breaks, cursor)
  | steps + 1, breaks, cursor =>
      let cursor := dropIndent indent cursor
      match cursor.lineBreak? with
      | some (char, behind) => blockBreaks indent steps (breaks ++ [char]) behind
      | none => (breaks, cursor)

/-- Read the lines of a block. Returns its text, the break after its last line,
the breaks behind that, and the place behind the block. -/
def blockLines (isFolded : Bool) (indent : Nat) : (steps : Nat) → (done breaks : Text) →
    Cursor → Text × Text × Text × Cursor
  | 0, done, breaks, cursor => (done, [], breaks, cursor)
  | steps + 1, done, breaks, cursor =>
      let isBlank (next : Option Char) : Bool := next == some ' ' || next == some '\t'
      let (line, behind) := cursor.takeWhile (!isBreak ·)
      let (lineBreak, behind) := match behind.lineBreak? with
        | some (char, behind) => ([char], behind)
        | none => ([], behind)
      let done := done ++ breaks ++ line
      let (breaks, behind) := blockBreaks indent behind.rest.length.succ [] behind
      if behind.column == indent && !behind.rest.isEmpty then
        let joined :=
          if isFolded && lineBreak == ['\n'] && !isBlank cursor.rest.head?
              && !isBlank behind.rest.head? then
            if breaks.isEmpty then [' '] else []
          else
            lineBreak
        blockLines isFolded indent steps (done ++ joined) breaks behind
      else
        (done, lineBreak, breaks, behind)

def readBlock (isFolded : Bool) (outer : Int) (cursor : Cursor) :
    Except Fault (Text × Cursor) := do
  let (chomping, increment, cursor) ← readHeader cursor
  let cursor ← cursor.endLine
  let least := (max (outer + 1) 1).toNat
  let steps := cursor.rest.length.succ
  let (indent, breaks, cursor) := match increment with
    | some increment =>
        let indent := least + increment - 1
        let (breaks, cursor) := blockBreaks indent steps [] cursor
        (indent, breaks, cursor)
    | none =>
        let (breaks, deepest, cursor) := findIndent steps [] 0 cursor
        (max least deepest, breaks, cursor)
  let (text, lineBreak, breaks, cursor) :=
    if cursor.column == indent && !cursor.rest.isEmpty then
      blockLines isFolded indent steps [] breaks cursor
    else
      ([], [], breaks, cursor)
  let tail := match chomping with
    | .strip => []
    | .clip => lineBreak
    | .keep => lineBreak ++ breaks
  return (text ++ tail, cursor)

end SpecFinder.Yaml.Scalar
