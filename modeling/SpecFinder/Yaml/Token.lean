import SpecFinder.Number.Decimal
import SpecFinder.Text.Utf8
import SpecFinder.Yaml.Scalar

/-!
# YAML tokens

A YAML text as a list of tokens.  Indentation shows only in the tokens that begin
and end block collections.  A key is known for one when the colon behind it is
reached, so its token is put in afterwards, in front of what it is made of; such a
key has to stand on one line and be at most 1024 characters long.

A text that cannot be read to its end breaks off in a token of its own, so that
the faults of a text come in the order in which its readers meet them.
-/

namespace SpecFinder.Yaml

/-- What a line that begins with a percent sign says. -/
inductive Directive where
  | version (major : Nat)
  | tagPrefix (handle : Text) (expansion : Text)
  | reserved
  deriving DecidableEq, Repr

inductive Token where
  | directive (content : Directive)
  | documentStart
  | documentEnd
  | blockSequenceStart
  | blockMappingStart
  | blockEnd
  | flowSequenceStart
  | flowSequenceEnd
  | flowMappingStart
  | flowMappingEnd
  | blockEntry
  | flowEntry
  | key
  | value
  | alias (name : Text)
  | anchor (name : Text)
  | tag (handle : Option Text) (suffix : Text)
  | scalar (text : Text) (isPlain : Bool)
  | broken (fault : Fault)
  deriving DecidableEq, Repr

/-- The fault of tokens that do not go on as they should. -/
def Token.blame : List Token → Fault
  | .broken fault :: _ => fault
  | _ => .malformed

/-- A token that may turn out to begin a key: how many tokens stand before it, its
place, and whether anything but a key would break the indentation. -/
structure KeyCandidate where
  tokensBefore : Nat
  isRequired : Bool
  index : Nat
  line : Nat
  column : Nat
  deriving Repr

/-- The reading of a YAML text up to some place. Tokens are held last first,
candidates with the number of flow collections around them. -/
structure Scanner where
  cursor : Cursor
  flowLevel : Nat := 0
  indent : Int := -1
  outerIndents : List Int := []
  allowsKey : Bool := true
  candidates : List (Nat × KeyCandidate) := []
  tokens : List Token := []
  deriving Repr

namespace Scanner

def inFlow (scanner : Scanner) : Bool := scanner.flowLevel != 0

def push (scanner : Scanner) (token : Token) : Scanner :=
  { scanner with tokens := token :: scanner.tokens }

/-- Add a token that takes some characters. -/
def take (scanner : Scanner) (token : Token) (length : Nat) : Scanner :=
  { scanner.push token with cursor := scanner.cursor.advance length }

/-- Put a token behind the first `before` ones. -/
def insert (scanner : Scanner) (before : Nat) (token : Token) : Scanner :=
  { scanner with
    tokens := scanner.tokens.insertIdx (scanner.tokens.length - before) token }

/-- Close the block collections that are indented beyond a column. -/
def unwindTo (column : Int) : (outer : List Int) → Scanner → Scanner
  | [], scanner => scanner
  | indent :: outer, scanner =>
      if column < scanner.indent then
        unwindTo column outer { scanner.push .blockEnd with indent, outerIndents := outer }
      else
        scanner

/-- Close the block collections that end before a column. In flow collections
indentation does not count. -/
def unwind (scanner : Scanner) (column : Int) : Scanner :=
  if scanner.inFlow then scanner else unwindTo column scanner.outerIndents scanner

/-- Begin a block collection at a column, if it is indented further. -/
def deepen (scanner : Scanner) (column : Nat) : Bool × Scanner :=
  if scanner.indent < column then
    (true, { scanner with
      indent := column, outerIndents := scanner.indent :: scanner.outerIndents })
  else
    (false, scanner)

/-- Whether a candidate can no longer be a key. -/
def isStale (scanner : Scanner) (candidate : KeyCandidate) : Bool :=
  candidate.line != scanner.cursor.line || 1024 < scanner.cursor.index - candidate.index

/-- Forget the candidates that can no longer be keys. -/
def dropStale (scanner : Scanner) : Except Fault Scanner :=
  if scanner.candidates.any fun entry => scanner.isStale entry.2 && entry.2.isRequired then
    .error .malformed
  else
    .ok { scanner with candidates := scanner.candidates.filter (!scanner.isStale ·.2) }

/-- The tokens in front of which no other one can be put any more. -/
def settled (scanner : Scanner) : List Token :=
  let open? (entry : Nat × KeyCandidate) : Option Nat :=
    if scanner.isStale entry.2 then none else some entry.2.tokensBefore
  let count := (scanner.candidates.filterMap open?).foldl min scanner.tokens.length
  scanner.tokens.drop (scanner.tokens.length - count)

/-- The candidate within the innermost collection. -/
def candidate? (scanner : Scanner) : Option KeyCandidate :=
  scanner.candidates.lookup scanner.flowLevel

def forget (scanner : Scanner) : Scanner :=
  { scanner with candidates := scanner.candidates.filter (·.1 != scanner.flowLevel) }

/-- Give up the candidate within the innermost collection. -/
def giveUp (scanner : Scanner) : Except Fault Scanner :=
  if scanner.candidate?.any (·.isRequired) then .error .malformed else .ok scanner.forget

/-- Remember that the next token may begin a key. -/
def remember (scanner : Scanner) : Except Fault Scanner :=
  if scanner.allowsKey then do
    let cleared ← scanner.giveUp
    let candidate : KeyCandidate := {
      tokensBefore := scanner.tokens.length
      isRequired := !scanner.inFlow && scanner.indent == scanner.cursor.column
      index := scanner.cursor.index
      line := scanner.cursor.line
      column := scanner.cursor.column }
    return { cleared with candidates := (scanner.flowLevel, candidate) :: cleared.candidates }
  else
    .ok scanner

/-- Move past spaces, comments and line breaks. A line break in a block allows a
key to follow. -/
def toNextToken : (steps : Nat) → Scanner → Scanner
  | 0, scanner => scanner
  | steps + 1, scanner =>
      let cursor := scanner.cursor.dropSpaces.dropComment
      match cursor.lineBreak? with
      | some (_, behind) =>
          toNextToken steps
            { scanner with cursor := behind, allowsKey := scanner.allowsKey || !scanner.inFlow }
      | none => { scanner with cursor }

def isNameCharacter (char : Char) : Bool :=
  char.isAlphanum || char == '-' || char == '_'

def readName (cursor : Cursor) : Except Fault (Text × Cursor) :=
  let (name, behind) := cursor.step.takeWhile isNameCharacter
  let ends : Bool := endsToken behind.rest.head?
    || behind.rest.head?.any fun next => "?:,]\x7d%@\x60".toList.contains next
  if name.isEmpty || !ends then .error .malformed else .ok (name, behind)

/-- Read a tag handle: one or two exclamation marks, or a name between them. -/
def readHandle (cursor : Cursor) : Except Fault (Text × Cursor) :=
  if !cursor.sees '!' then
    .error .malformed
  else if cursor.peek 1 == some ' ' then
    .ok (['!'], cursor.step)
  else
    let (name, behind) := cursor.step.takeWhile isNameCharacter
    if behind.sees '!' then .ok ('!' :: name ++ ['!'], behind.step) else .error .malformed

def isTagCharacter (char : Char) : Bool :=
  char.isAlphanum || "-;/?:@&=+$,_.!~*'()[]".toList.contains char

/-- Read the bytes that are written as percent signs with two digits. -/
def readPercent : Text → Except Fault (Bytes × Text)
  | '%' :: high :: low :: rest =>
      if Scalar.isHexDigit high && Scalar.isHexDigit low then do
        let (bytes, rest) ← readPercent rest
        return (UInt8.ofNat (Scalar.valueOf 16 [high, low]) :: bytes, rest)
      else
        .error .malformed
  | '%' :: _ => .error .malformed
  | rest => .ok ([], rest)

def readTagText : (steps : Nat) → (done : Text) → Text → Except Fault (Text × Text)
  | 0, done, rest => .ok (done, rest)
  | steps + 1, done, text =>
      match text with
      | '%' :: _ => do
          let (bytes, rest) ← readPercent text
          match Utf8.decode bytes with
          | .ok chars => readTagText steps (done ++ chars) rest
          | .error _ => .error .malformed
      | char :: rest =>
          if isTagCharacter char then readTagText steps (done ++ [char]) rest
          else .ok (done, text)
      | [] => .ok (done, [])

/-- Read the characters of a tag, of which there has to be one. -/
def readTagSuffix (cursor : Cursor) : Except Fault (Text × Cursor) := do
  let (suffix, rest) ← readTagText cursor.rest.length.succ [] cursor.rest
  if suffix.isEmpty then .error .malformed else return (suffix, cursor.moveTo rest)

/-- Read a tag: in angle brackets, lone, or with a handle. -/
def readTag (cursor : Cursor) : Except Fault (Token × Cursor) := do
  let (handle, suffix, behind) ←
    if cursor.peek 1 == some '<' then do
      let (suffix, behind) ← readTagSuffix (cursor.advance 2)
      if behind.sees '>' then pure (none, suffix, behind.step) else .error .malformed
    else if endsToken (cursor.peek 1) then
      pure (none, ['!'], cursor.step)
    else do
      let word := cursor.step.rest.takeWhile fun char => !endsWord (some char)
      let (handle, behind) ←
        if word.contains '!' then readHandle cursor else pure (['!'], cursor.step)
      let (suffix, behind) ← readTagSuffix behind
      pure (some handle, suffix, behind)
  if endsWord behind.rest.head? then return (.tag handle suffix, behind) else .error .malformed

def readVersionPart (cursor : Cursor) : Except Fault (Nat × Cursor) :=
  let (digits, behind) := cursor.takeWhile Char.isDigit
  if digits.isEmpty then .error .malformed
  else if integerDigitLimit < digits.length then .error .noSuchValue
  else .ok (Scalar.valueOf 10 digits, behind)

def readDirective (cursor : Cursor) : Except Fault (Directive × Cursor) := do
  let (name, behind) := cursor.step.takeWhile isNameCharacter
  if name.isEmpty || !endsWord behind.rest.head? then
    .error .malformed
  else
    let (content, behind) ←
      if name = "YAML".toList then do
        let (major, behind) ← readVersionPart behind.dropSpaces
        if !behind.sees '.' then .error .malformed
        else
          let (_, behind) ← readVersionPart behind.step
          if endsWord behind.rest.head? then pure (Directive.version major, behind)
          else .error .malformed
      else if name = "TAG".toList then do
        let (handle, behind) ← readHandle behind.dropSpaces
        if !behind.sees ' ' then .error .malformed
        else
          let (expansion, behind) ← readTagSuffix behind.dropSpaces
          if endsWord behind.rest.head? then pure (.tagPrefix handle expansion, behind)
          else .error .malformed
      else
        pure (.reserved, behind.dropWhile (!isBreak ·))
    return (content, ← behind.endLine)

/-- Add a token that ends all collections: a directive or a mark between
documents. -/
def breakOff (scanner : Scanner) : Except Fault Scanner := do
  return { ← (scanner.unwind (-1)).giveUp with allowsKey := false }

/-- Begin a block collection in front of a sign that needs one. -/
def openBlock (scanner : Scanner) (start : Token) : Except Fault Scanner :=
  if scanner.inFlow then
    .ok scanner
  else if !scanner.allowsKey then
    .error .malformed
  else
    let (isNew, deeper) := scanner.deepen scanner.cursor.column
    .ok (if isNew then deeper.push start else deeper)

def readColon (scanner : Scanner) : Except Fault Scanner := do
  match scanner.candidate? with
  | some candidate =>
      let marked := scanner.forget.insert candidate.tokensBefore .key
      let (isNew, deeper) :=
        if scanner.inFlow then (false, marked) else marked.deepen candidate.column
      let opened :=
        if isNew then deeper.insert candidate.tokensBefore .blockMappingStart else deeper
      return { opened with allowsKey := false }.take .value 1
  | none =>
      let opened ← scanner.openBlock .blockMappingStart
      return { ← opened.giveUp with allowsKey := !scanner.inFlow }.take .value 1

/-- Add a token that may begin a key, after which no key may begin. -/
def takeNode (scanner : Scanner) (token : Token) (behind : Cursor) : Except Fault Scanner := do
  return { (← scanner.remember).push token with cursor := behind, allowsKey := false }

def readToken (scanner : Scanner) (char : Char) : Except Fault Scanner := do
  let cursor := scanner.cursor
  let next := cursor.peek 1
  let atColumnZero := cursor.column == 0
  if char == '%' && atColumnZero then
    let ended ← scanner.breakOff
    let (content, behind) ← readDirective cursor
    return { ended.push (.directive content) with cursor := behind }
  else if atColumnZero && Cursor.isDocumentMark cursor.rest then
    return (← scanner.breakOff).take (if char == '-' then .documentStart else .documentEnd) 3
  else if char == '[' || char == '\x7b' then
    let opened := (← scanner.remember).take
      (if char == '[' then .flowSequenceStart else .flowMappingStart) 1
    return { opened with flowLevel := scanner.flowLevel + 1, allowsKey := true }
  else if char == ']' || char == '\x7d' then
    let closed := (← scanner.giveUp).take
      (if char == ']' then .flowSequenceEnd else .flowMappingEnd) 1
    return { closed with flowLevel := scanner.flowLevel - 1, allowsKey := false }
  else if char == ',' then
    return { (← scanner.giveUp) with allowsKey := true }.take .flowEntry 1
  else if char == '-' && endsToken next then
    return { ← (← scanner.openBlock .blockSequenceStart).giveUp with allowsKey := true }.take
      .blockEntry 1
  else if char == '?' && (scanner.inFlow || endsToken next) then
    return { ← (← scanner.openBlock .blockMappingStart).giveUp with
      allowsKey := !scanner.inFlow }.take .key 1
  else if char == ':' && (scanner.inFlow || endsToken next) then
    scanner.readColon
  else if char == '*' then
    let (name, behind) ← readName cursor
    scanner.takeNode (.alias name) behind
  else if char == '&' then
    let (name, behind) ← readName cursor
    scanner.takeNode (.anchor name) behind
  else if char == '!' then
    let (tag, behind) ← readTag cursor
    scanner.takeNode tag behind
  else if (char == '|' || char == '>') && !scanner.inFlow then
    let cleared ← scanner.giveUp
    let (text, behind) ← Scalar.readBlock (char == '>') scanner.indent cursor.step
    return { cleared.push (.scalar text false) with cursor := behind, allowsKey := true }
  else if char == '\'' || char == '"' then
    let ready ← scanner.remember
    let (text, rest) ← Scalar.readQuoted (char == '"') cursor.rest.length [] cursor.step.rest
    return { ready.push (.scalar text false) with
      cursor := cursor.moveTo rest, allowsKey := false }
  else if endsToken (some char) || "?:,[]\x7b\x7d#&*!|>'\"%@\x60".toList.contains char
      && !(!endsToken next && !scanner.inFlow && (char == '?' || char == ':')) then
    .error .malformed
  else
    let (text, behind, crossesBreak) := Scalar.readPlain scanner.inFlow (scanner.indent + 1)
      cursor.rest.length.succ [] ⟨[], cursor, false⟩
    return { ← scanner.takeNode (.scalar text true) behind with allowsKey := crossesBreak }

/-- Read on up to the next token and past it, none at the end of the text. -/
def readNext (scanner : Scanner) : Except Fault (Option Scanner) := do
  let scanner ← (toNextToken scanner.cursor.rest.length.succ scanner).dropStale
  let scanner := scanner.unwind scanner.cursor.column
  match scanner.cursor.rest.head? with
  | none => return none
  | some char => return some (← scanner.readToken char)

/-- Read the tokens ahead, last first. -/
def readTokens : (steps : Nat) → Scanner → List Token
  | 0, scanner => scanner.tokens
  | steps + 1, scanner =>
      match scanner.readNext with
      | .error fault => .broken fault :: scanner.settled
      | .ok (some next) => readTokens steps next
      | .ok none =>
          match (scanner.unwind (-1)).giveUp with
          | .error fault => .broken fault :: scanner.settled
          | .ok ended => ended.tokens

end Scanner

def Token.ofText (text : Text) : List Token :=
  if text.all isPrintable then
    let start : Cursor := { rest := text }
    let start := if start.sees '\uFEFF' then start.step else start
    (Scanner.readTokens text.length.succ { cursor := start }).reverse
  else
    [.broken .malformed]

end SpecFinder.Yaml
