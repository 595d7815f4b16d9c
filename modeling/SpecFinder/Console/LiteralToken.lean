import SpecFinder.Text.Lines
import SpecFinder.Text.WordCharacter

/-!
# Tokens of literals

The parts that a written value is made of: numbers, quoted texts and bytes, words,
signs and brackets.  White space stands between them.  A line ends where no bracket is
open.
-/

namespace SpecFinder.Console.Literal

inductive Token where
  | number (isImaginary : Bool)
  | text
  | bytes
  | word (name : Text)
  | ellipsis
  | sign
  | comma
  | colon
  | openRound
  | closeRound
  | openCurly
  | closeCurly
  | lineEnd
  deriving DecidableEq, Repr

/-- The greatest number of digits of a decimal integer. -/
def digitLimit : Nat := 4300

def isDigitIn (base : Nat) (char : Char) : Bool :=
  let value := if char.isDigit then char.toNat - '0'.toNat
    else if 'a' ≤ char && char ≤ 'f' then char.toNat - 'a'.toNat + 10
    else if 'A' ≤ char && char ≤ 'F' then char.toNat - 'A'.toNat + 10
    else 16
  value < base

/-- Take digits, with single underscores between them. -/
def takeDigits (isDigit : Char → Bool) : Text → Text × Text
  | '_' :: digit :: rest =>
      if isDigit digit then
        let (digits, rest) := takeDigits isDigit rest
        (digit :: digits, rest)
      else
        ([], '_' :: digit :: rest)
  | digit :: rest =>
      if isDigit digit then
        let (digits, rest) := takeDigits isDigit rest
        (digit :: digits, rest)
      else
        ([], digit :: rest)
  | [] => ([], [])

def takeNumber (text : Text) : Text × Text :=
  if text.head?.any Char.isDigit then takeDigits Char.isDigit text else ([], text)

/-- Whether nothing stands directly behind a number that would belong to it. -/
def endsNumber (rest : Text) : Bool :=
  !rest.head?.any fun char => Text.isWordCharacter char || 0x80 ≤ char.toNat

/-- Take an exponent behind its mark. -/
def takeExponent? (text : Text) : Option Text :=
  let unsigned := match text with
    | '+' :: rest | '-' :: rest => rest
    | rest => rest
  let (digits, rest) := takeNumber unsigned
  if digits.isEmpty then none else some rest

/-- Whether digits are a decimal integer: zeros stand in front of no other digit. -/
def isDecimal (digits : Text) : Bool :=
  digits.all (· == '0') || (digits.head? != some '0' && digits.length ≤ digitLimit)

def readDecimal? (text : Text) : Option (Token × Text) := do
  let (whole, rest) := takeNumber text
  let (fraction, rest, hasPoint) := match rest with
    | '.' :: rest => let (digits, rest) := takeNumber rest; (digits, rest, true)
    | rest => ([], rest, false)
  if whole.isEmpty && fraction.isEmpty then
    none
  else
    let (rest, hasExponent) ← match rest with
      | 'e' :: rest | 'E' :: rest => (takeExponent? rest).map (·, true)
      | rest => some (rest, false)
    let (rest, isImaginary) := match rest with
      | 'j' :: rest | 'J' :: rest => (rest, true)
      | rest => (rest, false)
    if endsNumber rest && (hasPoint || hasExponent || isImaginary || isDecimal whole) then
      some (.number isImaginary, rest)
    else
      none

def readBased? (base : Nat) (text : Text) : Option (Token × Text) :=
  let (digits, rest) := takeDigits (isDigitIn base) text
  if digits.isEmpty || !endsNumber rest then none else some (.number false, rest)

def readNumber? (text : Text) : Option (Token × Text) :=
  match text with
  | '0' :: mark :: rest =>
      if mark.toLower == 'x' then readBased? 16 rest
      else if mark.toLower == 'o' then readBased? 8 rest
      else if mark.toLower == 'b' then readBased? 2 rest
      else readDecimal? text
  | _ => readDecimal? text

def beginsWithHex (count : Nat) (text : Text) : Bool :=
  let digits := text.take count
  digits.length == count && digits.all (isDigitIn 16)

def beginsWithCode (text : Text) : Bool :=
  beginsWithHex 8 text && (text.take 2).all (· == '0')
    && ["00", "01", "02", "03", "04", "05", "06", "07", "08", "09", "0a", "0b", "0c", "0d",
      "0e", "0f", "10"].contains (String.ofList (((text.drop 2).take 2).map Char.toLower))

def beginsWithName (text : Text) : Bool :=
  match text with
  | '\x7b' :: rest =>
      let name := rest.takeWhile fun char => char.isAlphanum || char == ' ' || char == '-'
      !name.isEmpty && (rest.drop name.length).head? == some '\x7d'
  | _ => false

/-- Whether what stands behind a backslash is well formed. A letter that means nothing
stands for itself. -/
def isEscape (isBytes : Bool) : Text → Bool
  | 'x' :: rest => beginsWithHex 2 rest
  | 'u' :: rest => isBytes || beginsWithHex 4 rest
  | 'U' :: rest => isBytes || beginsWithCode rest
  | 'N' :: rest => isBytes || beginsWithName rest
  | _ :: _ => true
  | [] => false

structure Quoting where
  mark : Char
  isTripled : Bool
  isBytes : Bool
  isRaw : Bool
  deriving DecidableEq, Repr

/-- Move behind the closing quotes of a text. -/
def skipQuoted? (quoting : Quoting) : Text → Option Text
  | [] => none
  | '\\' :: rest =>
      if quoting.isRaw || isEscape quoting.isBytes rest then
        match rest with
        | char :: rest =>
            if quoting.isBytes && 0x80 ≤ char.toNat then none else skipQuoted? quoting rest
        | [] => none
      else
        none
  | char :: rest =>
      if char == quoting.mark then
        if !quoting.isTripled then
          some rest
        else
          match rest with
          | second :: third :: behind =>
              if second == quoting.mark && third == quoting.mark then some behind
              else skipQuoted? quoting rest
          | _ => none
      else if (char == '\n' && !quoting.isTripled) || (quoting.isBytes && 0x80 ≤ char.toNat) then
        none
      else
        skipQuoted? quoting rest

/-- Read a quoted text from its first quote on. -/
def readQuoted? (isBytes isRaw : Bool) (text : Text) : Option (Token × Text) := do
  let token := if isBytes then Token.bytes else .text
  match text with
  | mark :: second :: third :: rest =>
      if second == mark && third == mark then
        return (token, ← skipQuoted? ⟨mark, true, isBytes, isRaw⟩ rest)
      else
        return (token, ← skipQuoted? ⟨mark, false, isBytes, isRaw⟩ (second :: third :: rest))
  | mark :: rest => return (token, ← skipQuoted? ⟨mark, false, isBytes, isRaw⟩ rest)
  | [] => none

def isQuote (char : Char) : Bool := char == '\'' || char == '"'

/-- Read a word, or a quoted text with a word in front that tells how it is written. -/
def readWord? (text : Text) : Option (Token × Text) :=
  let word := text.takeWhile Text.isWordCharacter
  let rest := text.drop word.length
  if rest.head?.any isQuote then
    match String.ofList (word.map Char.toLower) with
    | "r" => readQuoted? false true rest
    | "u" => readQuoted? false false rest
    | "b" => readQuoted? true false rest
    | "br" | "rb" => readQuoted? true true rest
    | _ => none
  else if word.isEmpty then
    none
  else
    some (.word word, rest)

def readToken? (text : Text) : Option (Token × Text) :=
  match text with
  | [] => none
  | '.' :: '.' :: '.' :: rest => some (.ellipsis, rest)
  | char :: rest =>
      match char with
      | ',' => some (.comma, rest)
      | ':' => some (.colon, rest)
      | '+' | '-' => some (.sign, rest)
      | '(' => some (.openRound, rest)
      | ')' => some (.closeRound, rest)
      | '\x7b' => some (.openCurly, rest)
      | '\x7d' => some (.closeCurly, rest)
      | _ =>
          if char.isDigit || char == '.' then readNumber? text
          else if isQuote char then readQuoted? false false text
          else readWord? text

/-- How many brackets may be open at a time. -/
def bracketLimit : Nat := 200

/-- How many brackets are open behind a token, none when it closes one too many or opens
too many. -/
def depthBehind? (depth : Nat) : Token → Option Nat
  | .openRound | .openCurly => if depth < bracketLimit then some (depth + 1) else none
  | .closeRound | .closeCurly => if depth = 0 then none else some (depth - 1)
  | _ => some depth

def isSpace (char : Char) : Bool := char == ' ' || char == '\t' || char == '\x0C'

/-- Whether a line begins with something at its margin, or has nothing to say. -/
def isAtMargin (line : Text) : Bool :=
  !line.head?.any isSpace || (line.dropWhile isSpace).head?.all fun char =>
    char == '\n' || char == '#'

/-- The tokens of a text, behind some brackets that are open and perhaps other tokens. -/
def tokensFrom? : (steps : Nat) → (depth : Nat) → (isBegun : Bool) → Text → Option (List Token)
  | 0, _, _, _ => none
  | steps + 1, depth, isBegun, text =>
      match text with
      | [] => if depth = 0 then some [] else none
      | '\n' :: rest =>
          if 0 < depth then tokensFrom? steps depth isBegun rest
          else if rest.isEmpty || isAtMargin rest then
            let tokens := tokensFrom? steps depth false rest
            if isBegun then tokens.map (.lineEnd :: ·) else tokens
          else none
      | '\\' :: '\n' :: rest => if rest.isEmpty then none else tokensFrom? steps depth isBegun rest
      | '#' :: rest => tokensFrom? steps depth isBegun (rest.dropWhile (· != '\n'))
      | char :: rest =>
          if isSpace char then
            tokensFrom? steps depth isBegun rest
          else do
            let (token, rest) ← readToken? text
            let tokens ← tokensFrom? steps (← depthBehind? depth token) true rest
            return token :: tokens

def tokens? (text : Text) : Option (List Token) :=
  let text := Text.unifyBreaks text
  if text.contains '\x00' then none
  else
    tokensFrom? (text.length + 1) 0 false
      (text.dropWhile fun char => char == ' ' || char == '\t')

end SpecFinder.Console.Literal
