import SpecFinder.Toml.Value

/-!
# TOML strings

The four kinds of strings, and the writing of a text as a string of the first
kind.  Basic strings stand between double quotes and know escapes, literal ones
between single quotes and know none; either may run over several lines between
three quotes.
-/

namespace SpecFinder.Toml

def isControl (char : Char) : Bool :=
  char.toNat < 0x20 && char != '\t' || char.toNat == 0x7F

def isSpace (char : Char) : Bool := char == ' ' || char == '\t'

def isSpaceOrBreak (char : Char) : Bool := isSpace char || char == '\n'

def isHexDigit (char : Char) : Bool :=
  char.isDigit || ('a' ≤ char && char ≤ 'f') || ('A' ≤ char && char ≤ 'F')

def hexDigitValue (char : Char) : Nat :=
  if char.isDigit then char.toNat - '0'.toNat
  else if 'a' ≤ char && char ≤ 'f' then char.toNat - 'a'.toNat + 10
  else char.toNat - 'A'.toNat + 10

def hexValue (digits : Text) : Nat :=
  digits.foldl (fun total digit => total * 16 + hexDigitValue digit) 0

/-- The character that a letter behind a backslash stands for. -/
def escapes : List (Char × Char) := [
  ('b', '\x08'), ('t', '\t'), ('n', '\n'), ('f', '\x0C'), ('r', '\r'), ('"', '"'),
  ('\\', '\\')]

def readCodePoint (length : Nat) (text : Text) : Except Fault (Char × Text) :=
  let digits := text.take length
  let code := hexValue digits
  if digits.length = length && digits.all isHexDigit
      && (code < 0xD800 || (0xE000 ≤ code && code < 0x110000)) then
    .ok (Char.ofNat code, text.drop length)
  else
    .error .malformed

/-- Read the escape behind a backslash: the characters that it stands for, and the
rest. At the end of a line of a string of several lines a backslash removes the
white space that follows. -/
def readEscape (isMultiline : Bool) (text : Text) : Except Fault (Text × Text) :=
  match text with
  | [] => .error .malformed
  | 'u' :: rest => do
      let (char, rest) ← readCodePoint 4 rest
      return ([char], rest)
  | 'U' :: rest => do
      let (char, rest) ← readCodePoint 8 rest
      return ([char], rest)
  | letter :: rest =>
      match escapes.lookup letter with
      | some char => .ok ([char], rest)
      | none =>
          if isMultiline && isSpaceOrBreak letter then
            match text.dropWhile isSpace with
            | '\n' :: rest => .ok ([], rest.dropWhile isSpaceOrBreak)
            | [] => .ok ([], [])
            | _ => .error .malformed
          else
            .error .malformed

/-- Put characters in front of a text that has been read. -/
def prepend (chars : Text) (read : Except Fault (Text × Text)) : Except Fault (Text × Text) :=
  read.map fun (text, rest) => (chars ++ text, rest)

def readBasic : (steps : Nat) → Text → Except Fault (Text × Text)
  | 0, _ | _, [] => .error .malformed
  | _ + 1, '"' :: rest => .ok ([], rest)
  | steps + 1, '\\' :: rest => do
      let (chars, rest) ← readEscape false rest
      prepend chars (readBasic steps rest)
  | steps + 1, char :: rest =>
      if isControl char then .error .malformed else prepend [char] (readBasic steps rest)

/-- Up to two quotes more belong to a string in front of its last three. -/
def readExtraQuotes (quote : Char) (rest : Text) : Text × Text :=
  let extra := (rest.take 2).takeWhile (· == quote)
  (extra, rest.drop extra.length)

def readMultilineBasic : (steps : Nat) → Text → Except Fault (Text × Text)
  | 0, _ | _, [] => .error .malformed
  | _ + 1, '"' :: '"' :: '"' :: rest => .ok (readExtraQuotes '"' rest)
  | steps + 1, '\\' :: rest => do
      let (chars, rest) ← readEscape true rest
      prepend chars (readMultilineBasic steps rest)
  | steps + 1, char :: rest =>
      if isControl char && char != '\n' then .error .malformed
      else prepend [char] (readMultilineBasic steps rest)

def readLiteral : Text → Except Fault (Text × Text)
  | [] => .error .malformed
  | '\'' :: rest => .ok ([], rest)
  | char :: rest =>
      if isControl char then .error .malformed else prepend [char] (readLiteral rest)

def readMultilineLiteral : Text → Except Fault (Text × Text)
  | [] => .error .malformed
  | '\'' :: '\'' :: '\'' :: rest => .ok (readExtraQuotes '\'' rest)
  | char :: rest =>
      if isControl char && char != '\n' then .error .malformed
      else prepend [char] (readMultilineLiteral rest)

/-- Drop the line feed directly behind three quotes. -/
def dropFirstBreak : Text → Text
  | '\n' :: rest => rest
  | rest => rest

/-- Read a string of any kind, none when the text begins with no quote. -/
def readString? (text : Text) : Option (Except Fault (Text × Text)) :=
  match text with
  | '"' :: '"' :: '"' :: rest =>
      some (readMultilineBasic text.length (dropFirstBreak rest))
  | '"' :: rest => some (readBasic text.length rest)
  | '\'' :: '\'' :: '\'' :: rest => some (readMultilineLiteral (dropFirstBreak rest))
  | '\'' :: rest => some (readLiteral rest)
  | _ => none

/-- The digits of a hexadecimal number below 256. -/
def hexPair (value : Nat) : Text :=
  let digits := (Nat.toDigits 16 value)
  List.replicate (2 - digits.length) '0' ++ digits

/-- A character as it is written within a basic string: quotes, backslashes and
controls are escaped. A tab may stand in a string as it is. -/
def writeChar (char : Char) : Text :=
  if char == '"' || char == '\\' then ['\\', char]
  else if char == '\x08' then ['\\', 'b']
  else if char == '\n' then ['\\', 'n']
  else if char == '\x0C' then ['\\', 'f']
  else if char == '\r' then ['\\', 'r']
  else if isControl char then "\\u00".toList ++ hexPair char.toNat
  else [char]

def writeString (text : Text) : Text := '"' :: text.flatMap writeChar ++ ['"']

end SpecFinder.Toml
