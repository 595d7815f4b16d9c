import SpecFinder.Number.Decimal
import SpecFinder.Toml.String

/-!
# TOML numbers and times

Integers in four bases, floats, dates and times of day.  The longest form that
fits is read, dates before times and times before numbers.
-/

namespace SpecFinder.Toml

/-- Take digits between which single underscores may stand, and of which there has
to be one. The underscores are dropped. -/
def takeDigits (isDigit : Char → Bool) : Text → Option (Text × Text)
  | [] => none
  | first :: rest =>
      if isDigit first then
        let (digits, rest) := more rest
        some (first :: digits, rest)
      else
        none
where
  /-- Take further digits, each perhaps behind an underscore. -/
  more : Text → Text × Text
    | '_' :: digit :: rest =>
        if isDigit digit then
          let (digits, rest) := more rest
          (digit :: digits, rest)
        else
          ([], '_' :: digit :: rest)
    | digit :: rest =>
        if isDigit digit then
          let (digits, rest) := more rest
          (digit :: digits, rest)
        else
          ([], digit :: rest)
    | [] => ([], [])

/-- The bases other than ten, by the letter behind a zero. -/
def bases : List (Char × Nat) := [('x', 16), ('b', 2), ('o', 8)]

def readBased? (text : Text) : Option (Value × Text) :=
  match text with
  | '0' :: letter :: rest => do
      let base ← bases.lookup letter
      let isDigit (char : Char) : Bool := isHexDigit char && hexDigitValue char < base
      let (digits, rest) ← takeDigits isDigit rest
      return (.int (digits.foldl (fun total digit => total * base + hexDigitValue digit) 0), rest)
  | _ => none

def afterFraction (text : Text) : Text :=
  match text with
  | '.' :: rest => ((takeDigits Char.isDigit rest).map (·.2)).getD text
  | _ => text

def afterExponent (text : Text) : Text :=
  match text with
  | mark :: rest =>
      if mark == 'e' || mark == 'E' then
        let digits := match rest with
          | '+' :: digits | '-' :: digits => digits
          | digits => digits
        ((takeDigits Char.isDigit digits).map (·.2)).getD text
      else
        text
  | [] => text

/-- Read the digits of a decimal integer: a zero alone, or no zero in front. -/
def readWhole? (text : Text) : Option (Text × Text) :=
  match text with
  | '0' :: rest => some (['0'], rest)
  | _ => takeDigits Char.isDigit text

def readDecimal? (text : Text) : Option (Except Fault (Value × Text)) := do
  let (isNegative, unsigned) := match text with
    | '-' :: rest => (true, rest)
    | '+' :: rest => (false, rest)
    | rest => (false, rest)
  let (digits, rest) ← readWhole? unsigned
  let behind := afterExponent (afterFraction rest)
  if behind.length < rest.length then
    some (.ok (.float, behind))
  else if integerDigitLimit < digits.length then
    some (.error .integerTooLong)
  else
    let size : Int := digits.foldl (fun total digit => total * 10 + hexDigitValue digit) (0 : Nat)
    some (.ok (.int (if isNegative then -size else size), rest))

def readSpecialFloat? (text : Text) : Option (Value × Text) :=
  let unsigned := match text with
    | '+' :: rest | '-' :: rest => rest
    | rest => rest
  if "inf".toList.isPrefixOf unsigned || "nan".toList.isPrefixOf unsigned then
    some (.float, unsigned.drop 3)
  else
    none

/-- Take two digits whose number lies between two bounds. -/
def takePair (low high : Nat) : Text → Option (Nat × Text)
  | tens :: ones :: rest =>
      let value := hexDigitValue tens * 10 + hexDigitValue ones
      if tens.isDigit && ones.isDigit && low ≤ value && value ≤ high then some (value, rest)
      else none
  | _ => none

/-- Take a given character. -/
def takeChar (wanted : Char) : Text → Option Text
  | char :: rest => if char == wanted then some rest else none
  | [] => none

def afterTime? (text : Text) : Option Text := do
  let (_, rest) ← takePair 0 23 text
  let (_, rest) ← takePair 0 59 (← takeChar ':' rest)
  let (_, rest) ← takePair 0 59 (← takeChar ':' rest)
  match rest with
  | '.' :: digit :: more => if digit.isDigit then some (more.dropWhile Char.isDigit) else some rest
  | _ => some rest

def afterZone (text : Text) : Text :=
  match text with
  | sign :: rest =>
      if sign == 'Z' || sign == 'z' then
        rest
      else if sign == '+' || sign == '-' then
        (do
          let (_, rest) ← takePair 0 23 rest
          let (_, rest) ← takePair 0 59 (← takeChar ':' rest)
          return rest).getD text
      else
        text
  | [] => text

def daysIn (year month : Nat) : Nat :=
  match month with
  | 2 => if year % 4 = 0 && (year % 100 != 0 || year % 400 = 0) then 29 else 28
  | 4 | 6 | 9 | 11 => 30
  | _ => 31

/-- Read a date, with a time of day and a time zone where they follow. A day that
the calendar does not have is a fault. -/
def readDate? (text : Text) : Option (Except Fault (Value × Text)) := do
  let (century, rest) ← takePair 0 99 text
  let (years, rest) ← takePair 0 99 rest
  let (month, rest) ← takePair 1 12 (← takeChar '-' rest)
  let (day, rest) ← takePair 1 31 (← takeChar '-' rest)
  let year := century * 100 + years
  let behind := match rest with
    | mark :: time =>
        if mark == 'T' || mark == 't' || mark == ' ' then
          ((afterTime? time).map afterZone).getD rest
        else
          rest
    | [] => rest
  if year = 0 || daysIn year month < day then some (.error .malformed)
  else some (.ok (.time, behind))

/-- Read a number, a date or a time of day, none when the text begins with
neither. -/
def readNumber? (text : Text) : Option (Except Fault (Value × Text)) :=
  readDate? text <|> (afterTime? text).map (fun rest => .ok (.time, rest))
    <|> (readBased? text).map .ok <|> readDecimal? text <|> (readSpecialFloat? text).map .ok

end SpecFinder.Toml
