import SpecFinder.Yaml.Scalar

/-!
# Kinds of YAML scalars

A plain scalar is a null, a truth value, a number or a date when it is written
like one, and a text otherwise.
-/

namespace SpecFinder.Yaml

/-- What a node is. A node of an unknown kind has no value. -/
inductive Kind where
  | null
  | bool
  | int
  | float
  | timestamp
  | string
  | binary
  | merge
  | defaultValue
  | sequence
  | mapping
  | set
  | pairs
  | unknown
  deriving DecidableEq, Repr

namespace Kind

/-- The expansion of the handle of the kinds that every text knows. -/
def standardTags : Text := "tag:yaml.org,2002:".toList

def ofTag (tag : Text) : Kind :=
  let named : List (String × Kind) := [
    ("null", .null), ("bool", .bool), ("int", .int), ("float", .float),
    ("timestamp", .timestamp), ("str", .string), ("binary", .binary), ("merge", .merge),
    ("value", .defaultValue), ("seq", .sequence), ("map", .mapping), ("set", .set),
    ("omap", .pairs), ("pairs", .pairs)]
  (named.find? fun (name, _) => standardTags ++ name.toList == tag).elim .unknown (·.2)

/-- Whether a text is one or more accepted characters. -/
def isRun (accepts : Char → Bool) (text : Text) : Bool :=
  !text.isEmpty && text.all accepts

def unsigned : Text → Text
  | '+' :: rest | '-' :: rest => rest
  | text => text

def isDigits : Text → Bool
  | first :: rest => first.isDigit && rest.all fun char => char.isDigit || char == '_'
  | [] => false

/-- Whether a text is a number below sixty, without or with a leading zero. -/
def isSixtieth : Text → Bool
  | [digit] => digit.isDigit
  | [high, low] => '0' ≤ high && high ≤ '5' && low.isDigit
  | _ => false

/-- Whether a text is written like an integer: binary, octal, decimal,
hexadecimal, or in parts of sixty. -/
def isInt (text : Text) : Bool :=
  match unsigned text with
  | '0' :: 'b' :: rest => isRun (fun char => char == '0' || char == '1' || char == '_') rest
  | '0' :: 'x' :: rest => isRun (fun char => Scalar.isHexDigit char || char == '_') rest
  | ['0'] => true
  | '0' :: rest => isRun (fun char => ('0' ≤ char && char ≤ '7') || char == '_') rest
  | digits =>
      match Text.splitWhere (· == ':') digits with
      | first :: parts => isDigits first && parts.all isSixtieth
      | [] => false

/-- Whether a text is empty or an exponent with a sign. -/
def isExponent : Text → Bool
  | [] => true
  | mark :: sign :: digits =>
      (mark == 'e' || mark == 'E') && (sign == '+' || sign == '-') && isRun Char.isDigit digits
  | _ => false

/-- Whether a text is written like a number with a point: with digits before it
or behind it, in parts of sixty, infinite, or undefined. -/
def isFloat (text : Text) : Bool :=
  let isPart (char : Char) : Bool := char.isDigit || char == '_'
  let withPoint : Bool :=
    match Text.splitFirst ['.'] (unsigned text) with
    | some (whole, rest) => isDigits whole && isExponent (rest.dropWhile isPart)
    | none => false
  let bare : Bool :=
    match text with
    | '.' :: rest => isDigits (rest.takeWhile isPart) && isExponent (rest.dropWhile isPart)
    | _ => false
  let sixtieths : Bool :=
    match Text.splitFirst ['.'] (unsigned text) with
    | some (whole, fraction) =>
        match Text.splitWhere (· == ':') whole with
        | first :: part :: parts =>
            isDigits first && (part :: parts).all isSixtieth && fraction.all isPart
        | _ => false
    | none => false
  withPoint || bare || sixtieths
    || [".inf", ".Inf", ".INF"].any (·.toList == unsigned text)
    || [".nan", ".NaN", ".NAN"].any (·.toList == text)

/-- A text without the line feed at its end, if something stands in front of it. What
a scalar is written like does not depend on this line feed. -/
def withoutFeed (text : Text) : Text :=
  if 1 < text.length && text.getLast? == some '\n' then text.dropLast else text

/-- The parts of a date, with the time of day if there is one. -/
structure TimestampParts where
  year : Text
  month : Text
  day : Text
  time : Option (Text × Text × Text)
  fraction : Text
  zone : Option (Option (Char × Text × Text))
  deriving DecidableEq, Repr

def takeDigits (least most : Nat) (text : Text) : Option (Text × Text) :=
  let digits := (text.take most).takeWhile Char.isDigit
  if digits.length < least then none else some (digits, text.drop digits.length)

def takeChar (char : Char) : Text → Option Text
  | first :: rest => if first == char then some rest else none
  | [] => none

/-- Read a time zone, to the end of the text: none, a `Z`, or a sign with hours and
perhaps minutes. -/
def readZone (text : Text) : Option (Option (Option (Char × Text × Text))) :=
  match text, text.dropWhile fun char => char == ' ' || char == '\t' with
  | [], _ => some none
  | _, ['Z'] => some (some none)
  | _, sign :: rest =>
      if sign == '+' || sign == '-' then do
        let (hours, rest) ← takeDigits 1 2 rest
        match rest with
        | [] => some (some (some (sign, hours, [])))
        | _ =>
            let (minutes, rest) ← takeDigits 2 2 (← takeChar ':' rest)
            if rest.isEmpty then some (some (some (sign, hours, minutes))) else none
      else
        none
  | _, [] => none

def readTimestamp (text : Text) : Option TimestampParts := do
  let (year, rest) ← takeDigits 4 4 (withoutFeed text)
  let (month, rest) ← takeDigits 1 2 (← takeChar '-' rest)
  let (day, rest) ← takeDigits 1 2 (← takeChar '-' rest)
  match rest with
  | [] => some ⟨year, month, day, none, [], none⟩
  | first :: behind =>
      let isBlank (char : Char) : Bool := char == ' ' || char == '\t'
      let rest ←
        if first == 'T' || first == 't' then some behind
        else if isBlank first then some (behind.dropWhile isBlank)
        else none
      let (hour, rest) ← takeDigits 1 2 rest
      let (minute, rest) ← takeDigits 2 2 (← takeChar ':' rest)
      let (second, rest) ← takeDigits 2 2 (← takeChar ':' rest)
      let (fraction, rest) := match rest with
        | '.' :: rest => (rest.takeWhile Char.isDigit, rest.dropWhile Char.isDigit)
        | _ => ([], rest)
      let zone ← readZone rest
      some ⟨year, month, day, some (hour, minute, second), fraction, zone⟩

/-- Whether a text is written like a date: a lone date has two digits for month
and day. -/
def isTimestamp (text : Text) : Bool :=
  match readTimestamp text with
  | some parts => parts.time.isSome || (parts.month.length == 2 && parts.day.length == 2)
  | none => false

def ofPlain (text : Text) : Kind :=
  let text := withoutFeed text
  let isOneOf (words : List String) : Bool := words.any (·.toList == text)
  if isOneOf ["yes", "Yes", "YES", "no", "No", "NO", "true", "True", "TRUE", "false", "False",
      "FALSE", "on", "On", "ON", "off", "Off", "OFF"] then .bool
  else if isFloat text then .float
  else if isInt text then .int
  else if isOneOf ["<<"] then .merge
  else if isOneOf ["", "~", "null", "Null", "NULL"] then .null
  else if isTimestamp text then .timestamp
  else if isOneOf ["="] then .defaultValue
  else .string

end Kind

end SpecFinder.Yaml
