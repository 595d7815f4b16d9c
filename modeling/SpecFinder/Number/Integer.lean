import SpecFinder.Number.Decimal

/-!
# Written integers

Integers as people write them: with a sign, in the decimal digits of any script,
and with underscores between the digits, or in a base that is a power of two.
-/

namespace SpecFinder

/-- The code points of the digits zero. The other nine digits of a script follow
its zero. -/
def zeroDigits : List Nat := [
  0x30, 0x660, 0x6F0, 0x7C0, 0x966, 0x9E6, 0xA66, 0xAE6, 0xB66, 0xBE6, 0xC66, 0xCE6, 0xD66,
  0xDE6, 0xE50, 0xED0, 0xF20, 0x1040, 0x1090, 0x17E0, 0x1810, 0x1946, 0x19D0, 0x1A80, 0x1A90,
  0x1B50, 0x1BB0, 0x1C40, 0x1C50, 0xA620, 0xA8D0, 0xA900, 0xA9D0, 0xA9F0, 0xAA50, 0xABF0,
  0xFF10, 0x104A0, 0x10D30, 0x11066, 0x110F0, 0x11136, 0x111D0, 0x112F0, 0x11450, 0x114D0,
  0x11650, 0x116C0, 0x11730, 0x118E0, 0x11950, 0x11C50, 0x11D50, 0x11DA0, 0x16A60, 0x16AC0,
  0x16B50, 0x1D7CE, 0x1D7D8, 0x1D7E2, 0x1D7EC, 0x1D7F6, 0x1E140, 0x1E2F0, 0x1E950, 0x1FBF0]

def digitValue? (char : Char) : Option Nat :=
  (zeroDigits.find? fun first => first ≤ char.toNat && char.toNat < first + 10).map (char.toNat - ·)

/-- Whether a character may stand around a written number: white space but for the
four information separators. -/
def isPadding (char : Char) : Bool :=
  Text.isBlank char && !(0x1C ≤ char.toNat && char.toNat ≤ 0x1F)

def withoutPadding (text : Text) : Text :=
  ((text.dropWhile isPadding).reverse.dropWhile isPadding).reverse

/-- The sign of a written number, negative or not, and what follows it. -/
def splitSign : Text → Bool × Text
  | '-' :: rest => (true, rest)
  | '+' :: rest => (false, rest)
  | rest => (false, rest)

/-- Read an integer, with white space around it. An underscore has a digit on both
sides, and there is a limit to the number of digits. -/
def integer? (text : Text) : Option Int := do
  let (isNegative, written) := splitSign (withoutPadding text)
  let groups := Text.splitWhere (· == '_') written
  let digits ← groups.flatten.mapM digitValue?
  if groups.any (·.isEmpty) || integerDigitLimit < digits.length then
    none
  else
    let size : Int := (digits.foldl (fun value digit => 10 * value + digit) 0 : Nat)
    return if isNegative then -size else size

/-- The value of a digit in a base up to sixteen. -/
def digitIn? (base : Nat) (char : Char) : Option Nat :=
  let letter? := if 'a' ≤ char && char ≤ 'f' then some (char.toNat - 'a'.toNat + 10)
    else if 'A' ≤ char && char ≤ 'F' then some (char.toNat - 'A'.toNat + 10)
    else none
  ((digitValue? char).or letter?).filter (· < base)

/-- The letter that marks a base behind a leading zero. -/
def baseMark? : (base : Nat) → Option Char
  | 2 => some 'b'
  | 8 => some 'o'
  | 16 => some 'x'
  | _ => none

/-- Read an integer in a base that is a power of two, with or without the mark of the
base. -/
def integerIn? (base : Nat) (text : Text) : Option Int := do
  let (isNegative, written) := splitSign (withoutPadding text)
  let unmarked := match written with
    | '0' :: mark :: rest =>
        if some mark.toLower = baseMark? base then rest else written
    | _ => written
  let digits ← unmarked.mapM (digitIn? base)
  if digits.isEmpty then
    none
  else
    let size : Int := (digits.foldl (fun value digit => base * value + digit) 0 : Nat)
    return if isNegative then -size else size

end SpecFinder
