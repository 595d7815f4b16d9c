import SpecFinder.Number.Integer

/-!
# Written doubles

Doubles as people write them: with a sign, a point and an exponent, in the decimal
digits of any script, or as the words for what is infinite or no number.
-/

namespace SpecFinder

def takeDigitValues (text : Text) : List Nat × Text :=
  let digits := text.takeWhile fun char => (digitValue? char).isSome
  (digits.filterMap digitValue?, text.drop digits.length)

def exponent? (text : Text) : Option Int :=
  let (isNegative, written) := splitSign text
  let (digits, rest) := takeDigitValues written
  if digits.isEmpty || !rest.isEmpty then
    none
  else
    let size : Int := (digits.foldl (fun value digit => 10 * value + digit) 0 : Nat)
    some (if isNegative then -size else size)

/-- Read a decimal without a sign: digits, perhaps with a point among or around them,
and perhaps an exponent. -/
def decimal? (text : Text) : Option Float := do
  let (whole, rest) := takeDigitValues text
  let (fraction, rest) := match rest with
    | '.' :: rest => takeDigitValues rest
    | _ => ([], rest)
  let digits := whole ++ fraction
  let exponent ← match rest with
    | [] => some 0
    | mark :: rest => if mark.toLower = 'e' then exponent? rest else none
  if digits.isEmpty then
    none
  else
    let mantissa := digits.foldl (fun value digit => 10 * value + digit) 0
    return floatOfDecimal mantissa (exponent - fraction.length)

/-- Read a double, with white space around it. -/
def double? (text : Text) : Option Float := do
  let (isNegative, written) := splitSign (withoutPadding text)
  let word := String.ofList (written.map Char.toLower)
  let size ←
    if word = "inf" || word = "infinity" then some (1.0 / 0.0)
    else if word = "nan" then some (0.0 / 0.0)
    else decimal? written
  return if isNegative then -size else size

end SpecFinder
