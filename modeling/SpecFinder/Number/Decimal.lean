import SpecFinder.Number.Binary64
import SpecFinder.Text.Basic

/-!
# Decimals and doubles

Reading a decimal as the nearest double, and writing a double as the shortest
decimal that reads back as it.

A double is what every number of an interval around its value rounds to.  The
shortest decimal is a point of the coarsest decimal grid that meets the interval,
and of two such points the nearer one.
-/

namespace SpecFinder

/-- The greatest number of decimal digits of an integer that is read or written. -/
def integerDigitLimit : Nat := 4300

def floatOfDecimal (digits : Nat) (exponent : Int) : Float :=
  let size := (Text.ofNat digits).length + exponent
  if digits = 0 || size < -400 then 0
  else if 400 < size then Float.ofScientific 1 false 400
  else Float.ofScientific digits (exponent < 0) exponent.natAbs

namespace Binary64

/-- The digits of a decimal and the place of its point: its value is
`0.digits · 10 ^ point`. -/
structure Digits where
  digits : Text
  point : Int
  deriving DecidableEq, Repr

/-- The bounds of the interval of numbers that round to a value, four times as
fine as its last bit. Below a power of two the doubles lie closer. -/
def neighbours (value : Binary64) : Nat × Nat :=
  let below :=
    if value.mantissa = Nat.pow 2 52 && value.exponent != -1074 then 1 else 2
  (4 * value.mantissa - below, 4 * value.mantissa + 2)

/-- The exponent of the first decimal digit of a positive quotient. -/
def decimalExponent (numerator denominator : Nat) : Int :=
  if denominator ≤ numerator then
    (Text.ofNat (numerator / denominator)).length - 1
  else
    let missing := (Text.ofNat (denominator / numerator)).length
    if denominator ≤ numerator * Nat.pow 10 (missing - 1) then 1 - missing else -missing

/-- The point with `count` digits that lies nearest to a value, if it rounds to
that value. -/
def pointWith? (value : Binary64) (count : Nat) : Option Digits :=
  let (low, high) := value.neighbours
  let (numerator, denominator) := value.ratio
  let grid := decimalExponent numerator denominator - count + 1
  -- `x` units of the grid compare with `y` quarters of the last bit
  let ofGrid (units : Nat) : Nat :=
    units * Nat.pow 10 grid.toNat * 4 * Nat.pow 2 (-value.exponent).toNat
  let ofQuarters (quarters : Nat) : Nat :=
    quarters * Nat.pow 2 value.exponent.toNat * Nat.pow 10 (-grid).toNat
  let under := numerator * Nat.pow 10 (-grid).toNat / (denominator * Nat.pow 10 grid.toNat)
  let roundsBack (units : Nat) : Bool :=
    if value.mantissa % 2 = 0 then
      ofQuarters low ≤ ofGrid units && ofGrid units ≤ ofQuarters high
    else
      ofQuarters low < ofGrid units && ofGrid units < ofQuarters high
  let twice := 2 * ofQuarters (4 * value.mantissa)
  let midway := ofGrid under + ofGrid (under + 1)
  let prefersUpper := midway < twice || (midway = twice && under % 2 = 1)
  let candidates := if prefersUpper then [under + 1, under] else [under, under + 1]
  (candidates.find? roundsBack).map fun units =>
    let digits := Text.ofNat units
    let significant := (digits.reverse.dropWhile (· == '0')).reverse
    ⟨significant, digits.length + grid⟩

/-- The fewest digits that read back as a positive value. -/
def shortest (value : Binary64) : Digits :=
  ((List.range 17).findSome? fun count => value.pointWith? (count + 1)).getD ⟨['0'], 1⟩

/-- Digits with a point among them, or with an exponent of at least two digits
where the point lies far outside. -/
def Digits.text (decimal : Digits) : Text :=
  let count := decimal.digits.length
  if -4 < decimal.point && decimal.point ≤ 16 then
    if decimal.point ≤ 0 then
      "0.".toList ++ List.replicate (-decimal.point).toNat '0' ++ decimal.digits
    else
      let whole := decimal.point.toNat
      if count ≤ whole then
        decimal.digits ++ List.replicate (whole - count) '0' ++ ".0".toList
      else
        decimal.digits.take whole ++ '.' :: decimal.digits.drop whole
  else
    let exponent := decimal.point - 1
    let size := Text.ofNat exponent.natAbs
    decimal.digits.take 1
      ++ (if count = 1 then [] else '.' :: decimal.digits.drop 1)
      ++ ['e', if exponent < 0 then '-' else '+']
      ++ List.replicate (2 - size.length) '0' ++ size

end Binary64

def shortestText (value : Float) : Text :=
  match Binary64.ofFloat? value with
  | none => if value < 0 then "-inf".toList else if 0 < value then "inf".toList else "nan".toList
  | some parts =>
      (if parts.isNegative then ['-'] else []) ++
        if parts.mantissa = 0 then "0.0".toList else parts.shortest.text

end SpecFinder
