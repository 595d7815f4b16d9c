/-!
# Binary floating-point numbers, exactly

A finite double is a sign, a whole number and a power of two.  Rounding to whole
numbers and to decimals is done on these parts with unbounded integers.
-/

namespace SpecFinder

/-- The exact value of a finite double: `mantissa · 2 ^ exponent`, negative when
`isNegative`. Zero keeps its sign. -/
structure Binary64 where
  isNegative : Bool
  mantissa : Nat
  exponent : Int
  deriving DecidableEq, Repr

namespace Binary64

/-- The parts of a double, none when it is infinite or not a number. -/
def ofFloat? (value : Float) : Option Binary64 :=
  let bits := value.toBits.toNat
  let isNegative := bits / Nat.pow 2 63 == 1
  let exponent := bits / Nat.pow 2 52 % Nat.pow 2 11
  let fraction := bits % Nat.pow 2 52
  if exponent = 2047 then none
  else if exponent = 0 then some ⟨isNegative, fraction, -1074⟩
  else some ⟨isNegative, fraction + Nat.pow 2 52, Int.ofNat exponent - 1075⟩

def ratio (value : Binary64) : Nat × Nat :=
  (value.mantissa * Nat.pow 2 value.exponent.toNat, Nat.pow 2 (-value.exponent).toNat)

def floor (value : Binary64) : Int :=
  let (numerator, denominator) := value.ratio
  if value.isNegative then Int.fdiv (-numerator) denominator
  else numerator / denominator

end Binary64

/-- The quotient of two counts rounded to the nearest whole number, a half to the
even neighbour. -/
def roundDivEven (numerator denominator : Nat) : Nat :=
  let quotient := numerator / denominator
  let twice := 2 * (numerator % denominator)
  if twice < denominator then quotient
  else if denominator < twice then quotient + 1
  else quotient + quotient % 2

/-- The least count that has no double: it rounds beyond the greatest one. -/
def floatLimit : Nat := Nat.pow 2 1024 - Nat.pow 2 970

end SpecFinder
