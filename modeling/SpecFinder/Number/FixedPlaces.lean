import SpecFinder.Number.Binary64
import SpecFinder.Text.Basic

/-!
# Fixed decimal places

A double written with a fixed number of decimal places.  The exact value is
rounded to the nearest such decimal, a half to the even neighbour; a negative
value keeps its sign even when it rounds to zero.
-/

namespace SpecFinder

/-- A count of units of `10 ^ -places` as a decimal with that many places. -/
def pointDecimal (places units : Nat) : Text :=
  let fraction := Text.ofNat (units % Nat.pow 10 places)
  Text.ofNat (units / Nat.pow 10 places) ++ '.' ::
    (List.replicate (places - fraction.length) '0' ++ fraction)

def Binary64.fixed (places : Nat) (value : Binary64) : Text :=
  let (numerator, denominator) := value.ratio
  let units := roundDivEven (numerator * Nat.pow 10 places) denominator
  (if value.isNegative then ['-'] else []) ++ pointDecimal places units

def scorePlaces : Nat := 9

def scoreText (score : Float) : Text :=
  match Binary64.ofFloat? score with
  | some value => value.fixed scorePlaces
  | none => if score < 0 then "-inf".toList else "inf".toList

end SpecFinder
