import Mathlib.Data.Prod.Lex
import Mathlib.Order.Compare
import SpecFinder.Number.Binary64

/-!
# The order of doubles

A double that is a number has a place on a line: first the negative ones, then both zeros, then
the positive ones, those of a sign by their exponents and then by their mantissas.  Two doubles
compare as their places do, and what is no number compares with nothing.  So numbers are in an
order in which only the two zeros are tied, since any other place belongs to a single pattern of
bits.
-/

namespace SpecFinder.Double

open Float.Model UnpackedFloat

/-! ## Bits -/

section Bits

variable (bits : BitVec Format.binary64.numBits)

theorem toNat_unpackMantissa : (unpackMantissa bits).toNat = bits.toNat % Nat.pow 2 52 := by
  simp [unpackMantissa, BitVec.extractLsb]

theorem toNat_unpackExponent :
    (unpackExponent bits).toNat = bits.toNat / Nat.pow 2 52 % Nat.pow 2 11 := by
  simp [unpackExponent, BitVec.extractLsb, Nat.shiftRight_eq_div_pow]

theorem toNat_unpackSign : (unpackSign bits).toNat = bits.toNat / Nat.pow 2 63 % 2 := by
  delta unpackSign
  simp [BitVec.extractLsb, Nat.shiftRight_eq_div_pow]

/-- The bit of a sign. -/
def signBit : Sign → ℕ
  | .positive => 0
  | .negative => 1

theorem signBit_ofBitVec (bit : BitVec 1) : signBit (.ofBitVec bit) = bit.toNat := by
  decide +revert

/-- The bits of a number that has been taken apart. -/
def bitsOf : UnpackedFloat → ℕ
  | .notANumber => 0
  | .infinity sign => signBit sign * Nat.pow 2 63 + 2047 * Nat.pow 2 52
  | .zero sign => signBit sign * Nat.pow 2 63
  | .finite sign mantissa exponent _ =>
      signBit sign * Nat.pow 2 63 + if mantissa < Nat.pow 2 52 then mantissa
        else mantissa - Nat.pow 2 52 + (exponent + 1075).toNat * Nat.pow 2 52

theorem bitsOf_infinity (sign : Sign) :
    bitsOf (.infinity sign) = signBit sign * Nat.pow 2 63 + 2047 * Nat.pow 2 52 := rfl

theorem bitsOf_zero (sign : Sign) : bitsOf (.zero sign) = signBit sign * Nat.pow 2 63 := rfl

theorem bitsOf_finite (sign : Sign) (mantissa : ℕ) (exponent : ℤ) (positive : 0 < mantissa) :
    bitsOf (.finite sign mantissa exponent positive) =
      signBit sign * Nat.pow 2 63 + if mantissa < Nat.pow 2 52 then mantissa
        else mantissa - Nat.pow 2 52 + (exponent + 1075).toNat * Nat.pow 2 52 := rfl

/-- The bits of a number are found again in its parts. -/
theorem bitsOf_unpack (isNumber : (UnpackedFloat.unpack .binary64 bits).isNaN = false) :
    bitsOf (UnpackedFloat.unpack .binary64 bits) = bits.toNat := by
  have mantissa := toNat_unpackMantissa bits
  have exponent := toNat_unpackExponent bits
  have sign := toNat_unpackSign bits
  have small : bits.toNat < 18446744073709551616 := bits.isLt
  simp only [Nat.pow_eq, Nat.reducePow] at mantissa exponent sign
  delta UnpackedFloat.unpack at isNumber ⊢
  dsimp only at isNumber ⊢
  by_cases isGreatest : unpackExponent bits = -1#_
  · have top : (unpackExponent bits).toNat = 2047 := congrArg BitVec.toNat isGreatest
    rw [if_pos isGreatest] at isNumber ⊢
    by_cases isZero : unpackMantissa bits = 0#_
    · have none : (unpackMantissa bits).toNat = 0 := congrArg BitVec.toNat isZero
      rw [if_pos isZero, bitsOf_infinity, signBit_ofBitVec, Nat.pow_eq, Nat.pow_eq]
      omega
    · rw [if_neg isZero] at isNumber
      cases isNumber
  · rw [if_neg isGreatest]
    by_cases isLeast : unpackExponent bits = 0#_
    · have bottom : (unpackExponent bits).toNat = 0 := congrArg BitVec.toNat isLeast
      rw [if_pos isLeast]
      by_cases isZero : unpackMantissa bits = 0#_
      · have none : (unpackMantissa bits).toNat = 0 := congrArg BitVec.toNat isZero
        rw [dif_pos isZero, bitsOf_zero, signBit_ofBitVec, Nat.pow_eq]
        omega
      · rw [dif_neg isZero, bitsOf_finite, signBit_ofBitVec, Nat.pow_eq, Nat.pow_eq,
          if_pos (by omega)]
        omega
    · have bias : (Format.binary64.exponentBias : ℤ) +
          Format.binary64.mantissaBitsWithoutImplicit = 1075 := rfl
      have implicit : ((1#1 : BitVec 1) ++ unpackMantissa bits).toNat =
          4503599627370496 + (unpackMantissa bits).toNat := by
        rw [BitVec.toNat_append]
        exact (Nat.shiftLeft_add_eq_or_of_lt (unpackMantissa bits).isLt 1).symm
      rw [if_neg isLeast, bitsOf_finite, signBit_ofBitVec, implicit, bias, Nat.pow_eq, Nat.pow_eq,
        if_neg (by omega), Int.sub_add_cancel, Int.toNat_natCast]
      omega

end Bits

/-! ## Places -/

/-- The place of a double that has been taken apart. What is no number gets the place of zero. -/
def placeOf : UnpackedFloat → ℤ ×ₗ ℤ ×ₗ ℤ
  | .infinity .negative => toLex (-2, toLex (0, 0))
  | .finite .negative mantissa exponent _ => toLex (-1, toLex (-exponent, -mantissa))
  | .notANumber | .zero _ => toLex (0, toLex (0, 0))
  | .finite .positive mantissa exponent _ => toLex (1, toLex (exponent, mantissa))
  | .infinity .positive => toLex (2, toLex (0, 0))

/-- The place of a double. -/
def place (value : Float) : ℤ ×ₗ ℤ ×ₗ ℤ := placeOf value.toModel.unpack

theorem lt_iff_placeOf (left right : UnpackedFloat) :
    left.lt right = true ↔
      left.isNaN = false ∧ right.isNaN = false ∧ placeOf left < placeOf right := by
  have signs : compare Sign.negative Sign.positive = .lt := rfl
  rcases left with (_ | _) | _ | _ | ⟨_ | _, _, _, _⟩ <;>
    rcases right with (_ | _) | _ | _ | ⟨_ | _, _, _, _⟩ <;>
    delta UnpackedFloat.lt UnpackedFloat.compare UnpackedFloat.isNaN placeOf <;>
    simp [signs, Prod.Lex.toLex_lt_toLex, Ordering.then_eq_lt, Ordering.then_eq_gt, compare_lt_iff_lt,
      compare_gt_iff_gt]

/-- A double is below another one when both are numbers and its place is in front. -/
theorem lt_iff {left right : Float} :
    left < right ↔ left.isNaN = false ∧ right.isNaN = false ∧ place left < place right := by
  have unpacked : left < right ↔ left.toModel.unpack.lt right.toModel.unpack = true := by
    change Float.lt left right = true ↔ _
    rw [Float.lt, decide_eq_true_eq]
    rfl
  rw [unpacked, lt_iff_placeOf]
  rfl

theorem beq_iff_placeOf (left right : UnpackedFloat) :
    left.beq right = true ↔
      left.isNaN = false ∧ right.isNaN = false ∧ placeOf left = placeOf right := by
  have sameSign (sign : Sign) : compare sign sign = .eq := by cases sign <;> rfl
  have signs : compare Sign.negative Sign.positive = .lt ∧
      compare Sign.positive Sign.negative = .gt := ⟨rfl, rfl⟩
  rcases left with (_ | _) | _ | _ | ⟨_ | _, _, _, _⟩ <;>
    rcases right with (_ | _) | _ | _ | ⟨_ | _, _, _, _⟩ <;>
    delta UnpackedFloat.beq UnpackedFloat.compare UnpackedFloat.isNaN placeOf <;>
    simp [signs, sameSign, Ordering.then_eq_eq, Int.natCast_inj]

/-- Doubles are equal when both are numbers with the same place. -/
theorem beq_iff {left right : Float} :
    (left == right) = true ↔ left.isNaN = false ∧ right.isNaN = false ∧ place left = place right :=
  beq_iff_placeOf left.toModel.unpack right.toModel.unpack

theorem eq_of_placeOf_eq {left right : UnpackedFloat} (same : placeOf left = placeOf right)
    (notZero : placeOf left ≠ toLex (0, toLex (0, 0))) : left = right := by
  rcases left with (_ | _) | _ | _ | ⟨_ | _, _, _, _⟩ <;>
    rcases right with (_ | _) | _ | _ | ⟨_ | _, _, _, _⟩ <;>
    delta placeOf at same notZero <;>
    simp [Int.natCast_inj] at same notZero
  -- Only doubles of one kind and sign are left.
  case infinity.negative.infinity.negative | infinity.positive.infinity.positive => rfl
  case finite.negative.finite.negative | finite.positive.finite.positive =>
    rcases same with ⟨rfl, rfl⟩
    rfl

theorem isNaN_eq_false_of_placeOf_ne {value : UnpackedFloat}
    (notZero : placeOf value ≠ toLex (0, toLex (0, 0))) : value.isNaN = false := by
  cases value with
  | notANumber => exact absurd rfl notZero
  | _ => rfl

/-- Any place but that of zero belongs to one double. -/
theorem eq_of_place_eq {left right : Float} (same : place left = place right)
    (notZero : place left ≠ toLex (0, toLex (0, 0))) : left = right := by
  have unpacked : left.toModel.unpack = right.toModel.unpack := eq_of_placeOf_eq same notZero
  have leftBits := bitsOf_unpack _ (isNaN_eq_false_of_placeOf_ne notZero)
  have rightBits := bitsOf_unpack _ (isNaN_eq_false_of_placeOf_ne (same ▸ notZero))
  have bits : left.toBits = right.toBits := by
    rw [← UInt64.toNat_inj]
    exact leftBits.symm.trans ((congrArg bitsOf unpacked).trans rightBits)
  rcases left with ⟨⟨leftBits, _⟩⟩
  rcases right with ⟨⟨rightBits, _⟩⟩
  cases bits
  rfl

/-! ## Comparing -/

variable {left middle right : Float}

theorem asymm (below : left < right) : ¬ right < left := by
  intro above
  exact lt_asymm (lt_iff.mp below).2.2 (lt_iff.mp above).2.2

/-- A number is above the lesser of two doubles or below the greater one. -/
theorem cotrans (isNumber : middle.isNaN = false) (below : left < right) :
    left < middle ∨ middle < right := by
  rcases lt_iff.mp below with ⟨leftNumber, rightNumber, inFront⟩
  rcases lt_or_ge (place left) (place middle) with before | notBefore
  · exact .inl (lt_iff.mpr ⟨leftNumber, isNumber, before⟩)
  · exact .inr (lt_iff.mpr ⟨isNumber, rightNumber, lt_of_le_of_lt notBefore inFront⟩)

/-- Numbers are equal when neither is below the other. -/
theorem beq_iff_not_lt (leftNumber : left.isNaN = false) (rightNumber : right.isNaN = false) :
    (left == right) = true ↔ ¬ left < right ∧ ¬ right < left := by
  simp only [beq_iff, lt_iff, leftNumber, rightNumber, true_and, not_lt]
  exact ⟨fun same => ⟨same.ge, same.le⟩, fun both => le_antisymm both.2 both.1⟩

/-- Positive doubles neither of which is below the other are the same. -/
theorem eq_of_not_lt (leftPositive : 0 < left) (rightPositive : 0 < right)
    (notBelow : ¬ left < right) (notAbove : ¬ right < left) : left = right := by
  rcases lt_iff.mp leftPositive with ⟨_, leftNumber, behindZero⟩
  rcases lt_iff.mp rightPositive with ⟨_, rightNumber, _⟩
  apply eq_of_place_eq
  · apply le_antisymm
    · exact le_of_not_gt fun above => notAbove (lt_iff.mpr ⟨rightNumber, leftNumber, above⟩)
    · exact le_of_not_gt fun below => notBelow (lt_iff.mpr ⟨leftNumber, rightNumber, below⟩)
  · exact behindZero.ne'

end SpecFinder.Double
