import Mathlib.Algebra.Ring.Nat
import SpecFinder.Proofs.Text.Order
import SpecFinder.Yaml.Timestamp

/-!
# Padded numbers

Digits of the same length are ordered as texts as they are as numbers, because the leading
one counts for more than all that stand behind it.  A number that is padded with zeros to a
width it fits in has that width and keeps its value, so padded numbers are ordered as the
numbers are.
-/

namespace SpecFinder

open Text

/-! ## Digits -/

/-- Whether a text is made of decimal digits. -/
def AreDigits (digits : Text) : Prop := ∀ digit ∈ digits, digit.isDigit = true

namespace AreDigits

variable {digit : Char} {digits : Text}

theorem head (areDigits : AreDigits (digit :: digits)) : '0'.toNat ≤ digit.toNat ∧
    digit.toNat ≤ '9'.toNat := by
  have isDigit := areDigits digit List.mem_cons_self
  rw [Char.isDigit, Bool.and_eq_true, decide_eq_true_eq, decide_eq_true_eq] at isDigit
  exact isDigit

theorem tail (areDigits : AreDigits (digit :: digits)) : AreDigits digits :=
  fun other member => areDigits other (List.mem_cons_of_mem digit member)

end AreDigits

/-- The number that digits stand for. -/
def digitsValue (digits : Text) : Nat := Nat.ofDigitChars 10 digits 0

theorem digitsValue_cons (digit : Char) (digits : Text) :
    digitsValue (digit :: digits) =
      10 ^ digits.length * (digit.toNat - '0'.toNat) + digitsValue digits := by
  rw [digitsValue, Nat.ofDigitChars_cons, Nat.mul_zero, Nat.zero_add,
    Nat.ofDigitChars_eq_ofDigitChars_zero, digitsValue]

theorem digitsValue_lt {digits : Text} (areDigits : AreDigits digits) :
    digitsValue digits < 10 ^ digits.length := by
  induction digits with
  | nil => decide
  | cons digit digits ih =>
      have rest := ih areDigits.tail
      have atMostNine : digit.toNat - '0'.toNat ≤ 9 := by
        have bounds := areDigits.head
        have zero : '0'.toNat = 48 := rfl
        have nine : '9'.toNat = 57 := rfl
        omega
      calc digitsValue (digit :: digits)
          = 10 ^ digits.length * (digit.toNat - '0'.toNat) + digitsValue digits :=
            digitsValue_cons digit digits
        _ ≤ 10 ^ digits.length * 9 + digitsValue digits :=
            Nat.add_le_add_right (Nat.mul_le_mul_left _ atMostNine) _
        _ < 10 ^ (digits.length + 1) := by
            rw [Nat.pow_succ]
            omega

/-- Of two numbers that are split at the same power, the leading parts are compared first. -/
theorem mul_add_lt_mul_add_iff {size left right rest behind : Nat} (restSmall : rest < size)
    (behindSmall : behind < size) :
    size * left + rest < size * right + behind ↔ left < right ∨ left = right ∧ rest < behind := by
  rcases Nat.lt_trichotomy left right with below | same | above
  · have more : size * (left + 1) ≤ size * right := Nat.mul_le_mul_left size below
    rw [Nat.mul_succ] at more
    constructor
    · exact fun _ => .inl below
    · intro _
      omega
  · subst same
    simp
  · have more : size * (right + 1) ≤ size * left := Nat.mul_le_mul_left size above
    rw [Nat.mul_succ] at more
    constructor
    · intro less
      omega
    · omega

theorem isBelow_iff_digitsValue {left right : Text} (sameLength : left.length = right.length)
    (leftDigits : AreDigits left) (rightDigits : AreDigits right) :
    isBelow left right = true ↔ digitsValue left < digitsValue right := by
  induction left generalizing right with
  | nil =>
      obtain rfl : right = [] := List.length_eq_zero_iff.mp sameLength.symm
      simp [not_isBelow_self]
  | cons first left ih =>
      cases right with
      | nil => cases sameLength
      | cons other right =>
          have shorter : left.length = right.length := Nat.succ.inj sameLength
          have leftSmall := digitsValue_lt leftDigits.tail
          have rightSmall := digitsValue_lt rightDigits.tail
          rw [← shorter] at rightSmall
          have leading : first.toNat < other.toNat ↔
              first.toNat - '0'.toNat < other.toNat - '0'.toNat := by
            have fromZero := leftDigits.head.1
            omega
          have sameLeading : first = other ↔
              first.toNat - '0'.toNat = other.toNat - '0'.toNat := by
            have fromZero := leftDigits.head.1
            have otherFromZero := rightDigits.head.1
            rw [← Char.toNat_inj]
            omega
          rw [isBelow_cons, ih shorter leftDigits.tail rightDigits.tail, leading, sameLeading,
            digitsValue_cons, digitsValue_cons, ← shorter,
            mul_add_lt_mul_add_iff leftSmall rightSmall]

/-! ## Padding -/

namespace Yaml

variable {width value left right : Nat}

theorem areDigits_padded (width value : Nat) : AreDigits (padded width value) := by
  intro digit member
  rw [padded, List.mem_append] at member
  rcases member with isZero | written
  · rw [(List.mem_replicate.mp isZero).2]
    rfl
  · exact Nat.isDigit_of_mem_toDigits (by decide) (by decide) written

theorem length_padded (wide : 0 < width) (fits : value < 10 ^ width) :
    (padded width value).length = width := by
  have short : (Text.ofNat value).length ≤ width :=
    (Nat.length_toDigits_le_iff (by decide) wide).mpr fits
  rw [padded, List.length_append, List.length_replicate]
  omega

@[simp] theorem digitsValue_padded (width value : Nat) :
    digitsValue (padded width value) = value := by
  rw [digitsValue, padded, Nat.ofDigitChars_append, Nat.ofDigitChars_replicate_zero, Nat.mul_zero]
  exact Nat.ofDigitChars_ten_toDigits

/-- Padded numbers of one width are compared as numbers, and what stands behind them counts
where they are the same. -/
theorem isBelow_padded_append (wide : 0 < width) (leftFits : left < 10 ^ width)
    (rightFits : right < 10 ^ width) (rest behind : Text) :
    isBelow (padded width left ++ rest) (padded width right ++ behind) = true ↔
      left < right ∨ left = right ∧ isBelow rest behind = true := by
  have sameLength : (padded width left).length = (padded width right).length := by
    rw [length_padded wide leftFits, length_padded wide rightFits]
  have same : padded width left = padded width right ↔ left = right := by
    constructor
    · intro written
      have values := congrArg digitsValue written
      rwa [digitsValue_padded, digitsValue_padded] at values
    · exact congrArg (padded width)
  rw [isBelow_append sameLength, same,
    isBelow_iff_digitsValue sameLength (areDigits_padded _ _) (areDigits_padded _ _),
    digitsValue_padded, digitsValue_padded]

theorem isBelow_padded (wide : 0 < width) (leftFits : left < 10 ^ width)
    (rightFits : right < 10 ^ width) :
    isBelow (padded width left) (padded width right) = true ↔ left < right := by
  have alone := isBelow_padded_append wide leftFits rightFits [] []
  rw [List.append_nil, List.append_nil] at alone
  simp [alone, not_isBelow_self]

end Yaml

end SpecFinder
