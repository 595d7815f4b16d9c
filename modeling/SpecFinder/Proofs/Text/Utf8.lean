import Mathlib.Data.List.Basic
import SpecFinder.Text.Utf8

/-!
# Encoding and decoding

Decoding gives back every text that was encoded: the bytes of a character are read as that
character, whatever bytes follow.
-/

namespace SpecFinder.Utf8

/-- The code points of characters leave out the surrogates. -/
theorem toNat_range (char : Char) :
    char.toNat < 0xD800 ∨ 0xE000 ≤ char.toNat ∧ char.toNat < 0x110000 := by
  have valid : char.toNat.isValidChar := char.valid
  simp only [Nat.isValidChar] at valid
  omega

theorem toNat_ofNat_of_byte {byte : Nat} (isByte : byte < 256) :
    (UInt8.ofNat byte).toNat = byte := by
  rw [UInt8.toNat_ofNat']
  omega

/-! ## First bytes -/

/-- What the first of two bytes says of the second one. -/
theorem shape?_two {code : Nat} (from80 : 0x80 ≤ code) (below800 : code < 0x800) :
    shape? (0xC0 + code / 0x40) = some (1, 0x80, 0xBF) := by
  simp only [shape?]
  rw [if_neg (by omega), if_neg (by omega), if_pos (by omega)]

/-- What the first of three bytes says of the second one. The bounds leave out what fits into
two bytes, and the surrogates. -/
theorem shape?_three {code : Nat} (from800 : 0x800 ≤ code) (below10000 : code < 0x10000)
    (range : code < 0xD800 ∨ 0xE000 ≤ code ∧ code < 0x110000) :
    ∃ low high, shape? (0xE0 + code / 0x1000) = some (2, low, high) ∧
      low ≤ 0x80 + code / 0x40 % 0x40 ∧ 0x80 + code / 0x40 % 0x40 ≤ high := by
  simp only [shape?]
  rw [if_neg (by omega), if_neg (by omega), if_neg (by omega)]
  by_cases isFirst : 0xE0 + code / 0x1000 = 0xE0
  · exact ⟨0xA0, 0xBF, by rw [if_pos isFirst], by omega, by omega⟩
  · by_cases meetsSurrogates : 0xE0 + code / 0x1000 = 0xED
    · exact ⟨0x80, 0x9F, by rw [if_neg isFirst, if_pos meetsSurrogates], by omega, by omega⟩
    · refine ⟨0x80, 0xBF, ?_, by omega, by omega⟩
      rw [if_neg isFirst, if_neg meetsSurrogates, if_pos (by omega)]

/-- What the first of four bytes says of the second one. The bounds leave out what fits into
three bytes, and what lies above the last code point. -/
theorem shape?_four {code : Nat} (from10000 : 0x10000 ≤ code) (below110000 : code < 0x110000) :
    ∃ low high, shape? (0xF0 + code / 0x40000) = some (3, low, high) ∧
      low ≤ 0x80 + code / 0x1000 % 0x40 ∧ 0x80 + code / 0x1000 % 0x40 ≤ high := by
  simp only [shape?]
  rw [if_neg (by omega), if_neg (by omega), if_neg (by omega), if_neg (by omega),
    if_neg (by omega), if_neg (by omega)]
  by_cases isFirst : 0xF0 + code / 0x40000 = 0xF0
  · exact ⟨0x90, 0xBF, by rw [if_pos isFirst], by omega, by omega⟩
  · by_cases isLast : 0xF0 + code / 0x40000 = 0xF4
    · refine ⟨0x80, 0x8F, ?_, by omega, by omega⟩
      rw [if_neg isFirst, if_neg (by omega), if_pos isLast]
    · refine ⟨0x80, 0xBF, ?_, by omega, by omega⟩
      rw [if_neg isFirst, if_pos (by omega)]

/-! ## Characters -/

/-- A byte between two bounds continues a character by six bits. -/
theorem continueChar_succ {count low high code length byte : Nat} {rest : Bytes}
    (isByte : byte < 256) (notBelow : low ≤ byte) (notAbove : byte ≤ high) :
    continueChar (count + 1) low high code length (UInt8.ofNat byte :: rest) =
      continueChar count 0x80 0xBF (code * 0x40 + byte % 0x40) (length + 1) rest := by
  simp [continueChar, toNat_ofNat_of_byte isByte, notBelow, notAbove]

/-- A character is read from a first byte and the bytes that continue it. -/
theorem decodeChar_of_continueChar {byte count low high bits code : Nat} {char : Char}
    {behind rest : Bytes} (isChar : Char.ofNat code = char) (isByte : byte < 256)
    (begins : shape? byte = some (count, low, high)) (leading : leadingBits byte count = bits)
    (continues : continueChar count low high bits 1 behind = .ok (code, rest)) :
    decodeChar (UInt8.ofNat byte) behind = .ok (char, rest) := by
  simp [decodeChar, toNat_ofNat_of_byte isByte, begins, leading, continues, isChar]

/-- The bytes of a character are read as that character. -/
theorem decodeChar_encodeChar (char : Char) (rest : Bytes) :
    ∃ first more, encodeChar char = first :: more ∧
      decodeChar first (more ++ rest) = .ok (char, rest) := by
  have range := toNat_range char
  have isChar : Char.ofNat char.toNat = char := Char.ofNat_toNat char
  simp only [encodeChar, Nat.div_one]
  generalize char.toNat = code at range isChar ⊢
  by_cases one : code < 0x80
  · rw [if_pos one]
    refine ⟨_, _, rfl, ?_⟩
    have begins : shape? code = some (0, 0x80, 0xBF) := if_pos one
    exact decodeChar_of_continueChar isChar (by omega) begins rfl rfl
  · rw [if_neg one]
    by_cases two : code < 0x800
    · rw [if_pos two]
      refine ⟨_, _, rfl, ?_⟩
      have leading : leadingBits (0xC0 + code / 0x40) 1 = code / 0x40 := by
        change (0xC0 + code / 0x40) % 32 = code / 0x40
        omega
      apply decodeChar_of_continueChar isChar (by omega) (shape?_two (by omega) two) leading
      rw [List.cons_append, continueChar_succ (by omega) (by omega) (by omega), continueChar,
        List.nil_append]
      congr 2
      omega
    · rw [if_neg two]
      by_cases three : code < 0x10000
      · rw [if_pos three]
        refine ⟨_, _, rfl, ?_⟩
        rcases shape?_three (by omega) three range with ⟨low, high, begins, notBelow, notAbove⟩
        have leading : leadingBits (0xE0 + code / 0x1000) 2 = code / 0x1000 := by
          change (0xE0 + code / 0x1000) % 16 = code / 0x1000
          omega
        apply decodeChar_of_continueChar isChar (by omega) begins leading
        rw [List.cons_append, continueChar_succ (by omega) notBelow notAbove, List.cons_append,
          continueChar_succ (by omega) (by omega) (by omega), continueChar, List.nil_append]
        congr 2
        omega
      · rw [if_neg three]
        refine ⟨_, _, rfl, ?_⟩
        have above : 0x10000 ≤ code ∧ code < 0x110000 := by omega
        rcases shape?_four above.1 above.2 with ⟨low, high, begins, notBelow, notAbove⟩
        have leading : leadingBits (0xF0 + code / 0x40000) 3 = code / 0x40000 := by
          change (0xF0 + code / 0x40000) % 8 = code / 0x40000
          omega
        apply decodeChar_of_continueChar isChar (by omega) begins leading
        rw [List.cons_append, continueChar_succ (by omega) notBelow notAbove, List.cons_append,
          continueChar_succ (by omega) (by omega) (by omega), List.cons_append,
          continueChar_succ (by omega) (by omega) (by omega), continueChar, List.nil_append]
        congr 2
        omega

/-! ## Texts -/

theorem decodeFrom_encode (position : Nat) (text : Text) :
    decodeFrom position (encode text) = .ok text := by
  induction text generalizing position with
  | nil => simp [encode, decodeFrom]
  | cons char text ih =>
      rcases decodeChar_encodeChar char (encode text) with ⟨first, more, bytes, decoded⟩
      have whole : encode (char :: text) = first :: (more ++ encode text) := by
        rw [encode, List.flatMap_cons, bytes]
        rfl
      rw [whole, decodeFrom]
      simp [decoded, ih]

/-- Decoding gives back what was encoded. -/
theorem decode_encode (text : Text) : decode (encode text) = .ok text :=
  decodeFrom_encode 0 text

end SpecFinder.Utf8
