import SpecFinder.Text.Basic

/-!
# Texts as bytes

The encoding of texts in bytes, one to four per character, and its strict
decoding: only the shortest form of a code point is accepted, and surrogates are
not.  A fault tells where the first sequence stands that is no character, and how
many of its bytes could begin one.
-/

namespace SpecFinder

abbrev Bytes := List UInt8

namespace Utf8

/-- Why a sequence of bytes is no character. -/
inductive Reason where
  | invalidStart
  | invalidContinuation
  | unexpectedEnd
  deriving DecidableEq, Repr

/-- A faulty sequence: its first byte, its place, its length, and the reason. -/
structure Fault where
  byte : UInt8
  position : Nat
  length : Nat
  reason : Reason
  deriving DecidableEq, Repr

def encodeChar (char : Char) : Bytes :=
  let code := char.toNat
  let continuation (shift : Nat) : UInt8 := UInt8.ofNat (0x80 + code / shift % 0x40)
  if code < 0x80 then [UInt8.ofNat code]
  else if code < 0x800 then [UInt8.ofNat (0xC0 + code / 0x40), continuation 1]
  else if code < 0x10000 then
    [UInt8.ofNat (0xE0 + code / 0x1000), continuation 0x40, continuation 1]
  else
    [UInt8.ofNat (0xF0 + code / 0x40000), continuation 0x1000, continuation 0x40,
      continuation 1]

def encode (text : Text) : Bytes := text.flatMap encodeChar

/-- How many bytes follow a first byte, and between which bounds the second one
lies; none when no character starts with it. -/
def shape? (first : Nat) : Option (Nat × Nat × Nat) :=
  if first < 0x80 then some (0, 0x80, 0xBF)
  else if first < 0xC2 then none
  else if first < 0xE0 then some (1, 0x80, 0xBF)
  else if first = 0xE0 then some (2, 0xA0, 0xBF)
  else if first = 0xED then some (2, 0x80, 0x9F)
  else if first < 0xF0 then some (2, 0x80, 0xBF)
  else if first = 0xF0 then some (3, 0x90, 0xBF)
  else if first < 0xF4 then some (3, 0x80, 0xBF)
  else if first = 0xF4 then some (3, 0x80, 0x8F)
  else none

def continueChar : (count low high code length : Nat) → Bytes →
    Except (Nat × Reason) (Nat × Bytes)
  | 0, _, _, code, _, rest => .ok (code, rest)
  | _ + 1, _, _, _, length, [] => .error (length, .unexpectedEnd)
  | count + 1, low, high, code, length, next :: rest =>
      let byte := next.toNat
      if low ≤ byte && byte ≤ high then
        continueChar count 0x80 0xBF (code * 0x40 + byte % 0x40) (length + 1) rest
      else
        .error (length, .invalidContinuation)

/-- The part of the code point that a first byte holds. -/
def leadingBits (first count : Nat) : Nat :=
  if count = 0 then first else first % Nat.pow 2 (6 - count)

def decodeChar (first : UInt8) (rest : Bytes) : Except (Nat × Reason) (Char × Bytes) :=
  match shape? first.toNat with
  | none => .error (1, .invalidStart)
  | some (count, low, high) =>
      match continueChar count low high (leadingBits first.toNat count) 1 rest with
      | .ok (code, rest) => .ok (Char.ofNat code, rest)
      | .error fault => .error fault

/-- Decode bytes that stand at `position`. -/
def decodeFrom (position : Nat) (bytes : Bytes) : Except Fault Text :=
  match bytes with
  | [] => .ok []
  | first :: rest =>
      match decodeChar first rest with
      | .error (length, reason) => .error ⟨first, position, length, reason⟩
      | .ok (char, remaining) =>
          if _shorter : remaining.length ≤ rest.length then
            match decodeFrom (position + (rest.length - remaining.length) + 1) remaining with
            | .ok text => .ok (char :: text)
            | .error fault => .error fault
          else
            .ok [char]
termination_by bytes.length
decreasing_by exact Nat.lt_succ_of_le ‹_›

def decode (bytes : Bytes) : Except Fault Text := decodeFrom 0 bytes

def Reason.message : Reason → String
  | .invalidStart => "invalid start byte"
  | .invalidContinuation => "invalid continuation byte"
  | .unexpectedEnd => "unexpected end of data"

/-- The report of a fault: a single byte is shown, more are only counted. -/
def Fault.message (fault : Fault) : Text :=
  let hex := Nat.toDigits 16 fault.byte.toNat
  let place :=
    if fault.length = 1 then
      "byte 0x".toList ++ List.replicate (2 - hex.length) '0' ++ hex ++ " in position ".toList
        ++ Text.ofNat fault.position
    else
      "bytes in position ".toList ++ Text.ofNat fault.position ++ "-".toList
        ++ Text.ofNat (fault.position + fault.length - 1)
  "'utf-8' codec can't decode ".toList ++ place ++ ": ".toList ++ fault.reason.message.toList

end Utf8

end SpecFinder
