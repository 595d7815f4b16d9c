import SpecFinder.Text.Utf8

/-!
# Bytes in sixty-four characters

Bytes as they are carried in a text: four characters hold three bytes, and padding
fills up the last four.  Characters that hold nothing are skipped.
-/

namespace SpecFinder.Base64

def bits? (char : Char) : Option Nat :=
  if 'A' ≤ char && char ≤ 'Z' then some (char.toNat - 'A'.toNat)
  else if 'a' ≤ char && char ≤ 'z' then some (char.toNat - 'a'.toNat + 26)
  else if char.isDigit then some (char.toNat - '0'.toNat + 52)
  else if char == '+' then some 62
  else if char == '/' then some 63
  else none

/-- Decode a text when `place` characters of a group of four are read, whose last bits
that fill no byte yet are `left`, and `pads` signs of padding stand behind them. None
when a group is left open. -/
def decodeFrom (place left pads : Nat) : Text → Option Bytes
  | [] => if place = 0 then some [] else none
  | char :: rest =>
      if char == '=' then
        if place < 2 then decodeFrom place left pads rest
        else if 4 ≤ place + pads + 1 then some []
        else decodeFrom place left (pads + 1) rest
      else
        match bits? char with
        | none => decodeFrom place left pads rest
        | some bits =>
            let byte (high low : Nat) : UInt8 := UInt8.ofNat (left * high + bits / low)
            match place with
            | 0 => decodeFrom 1 bits 0 rest
            | 1 => (decodeFrom 2 (bits % 16) 0 rest).map (byte 4 16 :: ·)
            | 2 => (decodeFrom 3 (bits % 4) 0 rest).map (byte 16 4 :: ·)
            | _ => (decodeFrom 0 0 0 rest).map (byte 64 1 :: ·)

/-- The bytes that a text carries. -/
def decode? (text : Text) : Option Bytes := decodeFrom 0 0 0 text

end SpecFinder.Base64
