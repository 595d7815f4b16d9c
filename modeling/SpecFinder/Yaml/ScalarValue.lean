import SpecFinder.Number.Written
import SpecFinder.Text.Base64
import SpecFinder.Yaml.Value

/-!
# YAML scalars as values

The value that a scalar of a kind stands for.  A scalar may be of a kind that it is
not written like, when its tag says so.
-/

namespace SpecFinder.Yaml.Kind

/-- A value that there may not be. -/
def existing {α : Type} (value : Option α) : Except Fault α :=
  match value with
  | some value => .ok value
  | none => .error .noSuchValue

/-- A number without underscores, and its sign. A number has at least one character. -/
def splitNumber (text : Text) : Except Fault (Bool × Text) :=
  match text.filter (· != '_') with
  | [] => .error .emptyNumber
  | written => .ok (splitSign written)

/-- The integer that a scalar stands for: binary, octal, decimal, hexadecimal, or in
parts of sixty. -/
def readInt (text : Text) : Except Fault Int := do
  let (isNegative, written) ← splitNumber text
  let size ← match written with
    | [] => throw .emptyNumber
    | '0' :: 'b' :: digits => existing (integerIn? 2 digits)
    | '0' :: 'x' :: digits => existing (integerIn? 16 digits)
    | '0' :: _ => existing (integerIn? 8 written)
    | _ => do
        let parts ← (Text.splitWhere (· == ':') written).mapM (existing <| integer? ·)
        pure (parts.foldl (fun total part => total * 60 + part) 0)
  return if isNegative then -size else size

/-- The sum of parts of sixty, the least one first. The base of a part has to be in the
range of doubles. -/
def sumSixtieths : (base : Nat) → (total : Float) → List Float → Except Fault Float
  | _, total, [] => .ok total
  | base, total, part :: parts =>
      if floatLimit ≤ base then .error .beyondRange
      else sumSixtieths (base * 60) (total + part * floatOfDecimal base 0) parts

def readFloat (text : Text) : Except Fault Value := do
  let (isNegative, written) ← splitNumber (text.map Char.toLower)
  if written = ".nan".toList then
    return .notNumber none
  else
    let size ←
      if written = ".inf".toList then
        pure (1.0 / 0.0)
      else if written.contains ':' then do
        let parts ← (Text.splitWhere (· == ':') written).mapM (existing <| double? ·)
        sumSixtieths 1 0 parts.reverse
      else
        existing (double? written)
    return .float (if isNegative then -size else size)

def readDate (text : Text) : Except Fault Value :=
  match readTimestamp text with
  | none => .error .unlikeDate
  | some parts =>
      let date : Date := ⟨Scalar.valueOf 10 parts.year, Scalar.valueOf 10 parts.month,
        Scalar.valueOf 10 parts.day⟩
      match parts.time with
      | none => if date.isValid then .ok (.date date) else .error .noSuchValue
      | some time =>
          let moment := Moment.ofParts date time parts
          if moment.isValid then .ok (.moment moment) else .error .noSuchValue

def readBool (text : Text) : Except Fault Bool :=
  let word := text.map Char.toLower
  if ["yes", "true", "on"].any (·.toList == word) then .ok true
  else if ["no", "false", "off"].any (·.toList == word) then .ok false
  else .error .unknownWord

def readBytes (text : Text) : Except Fault Bytes :=
  if text.all (·.toNat < 0x80) then
    match Base64.decode? text with
    | some bytes => .ok bytes
    | none => .error .malformed
  else
    .error .malformed

def readScalar (kind : Kind) (text : Text) : Except Fault Value :=
  match kind with
  | .null => .ok .null
  | .bool => return .bool (← readBool text)
  | .int => return .int (← readInt text)
  | .float => readFloat text
  | .timestamp => readDate text
  | .string => .ok (.string text)
  | .binary => return .bytes (← readBytes text)
  | .merge | .defaultValue | .sequence | .mapping | .set | .pairs | .unknown =>
      .error .malformed

end SpecFinder.Yaml.Kind
