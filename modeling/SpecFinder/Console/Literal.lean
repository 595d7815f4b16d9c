import SpecFinder.Console.LiteralToken

/-!
# Literals

A value can be written out as a number, a quoted text, one of a few words, or as a tuple,
a set or a mapping of values.  What the value is does not matter here, only whether
a text writes one.
-/

namespace SpecFinder.Console.Literal

/-- What is known of a value that has been read. A number may get a sign, and a number with
or without a sign an imaginary part. What cannot change can be a member of a set. -/
inductive Shape where
  | number (isImaginary : Bool)
  | signedNumber (isImaginary : Bool)
  | constant
  | changeable
  /-- The word for a set, which is no value before brackets stand behind it. -/
  | setMaker
  deriving DecidableEq, Repr

namespace Shape

def isValue (shape : Shape) : Bool := shape != .setMaker

/-- Whether a value can be a member of a set or a key of a mapping. -/
def isConstant (shape : Shape) : Bool := shape.isValue && shape != .changeable

def tuple (parts : List Shape) : Shape :=
  if parts.all isConstant then .constant else .changeable

/-- The sum of a number and an imaginary one. -/
def sum? : Shape → Shape → Option Shape
  | .number false, .number true | .signedNumber false, .number true => some .constant
  | _, _ => none

end Shape

/-- Read the shape of a value at the front of some tokens, given how to read what stands
in brackets, the bracket that opens them being taken away. -/
def readAtom? (inBrackets : Bool → List Token → Option (Shape × List Token)) :
    List Token → Option (Shape × List Token)
  | .number isImaginary :: rest => some (.number isImaginary, rest)
  | .text :: rest => some (.constant, rest.dropWhile (· == .text))
  | .bytes :: rest => some (.constant, rest.dropWhile (· == .bytes))
  | .ellipsis :: rest => some (.constant, rest)
  | .word name :: rest =>
      if ["True", "False", "None"].contains (String.ofList name) then some (.constant, rest)
      else if name = "set".toList then some (.setMaker, rest)
      else none
  | .openRound :: rest => inBrackets true rest
  | .openCurly :: rest => inBrackets false rest
  | _ => none

def readTerm? (inBrackets : Bool → List Token → Option (Shape × List Token))
    (tokens : List Token) : Option (Shape × List Token) := do
  match tokens with
  | .sign :: rest =>
      match ← readAtom? inBrackets rest with
      | (.number isImaginary, rest) => return (.signedNumber isImaginary, rest)
      | _ => none
  | _ =>
      match ← readAtom? inBrackets tokens with
      | (.setMaker, .openRound :: .closeRound :: rest) => return (.changeable, rest)
      | read => return read

def readValue? (inBrackets : Bool → List Token → Option (Shape × List Token))
    (tokens : List Token) : Option (Shape × List Token) := do
  let (shape, rest) ← readTerm? inBrackets tokens
  match rest with
  | .sign :: rest =>
      let (other, rest) ← readAtom? inBrackets rest
      return (← shape.sum? other, rest)
  | _ => return (shape, rest)

mutual

/-- Read what stands in brackets, to the one that closes them. -/
def readInside? (steps : Nat) (isRound : Bool) (tokens : List Token) :
    Option (Shape × List Token) :=
  match steps with
  | 0 => none
  | steps + 1 =>
      match isRound, tokens with
      | true, .closeRound :: rest => some (.constant, rest)
      | false, .closeCurly :: rest => some (.changeable, rest)
      | true, _ => do
          let (parts, hasComma, rest) ← readParts? steps .closeRound tokens
          match parts, hasComma with
          | [part], false => return (part, rest)
          | _, _ => if parts.all (·.isValue) then return (.tuple parts, rest) else none
      | false, _ => do
          let (first, behind) ← readValue? (readInside? steps) tokens
          match first.isConstant, behind with
          | false, _ => none
          | true, .colon :: _ => return (.changeable, ← readEntries? steps tokens)
          | true, _ =>
              let (parts, _, rest) ← readParts? steps .closeCurly tokens
              if parts.all (·.isConstant) then return (.changeable, rest) else none

/-- Read values with commas between them, up to a closing bracket. A comma may stand behind
the last one; whether there is a comma at all is returned. -/
def readParts? (steps : Nat) (closing : Token) (tokens : List Token) :
    Option (List Shape × Bool × List Token) :=
  match steps with
  | 0 => none
  | steps + 1 => do
      let (part, rest) ← readValue? (readInside? steps) tokens
      match rest with
      | .comma :: next :: rest =>
          if next = closing then
            return ([part], true, rest)
          else
            let (parts, _, rest) ← readParts? steps closing (next :: rest)
            return (part :: parts, true, rest)
      | next :: rest => if next = closing then return ([part], false, rest) else none
      | [] => none

def readEntries? (steps : Nat) (tokens : List Token) : Option (List Token) :=
  match steps with
  | 0 => none
  | steps + 1 => do
      match ← readValue? (readInside? steps) tokens with
      | (key, .colon :: rest) =>
          let (value, rest) ← readValue? (readInside? steps) rest
          if !key.isConstant || !value.isValue then
            none
          else
            match rest with
            | .closeCurly :: rest | .comma :: .closeCurly :: rest => return rest
            | .comma :: rest => readEntries? steps rest
            | _ => none
      | _ => none

end

/-- Whether values with commas between them are all that some tokens hold. Line ends may
follow. -/
def areValues : (steps : Nat) → (brackets : Nat) → List Token → Bool
  | 0, _, _ => false
  | steps + 1, brackets, tokens =>
      match readValue? (readInside? brackets) tokens with
      | some (shape, rest) =>
          shape.isValue &&
            match rest with
            | .comma :: rest => rest.all (· == .lineEnd) || areValues steps brackets rest
            | rest => rest.all (· == .lineEnd)
      | none => false

def isWritten (text : Text) : Bool :=
  match tokens? text with
  | some tokens => areValues (tokens.length + 1) (2 * tokens.length + 2) tokens
  | none => false

end SpecFinder.Console.Literal
