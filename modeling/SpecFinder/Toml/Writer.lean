import SpecFinder.Number.Decimal
import SpecFinder.Toml.String

/-!
# Writing TOML documents

A document of sections, each a header with entries below it and a blank line
between two sections.
-/

namespace SpecFinder.Toml

/-- A value that fits on one line. -/
inductive Scalar where
  | string (text : Text)
  | bool (value : Bool)
  | int (value : Int)
  deriving DecidableEq, Repr

def Scalar.write : Scalar → Text
  | .string text => writeString text
  | .bool value => (if value then "true" else "false").toList
  | .int value => Text.ofInt value

/-- Whether a scalar is no integer with too many digits to be written. -/
def Scalar.isShort : Scalar → Bool
  | .int value => (Text.ofNat value.natAbs).length ≤ integerDigitLimit
  | .string _ | .bool _ => true

/-- A header and the entries below it, all with bare names. -/
structure Section where
  name : Text
  entries : List (Text × Scalar)
  deriving DecidableEq, Repr

def Section.write (part : Section) : Text :=
  '[' :: part.name ++ "]\n".toList ++
    part.entries.flatMap fun (name, value) => name ++ " = ".toList ++ value.write ++ ['\n']

def Section.isShort (part : Section) : Bool := part.entries.all (·.2.isShort)

/-- What comes of sections that are written entry by entry, up to one that cannot be. -/
def cut : List Section → List Section
  | [] => []
  | part :: parts =>
      if part.isShort then part :: cut parts
      else [{ part with entries := part.entries.takeWhile (·.2.isShort) }]

def write (sections : List Section) : Text := Text.join ['\n'] (sections.map Section.write)

end SpecFinder.Toml
