import SpecFinder.Number.Decimal
import SpecFinder.Text.Utf8
import SpecFinder.Yaml.Timestamp

/-!
# YAML values

What the nodes of a YAML text stand for.  A collection is known by a number, for a
collection may hold itself.
-/

namespace SpecFinder.Yaml

/-- A value. Something that is no number comes from the node that makes it, or from the
word for it, which always stands for the same one. -/
inductive Value where
  | null
  | bool (value : Bool)
  | int (value : Int)
  | float (value : Float)
  | notNumber (source : Option Nat)
  | string (text : Text)
  | bytes (content : Bytes)
  | date (day : Date)
  | moment (time : Moment)
  | collection (number : Nat)
  deriving Repr

/-- What a collection holds. The entries of a mapping have different keys, and so have
the members of a set. -/
inductive Collection where
  | list (items : List Value)
  | pair (first second : Value)
  | mapping (entries : List (Value × Value))
  | set (members : List Value)
  deriving Repr

namespace Value

/-- The quotient that a finite number or a truth value is. -/
def ratio? : Value → Option (Int × Nat)
  | .bool value => some (if value then 1 else 0, 1)
  | .int value => some (value, 1)
  | .float value =>
      (Binary64.ofFloat? value).map fun parts =>
        let (numerator, denominator) := parts.ratio
        (if parts.isNegative then -numerator else numerator, denominator)
  | _ => none

/-- Whether two values are the same key. Truth values are numbers here. -/
def sameKey (left right : Value) : Bool :=
  match left, right with
  | .null, .null => true
  | .string left, .string right => left == right
  | .bytes left, .bytes right => left == right
  | .date left, .date right => left == right
  | .moment left, .moment right => left.isSame right
  | .float left, .float right => left == right
  | .notNumber left, .notNumber right => left == right
  | left, right =>
      match left.ratio?, right.ratio? with
      | some (numerator, denominator), some (numerator', denominator') =>
          numerator * denominator' == numerator' * denominator
      | _, _ => false

/-- Set the value of a key. A key that is there keeps its place. -/
def insert (key value : Value) : List (Value × Value) → List (Value × Value)
  | [] => [(key, value)]
  | (known, old) :: entries =>
      if sameKey known key then (known, value) :: entries
      else (known, old) :: insert key value entries

def get? (key : String) (entries : List (Value × Value)) : Option Value :=
  (entries.find? fun entry => sameKey entry.1 (.string key.toList)).map (·.2)

def isKey : Value → Bool
  | .collection _ => false
  | _ => true

end Value

end SpecFinder.Yaml
