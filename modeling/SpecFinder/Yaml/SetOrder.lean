import SpecFinder.Yaml.Value

/-!
# The order of sets

A set of numbers is written in the order of a table with a power of two places.  A
number goes to the place that the last bits of its mark tell, or to one of the places
behind it, or on to another place when all of these are taken.
-/

namespace SpecFinder.Yaml.SetOrder

/-- The prime that marks are remainders of. -/
def modulus : Nat := Nat.pow 2 61 - 1

/-- A mark with a sign. Minus one is no mark. -/
def signed (isNegative : Bool) (size : Nat) : Int :=
  if !isNegative then size else if size = 1 then -2 else -size

/-- The mark of a value, none when nothing is known of it. Equal numbers have the same
mark: a half is marked by what doubled has the remainder one. -/
def mark? : Value → Option Int
  | .bool value => some (if value then 1 else 0)
  | .int value => some (signed (value < 0) (value.natAbs % modulus))
  | .float value =>
      match Binary64.ofFloat? value with
      | some parts =>
          let size := parts.mantissa * Nat.pow 2 (parts.exponent.emod 61).toNat % modulus
          some (signed parts.isNegative size)
      | none => some (if value < 0 then -314159 else 314159)
  | .string text => if text.isEmpty then some 0 else none
  | .bytes content => if content.isEmpty then some 0 else none
  | .null | .notNumber _ | .date _ | .moment _ | .collection _ => none

/-- How many places behind the first one are tried as well. -/
def reach : Nat := 9

/-- The first free place among some consecutive ones. -/
def freePlace? (table : Array (Option Value)) (place : Nat) : (more : Nat) → Option Nat
  | 0 => if (table[place]?.join).isNone then some place else none
  | more + 1 =>
      if (table[place]?.join).isNone then some place else freePlace? table (place + 1) more

/-- The place where a value goes, when the search is at `place` and the bits of its mark
that are not used yet are `left`. -/
def placeFrom (table : Array (Option Value)) : (steps : Nat) → (place left : Nat) → Nat
  | 0, place, _ => place
  | steps + 1, place, left =>
      let more := if place + reach < table.size then reach else 0
      match freePlace? table place more with
      | some free => free
      | none =>
          let left := left / 32
          placeFrom table steps ((place * 5 + 1 + left) % table.size) left

def put (table : Array (Option Value)) (value : Value) (mark : Int) : Array (Option Value) :=
  let bits := (mark.emod (Int.pow 2 64)).toNat
  table.setIfInBounds (placeFrom table (table.size + 13) (bits % table.size) bits) (some value)

/-- The number of places for some values: eight, or the least power of two above twice
their number. -/
def placesFor (count : Nat) : Nat :=
  if count < 5 then 8 else Nat.pow 2 (2 * count).log2.succ

/-- The members of a set as they are written. They stay as they are when the mark of one
of them is not known. -/
def arrange (members : List Value) : List Value :=
  match members.mapM mark? with
  | none => members
  | some marks =>
      let empty : Array (Option Value) := Array.replicate (placesFor members.length) none
      let table := (members.zip marks).foldl (fun table (value, mark) => put table value mark)
        empty
      table.toList.filterMap id

end SpecFinder.Yaml.SetOrder
