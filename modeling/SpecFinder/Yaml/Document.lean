import SpecFinder.Text.Quoted
import SpecFinder.Yaml.SetOrder

/-!
# YAML documents

A value together with the collections within it, and values written as texts.  Where a
collection holds itself, only a mark is written.
-/

namespace SpecFinder.Yaml

/-- A value and all collections that are part of it, by their numbers. -/
structure Document where
  root : Value
  collections : Array Collection
  deriving Repr

namespace Collection

/-- A collection within itself. -/
def ellipsis : Collection → Text
  | .list _ => "[...]".toList
  | .pair _ _ => "(...)".toList
  | .mapping _ => "\x7b...\x7d".toList
  | .set _ => "set(...)".toList

def isEmpty : Collection → Bool
  | .list items => items.isEmpty
  | .pair _ _ => false
  | .mapping entries => entries.isEmpty
  | .set members => members.isEmpty

/-- A collection as it is written, given how its parts are. -/
def literal (write : Value → Option Text) : Collection → Option Text
  | .list items => do
      return '[' :: Text.join ", ".toList (← items.mapM write) ++ [']']
  | .pair first second => do
      return '(' :: (← write first) ++ ", ".toList ++ (← write second) ++ [')']
  | .mapping entries => do
      let texts ← entries.mapM fun (key, value) => do
        return (← write key) ++ ": ".toList ++ (← write value)
      return '\x7b' :: Text.join ", ".toList texts ++ ['\x7d']
  | .set [] => some "set()".toList
  | .set members => do
      let texts ← (SetOrder.arrange members).mapM write
      return '\x7b' :: Text.join ", ".toList texts ++ ['\x7d']

end Collection

namespace Document

def collection (document : Document) (number : Nat) : Collection :=
  document.collections.getD number (.list [])

/-- An integer in decimal, if it has not too many digits. -/
def integerText? (value : Int) : Option Text :=
  if Nat.pow 10 integerDigitLimit ≤ value.natAbs then none else some (Text.ofInt value)

/-- A value as it is written inside a collection, with some collections around it. Each
of them is another one, so there cannot be more of them than there are at all. None
when it holds an integer that is too long. -/
def literal? (document : Document) :
    (depth : Nat) → (around : List Nat) → Value → Option Text
  | _, _, .null => some "None".toList
  | _, _, .bool value => some (if value then "True" else "False").toList
  | _, _, .int value => integerText? value
  | _, _, .float value => some (shortestText value)
  | _, _, .notNumber _ => some "nan".toList
  | _, _, .string text => some (Text.quoted text)
  | _, _, .bytes content => some (Text.quotedBytes content)
  | _, _, .date day => some day.literal
  | _, _, .moment time => some time.literal
  | depth, around, .collection number =>
      let collection := document.collection number
      if around.contains number then
        some collection.ellipsis
      else
        match depth with
        | 0 => none
        | depth + 1 => collection.literal (document.literal? depth (number :: around))

/-- A value as a text of its own: a text is written as it is. -/
def text? (document : Document) : Value → Option Text
  | .string text => some text
  | .date day => some day.text
  | .moment time => some (time.text ' ')
  | value => document.literal? (document.collections.size + 1) [] value

/-- Whether a value counts as absent where another one may take its place: nothing,
false, zero, and everything empty. -/
def isFalsy (document : Document) : Value → Bool
  | .null => true
  | .bool value => !value
  | .int value => value == 0
  | .float value => value == 0
  | .string text => text.isEmpty
  | .bytes content => content.isEmpty
  | .collection number => (document.collection number).isEmpty
  | .date _ | .moment _ | .notNumber _ => false

end Document

end SpecFinder.Yaml
