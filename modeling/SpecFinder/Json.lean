import SpecFinder.Number.Decimal

/-!
# JSON documents

The documents in which results are handed to other programs, written over several
lines and in ASCII only.
-/

namespace SpecFinder

/-- A JSON document. The entries of a record keep their order. -/
inductive Json where
  | null
  | int (value : Int)
  | float (value : Float)
  | string (text : Text)
  | list (items : List Json)
  | record (entries : List (Text × Json))

namespace Json

def ofText? (text : Option Text) : Json := (text.map string).getD null

def unitEscape (unit : Nat) : Text :=
  let digits := Nat.toDigits 16 unit
  '\\' :: 'u' :: List.replicate (4 - digits.length) '0' ++ digits

/-- A character as it is written between quotes. One beyond sixteen bits takes two
escapes. -/
def written (char : Char) : Text :=
  match char with
  | '"' => ['\\', '"']
  | '\\' => ['\\', '\\']
  | '\n' => ['\\', 'n']
  | '\r' => ['\\', 'r']
  | '\t' => ['\\', 't']
  | '\x08' => ['\\', 'b']
  | '\x0c' => ['\\', 'f']
  | _ =>
      let code := char.toNat
      if 0x20 ≤ code && code < 0x7F then [char]
      else if code < 0x10000 then unitEscape code
      else
        unitEscape (0xD800 + (code - 0x10000) / 0x400) ++
          unitEscape (0xDC00 + (code - 0x10000) % 0x400)

def quoted (text : Text) : Text := '"' :: text.flatMap written ++ ['"']

/-- Parts between brackets, each on a line of its own, two columns within the
margin. -/
def enclosed (margin : Nat) (opening closing : Char) (parts : List Text) : Text :=
  if parts.isEmpty then
    [opening, closing]
  else
    let newLine (margin : Nat) : Text := '\n' :: List.replicate margin ' '
    opening :: newLine (margin + 2) ++ Text.join (',' :: newLine (margin + 2)) parts
      ++ newLine margin ++ [closing]

mutual

/-- The written form of a document whose lines begin at a margin. -/
def write (margin : Nat) : Json → Text
  | .null => "null".toList
  | .int value => Text.ofInt value
  | .float value => shortestText value
  | .string text => quoted text
  | .list items => enclosed margin '[' ']' (writeItems (margin + 2) items)
  | .record entries => enclosed margin '\x7b' '\x7d' (writeEntries (margin + 2) entries)

def writeItems (margin : Nat) : List Json → List Text
  | [] => []
  | item :: items => item.write margin :: writeItems margin items

def writeEntries (margin : Nat) : List (Text × Json) → List Text
  | [] => []
  | (name, value) :: entries =>
      (quoted name ++ ": ".toList ++ value.write margin) :: writeEntries margin entries

end

end Json

end SpecFinder
