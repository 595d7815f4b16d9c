import SpecFinder.Text.Basic

/-!
# TOML values

The values of a TOML document.  A table lists its entries in the order in which
they are written, each name once.
-/

namespace SpecFinder.Toml

/-- A value. Of floats, dates and times only their kind is kept. -/
inductive Value where
  | string (text : Text)
  | bool (value : Bool)
  | int (value : Int)
  | float
  | time
  | array (items : List Value)
  | table (entries : List (Text × Value))
  deriving Repr

abbrev Table := List (Text × Value)

def Table.get? (table : Table) (name : Text) : Option Value := table.lookup name

/-- Set the value of a name, at its place or behind all others. -/
def Table.set (table : Table) (name : Text) (value : Value) : Table :=
  match table with
  | [] => [(name, value)]
  | (known, old) :: rest =>
      if known = name then (known, value) :: rest else (known, old) :: Table.set rest name value

/-- Why a text is no TOML document, or why one is not read: it holds an integer of too
many digits, or values in values in too many layers. -/
inductive Fault where
  | malformed
  | integerTooLong
  | tooDeep
  deriving DecidableEq, Repr

end SpecFinder.Toml
