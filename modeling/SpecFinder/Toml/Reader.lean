import SpecFinder.Toml.Number

/-!
# Reading TOML documents

A document is a list of lines: table headers, entries, comments, and blank ones.
A table is declared once, and what is written in one piece, an array or an inline
table, is not added to later.
-/

namespace SpecFinder.Toml

/-- The names that lead to an entry from the top of a document. -/
abbrev Key := List Text

def isBare (char : Char) : Bool :=
  char.isAlphanum || char == '-' || char == '_'

def dropSpaces (text : Text) : Text := text.dropWhile isSpace

def dropComment (text : Text) : Except Fault Text :=
  match text with
  | '#' :: rest =>
      if (rest.takeWhile (· != '\n')).any isControl then .error .malformed
      else .ok (rest.dropWhile (· != '\n'))
  | _ => .ok text

def dropBlank : (steps : Nat) → Text → Except Fault Text
  | 0, text => .ok text
  | steps + 1, text => do
      let trimmed := text.dropWhile isSpaceOrBreak
      let behind ← dropComment trimmed
      if behind.length = text.length then return behind else dropBlank steps behind

/-- Read a name: bare, or a string of one line. -/
def readName (text : Text) : Except Fault (Text × Text) :=
  match text with
  | '"' :: rest => readBasic text.length rest
  | '\'' :: rest => readLiteral rest
  | _ =>
      let name := text.takeWhile isBare
      if name.isEmpty then .error .malformed else .ok (name, text.drop name.length)

/-- Read names with dots between them, and the spaces behind them. -/
def readKey : (steps : Nat) → Text → Except Fault (Key × Text)
  | 0, _ => .error .malformed
  | steps + 1, text => do
      let (name, rest) ← readName text
      match dropSpaces rest with
      | '.' :: rest => do
          let (names, rest) ← readKey steps (dropSpaces rest)
          return (name :: names, rest)
      | rest => return ([name], rest)

/-- Change the table that a key leads to, making tables on the way. With
`entersArrays` the last item of an array of tables is entered. -/
def changeAt (entersArrays : Bool) (change : Table → Option Table) : Key → Table → Option Table
  | [], table => change table
  | name :: key, table => do
      let enter (inner : Table) : Option Value :=
        (changeAt entersArrays change key inner).map .table
      match table.get? name with
      | none => return table.set name (← enter [])
      | some (.table inner) => return table.set name (← enter inner)
      | some (.array items) =>
          match entersArrays, items.reverse with
          | true, .table inner :: before =>
              return table.set name (.array (before.reverse ++ [← enter inner]))
          | _, _ => none
      | some _ => none

def setNew (name : Text) (value : Value) (table : Table) : Option Table :=
  if (table.get? name).isSome then none else some (table.set name value)

def addItem (name : Text) (table : Table) : Option Table :=
  match table.get? name with
  | none => some (table.set name (.array [.table []]))
  | some (.array items) => some (table.set name (.array (items ++ [.table []])))
  | some _ => none

/-- Whether a value is written in one piece. -/
def Value.isClosed : Value → Bool
  | .array _ | .table _ => true
  | _ => false

/-- Set an entry of an inline table, into whose tables and arrays no entries may be
set later. -/
def setInline (closed : List Key) (key : Key) (value : Value) (table : Table) :
    Except Fault Table :=
  if closed.any (·.isPrefixOf key) then
    .error .malformed
  else
    match key.getLast? with
    | none => .error .malformed
    | some name =>
        match changeAt false (setNew name value) key.dropLast table with
        | some table => .ok table
        | none => .error .malformed

/-- The room for calls that is left to the values of an array or an inline table, which take some
levels of calls. -/
def takeLevels (room levels : Nat) : Except Fault Nat :=
  if room < levels then .error .tooDeep else .ok (room - levels)

mutual

/-- Read a value with some room for the values in it. An array takes two levels and an inline
table, whose values have keys, three.  No character takes more than two steps: an
opening bracket takes one as a value and one as the start of items or entries. -/
def readValue (steps : Nat) (room : Nat) (text : Text) : Except Fault (Value × Text) :=
  match steps with
  | 0 => .error .malformed
  | steps + 1 =>
      match readString? text with
      | some read => read.map fun (text, rest) => (.string text, rest)
      | none =>
          match text with
          | 't' :: 'r' :: 'u' :: 'e' :: rest => .ok (.bool true, rest)
          | 'f' :: 'a' :: 'l' :: 's' :: 'e' :: rest => .ok (.bool false, rest)
          | '[' :: rest => do
              let (items, rest) ← readItems steps (← takeLevels room 2) true rest
              return (.array items, rest)
          | '\x7b' :: rest => do
              let (table, rest) ←
                readEntries steps (← takeLevels room 3) true [] [] (dropSpaces rest)
              return (.table table, rest)
          | _ => (readNumber? text).getD (.error .malformed)

/-- Read the items of an array. A comma may stand behind the last one. -/
def readItems (steps : Nat) (room : Nat) (isFirst : Bool) (text : Text) :
    Except Fault (List Value × Text) :=
  match steps with
  | 0 => .error .malformed
  | steps + 1 => do
      let rest ← dropBlank text.length.succ text
      match rest, isFirst with
      | ']' :: rest, _ => return ([], rest)
      | rest, true => do
          let (item, rest) ← readValue steps room rest
          let (items, rest) ← readItems steps room false rest
          return (item :: items, rest)
      | ',' :: rest, false => readItems steps room true rest
      | _, false => .error .malformed

/-- Read the entries of an inline table. None may be missing between or behind commas. -/
def readEntries (steps : Nat) (room : Nat) (isFirst : Bool) (closed : List Key) (table : Table)
    (text : Text) : Except Fault (Table × Text) :=
  match steps with
  | 0 => .error .malformed
  | steps + 1 =>
      match isFirst, text with
      | true, '\x7d' :: rest => .ok (table, rest)
      | _, text => do
          let (key, rest) ← readKey text.length.succ text
          match rest with
          | '=' :: rest => do
              let (value, rest) ← readValue steps room (dropSpaces rest)
              let table ← setInline closed key value table
              match dropSpaces rest with
              | '\x7d' :: rest => return (table, rest)
              | ',' :: rest =>
                  let closed := if value.isClosed then key :: closed else closed
                  readEntries steps room false closed table (dropSpaces rest)
              | _ => .error .malformed
          | _ => .error .malformed

end

/-- A document that has been read up to some line: its entries, the table that the
last header opened, the keys of tables that may not be declared again, those of
values that are closed, and those that the entries since the last header have
made. -/
structure Document where
  table : Table := []
  header : Key := []
  declared : List Key := []
  closed : List Key := []
  pending : List Key := []

namespace Document

def isClosed (document : Document) (key : Key) : Bool :=
  document.closed.any (·.isPrefixOf key)

/-- A document at its next header: what its entries made may not be declared. -/
def settle (document : Document) : Document :=
  { document with declared := document.pending ++ document.declared, pending := [] }

def openTable (document : Document) (key : Key) : Except Fault Document :=
  if document.declared.contains key || document.isClosed key then
    .error .malformed
  else
    match changeAt true some key document.table with
    | some table => .ok { document with table, header := key, declared := key :: document.declared }
    | none => .error .malformed

/-- Open a new table at the end of the array of a key. What was declared within the
array before may be declared again. -/
def openItem (document : Document) (key : Key) : Except Fault Document :=
  if document.isClosed key then
    .error .malformed
  else
    let added := key.getLast?.bind fun name =>
      changeAt true (addItem name) key.dropLast document.table
    match added with
    | some table => .ok { document with
        table, header := key
        declared := key :: document.declared.filter (!key.isPrefixOf ·)
        closed := document.closed.filter (!key.isPrefixOf ·) }
    | none => .error .malformed

/-- The keys of the tables that lead to an entry of the open table. -/
def tablesOn (document : Document) (key : Key) : List Key :=
  (List.range (key.length - 1)).map fun count => document.header ++ key.take (count + 1)

def set (document : Document) (key : Key) (value : Value) : Except Fault Document :=
  let tables := document.tablesOn key
  let parent := document.header ++ key.dropLast
  if tables.any document.declared.contains || document.isClosed parent then
    .error .malformed
  else
    match key.getLast?.bind fun name =>
        changeAt true (setNew name value) parent document.table with
    | some table => .ok { document with
        table
        pending := tables ++ document.pending
        closed := if value.isClosed then (document.header ++ key) :: document.closed
          else document.closed }
    | none => .error .malformed

def readHeader (document : Document) (text : Text) : Except Fault (Document × Text) := do
  let document := document.settle
  match text with
  | '[' :: rest => do
      let rest := dropSpaces rest
      let (key, rest) ← readKey rest.length.succ rest
      match rest with
      | ']' :: ']' :: rest => return (← document.openItem key, rest)
      | _ => .error .malformed
  | _ => do
      let rest := dropSpaces text
      let (key, rest) ← readKey rest.length.succ rest
      match rest with
      | ']' :: rest => return (← document.openTable key, rest)
      | _ => .error .malformed

def readEntry (room : Nat) (document : Document) (text : Text) :
    Except Fault (Document × Text) := do
  let (key, rest) ← readKey text.length.succ text
  match rest with
  | '=' :: rest => do
      let (value, rest) ← readValue (2 * text.length + 1) room (dropSpaces rest)
      return (← document.set key value, rest)
  | _ => .error .malformed

/-- Read what a line says before its comment. -/
def readStatement (room : Nat) (document : Document) (text : Text) :
    Except Fault (Document × Text) :=
  match text with
  | [] => .ok (document, [])
  | '[' :: rest => document.readHeader rest
  | char :: _ =>
      if char == '\n' || char == '#' then .ok (document, text)
      else document.readEntry room text

def readLines (room : Nat) : (steps : Nat) → Document → Text → Except Fault Document
  | 0, document, _ => .ok document
  | steps + 1, document, text => do
      let (document, rest) ← document.readStatement room (dropSpaces text)
      match ← dropComment (dropSpaces rest) with
      | [] => return document
      | '\n' :: rest => readLines room steps document rest
      | _ => .error .malformed

end Document

/-- Write the two characters of a line break as one. -/
def unifyBreaks : Text → Text
  | [] => []
  | '\r' :: '\n' :: rest => '\n' :: unifyBreaks rest
  | char :: rest => char :: unifyBreaks rest

/-- The entries of a document, whose values may stand in one another as far as there is room. -/
def read (room : Nat) (text : Text) : Except Fault Table := do
  let unified := unifyBreaks text
  return (← Document.readLines room unified.length.succ {} unified).table

end SpecFinder.Toml
