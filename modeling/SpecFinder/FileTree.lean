import SpecFinder.Path
import SpecFinder.Text.Utf8

/-!
# File trees

The files and directories below one place, as a value.  A tree without links is
all that the program reads and writes.
-/

namespace SpecFinder

/-- Why a path leads nowhere: nothing is known of a home directory, or no file can have
such a name. -/
inductive PathFault where
  | unknownHome
  | holdsNul
  | tooLong
  deriving DecidableEq, Repr

/-- A file with its content, or a directory with its entries by name. -/
inductive FileTree where
  | file (content : Bytes)
  | directory (entries : List (Text × FileTree))
  deriving Repr

namespace FileTree

def empty : FileTree := .directory []

def entries : FileTree → List (Text × FileTree)
  | .file _ => []
  | .directory entries => entries

def isDirectory : FileTree → Bool
  | .file _ => false
  | .directory _ => true

def content? : FileTree → Option Bytes
  | .file content => some content
  | .directory _ => none

def nameLimit : Nat := 255

def pathLimit : Nat := 4095

def isLongName (name : Text) : Bool := nameLimit < (Utf8.encode name).length

/-- The tree that names lead to, if there is one. Two dots lead back to the directory
above, which is the first of those `above`. A long name is only noticed in a directory
that is there. -/
def walk (above : List FileTree) (tree : FileTree) :
    List Text → Except PathFault (Option FileTree)
  | [] => .ok (some tree)
  | name :: names =>
      if !tree.isDirectory then
        .ok none
      else if name = ['.', '.'] then
        match above with
        | [] => walk [] tree names
        | parent :: above => walk above parent names
      else if isLongName name then
        .error .tooLong
      else
        match tree.entries.lookup name with
        | some inner => walk (tree :: above) inner names
        | none => .ok none

/-- The tree at an absolute path, if there is one. -/
def find (tree : FileTree) (path : Path) : Except PathFault (Option FileTree) :=
  if pathLimit < (Utf8.encode path.text).length then .error .tooLong
  else walk [] tree path.parts

/-- Whether there is a file or a directory at a path. -/
def holds (tree : FileTree) (path : Path) : Except PathFault Bool :=
  Option.isSome <$> tree.find path

/-- The tree at an absolute path that can be looked up. -/
def at? (tree : FileTree) (path : Path) : Option FileTree :=
  match tree.find path with
  | .ok found => found
  | .error _ => none

/-- Set an entry, at its place or behind all others. -/
def setEntry (name : Text) (tree : FileTree) : List (Text × FileTree) → List (Text × FileTree)
  | [] => [(name, tree)]
  | (known, old) :: rest =>
      if known = name then (known, tree) :: rest else (known, old) :: setEntry name tree rest

/-- Why a file cannot be written. Names that are too long come with those that lead to
them. -/
inductive WriteFault where
  | isDirectory
  | parentIsFile
  | aboveParentIsFile
  | longName (names : List Text)
  deriving DecidableEq, Repr

/-- A fault below a directory of some name. -/
def WriteFault.below (name : Text) : WriteFault → WriteFault
  | .longName names => .longName (name :: names)
  | fault => fault

/-- Put a file at the end of some names, with the directories on the way. These are left
behind even when the file cannot be written. -/
def write (content : Bytes) (tree : FileTree) : List Text → FileTree × Option WriteFault
  | [] =>
      match tree with
      | .directory _ => (tree, some .isDirectory)
      | .file _ => (.file content, none)
  | name :: names =>
      match tree with
      | .file _ => (tree, some (if names.isEmpty then .parentIsFile else .aboveParentIsFile))
      | .directory entries =>
          if isLongName name then
            (tree, some (.longName [name]))
          else
            let (inner, fault) := write content
              ((entries.lookup name).getD (if names.isEmpty then .file [] else empty)) names
            (.directory (setEntry name inner entries), fault.map (·.below name))

/-- Put a directory at the end of some names, with those on the way. Nothing
changes where a file stands in the way. -/
def makeDirectory (tree : FileTree) : List Text → FileTree
  | [] => tree
  | name :: names =>
      match tree with
      | .file _ => tree
      | .directory entries =>
          let inner := makeDirectory ((entries.lookup name).getD empty) names
          .directory (setEntry name inner entries)

mutual

/-- All files of a tree with the names that lead to them from `front` on. -/
def files (front : List Text) : FileTree → List (List Text × Bytes)
  | .file content => [(front, content)]
  | .directory entries => entryFiles front entries

def entryFiles (front : List Text) : List (Text × FileTree) → List (List Text × Bytes)
  | [] => []
  | (name, tree) :: entries => tree.files (front ++ [name]) ++ entryFiles front entries

end

end FileTree

end SpecFinder
