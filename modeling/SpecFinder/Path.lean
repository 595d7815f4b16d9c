import SpecFinder.Text.Basic

/-!
# Paths

A path is a list of names, from the top of the file system or from the current
directory.  Empty names and single dots are dropped when it is read; two dots are
kept until the path is resolved.
-/

namespace SpecFinder

/-- Where a path starts. Two slashes at the front are told apart from one, and
from more than two. -/
inductive Anchor where
  | relative
  | root
  | doubleRoot
  deriving DecidableEq, Repr

structure Path where
  anchor : Anchor
  parts : List Text
  deriving DecidableEq, Repr

namespace Path

def ofText (text : Text) : Path :=
  let anchor : Anchor := match text with
    | '/' :: '/' :: '/' :: _ => .root
    | '/' :: '/' :: _ => .doubleRoot
    | '/' :: _ => .root
    | _ => .relative
  ⟨anchor, (Text.splitWhere (· == '/') text).filter fun part => !part.isEmpty && part != ['.']⟩

def isPossible (text : Text) : Bool := !text.contains '\x00'

/-- The written form of a path. The empty path is a dot. -/
def text (path : Path) : Text :=
  let front := match path.anchor with
    | .relative => []
    | .root => ['/']
    | .doubleRoot => ['/', '/']
  let whole := front ++ Text.join ['/'] path.parts
  if whole.isEmpty then ['.'] else whole

def isAbsolute (path : Path) : Bool := path.anchor != .relative

/-- A path below another one; an absolute path stands for itself. -/
def append (base path : Path) : Path :=
  if path.isAbsolute then path else ⟨base.anchor, base.parts ++ path.parts⟩

/-- The entry of some name in the directory that a path leads to. -/
def entry (base : Path) (name : Text) : Path := ⟨base.anchor, base.parts ++ [name]⟩

def parent (path : Path) : Path := ⟨path.anchor, path.parts.dropLast⟩

/-- The names of a path with two dots taken to go back one name. -/
def normalize (parts : List Text) : List Text :=
  (parts.foldl (fun done part => if part = ['.', '.'] then done.tail else part :: done) []).reverse

/-- The absolute path without dots that a path stands for, seen from a current
directory. -/
def resolve (current path : Path) : Path :=
  ⟨.root, normalize (append current path).parts⟩

/-- The home directories: one's own, and those of others by their names. -/
structure Homes where
  own : Path
  others : List (Text × Path)
  deriving DecidableEq, Repr

/-- Replace a leading tilde by a home directory, none when it is not known. -/
def expandHome (homes : Homes) (path : Path) : Option Path :=
  match path.anchor, path.parts with
  | .relative, ('~' :: name) :: rest =>
      let home := if name.isEmpty then some homes.own else homes.others.lookup name
      home.map fun home => ⟨home.anchor, home.parts ++ rest⟩
  | _, _ => some path

end Path

end SpecFinder
