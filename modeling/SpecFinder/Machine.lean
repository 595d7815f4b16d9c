import SpecFinder.FileTree

/-!
# Machines

What a program finds on a machine: files, and room for calls that stand in one another.
A machine may also refuse to look something up, to list a directory or to read a file.
Why it does is left open, since permissions are not the only reason.
-/

namespace SpecFinder

/-- How far values that stand in one another can be read before the calls for them run out of
room.  For settings, levels of calls are counted, and for heads the collections around a value.
How much of its stack a program still has depends on where it is called; the numbers here are
what is left of a thousand calls near the top. -/
structure NestingRoom where
  settings : Nat := 985
  head : Nat := 489
  deriving Repr

/-- Why it cannot be told what a path leads to. -/
inductive AccessFault (Refusal : Type) where
  | badPath (fault : PathFault)
  | refused (refusal : Refusal)
  deriving DecidableEq, Repr

/-- The files of a machine, what it refuses to do with them, and the room for calls. -/
structure Machine (Refusal : Type) where
  tree : FileTree
  lookUp? : Path → Option Refusal
  list? : Path → Option Refusal
  read? : Path → Option Refusal
  room : NestingRoom

namespace Machine

variable {Refusal : Type}

def ofTree (tree : FileTree) (room : NestingRoom) : Machine Empty :=
  ⟨tree, fun _ => none, fun _ => none, fun _ => none, room⟩

def find (machine : Machine Refusal) (path : Path) :
    Except (AccessFault Refusal) (Option FileTree) :=
  match machine.lookUp? path with
  | some refusal => .error (.refused refusal)
  | none => (machine.tree.find path).mapError .badPath

def holdsDirectory (machine : Machine Refusal) (path : Path) :
    Except (AccessFault Refusal) Bool :=
  Option.any FileTree.isDirectory <$> machine.find path

def file? (machine : Machine Refusal) (path : Path) :
    Except (AccessFault Refusal) (Option Bytes) :=
  (Option.bind · FileTree.content?) <$> machine.find path

/-- What comes of reading a file of some content. -/
def read (machine : Machine Refusal) (path : Path) (content : Bytes) : Except Refusal Bytes :=
  match machine.read? path with
  | some refusal => .error refusal
  | none => .ok content

end Machine

/-- What a command sees of a machine that refuses nothing: the current directory, the home
directories, the files, and the room for calls. -/
structure Workspace where
  current : Path
  homes : Path.Homes
  tree : FileTree
  room : NestingRoom := {}
  deriving Repr

namespace Workspace

/-- The absolute path that a path stands for, with the home directory put in. -/
def locate (workspace : Workspace) (path : Path) : Except PathFault Path :=
  match path.expandHome workspace.homes with
  | none => .error .unknownHome
  | some expanded =>
      if expanded.parts.all Path.isPossible then .ok (Path.resolve workspace.current expanded)
      else .error .holdsNul

end Workspace

end SpecFinder
