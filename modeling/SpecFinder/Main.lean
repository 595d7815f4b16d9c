import SpecFinder.CommandLine

/-!
# The program

Runs one command line.  The standard input names the files and directories that the
command may see, one to a line, a directory with a slash at its end.  What the
command leaves behind is written back to the files.
-/

namespace SpecFinder

/-- The lines of a stream, without their ends. -/
partial def readLines (input : IO.FS.Stream) (done : List Text) : IO (List Text) := do
  let line ← input.getLine
  if line.isEmpty then
    return done.reverse
  else
    readLines input ((line.toList.filter (· != '\n')) :: done)

/-- Put what one line names into a tree. A file that cannot be read ends the program. -/
def addNamed (current : Path) (tree : FileTree) (line : Text) : IO FileTree := do
  let path := Path.resolve current (Path.ofText line)
  if line.getLast? == some '/' then
    return tree.makeDirectory path.parts
  else
    let content ← IO.FS.readBinFile (String.ofList path.text)
    return (FileTree.write content.toList tree path.parts).1

def writeChanged (before after : FileTree) : IO Unit := do
  let known := before.files []
  for (names, content) in after.files [] do
    unless known.contains (names, content) do
      let path : Path := ⟨.root, names⟩
      IO.FS.createDirAll (String.ofList path.parent.text)
      IO.FS.writeBinFile (String.ofList path.text) ⟨content.toArray⟩

/-- The directory that a variable of the environment names, else the top one. -/
def environmentPath (name : String) : IO Path := do
  return Path.ofText ((← IO.getEnv name).getD "/").toList

end SpecFinder

open SpecFinder in
/-- Run a command line on the files that the standard input names. -/
def main (arguments : List String) : IO UInt32 := do
  let current ← environmentPath "PWD"
  let own ← environmentPath "HOME"
  let lines ← readLines (← IO.getStdin) []
  let root := FileTree.empty.makeDirectory current.parts
  let tree ← lines.foldlM (addNamed current) root
  let workspace : Workspace := { current, homes := ⟨own, []⟩, tree }
  let (changed, outcome) := CommandLine.run workspace (arguments.map (·.toList))
  writeChanged tree changed.tree
  IO.print (String.ofList outcome.transcript.output)
  IO.eprint (String.ofList outcome.transcript.errors)
  match outcome.ending with
  | .exit _ => pure ()
  | .misuse =>
      IO.eprintln "Try 'spec-search help' for help."
  | .breakdown _ => IO.eprintln "The command broke off."
  return UInt32.ofNat outcome.ending.code
