import SpecFinder.Machine
import SpecFinder.Toml.Value

/-!
# Settings

What can be set in the settings file: where the specs are, and how results are
shown.  Every entry has a type of its own; what the file does not set keeps its
default.
-/

namespace SpecFinder

/-- The settings of the program, and the file they were read from. -/
structure Settings where
  specsDirectory : Path
  isColored : Bool := true
  maxMatches : Int := 5
  reach : Int := 80
  withArchive : Bool := false
  source : Option Path := none
  deriving DecidableEq, Repr

namespace Settings

inductive Requirement where
  | stringPath
  | boolean
  | integer
  | positive
  deriving DecidableEq, Repr

inductive Entry where
  | specsDirectory
  | isColored
  | maxMatches
  | reach
  | withArchive
  deriving DecidableEq, Repr

namespace Entry

def section_ : Entry → String
  | .specsDirectory => "paths"
  | .isColored => "display"
  | .maxMatches | .reach | .withArchive => "search"

def name : Entry → String
  | .specsDirectory => "specs_dir"
  | .isColored => "colored_output"
  | .maxMatches => "max_matches_per_spec"
  | .reach => "context_length"
  | .withArchive => "include_archived"

def fullName (entry : Entry) : Text := (entry.section_ ++ "." ++ entry.name).toList

end Entry

inductive Error where
  | malformed (path : Path)
  | invalid (entry : Entry) (requirement : Requirement)
  | notSection
  | badPath (fault : PathFault)
  | notText
  | isDirectory
  | integerTooLong
  | tooDeep
  deriving DecidableEq, Repr

def Requirement.reason : Requirement → String
  | .stringPath => "must be a string path"
  | .boolean => "must be a boolean"
  | .integer => "must be an integer"
  | .positive => "must be at least 1"

/-- The report of an error that concerns the settings file as such. -/
def Error.message? : Error → Option Text
  | .malformed path => some ("Invalid config at ".toList ++ path.text)
  | .invalid entry requirement =>
      some ("Invalid config value for '".toList ++ entry.fullName ++ "': ".toList
        ++ requirement.reason.toList)
  | _ => none

/-- The settings that hold without a file. -/
def standard (workspace : Workspace) : Settings where
  specsDirectory := workspace.current.entry "specs".toList

/-- The value of an entry in a document, none when it is not set. A section that is
a list or a text sets an entry only by holding its name, and then wrongly; any
other section that is no table is wrong by itself. -/
def entryValue (document : Toml.Table) (entry : Entry) : Except Error (Option Toml.Value) :=
  let name := entry.name.toList
  match Toml.Table.get? document entry.section_.toList with
  | none => .ok none
  | some (.table table) => .ok (Toml.Table.get? table name)
  | some (.array items) =>
      let isName : Toml.Value → Bool
        | .string text => text == name
        | _ => false
      if items.any isName then .error .notSection else .ok none
  | some (.string text) => if Text.occursIn name text then .error .notSection else .ok none
  | some _ => .error .notSection

def boolOf (document : Toml.Table) (entry : Entry) (default : Bool) : Except Error Bool := do
  match ← entryValue document entry with
  | none => return default
  | some (.bool value) => return value
  | some _ => .error (.invalid entry .boolean)

def intOf (document : Toml.Table) (entry : Entry) (default : Int) : Except Error Int := do
  match ← entryValue document entry with
  | none => return default
  | some (.int value) => return value
  | some _ => .error (.invalid entry .integer)

/-- The directory of an entry. A relative one lies beside the settings file. -/
def directoryOf (workspace : Workspace) (document : Toml.Table) (file : Path) (entry : Entry)
    (default : Path) : Except Error Path := do
  match ← entryValue document entry with
  | none => return default
  | some (.string text) =>
      match (Path.ofText text).expandHome workspace.homes with
      | some path => return file.parent.append path
      | none => .error (.badPath .unknownHome)
  | some _ => .error (.invalid entry .stringPath)

/-- The settings of a document that was read from a file. The first entry that is
wrong decides. -/
def ofDocument (workspace : Workspace) (document : Toml.Table) (file : Path) :
    Except Error Settings := do
  let default := standard workspace
  let specsDirectory ← directoryOf workspace document file .specsDirectory default.specsDirectory
  let isColored ← boolOf document .isColored default.isColored
  let maxMatches ← intOf document .maxMatches default.maxMatches
  let reach ← intOf document .reach default.reach
  let withArchive ← boolOf document .withArchive default.withArchive
  return { specsDirectory, isColored, maxMatches, reach, withArchive, source := some file }

end Settings

end SpecFinder
