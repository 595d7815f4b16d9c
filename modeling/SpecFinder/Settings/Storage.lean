import SpecFinder.Settings.Basic
import SpecFinder.Text.Quoted
import SpecFinder.Toml.Reader
import SpecFinder.Toml.Writer

/-!
# Stored settings

Settings are read from a file and written to one.  A file that is not there
leaves the defaults; a directory of specs that is not there is only warned about.
-/

namespace SpecFinder.Settings

/-- A remark about settings that can be used all the same. -/
inductive Warning where
  | noFile (path : Path)
  | noSpecsDirectory (path : Path)
  deriving DecidableEq, Repr

def Warning.message : Warning → Text
  | .noFile path =>
      "No config file found at ".toList ++ path.text ++
        ". Using defaults. Create config with: spec-search init-config".toList
  | .noSpecsDirectory path => "Specs directory not found: ".toList ++ path.text

/-- The file that settings are kept in unless another one is named. -/
def standardFile (workspace : Workspace) : Path :=
  [".config", "spec-search", "config.toml"].foldl (fun path name => path.entry name.toList)
    workspace.homes.own

def locate (workspace : Workspace) (path : Path) : Except Error Path :=
  (workspace.locate path).mapError .badPath

/-- Check settings: the directory of specs is made absolute, and how much is shown
has to be positive. -/
def validate (workspace : Workspace) (settings : Settings) :
    Except Error (Settings × List Warning) := do
  let directory ← locate workspace settings.specsDirectory
  let isThere ← (workspace.tree.holds directory).mapError .badPath
  if settings.maxMatches < 1 then
    .error (.invalid .maxMatches .positive)
  else if settings.reach < 1 then
    .error (.invalid .reach .positive)
  else
    let warnings := if isThere then [] else [.noSpecsDirectory directory]
    return ({ settings with specsDirectory := directory }, warnings)

def readDocument (room : Nat) (bytes : Bytes) (file : Path) : Except Error Toml.Table :=
  match Utf8.decode bytes with
  | .error _ => .error .notText
  | .ok text =>
      match Toml.read room text with
      | .ok document => .ok document
      | .error .malformed => .error (.malformed file)
      | .error .integerTooLong => .error .integerTooLong
      | .error .tooDeep => .error .tooDeep

/-- Load settings from a file, or the defaults when there is none. -/
def load (workspace : Workspace) (path : Option Path) :
    Except Error (Settings × List Warning) := do
  let file ← locate workspace (path.getD (standardFile workspace))
  match ← (workspace.tree.find file).mapError .badPath with
  | none => do
      let (settings, warnings) ← validate workspace (standard workspace)
      return (settings, .noFile file :: warnings)
  | some (.directory _) => .error .isDirectory
  | some (.file bytes) => do
      let document ← readDocument workspace.room.settings bytes file
      validate workspace (← ofDocument workspace document file)

def sections (settings : Settings) : List Toml.Section :=
  let part (name : String) (entries : List (Entry × Toml.Scalar)) : Toml.Section :=
    ⟨name.toList, entries.map fun (entry, value) => (entry.name.toList, value)⟩
  [part "paths" [(.specsDirectory, .string settings.specsDirectory.text)],
    part "display" [(.isColored, .bool settings.isColored)],
    part "search" [(.maxMatches, .int settings.maxMatches), (.reach, .int settings.reach),
      (.withArchive, .bool settings.withArchive)]]

def document (settings : Settings) : Text := Toml.write settings.sections

/-- The report of a file that cannot be written: the number of the fault, its words,
and the path at fault, which is the directory of the file where that is no
directory. -/
def writeReport (path : Path) (fault : FileTree.WriteFault) : Text :=
  let told (number : Nat) (words : String) (path : Path) : Text :=
    "[Errno ".toList ++ Text.ofNat number ++ "] ".toList ++ words.toList ++ ": ".toList
      ++ Text.quoted path.text
  match fault with
  | .isDirectory => told 21 "Is a directory" path
  | .parentIsFile => told 17 "File exists" path.parent
  | .aboveParentIsFile => told 20 "Not a directory" path.parent
  | .longName names => told 36 "File name too long" ⟨path.anchor, names⟩

def write (workspace : Workspace) (settings : Settings) (file : Path) :
    Workspace × Option FileTree.WriteFault :=
  let (tree, fault) := FileTree.write (Utf8.encode settings.document) workspace.tree file.parts
  ({ workspace with tree }, fault)

inductive SaveError where
  | badPath (fault : PathFault)
  | notWritable (path : Path) (fault : FileTree.WriteFault)
  deriving DecidableEq, Repr

def saveText (workspace : Workspace) (text : Text) (path : Path) : Except SaveError Workspace :=
  match workspace.locate path with
  | .error fault => .error (.badPath fault)
  | .ok file =>
      match workspace.tree.find file,
        FileTree.write (Utf8.encode text) workspace.tree file.parts with
      | .error fault, _ => .error (.badPath fault)
      | .ok _, (_, some fault) => .error (.notWritable file fault)
      | .ok _, (tree, none) => .ok { workspace with tree }

/-- The file that settings are saved in: the one named, else the one they were read from, else
the standard one. -/
def chosenFile (workspace : Workspace) (settings : Settings) (path : Option Path) : Path :=
  (path.or settings.source).getD (standardFile workspace)

/-- Save settings all of whose integers can be written. -/
def save (workspace : Workspace) (settings : Settings) (path : Option Path) :
    Except SaveError Workspace :=
  saveText workspace settings.document (chosenFile workspace settings path)

/-- Why settings of any kind were not saved.  Where an integer is too long to be written, the
entries before it are. -/
inductive StoreError where
  | notSaved (error : SaveError)
  | integerTooLong (left : Workspace)

/-- Save settings entry by entry. -/
def store (workspace : Workspace) (settings : Settings) (path : Option Path) :
    Except StoreError Workspace :=
  match saveText workspace (Toml.write (Toml.cut settings.sections))
    (chosenFile workspace settings path) with
  | .error error => .error (.notSaved error)
  | .ok written =>
      if settings.sections.all Toml.Section.isShort then .ok written
      else .error (.integerTooLong written)

end SpecFinder.Settings
