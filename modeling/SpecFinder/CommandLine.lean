import SpecFinder.CommandLine.Request
import SpecFinder.Library
import SpecFinder.Match.FloatScore
import SpecFinder.Query.Help
import SpecFinder.Search.Presentation
import SpecFinder.Settings.Storage

/-!
# The command line

What a command line prints, how it ends, and what it leaves behind in the files.
The settings are loaded before any command; a command that fails to load them does
nothing else.
-/

namespace SpecFinder.CommandLine

open Console

/-- Why a command breaks off without a report of its own. -/
inductive Breakdown where
  | settings (error : Settings.Error)
  | path (fault : PathFault)
  | library (error : Library.LoadError)
  | markup (fault : MarkupFault)
  deriving DecidableEq, Repr

/-- How a command line ends: with a code, by a misuse of the command line, or by
breaking off. -/
inductive Ending where
  | exit (code : Nat)
  | misuse
  | breakdown (cause : Breakdown)
  deriving DecidableEq, Repr

def Ending.code : Ending → Nat
  | .exit code => code
  | .misuse => 2
  | .breakdown _ => 1

/-- What a command has to say, and how it ends. -/
structure Report where
  passages : List Passage := []
  ending : Ending := .exit 0
  deriving DecidableEq, Repr

/-- What a command line printed, and how it ended. -/
structure Outcome where
  transcript : Transcript
  ending : Ending
  deriving DecidableEq, Repr

/-- Print a report. Wrong markup ends it. -/
def Report.print (report : Report) (transcript : Transcript) : Outcome :=
  match transcript.print report.passages with
  | (printed, none) => ⟨printed, report.ending⟩
  | (printed, some fault) => ⟨printed, .breakdown (.markup fault)⟩

/-! ## Explaining commands -/

/-- Explain the program, or the command that the first word names. -/
def explain (words : List Text) : Report :=
  let path := [programName, Command.explain.name]
  match words with
  | [] => { passages := [echo (programExplanation.text path)] }
  | name :: _ =>
      match Command.ofName? name with
      | some known => { passages := [echo (known.explanation.text path)] }
      | none => ⟨[error ("Unknown command: ".toList ++ name)], .exit 1⟩

/-! ## Creating a settings file -/

namespace CreateRequest

/-- The settings that are written to a file: the standard ones but for the
directory of specs that is asked for. -/
def settings (workspace : Workspace) (request : CreateRequest) (target : Path) :
    Except PathFault Settings := do
  let standard := { Settings.standard workspace with source := some target }
  match request.library with
  | none => return standard
  | some library => return { standard with specsDirectory := ← workspace.locate library }

def existing (target : Path) : Report :=
  ⟨[error ("Config file already exists: ".toList ++ target.text),
    hint "Use --force to overwrite".toList], .exit 1⟩

def failed (report : Text) : Report :=
  ⟨[error ("Failed to write config file: ".toList ++ report)], .exit 1⟩

def created (target : Path) : Report where
  passages := [success ("Created config file: ".toList ++ target.text),
    information "Edit this file to customize your settings.".toList]

/-- Create a settings file. One that is there stays as it is unless the request is
forced. -/
def perform (workspace : Workspace) (request : CreateRequest) : Workspace × Report :=
  let outcome : Except PathFault (Workspace × Report) := do
    let target ← workspace.locate (request.output.getD (Settings.standardFile workspace))
    if (← workspace.tree.holds target) && !request.isForced then
      return (workspace, existing target)
    else
      let settings ← request.settings workspace target
      match Settings.write workspace settings target with
      | (changed, some fault) => return (changed, failed (Settings.writeReport target fault))
      | (changed, none) => return (changed, created target)
  match outcome with
  | .ok (changed, report) => (changed, report)
  | .error fault => (workspace, { ending := .breakdown (.path fault) })

end CreateRequest

/-! ## Searching -/

namespace SearchRequest

def unloaded (fault : Library.LoadError) : Report :=
  match fault.message?, fault with
  | some message, .noDirectory _ =>
      ⟨[error message, hint "Use --specs-dir or set paths.specs_dir in the config".toList],
        .exit 3⟩
  | some message, _ => ⟨[error message], .exit 2⟩
  | none, _ => ⟨[], .breakdown (.library fault)⟩

def specCount (count : Nat) : Text :=
  Text.ofNat count ++ (if count = 1 then " spec" else " specs").toList

/-- What is printed of a response. -/
def answer (request : SearchRequest) (isQuiet : Bool) (response : Response Float) :
    List Passage :=
  let shown := match request.limit with
    | some limit => response.results.take limit.toNat
    | none => response.results
  let told (message : Text) : List Passage := if isQuiet then [] else [information message]
  if shown.isEmpty then
    match request.format with
    | .json => [echo "[]".toList]
    | .text | .paths =>
        told ("No specs found matching: ".toList ++ escape response.query)
  else
    match request.format with
    | .paths => shown.map fun result => echo result.spec.path
    | .json => [echo ((Json.list (shown.map Result.toRecord)).write 0)]
    | .text =>
        told ("Found ".toList ++ specCount response.results.length ++ " matching: ".toList
          ++ escape response.query ++ " (searched ".toList ++ Text.ofNat response.searched
          ++ " in 0ms)".toList) ++
        [.lines .output (shown.flatMap Result.lines)]

/-- Search the library that the settings name. -/
def perform (workspace : Workspace) (general : General) (settings : Settings)
    (request : SearchRequest) : Report :=
  let text := Text.join [' '] request.words
  let query := Query.read text
  let remarks := if general.isQuiet then []
    else query.faults.map fun fault => warning ("Query: ".toList ++ fault.message)
  let directory := settings.specsDirectory
  let withArchive := request.withArchive.getD settings.withArchive
  match Library.load workspace.tree directory withArchive workspace.room with
  | .error fault =>
      let report := unloaded fault
      { report with passages := remarks ++ report.passages }
  | .ok all =>
      let specs := request.filters.select all
      let notes := if general.isVerbose then
          [information ("Searching ".toList ++ Text.ofNat specs.length ++ " specs in ".toList
            ++ directory.text)]
        else []
      let options : SearchOptions := {
        maxMatches := request.maxMatches.getD settings.maxMatches
        reach := request.reach.getD settings.reach }
      let response := Search.withQuery text query specs options
      { passages := remarks ++ notes ++ request.answer general.isQuiet response }

end SearchRequest

/-! ## Command lines -/

/-- Go on with what a reading of arguments asks for. -/
def follow {α : Type} (workspace : Workspace) (command : Command) (reading : Reading α)
    (perform : α → Workspace × Report) : Workspace × Report :=
  match reading with
  | .misuse => (workspace, { ending := .misuse })
  | .noPath => (workspace, { ending := .breakdown (.path .holdsNul) })
  | .explanation =>
      let text := command.explanation.text [programName, command.name]
      (workspace, { passages := [echo text] })
  | .request value => perform value

def Command.perform (workspace : Workspace) (general : General) (settings : Settings)
    (command : Command) (arguments : List Text) : Workspace × Report :=
  match command with
  | .explain => follow workspace command (readWords arguments) fun words =>
      (workspace, CommandLine.explain words)
  | .create => follow workspace command (CreateRequest.read arguments) fun request =>
      request.perform workspace
  | .search => follow workspace command (SearchRequest.read arguments) fun request =>
      (workspace, request.perform workspace general settings)
  | .reference => follow workspace command (readNothing arguments) fun _ =>
      (workspace, { passages := [echo Query.syntaxHelp.toList] })

/-- The report of settings that cannot be loaded. Only faults of the settings file
itself have one. -/
def unsettled (fault : Settings.Error) : Report :=
  match fault.message? with
  | some message => ⟨[error message], .exit 1⟩
  | none => ⟨[], .breakdown (.settings fault)⟩

/-- Load the settings. A directory of specs in front of the command takes the place
of the one in the settings. -/
def General.load (workspace : Workspace) (general : General) :
    Except Settings.Error (Settings × List Settings.Warning) := do
  let (settings, warnings) ← Settings.load workspace general.settings
  match general.library with
  | none => return (settings, warnings)
  | some library =>
      let directory ← Settings.locate workspace library
      return ({ settings with specsDirectory := directory }, warnings.filter fun
        | .noSpecsDirectory _ => false
        | .noFile _ => true)

/-- Run a command line: what is left behind in the files, and what came of it. -/
def run (workspace : Workspace) (arguments : List Text) : Workspace × Outcome :=
  let isDirectory (text : Text) : Bool :=
    !text.isEmpty &&
      (workspace.tree.at? (workspace.current.append (Path.ofText text))).any (·.isDirectory)
  let aside (report : Report) : Workspace × Outcome := (workspace, report.print {})
  match Opening.read isDirectory arguments with
  | .misuse => aside { ending := .misuse }
  | .noPath => aside { ending := .breakdown (.path .holdsNul) }
  | .explanation => aside { passages := [echo (programExplanation.text [programName])] }
  | .version =>
      aside { passages := [echo (programName ++ ", version ".toList ++ programVersion)] }
  | .command general command arguments =>
      match general.load workspace with
      | .error fault => aside (unsettled fault)
      | .ok (settings, warnings) =>
          let remarks := if general.isQuiet then []
            else warnings.map fun remark => warning remark.message
          match Transcript.print {} remarks with
          | (printed, some fault) => (workspace, ⟨printed, .breakdown (.markup fault)⟩)
          | (printed, none) =>
              let (changed, report) := command.perform workspace general settings arguments
              (changed, report.print printed)

end SpecFinder.CommandLine
