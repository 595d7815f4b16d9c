import SpecFinder.CommandLine.Arguments
import SpecFinder.CommandLine.Command
import SpecFinder.Number.Integer
import SpecFinder.Path
import SpecFinder.Spec

/-!
# Requests

What a command line asks for: the options in front of the command, the command, and
what the arguments behind it say.
-/

namespace SpecFinder.CommandLine

/-- What arguments come to. A request for the explanation goes before all that is
wrong with the values of options. A path with a character that no path can hold is no
misuse: the command breaks off. -/
inductive Reading (α : Type) where
  | misuse
  | noPath
  | explanation
  | request (value : α)
  deriving DecidableEq, Repr

/-- Read the arguments of a command: options by a table, one of which asks for the
explanation, some of which have a path for a value, and then the whole, which has to make
sense. -/
def Reading.of {κ α : Type} [DecidableEq κ] (table : List (Declared κ)) (help : κ)
    (paths : List κ) (understand : Arguments κ → Option α) (arguments : List Text) :
    Reading α :=
  match readArguments table true arguments with
  | none => .misuse
  | some read =>
      if read.has help then .explanation
      else if paths.any fun key => (read.value? key).any (!Path.isPossible ·) then .noPath
      else (understand read).elim .misuse .request

/-! ## In front of the command -/

inductive GeneralOption where
  | settings
  | library
  | noColor
  | verbose
  | debug
  | quiet
  | pager
  | noPager
  | version
  | help
  deriving DecidableEq, Repr

def generalOptions : List (Declared GeneralOption) := [
  valued "-c" .settings, valued "--config" .settings,
  valued "-d" .library, valued "--specs-dir" .library,
  flag "--no-color" .noColor,
  flag "-v" .verbose, flag "--verbose" .verbose,
  flag "--debug" .debug,
  flag "-q" .quiet, flag "--quiet" .quiet,
  flag "--pager" .pager, flag "--no-pager" .noPager,
  flag "--version" .version,
  flag "--help" .help]

/-- What the options in front of the command say: the settings file, the directory
of specs, and how much is told. -/
structure General where
  settings : Option Path := none
  library : Option Path := none
  isVerbose : Bool := false
  isQuiet : Bool := false
  deriving DecidableEq, Repr

/-- What the front of a command line comes to. The arguments of the command are not
read yet. -/
inductive Opening where
  | misuse
  | noPath
  | explanation
  | version
  | command (general : General) (command : Command) (arguments : List Text)
  deriving DecidableEq, Repr

namespace Opening

/-- What is asked for in place of a command. -/
def aside? (read : Arguments GeneralOption) : Option Opening :=
  (read.first? [.version, .help]).map fun
    | .version => .version
    | _ => .explanation

/-- What is wrong with the first option that has a wrong path: a character that no path
can hold, or a directory of specs that is not there. -/
def wrongPath? (isDirectory : Text → Bool) (read : Arguments GeneralOption) :
    Option Opening :=
  (read.given.map (·.key)).findSome? fun key =>
    match key, read.value? key with
    | .settings, some path => if Path.isPossible path then none else some .noPath
    | .library, some path =>
        if !Path.isPossible path then some .noPath
        else if isDirectory path then none
        else some .misuse
    | _, _ => none

/-- What options come to that ask for something in place of a command, or that are
wrong. -/
def settled? (isDirectory : Text → Bool) (read : Arguments GeneralOption) : Option Opening :=
  (aside? read).or (wrongPath? isDirectory read)

/-- What a word that names no command comes to. One that looks like an option is
taken for it. -/
def ofUnknown (isDirectory : Text → Bool) (words : List Text) : Opening :=
  match readArguments generalOptions false words with
  | some read => (settled? isDirectory read).getD .misuse
  | none => .misuse

/-- Read the front of a command line. The directory of specs has to be there. -/
def read (isDirectory : Text → Bool) (arguments : List Text) : Opening :=
  match readArguments generalOptions false arguments with
  | none => .misuse
  | some read =>
      match settled? isDirectory read, read.words with
      | some opening, _ => opening
      | none, [] => .misuse
      | none, name :: rest =>
          match Command.ofName? name with
          | none => ofUnknown isDirectory (name :: rest)
          | some called =>
              let general := {
                settings := (read.value? .settings).map Path.ofText
                library := (read.value? .library).map Path.ofText
                isVerbose := read.has .verbose || read.has .debug
                isQuiet := read.has .quiet }
              .command general called rest

end Opening

/-! ## Explaining commands and the reference -/

inductive OnlyHelp where
  | help
  deriving DecidableEq, Repr

/-- The words behind a command without options. -/
def readWords (arguments : List Text) : Reading (List Text) :=
  .of [flag "--help" OnlyHelp.help] .help [] (fun read => some read.words) arguments

/-- Nothing, behind a command without options and words. -/
def readNothing (arguments : List Text) : Reading Unit :=
  .of [flag "--help" OnlyHelp.help] .help []
    (fun read => if read.words.isEmpty then some () else none) arguments

/-! ## Creating a settings file -/

inductive CreateOption where
  | force
  | output
  | library
  | help
  deriving DecidableEq, Repr

def createOptions : List (Declared CreateOption) := [
  flag "-f" .force, flag "--force" .force,
  valued "-o" .output, valued "--output" .output,
  valued "--specs-dir" .library,
  flag "--help" .help]

/-- A request for a settings file: whether an old one may go, where the file is put,
and the directory of specs. -/
structure CreateRequest where
  isForced : Bool := false
  output : Option Path := none
  library : Option Path := none
  deriving DecidableEq, Repr

def CreateRequest.read (arguments : List Text) : Reading CreateRequest :=
  .of createOptions .help [.output, .library] (fun read =>
    if read.words.isEmpty then
      some {
        isForced := read.has .force
        output := (read.value? .output).map Path.ofText
        library := (read.value? .library).map Path.ofText }
    else none) arguments

/-! ## Searching -/

inductive SearchOption where
  | format
  | limit
  | status
  | tag
  | priority
  | assignee
  | withArchive
  | withoutArchive
  | maxMatches
  | reach
  | help
  deriving DecidableEq, Repr

def searchOptions : List (Declared SearchOption) := [
  valued "-f" .format, valued "--format" .format,
  valued "-l" .limit, valued "--limit" .limit,
  valued "--status" .status,
  valued "--tag" .tag,
  valued "--priority" .priority,
  valued "--assignee" .assignee,
  flag "--include-archived" .withArchive, flag "--exclude-archived" .withoutArchive,
  valued "--max-matches" .maxMatches,
  valued "--context-length" .reach,
  flag "--help" .help]

inductive Format where
  | text
  | paths
  | json
  deriving DecidableEq, Repr

def Format.ofName? (name : Text) : Option Format :=
  [("text", Format.text), ("paths", .paths), ("json", .json)].findSome? fun (known, format) =>
    if known.toList = name then some format else none

/-- The fields that a spec has to have to be searched. -/
structure Filters where
  status : Option Text := none
  tags : List Text := []
  priority : Option Text := none
  assignee : Option Text := none
  deriving DecidableEq, Repr

namespace Filters

/-- The names of fields and the values that are asked for. An empty value asks for
nothing, but an empty tag for one. -/
def fields (filters : Filters) : List (Text × Text) :=
  let single (name : String) (value : Option Text) : List (Text × Text) :=
    ((value.filter (!·.isEmpty)).map fun value => (name.toList, value)).toList
  single "status" filters.status ++ filters.tags.map (fun tag => ("tag".toList, tag))
    ++ single "priority" filters.priority ++ single "assignee" filters.assignee

def select (filters : Filters) (specs : List Spec) : List Spec :=
  specs.filter fun spec => filters.fields.all fun (name, value) => spec.meetsField name value

end Filters

/-- A request to search. What is not said is left to the settings. -/
structure SearchRequest where
  words : List Text
  format : Format := .text
  limit : Option Int := none
  filters : Filters := {}
  withArchive : Option Bool := none
  maxMatches : Option Int := none
  reach : Option Int := none
  deriving DecidableEq, Repr

namespace SearchRequest

def positive? (text : Text) : Option Int := (integer? text).filter (1 ≤ ·)

/-- The value of an option, when the option is given; none when the value is wrong. -/
def optional? {α : Type} (read : Arguments SearchOption) (key : SearchOption)
    (understand : Text → Option α) : Option (Option α) :=
  match read.value? key with
  | none => some none
  | some value => (understand value).map some

/-- Read a request to search. It has at least one word. -/
def read (arguments : List Text) : Reading SearchRequest :=
  .of searchOptions .help [] (fun read => do
    let format ← optional? read .format Format.ofName?
    let limit ← optional? read .limit positive?
    let maxMatches ← optional? read .maxMatches positive?
    let reach ← optional? read .reach positive?
    if read.words.isEmpty then
      none
    else
      return {
        words := read.words
        format := format.getD .text
        limit
        filters := {
          status := read.value? .status
          tags := read.values .tag
          priority := read.value? .priority
          assignee := read.value? .assignee }
        withArchive := (read.last? [.withArchive, .withoutArchive]).map (· == .withArchive)
        maxMatches
        reach }) arguments

end SearchRequest

end SpecFinder.CommandLine
