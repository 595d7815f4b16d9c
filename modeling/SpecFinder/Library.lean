import SpecFinder.Machine
import SpecFinder.Spec.Document
import SpecFinder.Text.Lines

/-!
# Spec libraries

A library is a directory with one directory per spec, which holds the document of
the spec and gives it its name.  Specs that are out of use lie in a directory of
their own and are left out unless asked for.
-/

namespace SpecFinder.Library

def documentName : Text := "README.md".toList

def archiveName : Text := "archived".toList

inductive LoadFailure (Refusal : Type) where
  | noDirectory (path : Path)
  | badPath (fault : PathFault)
  | refused (refusal : Refusal)
  | unread (path : Path) (refusal : Refusal)
  | notText (path : Path) (fault : Utf8.Fault)
  | noSpec (path : Path) (error : Spec.DocumentError)
  deriving DecidableEq, Repr

/-- Why a library cannot be loaded on a machine that refuses nothing. -/
abbrev LoadError := LoadFailure Empty

def LoadFailure.ofAccess {Refusal : Type} : AccessFault Refusal → LoadFailure Refusal
  | .badPath fault => .badPath fault
  | .refused refusal => .refused refusal

/-- The report of a failure, where `say` gives the words of a refusal.  A document that may not be
read is reported like one that is no text.  But nothing is reported when the search for documents
is refused or comes upon a path that leads nowhere, nor when a head is well formed and has an
impossible value. -/
def LoadFailure.message? {Refusal : Type} (say : Refusal → Text) :
    LoadFailure Refusal → Option Text
  | .noDirectory path => some ("Specs directory not found: ".toList ++ path.text)
  | .unread path refusal => some (failure path (say refusal))
  | .notText path fault => some (failure path fault.message)
  | .noSpec path (.head .malformed) => some (failure path "invalid frontmatter".toList)
  | .noSpec path .headNotMapping => some (failure path "frontmatter must be a mapping".toList)
  | .noSpec _ (.head _) | .noSpec _ .longInteger | .badPath _ | .refused _ => none
where
  /-- The report about one document. -/
  failure (path : Path) (reason : Text) : Text :=
    "Failed to load spec ".toList ++ path.text ++ ": ".toList ++ reason

def LoadError.message? (error : LoadError) : Option Text := LoadFailure.message? Empty.elim error

variable {Refusal : Type}

/-- The document of a spec: where it lies, the name of its directory, and what comes of reading
it. -/
structure Document (Refusal : Type) where
  path : Path
  name : Text
  content : Except Refusal Bytes

def Document.read (machine : Machine Refusal) (directory : Path) (name : Text) (content : Bytes) :
    Document Refusal :=
  let path := (directory.entry name).entry documentName
  ⟨path, name, machine.read path content⟩

def documentOf? (machine : Machine Refusal) (directory : Path) (name : Text) :
    Except (AccessFault Refusal) (Option (Document Refusal)) := do
  let place := directory.entry name
  if ← machine.holdsDirectory place then
    return (← machine.file? (place.entry documentName)).map (Document.read machine directory name)
  else
    return none

def byName (documents : List (Document Refusal)) : List (Document Refusal) :=
  documents.mergeSort fun left right => Text.isAtMost left.name right.name

/-- The documents in a directory of specs.  All entries are looked up first, in the order in which
the directory lists them. -/
def documentsIn (machine : Machine Refusal) (directory : Path) (names : List Text) :
    Except (AccessFault Refusal) (List (Document Refusal)) :=
  match machine.list? directory with
  | some refusal => .error (.refused refusal)
  | none => do
      let found ← names.mapM (documentOf? machine directory)
      return byName (found.filterMap id)

def archivedIn (machine : Machine Refusal) (directory : Path) :
    Except (AccessFault Refusal) (List (Document Refusal)) := do
  let archive := directory.entry archiveName
  match ← machine.find archive with
  | some (.directory entries) => documentsIn machine archive (entries.map (·.1))
  | _ => return []

/-- The documents of a library, those out of use last. -/
def documentsOf (machine : Machine Refusal) (directory : Path) (names : List Text)
    (withArchive : Bool) : Except (AccessFault Refusal) (List (Document Refusal)) := do
  let inUse ← documentsIn machine directory names
  let archived ← if withArchive then archivedIn machine directory else pure []
  return inUse ++ archived

def Document.spec (room : Nat) (document : Document Refusal) :
    Except (LoadFailure Refusal) Spec :=
  match document.content with
  | .error refusal => .error (.unread document.path refusal)
  | .ok content =>
      match Utf8.decode content with
      | .error fault => .error (.notText document.path fault)
      | .ok text =>
          let text := Text.unifyBreaks text
          match Spec.ofDocument document.path.text document.name text room with
          | .error error => .error (.noSpec document.path error)
          | .ok spec => .ok spec

/-- Load all specs of a library. The first spec that cannot be loaded decides. -/
def loadOn (machine : Machine Refusal) (directory : Path) (withArchive : Bool) :
    Except (LoadFailure Refusal) (List Spec) :=
  match machine.find directory with
  | .error fault => .error (.ofAccess fault)
  | .ok (some (.directory entries)) =>
      match documentsOf machine directory (entries.map (·.1)) withArchive with
      | .error fault => .error (.ofAccess fault)
      | .ok documents => documents.mapM (Document.spec machine.room.head)
  | .ok _ => .error (.noDirectory directory)

/-- Load all specs of a library on a machine that refuses nothing. -/
def load (tree : FileTree) (directory : Path) (withArchive : Bool) (room : NestingRoom := {}) :
    Except LoadError (List Spec) :=
  loadOn (.ofTree tree room) directory withArchive

end SpecFinder.Library
