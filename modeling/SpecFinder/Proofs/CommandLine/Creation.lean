import SpecFinder.CommandLine
import SpecFinder.Proofs.Console.Messages
import SpecFinder.Proofs.Files.Listings
import SpecFinder.Proofs.Settings.Storing

/-!
# Creating a settings file

A settings file that is there stays as it is unless the request is forced.  A command line that
ends well has changed no other file, and what it wrote is loaded as the standard settings with
the directory of specs that was asked for, as far as that directory can be looked up.
-/

namespace SpecFinder.CommandLine

open Console

/-- Whether a text names a directory, seen from the current one. -/
def isDirectoryAt (workspace : Workspace) (text : Text) : Bool :=
  !text.isEmpty &&
    (workspace.tree.at? (workspace.current.append (Path.ofText text))).any (·.isDirectory)

/-- Whether a command line asks for a settings file, with what options in front of the
command. -/
def Asks (workspace : Workspace) (arguments : List Text) (general : General)
    (request : CreateRequest) : Prop :=
  ∃ rest, Opening.read (isDirectoryAt workspace) arguments = .command general .create rest ∧
    CreateRequest.read rest = .request request

namespace CreateRequest

/-- Where the file is put that is asked for. -/
def target (workspace : Workspace) (request : CreateRequest) : Except PathFault Path :=
  workspace.locate (request.output.getD (Settings.standardFile workspace))

/-- The directory of specs that is asked for: the one named, or that of the current directory. -/
def directory (workspace : Workspace) (request : CreateRequest) : Except PathFault Path :=
  match request.library with
  | none => .ok (workspace.current.entry "specs".toList)
  | some library => workspace.locate library

/-- What performing a request comes to. -/
inductive Performs (workspace : Workspace) (request : CreateRequest) : Workspace × Report → Prop
  | lost (fault : PathFault) :
      Performs workspace request (workspace, { ending := .breakdown (.path fault) })
  | existing {file : Path} {there : FileTree} (isTarget : request.target workspace = .ok file)
      (isThere : workspace.tree.find file = .ok (some there))
      (notForced : request.isForced = false) :
      Performs workspace request (workspace, existing file)
  | failed {file directory : Path} {changed : Workspace} {fault : FileTree.WriteFault}
      (isTarget : request.target workspace = .ok file)
      (notWritten : Settings.write workspace
        { specsDirectory := directory, source := some file } file = (changed, some fault)) :
      Performs workspace request (changed, failed (Settings.writeReport file fault))
  | created {file directory : Path} {found : Option FileTree} {changed : Workspace}
      (isTarget : request.target workspace = .ok file)
      (lookedUp : workspace.tree.find file = .ok found)
      (isFree : found = none ∨ request.isForced = true)
      (names : request.directory workspace = .ok directory)
      (isWritten : Settings.write workspace
        { specsDirectory := directory, source := some file } file = (changed, none)) :
      Performs workspace request (changed, created file)

variable {workspace : Workspace} {request : CreateRequest}

/-- The written settings are the standard ones with the directory of specs that is asked for. -/
theorem settings_eq (workspace : Workspace) (request : CreateRequest) (file : Path) :
    request.settings workspace file = (request.directory workspace).map fun directory =>
      { specsDirectory := directory, source := some file } := by
  rw [settings, directory]
  cases request.library with
  | none => rfl
  | some path =>
      dsimp only
      cases workspace.locate path <;> rfl

/-- A file that is there stays as it is unless the request is forced. -/
theorem perform_of_isThere {file : Path} {there : FileTree}
    (isTarget : request.target workspace = .ok file)
    (isThere : workspace.tree.find file = .ok (some there)) (notForced : request.isForced = false) :
    request.perform workspace = (workspace, existing file) := by
  have located : workspace.locate (request.output.getD (Settings.standardFile workspace)) =
    .ok file := isTarget
  simp [perform, located, FileTree.holds, isThere, notForced, bind, Except.bind, pure, Except.pure]

/-- Where nothing is in the way, the settings are written. -/
theorem perform_of_isFree {file : Path} {found : Option FileTree}
    (isTarget : request.target workspace = .ok file)
    (lookedUp : workspace.tree.find file = .ok found)
    (isFree : found = none ∨ request.isForced = true) :
    request.perform workspace =
      match request.directory workspace with
      | .error fault => (workspace, { ending := .breakdown (.path fault) })
      | .ok directory =>
          match Settings.write workspace { specsDirectory := directory, source := some file } file
            with
          | (changed, some fault) => (changed, failed (Settings.writeReport file fault))
          | (changed, none) => (changed, created file) := by
  have located : workspace.locate (request.output.getD (Settings.standardFile workspace)) =
    .ok file := isTarget
  have goesOn : (found.isSome && !request.isForced) = false := by
    rcases isFree with rfl | isForced
    · rfl
    · simp [isForced]
  have holds : workspace.tree.holds file = .ok found.isSome := by
    rw [FileTree.holds, lookedUp]
    rfl
  simp only [perform, located, holds, goesOn, settings_eq, bind, Except.bind]
  cases request.directory workspace with
  | error fault => rfl
  | ok directory =>
      dsimp only [Except.map]
      rcases Settings.write workspace { specsDirectory := directory, source := some file } file
        with ⟨changed, _ | fault⟩ <;> rfl

theorem performs (workspace : Workspace) (request : CreateRequest) :
    request.Performs workspace (request.perform workspace) := by
  cases isTarget : request.target workspace with
  | error fault =>
      have located : workspace.locate (request.output.getD (Settings.standardFile workspace)) =
        .error fault := isTarget
      rw [perform, located]
      exact .lost fault
  | ok file =>
      have located : workspace.locate (request.output.getD (Settings.standardFile workspace)) =
        .ok file := isTarget
      cases lookedUp : workspace.tree.find file with
      | error fault =>
          have isLost : workspace.tree.holds file = .error fault := by
            rw [FileTree.holds, lookedUp]
            rfl
          simp only [perform, located, isLost, bind, Except.bind]
          exact .lost fault
      | ok found =>
          by_cases isFree : found = none ∨ request.isForced = true
          · rw [perform_of_isFree isTarget lookedUp isFree]
            split
            next => exact .lost _
            next directory names =>
              split
              next changed fault notWritten => exact .failed isTarget notWritten
              next changed isWritten => exact .created isTarget lookedUp isFree names isWritten
          · rw [not_or, Bool.not_eq_true] at isFree
            rcases Option.ne_none_iff_exists'.mp isFree.1 with ⟨there, rfl⟩
            rw [perform_of_isThere isTarget lookedUp isFree.2]
            exact .existing isTarget lookedUp isFree.2

/-! ## What is asked for -/

/-- The paths of a request were read. -/
structure IsRead (request : CreateRequest) : Prop where
  output : ∀ path ∈ request.output, path.IsRead
  library : ∀ path ∈ request.library, path.IsRead

theorem isRead_of_read {arguments : List Text} (read : CreateRequest.read arguments =
    .request request) : request.IsRead := by
  have readPath (text : Option Text) : ∀ path ∈ text.map Path.ofText, path.IsRead := by
    intro path member
    rcases Option.mem_map.mp member with ⟨text, _, rfl⟩
    exact Path.isRead_ofText text
  rw [CreateRequest.read, Reading.of] at read
  split at read
  next => cases read
  next given _ =>
    split at read
    next => cases read
    next =>
      split at read
      next => cases read
      next =>
        split at read
        next =>
          cases read
          exact ⟨readPath _, readPath _⟩
        next => cases read

theorem isResolved_of_target (sound : workspace.IsSound) (isRead : request.IsRead) {file : Path}
    (isTarget : request.target workspace = .ok file) : file.IsResolved := by
  refine sound.isResolved_of_locate ?_ isTarget
  cases output : request.output with
  | some path => exact isRead.output path (by simp [output])
  | none =>
      have isName : ∀ name ∈ [".config".toList, "spec-search".toList, "config.toml".toList],
          IsEntryName name := by
        intro name member
        simp only [List.mem_cons, List.not_mem_nil, or_false] at member
        rcases member with rfl | rfl | rfl <;>
          exact ⟨by decide, by decide, by decide, by decide, by decide⟩
      exact ((sound.own.entry (isName _ (by simp))).entry (isName _ (by simp))).entry
        (isName _ (by simp))

theorem isResolved_of_directory (sound : workspace.IsSound) (isRead : request.IsRead)
    {directory : Path} (names : request.directory workspace = .ok directory) :
    directory.IsResolved := by
  rw [CreateRequest.directory] at names
  cases library : request.library with
  | none =>
      rw [library] at names
      cases names
      exact sound.current.entry ⟨by decide, by decide, by decide, by decide, by decide⟩
  | some path =>
      rw [library] at names
      exact sound.isResolved_of_locate (isRead.library path (by simp [library])) names

/-! ## What is written -/

/-- What a request that was performed has done: only its file has changed, and it is loaded as
the standard settings with the directory of specs that was asked for, if this can be looked
up. -/
structure Creates (workspace : Workspace) (request : CreateRequest) (changed : Workspace)
    (file : Path) : Prop where
  isTarget : request.target workspace = .ok file
  wasFree : request.isForced = true ∨ workspace.tree.find file = .ok none
  current : changed.current = workspace.current
  homes : changed.homes = workspace.homes
  others : ∀ names, names ≠ file.parts →
    changed.tree.contentAt? names = workspace.tree.contentAt? names
  isFile : ∃ content, changed.tree.find file = .ok (some (.file content)) ∧
    changed.tree.contentAt? file.parts = some content
  loads : ∃ directory, request.directory workspace = .ok directory ∧
    (changed.tree.CanLookUp directory → Settings.load changed (some file) =
      .ok ({ Settings.standard workspace with specsDirectory := directory, source := some file },
        if (changed.tree.at? directory).isSome then [] else [.noSpecsDirectory directory])) ∧
    (¬ changed.tree.CanLookUp directory →
      Settings.load changed (some file) = .error (.badPath .tooLong))

theorem hasShortNumbers (directory : Path) (source : Option Path) :
    Settings.HasShortNumbers { specsDirectory := directory, source } := by
  have shortFive : (Toml.Scalar.int 5).IsShort := by
    change _ ≤ _
    decide +kernel
  have shortEighty : (Toml.Scalar.int 80).IsShort := by
    change _ ≤ _
    decide +kernel
  exact ⟨shortFive, shortEighty⟩

/-- The standard settings are loaded from the file that they were written to. -/
theorem load_of_isFile {file directory : Path} (resolved : file.IsResolved)
    (resolvedDirectory : directory.IsResolved)
    (isFile : workspace.tree.find file = .ok (some (.file (Utf8.encode
      (Settings.document { specsDirectory := directory, source := some file }))))) :
    (workspace.tree.CanLookUp directory → Settings.load workspace (some file) =
      .ok ({ specsDirectory := directory, source := some file },
        if (workspace.tree.at? directory).isSome then [] else [.noSpecsDirectory directory])) ∧
    (¬ workspace.tree.CanLookUp directory →
      Settings.load workspace (some file) = .error (.badPath .tooLong)) := by
  have located : Settings.locate workspace
      ((some file).getD (Settings.standardFile workspace)) = .ok file := by
    rw [Option.getD_some, Settings.locate, Workspace.locate_of_isResolved resolved]
    rfl
  have loaded := Settings.load_of_isDocument located isFile
    (Settings.isDocument_document (hasShortNumbers directory (some file)) _)
  have resolvedSetting : (Settings.specsDirectory
      { specsDirectory := directory, source := some file }).IsResolved := resolvedDirectory
  rcases (Settings.describes_tableOf_sections workspace file resolvedSetting).ofDocument_eq with
    ⟨path, isRead, isLocated⟩
  rw [isRead] at loaded
  exact ⟨fun canLookUp => loaded.trans (Settings.validate_of_canLookUp isLocated canLookUp),
    fun unreachable => loaded.trans (Settings.validate_of_not_canLookUp isLocated unreachable)⟩

theorem creates_of_isWritten (sound : workspace.IsSound) (isRead : request.IsRead)
    {file directory : Path} {found : Option FileTree} {changed : Workspace}
    (isTarget : request.target workspace = .ok file)
    (lookedUp : workspace.tree.find file = .ok found)
    (isFree : found = none ∨ request.isForced = true)
    (names : request.directory workspace = .ok directory)
    (isWritten : Settings.write workspace
      { specsDirectory := directory, source := some file } file = (changed, none)) :
    Creates workspace request changed file := by
  have resolved := isResolved_of_target sound isRead isTarget
  have down : ∀ name ∈ file.parts, name ≠ ['.', '.'] :=
    fun name member => (resolved.names name member).notBack
  rcases written : FileTree.write (Utf8.encode (Settings.document
    { specsDirectory := directory, source := some file })) workspace.tree file.parts
    with ⟨tree, fault⟩
  rw [Settings.write, written] at isWritten
  cases isWritten
  have short : FileTree.IsShort file := by
    by_contra long
    rw [FileTree.find, if_pos (Nat.lt_of_not_le long)] at lookedUp
    cases lookedUp
  have walked := FileTree.walk_write _ down written []
  have isFile := (FileTree.find_of_le short).trans walked
  refine ⟨isTarget, ?_, rfl, rfl, ?_, ⟨_, isFile, FileTree.contentAt?_of_walk down walked⟩,
    directory, names, ?_⟩
  · rcases isFree with rfl | isForced
    · exact .inr lookedUp
    · exact .inl isForced
  · intro other differs
    have same := FileTree.contentAt?_write_of_ne (Utf8.encode (Settings.document
      { specsDirectory := directory, source := some file })) workspace.tree differs
    rw [written] at same
    exact same
  · exact load_of_isFile resolved (isResolved_of_directory sound isRead names) isFile

end CreateRequest

/-! ## Command lines with any options -/

/-- The command line with some of the options of the command. -/
def createLine (isForced : Bool) (output library : Option Text) : List Text :=
  "init-config".toList :: ((if isForced then ["--force".toList] else []) ++
    (output.elim [] fun path => ["--output".toList, path]) ++
    (library.elim [] fun path => ["--specs-dir".toList, path]))

/-- Every combination of the options asks for a settings file. -/
theorem asks_createLine (workspace : Workspace) (isForced : Bool) {output library : Option Text}
    (possibleOutput : ∀ path ∈ output, Path.isPossible path = true)
    (possibleLibrary : ∀ path ∈ library, Path.isPossible path = true) :
    Asks workspace (createLine isForced output library) {}
      { isForced, output := output.map Path.ofText, library := library.map Path.ofText } := by
  refine ⟨_, rfl, ?_⟩
  have readForce (rest : List Text) :
      readArguments createOptions true ("--force".toList :: rest) =
        (readArguments createOptions true rest).map (·.withGiven [⟨.force, []⟩]) := rfl
  have readOutput (path : Text) (rest : List Text) :
      readArguments createOptions true ("--output".toList :: path :: rest) =
        (readArguments createOptions true rest).map (·.withGiven [⟨.output, path⟩]) := rfl
  have readLibrary (path : Text) (rest : List Text) :
      readArguments createOptions true ("--specs-dir".toList :: path :: rest) =
        (readArguments createOptions true rest).map (·.withGiven [⟨.library, path⟩]) := rfl
  have readNone : readArguments createOptions true [] = some {} := rfl
  rw [CreateRequest.read, Reading.of]
  cases isForced <;> cases output <;> cases library <;>
    simp_all [Arguments.withGiven, Arguments.has, Arguments.value?, Arguments.values]

/-! ## Running -/

variable {workspace : Workspace} {arguments : List Text} {general : General}
  {request : CreateRequest}

/-- Printing a report keeps its code, or ends with that of wrong markup. -/
theorem code_print (report : Report) (transcript : Console.Transcript) :
    (report.print transcript).ending.code = report.ending.code ∨
      (report.print transcript).ending.code = 1 := by
  rw [Report.print]
  split
  next => exact .inl rfl
  next => exact .inr rfl

theorem code_unsettled (fault : Settings.Error) : (unsettled fault).ending.code = 1 := by
  rw [unsettled]
  split <;> rfl

/-- The remarks on settings that are printed. -/
def remarks (general : General) (warnings : List Settings.Warning) : List Passage :=
  if general.isQuiet then [] else warnings.map fun remark => warning remark.message

/-- A command line that asks for a settings file loads settings, prints the remarks on them, and
performs its request. -/
theorem run_cases (asks : Asks workspace arguments general request) :
    (∃ fault, general.load workspace = .error fault ∧
      run workspace arguments = (workspace, (unsettled fault).print {})) ∨
    ∃ settings warnings, general.load workspace = .ok (settings, warnings) ∧
      ∀ printed wrong, Transcript.print {} (remarks general warnings) = (printed, wrong) →
        run workspace arguments = wrong.elim
          ((request.perform workspace).1, (request.perform workspace).2.print printed)
          fun fault => (workspace, ⟨printed, .breakdown (.markup fault)⟩) := by
  rcases asks with ⟨rest, opening, read⟩
  have opens : Opening.read (fun text => !text.isEmpty && (workspace.tree.at?
      (workspace.current.append (Path.ofText text))).any (·.isDirectory)) arguments =
    .command general .create rest := opening
  have performs {settings : Settings} : Command.perform workspace general settings .create rest =
      request.perform workspace := by
    simp only [Command.perform, follow, read]
  cases loaded : general.load workspace with
  | error fault =>
      refine .inl ⟨fault, rfl, ?_⟩
      simp only [run, opens, loaded]
  | ok settings =>
      refine .inr ⟨settings.1, settings.2, rfl, ?_⟩
      intro printed wrong prints
      rw [remarks] at prints
      cases wrong <;> simp only [run, opens, loaded, performs, prints, Option.elim]

/-- The request is performed, unless the settings cannot be loaded or a remark on them cannot be
printed. -/
theorem run_of_asks (asks : Asks workspace arguments general request) :
    (∃ outcome, run workspace arguments = (workspace, outcome) ∧ outcome.ending.code = 1) ∨
      ∃ transcript, run workspace arguments =
        ((request.perform workspace).1, (request.perform workspace).2.print transcript) := by
  rcases run_cases asks with ⟨fault, _, ran⟩ | ⟨settings, warnings, _, ran⟩
  · refine .inl ⟨_, ran, ?_⟩
    rcases code_print (unsettled fault) {} with same | isOne
    · rw [same, code_unsettled]
    · exact isOne
  · rcases prints : Transcript.print {} (remarks general warnings) with ⟨printed, wrong⟩
    cases wrong with
    | none => exact .inr ⟨printed, ran printed none prints⟩
    | some fault => exact .inl ⟨_, ran printed (some fault) prints, rfl⟩

/-- Where the settings are loaded and no path holds markup, a request ends well that writes its
file. -/
theorem code_of_isWritten (asks : Asks workspace arguments general request)
    {settings : Settings} {warnings : List Settings.Warning}
    (loaded : general.load workspace = .ok (settings, warnings))
    (plainRemarks : ∀ remark ∈ warnings, IsPlain remark.message)
    {file directory : Path} {found : Option FileTree} {changed : Workspace}
    (isTarget : request.target workspace = .ok file) (plainFile : IsPlain file.text)
    (lookedUp : workspace.tree.find file = .ok found)
    (isFree : found = none ∨ request.isForced = true)
    (names : request.directory workspace = .ok directory)
    (isWritten : Settings.write workspace
      { specsDirectory := directory, source := some file } file = (changed, none)) :
    (run workspace arguments).2.ending.code = 0 := by
  have plain : ∀ passage ∈ remarks general warnings, IsPlainMessage passage := by
    intro passage member
    rw [remarks] at member
    split at member
    next => cases member
    next =>
      rcases List.mem_map.mp member with ⟨remark, isRemark, rfl⟩
      exact .warning (plainRemarks remark isRemark)
  have told : ∀ passage ∈ (CreateRequest.created file).passages, IsPlainMessage passage := by
    intro passage member
    simp only [CreateRequest.created, List.mem_cons, List.not_mem_nil, or_false] at member
    rcases member with rfl | rfl
    · exact .success (IsPlain.append (by decide +kernel) plainFile)
    · exact .information (by decide +kernel)
  rcases print_of_isPlainMessage plain {} with ⟨printed, prints⟩
  rcases print_of_isPlainMessage told printed with ⟨transcript, tells⟩
  have performed : request.perform workspace = (changed, CreateRequest.created file) := by
    rw [CreateRequest.perform_of_isFree isTarget lookedUp isFree]
    simp only [names, isWritten]
  rcases run_cases asks with ⟨fault, failed, _⟩ | ⟨_, _, loads, ran⟩
  · cases failed.symm.trans loaded
  · cases loads.symm.trans loaded
    rw [ran printed none prints, Option.elim_none, performed, Report.print, tells]
    rfl

/-- The files that a request asked for leaves alone. -/
theorem contentAt?_perform {names : List Text}
    (isOther : ∀ file, request.target workspace = .ok file → names ≠ file.parts) :
    (request.perform workspace).1.tree.contentAt? names = workspace.tree.contentAt? names := by
  have unchanged {file directory : Path} {changed : Workspace}
      {fault : Option FileTree.WriteFault} (isTarget : request.target workspace = .ok file)
      (written : Settings.write workspace
        { specsDirectory := directory, source := some file } file = (changed, fault)) :
      changed.tree.contentAt? names = workspace.tree.contentAt? names := by
    have same := FileTree.contentAt?_write_of_ne (Utf8.encode (Settings.document
      { specsDirectory := directory, source := some file })) workspace.tree (isOther file isTarget)
    rw [Settings.write] at written
    cases written
    exact same
  have performs := request.performs workspace
  generalize request.perform workspace = performed at performs ⊢
  cases performs with
  | lost fault => rfl
  | existing isTarget isThere notForced => rfl
  | failed isTarget notWritten => exact unchanged isTarget notWritten
  | created isTarget lookedUp isFree names isWritten => exact unchanged isTarget isWritten

theorem run_of_isThere (asks : Asks workspace arguments general request) {file : Path}
    {there : FileTree} (isTarget : request.target workspace = .ok file)
    (isThere : workspace.tree.find file = .ok (some there)) (notForced : request.isForced = false) :
    (run workspace arguments).1 = workspace ∧ (run workspace arguments).2.ending.code = 1 := by
  rcases run_of_asks asks with ⟨outcome, ran, isOne⟩ | ⟨transcript, ran⟩
  · rw [ran]
    exact ⟨rfl, isOne⟩
  · rw [ran, CreateRequest.perform_of_isThere isTarget isThere notForced]
    refine ⟨rfl, ?_⟩
    rcases code_print (CreateRequest.existing file) transcript with same | isOne
    · exact same
    · exact isOne

/-- A command line that asks for a settings file changes no other file.  A file that is there
stays as it is unless the request is forced.  Where the command line ends well, the file is
loaded as the standard settings with the directory of specs that was asked for, if that can be
looked up; and from then on only a forced request for the same file does anything. -/
theorem run_create (sound : workspace.IsSound)
    (asks : Asks workspace arguments general request) :
    (∀ names, (∀ file, request.target workspace = .ok file → names ≠ file.parts) →
      (run workspace arguments).1.tree.contentAt? names = workspace.tree.contentAt? names) ∧
    (∀ file there, request.target workspace = .ok file →
      workspace.tree.find file = .ok (some there) → request.isForced = false →
      (run workspace arguments).1 = workspace ∧ (run workspace arguments).2.ending.code = 1) ∧
    ((run workspace arguments).2.ending.code = 0 →
      ∃ file, request.Creates workspace (run workspace arguments).1 file ∧
        ∀ again general' request', Asks (run workspace arguments).1 again general' request' →
          request'.isForced = false → request'.target (run workspace arguments).1 = .ok file →
          (run (run workspace arguments).1 again).1 = (run workspace arguments).1 ∧
            (run (run workspace arguments).1 again).2.ending.code = 1) := by
  refine ⟨?_, ?_, ?_⟩
  · intro names isOther
    rcases run_of_asks asks with ⟨outcome, ran, _⟩ | ⟨transcript, ran⟩
    · rw [ran]
    · rw [ran]
      exact contentAt?_perform isOther
  · intro file there isTarget isThere notForced
    exact run_of_isThere asks isTarget isThere notForced
  · intro ends
    rcases run_of_asks asks with ⟨outcome, ran, isOne⟩ | ⟨transcript, ran⟩
    · rw [ran] at ends
      cases isOne.symm.trans ends
    · rcases asks with ⟨rest, _, read⟩
      have isRead := CreateRequest.isRead_of_read read
      have isZero : (request.perform workspace).2.ending.code = 0 := by
        rcases code_print (request.perform workspace).2 transcript with same | isOne
        · rw [← same, ← ends, ran]
        · rw [ran] at ends
          cases isOne.symm.trans ends
      have performs := request.performs workspace
      rw [ran]
      generalize request.perform workspace = performed at performs isZero ⊢
      cases performs with
      | lost fault => cases isZero
      | existing isTarget isThere notForced => cases isZero
      | failed isTarget notWritten => cases isZero
      | @created file directory found changed isTarget lookedUp isFree names isWritten =>
          have creates := CreateRequest.creates_of_isWritten sound isRead isTarget lookedUp isFree
            names isWritten
          refine ⟨file, creates, ?_⟩
          intro again general' request' asksAgain notForced isTarget'
          rcases creates.isFile with ⟨content, isFile, _⟩
          exact run_of_isThere asksAgain isTarget' isFile notForced

theorem isSound_topWorkspace (tree : FileTree) : (Settings.topWorkspace tree).IsSound := by
  refine ⟨⟨rfl, fun name member => ?_⟩, fun name member => ?_, fun home member => ?_⟩ <;>
    cases member

/-- A request for a settings file with a directory of specs whose name is too long. -/
def longRequest : CreateRequest where
  output := some (Path.ofText "c.toml".toList)
  library := some (Path.ofText (List.replicate 300 'x'))

/-- The command line that asks for it. -/
def longLine : List Text := createLine false (some "c.toml".toList) (some (List.replicate 300 'x'))

theorem asks_longLine (workspace : Workspace) : Asks workspace longLine {} longRequest := by
  apply asks_createLine workspace false
  · intro path isPath
    cases isPath
    decide
  · intro path isPath
    cases isPath
    decide

theorem directory_longRequest : longRequest.directory (Settings.topWorkspace .empty) =
    .ok ⟨.root, [List.replicate 300 'x']⟩ := by
  decide +kernel

/-- In an empty file system, the request for the long name ends well. -/
theorem code_longLine : (run (Settings.topWorkspace .empty) longLine).2.ending.code = 0 := by
  have loaded : General.load (Settings.topWorkspace .empty) {} =
      .ok (Settings.standard (Settings.topWorkspace .empty),
        [.noFile (Settings.standardFile (Settings.topWorkspace .empty)),
          .noSpecsDirectory ⟨.root, ["specs".toList]⟩]) := by decide +kernel
  have plainRemarks : ∀ remark ∈ [Settings.Warning.noFile
      (Settings.standardFile (Settings.topWorkspace .empty)),
        .noSpecsDirectory ⟨.root, ["specs".toList]⟩], IsPlain remark.message := by decide +kernel
  exact code_of_isWritten (asks_longLine _) loaded plainRemarks rfl (by decide +kernel) rfl
    (.inl rfl) directory_longRequest rfl

/-- A settings file that is there stays as it is.  In an empty file system one is written, but
with a directory of specs whose name is too long it cannot be loaded. -/
theorem run_create_longLine :
    (run (Settings.soleWorkspace []) longLine).1 = Settings.soleWorkspace [] ∧
    (run (Settings.soleWorkspace []) longLine).2.ending.code = 1 ∧
    (run (Settings.topWorkspace .empty) longLine).2.ending.code = 0 ∧
    Settings.load (run (Settings.topWorkspace .empty) longLine).1 (some Settings.soleFile) =
      .error (.badPath .tooLong) := by
  have existing := (run_create (isSound_topWorkspace _) (asks_longLine _)).2.1 Settings.soleFile _
    rfl (Settings.find_soleFile []) rfl
  refine ⟨existing.1, existing.2, code_longLine, ?_⟩
  rcases (run_create (isSound_topWorkspace _) (asks_longLine _)).2.2 code_longLine with
    ⟨file, creates, _⟩
  have isFile : file = Settings.soleFile := Except.ok.inj creates.isTarget.symm
  subst isFile
  rcases creates.loads with ⟨directory, isDirectory, _, fails⟩
  cases isDirectory.symm.trans directory_longRequest
  apply fails
  intro canLookUp
  rcases creates.isFile with ⟨content, _, isContent⟩
  cases isTree : (run (Settings.topWorkspace .empty) longLine).1.tree with
  | file content =>
      rw [isTree] at isContent
      cases isContent
  | directory entries =>
      rw [isTree] at canLookUp
      have notLong := canLookUp.notLongBelow [] (List.replicate 300 'x') [] entries rfl rfl
      have long : FileTree.isLongName (List.replicate 300 'x') = true := by decide +kernel
      cases long.symm.trans notLong

end SpecFinder.CommandLine
