import SpecFinder.Proofs.Files.Paths
import SpecFinder.Proofs.Files.Trees
import SpecFinder.Proofs.Settings.Entries
import SpecFinder.Proofs.Text.Utf8
import SpecFinder.Proofs.Toml.Documents
import SpecFinder.Settings.Storage

/-!
# Loading settings

Settings are loaded from a file exactly when it is a document all of whose entries are right
and positive where they have to be, and when the directory that it leads to can be looked up.
Otherwise the first thing that is wrong decides.  Most of these are told as errors of the
settings file, but not all: a file that is no text, an integer or a nesting that is too long
to be read, a section that cannot be looked into, and a directory that cannot be found break
the loading off.
-/

namespace SpecFinder.Settings

/-- Whether bytes are the text of a document. -/
def IsDocument (workspace : Workspace) (bytes : Bytes) (document : Toml.Table) : Prop :=
  ∃ text, Utf8.decode bytes = .ok text ∧ Toml.read workspace.room.settings text = .ok document

/-- Whether the number of an entry is positive, where it has one. -/
def IsPositive (settings : Settings) (entry : Entry) : Prop :=
  ∀ value, settings.value entry = .int value → Requirement.positive.IsMetBy (.int value)

/-- The settings that a document describes: each entry that is given sets its own value, the
others keep their defaults, and the directory of specs is an absolute path. -/
structure Describes (workspace : Workspace) (file : Path) (document : Toml.Table)
    (settings : Settings) : Prop where
  right : ∀ entry : Entry, entry.IsRight workspace.homes document
  values : ∀ entry : Entry, entry ≠ .specsDirectory → settings.value entry =
    (entry.given? document).getD ((standard workspace).value entry)
  directory : ∃ path, NamesDirectory workspace document file path ∧
    workspace.locate path = .ok settings.specsDirectory
  source : settings.source = some file

/-- Whether the content of a file is settings that can be used, and what is remarked. -/
structure Accepts (workspace : Workspace) (file : Path) (bytes : Bytes) (settings : Settings)
    (warnings : List Warning) : Prop where
  describes : ∃ document, IsDocument workspace bytes document ∧
    Describes workspace file document settings
  canLookUp : workspace.tree.CanLookUp settings.specsDirectory
  positive : ∀ entry, settings.IsPositive entry
  warnings : warnings = if (workspace.tree.at? settings.specsDirectory).isSome then []
    else [.noSpecsDirectory settings.specsDirectory]

/-- Which errors of a settings file are found in its content: it is no document, the first
entry that is wrong has a value of another kind, or the first number that is wrong is not
positive. -/
inductive Rejects (workspace : Workspace) (file : Path) (bytes : Bytes) : Error → Prop
  | malformed {text : Text} (isText : Utf8.decode bytes = .ok text)
      (isMalformed : Toml.read workspace.room.settings text = .error .malformed) :
      Rejects workspace file bytes (.malformed file)
  | wrongKind {document : Toml.Table} {entry : Entry} {value : Toml.Value}
      (isDocument : IsDocument workspace bytes document)
      (earlier : ∀ other : Entry, other.rank < entry.rank →
        other.IsRight workspace.homes document)
      (isGiven : entry.given? document = some value)
      (unmet : ¬ entry.requirement.IsMetBy value) :
      Rejects workspace file bytes (.invalid entry entry.requirement)
  | notPositive {document : Toml.Table} {settings : Settings} {entry : Entry}
      (isDocument : IsDocument workspace bytes document)
      (describes : Describes workspace file document settings)
      (canLookUp : workspace.tree.CanLookUp settings.specsDirectory)
      (earlier : ∀ other : Entry, other.rank < entry.rank → settings.IsPositive other)
      (unmet : ¬ settings.IsPositive entry) :
      Rejects workspace file bytes (.invalid entry .positive)

/-- Which faults in the content of a settings file are told as no error of it. -/
inductive BreaksOff (workspace : Workspace) (file : Path) (bytes : Bytes) : Error → Prop
  | notText (noText : ∀ text, Utf8.decode bytes ≠ .ok text) :
      BreaksOff workspace file bytes .notText
  | integerTooLong {text : Text} (isText : Utf8.decode bytes = .ok text)
      (isTooLong : Toml.read workspace.room.settings text = .error .integerTooLong) :
      BreaksOff workspace file bytes .integerTooLong
  | tooDeep {text : Text} (isText : Utf8.decode bytes = .ok text)
      (isTooDeep : Toml.read workspace.room.settings text = .error .tooDeep) :
      BreaksOff workspace file bytes .tooDeep
  | noSection {document : Toml.Table} {entry : Entry}
      (isDocument : IsDocument workspace bytes document)
      (earlier : ∀ other : Entry, other.rank < entry.rank →
        other.IsRight workspace.homes document)
      (unusable : ¬ entry.HasSection document) :
      BreaksOff workspace file bytes .notSection
  | unknownHome {document : Toml.Table} {text : Text}
      (isDocument : IsDocument workspace bytes document)
      (isGiven : Entry.specsDirectory.given? document = some (.string text))
      (isUnknown : (Path.ofText text).expandHome workspace.homes = none) :
      BreaksOff workspace file bytes (.badPath .unknownHome)
  | lost {document : Toml.Table} {path : Path} {fault : PathFault}
      (isDocument : IsDocument workspace bytes document)
      (right : ∀ entry : Entry, entry.IsRight workspace.homes document)
      (names : NamesDirectory workspace document file path)
      (isLost : workspace.locate path = .error fault) :
      BreaksOff workspace file bytes (.badPath fault)
  | tooLong {document : Toml.Table} {settings : Settings}
      (isDocument : IsDocument workspace bytes document)
      (describes : Describes workspace file document settings)
      (unreachable : ¬ workspace.tree.CanLookUp settings.specsDirectory) :
      BreaksOff workspace file bytes (.badPath .tooLong)

variable {workspace : Workspace} {file : Path} {bytes : Bytes}

/-! ## Checking -/

theorem NamesDirectory.unique {document : Toml.Table} {first second : Path}
    (names : NamesDirectory workspace document file first)
    (alsoNames : NamesDirectory workspace document file second) : first = second := by
  cases names with
  | given isGiven isKnown =>
      cases alsoNames with
      | given alsoGiven alsoKnown =>
          rw [isGiven] at alsoGiven
          cases alsoGiven
          rw [isKnown] at alsoKnown
          cases alsoKnown
          rfl
      | standard notGiven => simp [isGiven] at notGiven
  | standard notGiven =>
      cases alsoNames with
      | given alsoGiven alsoKnown => simp [notGiven] at alsoGiven
      | standard => rfl

/-- The described settings are read, but for their directory, which is still to be located. -/
theorem Describes.ofDocument_eq {document : Toml.Table} {settings : Settings}
    (describes : Describes workspace file document settings) :
    ∃ path, ofDocument workspace document file = .ok { settings with specsDirectory := path } ∧
      workspace.locate path = .ok settings.specsDirectory := by
  rcases describes with ⟨right, values, ⟨path, names, located⟩, source⟩
  rcases ofDocument_of_isRight right file with ⟨read, isRead, namesRead, valuesRead, sourceRead⟩
  have sameDirectory := namesRead.unique names
  have sameValue (entry : Entry) (isOther : entry ≠ .specsDirectory) :
      read.value entry = settings.value entry :=
    (valuesRead entry isOther).trans (values entry isOther).symm
  refine ⟨path, ?_, located⟩
  have isColored := Toml.Value.bool.inj (sameValue .isColored (by decide))
  have maxMatches := Toml.Value.int.inj (sameValue .maxMatches (by decide))
  have reach := Toml.Value.int.inj (sameValue .reach (by decide))
  have withArchive := Toml.Value.bool.inj (sameValue .withArchive (by decide))
  rw [isRead, ← sameDirectory, ← isColored, ← maxMatches, ← reach, ← withArchive, source,
    ← sourceRead]

/-- All numbers of some settings are positive if both are. -/
theorem forall_isPositive_iff {settings : Settings} :
    (∀ entry, settings.IsPositive entry) ↔ 1 ≤ settings.maxMatches ∧ 1 ≤ settings.reach := by
  constructor
  · exact fun positive => ⟨positive .maxMatches _ rfl, positive .reach _ rfl⟩
  · rintro ⟨manyMatches, farReach⟩ entry value isValue
    cases entry with
    | maxMatches => cases isValue; exact manyMatches
    | reach => cases isValue; exact farReach
    | _ => cases isValue

/-- Settings whose directory can be looked up are checked for their numbers. -/
theorem validate_of_canLookUp {settings : Settings} {path : Path}
    (located : workspace.locate path = .ok settings.specsDirectory)
    (canLookUp : workspace.tree.CanLookUp settings.specsDirectory) :
    validate workspace { settings with specsDirectory := path } =
      if settings.maxMatches < 1 then .error (.invalid .maxMatches .positive)
      else if settings.reach < 1 then .error (.invalid .reach .positive)
      else .ok (settings, if (workspace.tree.at? settings.specsDirectory).isSome then []
        else [.noSpecsDirectory settings.specsDirectory]) := by
  have holds : workspace.tree.holds settings.specsDirectory =
      .ok (workspace.tree.at? settings.specsDirectory).isSome := by
    rcases FileTree.holds_cases (Workspace.of_locate_eq_ok located).2 workspace.tree with
      ⟨_, holds⟩ | ⟨cannot, _⟩
    · exact holds
    · exact absurd canLookUp cannot
  simp [validate, locate, located, holds, Except.mapError, bind, Except.bind, pure, Except.pure]

theorem validate_of_not_canLookUp {settings : Settings} {path : Path}
    (located : workspace.locate path = .ok settings.specsDirectory)
    (unreachable : ¬ workspace.tree.CanLookUp settings.specsDirectory) :
    validate workspace { settings with specsDirectory := path } = .error (.badPath .tooLong) := by
  have fails : workspace.tree.holds settings.specsDirectory = .error .tooLong := by
    rcases FileTree.holds_cases (Workspace.of_locate_eq_ok located).2 workspace.tree with
      ⟨can, _⟩ | ⟨_, fails⟩
    · exact absurd can unreachable
    · exact fails
  simp [validate, locate, located, fails, Except.mapError, bind, Except.bind]

/-! ## Loading -/

section Loading

variable {path : Option Path}
  (located : locate workspace (path.getD (standardFile workspace)) = .ok file)
  (isFile : workspace.tree.find file = .ok (some (.file bytes)))

include located isFile

theorem load_eq : load workspace path =
    readDocument workspace.room.settings bytes file >>= fun document =>
      ofDocument workspace document file >>= validate workspace := by
  simp [load, located, isFile, Except.mapError, bind, Except.bind]

theorem load_of_isDocument {document : Toml.Table}
    (isDocument : IsDocument workspace bytes document) :
    load workspace path = ofDocument workspace document file >>= validate workspace := by
  rcases isDocument with ⟨text, isText, isRead⟩
  rw [load_eq located isFile]
  simp [readDocument, isText, isRead, bind, Except.bind]

theorem load_of_accepts {settings : Settings} {warnings : List Warning}
    (accepts : Accepts workspace file bytes settings warnings) :
    load workspace path = .ok (settings, warnings) := by
  rcases accepts with ⟨⟨document, isDocument, describes⟩, canLookUp, positive, rfl⟩
  rcases describes.ofDocument_eq with ⟨path, isRead, isLocated⟩
  rcases forall_isPositive_iff.mp positive with ⟨manyMatches, farReach⟩
  rw [load_of_isDocument located isFile isDocument, isRead]
  change validate workspace { settings with specsDirectory := path } = _
  rw [validate_of_canLookUp isLocated canLookUp, if_neg (by omega), if_neg (by omega)]

theorem load_of_rejects {error : Error} (rejects : Rejects workspace file bytes error) :
    load workspace path = .error error := by
  cases rejects with
  | malformed isText isMalformed =>
      rw [load_eq located isFile]
      simp [readDocument, isText, isMalformed, bind, Except.bind]
  | wrongKind isDocument earlier isGiven unmet =>
      rw [load_of_isDocument located isFile isDocument,
        ofDocument_of_isWrong (.unmet isGiven unmet) earlier]
      rfl
  | notPositive isDocument describes canLookUp earlier unmet =>
      rename_i document settings entry
      rcases describes.ofDocument_eq with ⟨path, isRead, isLocated⟩
      rw [load_of_isDocument located isFile isDocument, isRead]
      change validate workspace { settings with specsDirectory := path } = _
      rw [validate_of_canLookUp isLocated canLookUp]
      simp only [IsPositive, not_forall] at unmet
      rcases unmet with ⟨value, isValue, small⟩
      cases entry with
      | maxMatches =>
          cases isValue
          exact if_pos (not_le.mp small)
      | reach =>
          cases isValue
          have manyMatches : 1 ≤ settings.maxMatches := earlier .maxMatches (by decide) _ rfl
          rw [if_neg (by omega)]
          exact if_pos (not_le.mp small)
      | _ => cases isValue

theorem load_of_breaksOff {error : Error} (breaksOff : BreaksOff workspace file bytes error) :
    load workspace path = .error error := by
  cases breaksOff with
  | notText noText =>
      rw [load_eq located isFile]
      cases isText : Utf8.decode bytes with
      | ok text => exact absurd isText (noText text)
      | error fault => simp [readDocument, isText, bind, Except.bind]
  | integerTooLong isText isTooLong =>
      rw [load_eq located isFile]
      simp [readDocument, isText, isTooLong, bind, Except.bind]
  | tooDeep isText isTooDeep =>
      rw [load_eq located isFile]
      simp [readDocument, isText, isTooDeep, bind, Except.bind]
  | noSection isDocument earlier unusable =>
      rw [load_of_isDocument located isFile isDocument,
        ofDocument_of_isWrong (.noSection unusable) earlier]
      rfl
  | unknownHome isDocument isGiven isUnknown =>
      rw [load_of_isDocument located isFile isDocument,
        ofDocument_of_isWrong (.unknownHome isGiven rfl isUnknown) (by simp [Entry.rank])]
      rfl
  | lost isDocument right names isLost =>
      rcases ofDocument_of_isRight right file with ⟨settings, isRead, namesRead, _⟩
      rw [load_of_isDocument located isFile isDocument, isRead]
      simp [validate, locate, namesRead.unique names, isLost, Except.mapError, bind, Except.bind]
  | tooLong isDocument describes unreachable =>
      rcases describes.ofDocument_eq with ⟨path, isRead, isLocated⟩
      rw [load_of_isDocument located isFile isDocument, isRead]
      exact validate_of_not_canLookUp isLocated unreachable

end Loading

/-- A document is used, rejected, or breaks the loading off. -/
theorem outcome_of_isDocument {document : Toml.Table}
    (isDocument : IsDocument workspace bytes document) :
    (∃ settings warnings, Accepts workspace file bytes settings warnings) ∨
      (∃ error, Rejects workspace file bytes error) ∨
      ∃ error, BreaksOff workspace file bytes error := by
  rcases Entry.forall_or_exists_first (·.IsRight workspace.homes document) with
    right | ⟨entry, notRight, earlier⟩
  · rcases ofDocument_of_isRight right file with ⟨read, isRead, names, values, source⟩
    cases isLocated : workspace.locate read.specsDirectory with
    | error fault => exact .inr (.inr ⟨_, .lost isDocument right names isLocated⟩)
    | ok directory =>
        have describes : Describes workspace file document
            { read with specsDirectory := directory } := by
          refine ⟨right, fun entry isOther => ?_, ⟨_, names, isLocated⟩, source⟩
          rw [← values entry isOther]
          cases entry with
          | specsDirectory => exact absurd rfl isOther
          | _ => rfl
        by_cases canLookUp : workspace.tree.CanLookUp directory
        · rcases Entry.forall_or_exists_first
              (IsPositive { read with specsDirectory := directory }) with
            positive | ⟨entry, unmet, earlier⟩
          · exact .inl ⟨_, _, ⟨document, isDocument, describes⟩, canLookUp, positive, rfl⟩
          · exact .inr (.inl ⟨_, .notPositive isDocument describes canLookUp earlier unmet⟩)
        · exact .inr (.inr ⟨_, .tooLong isDocument describes canLookUp⟩)
  · rcases entry.isRight_or_isWrong workspace.homes document with right | ⟨error, wrong⟩
    · exact absurd right notRight
    cases wrong with
    | noSection unusable => exact .inr (.inr ⟨_, .noSection isDocument earlier unusable⟩)
    | unmet isGiven unmet => exact .inr (.inl ⟨_, .wrongKind isDocument earlier isGiven unmet⟩)
    | unknownHome isGiven isPath isUnknown =>
        cases entry with
        | specsDirectory => exact .inr (.inr ⟨_, .unknownHome isDocument isGiven isUnknown⟩)
        | _ => cases isPath

/-- A file is used, rejected, or breaks the loading off, whatever is in it. -/
theorem outcome_of_file (workspace : Workspace) (file : Path) (bytes : Bytes) :
    (∃ settings warnings, Accepts workspace file bytes settings warnings) ∨
      (∃ error, Rejects workspace file bytes error) ∨
      ∃ error, BreaksOff workspace file bytes error := by
  cases isText : Utf8.decode bytes with
  | error fault => exact .inr (.inr ⟨_, .notText (by simp [isText])⟩)
  | ok text =>
      cases isRead : Toml.read workspace.room.settings text with
      | ok document => exact outcome_of_isDocument ⟨text, isText, isRead⟩
      | error fault =>
          cases fault with
          | malformed => exact .inr (.inl ⟨_, .malformed isText isRead⟩)
          | integerTooLong => exact .inr (.inr ⟨_, .integerTooLong isText isRead⟩)
          | tooDeep => exact .inr (.inr ⟨_, .tooDeep isText isRead⟩)

/-- What is found in the content is told as an error of the settings file. -/
theorem Rejects.isSome_message? {error : Error} (rejects : Rejects workspace file bytes error) :
    error.message?.isSome = true := by
  cases rejects <;> rfl

theorem BreaksOff.message?_eq_none {error : Error}
    (breaksOff : BreaksOff workspace file bytes error) : error.message? = none := by
  cases breaksOff <;> rfl

/-- From a file that is there, settings are loaded exactly as its content describes them.  An
error of the settings file is told for what is found in its content, the first thing that is
wrong; and exactly the other faults break the loading off.  What is loaded has an absolute
directory without dots. -/
theorem load_of_file {path : Option Path}
    (located : locate workspace (path.getD (standardFile workspace)) = .ok file)
    (isFile : workspace.tree.find file = .ok (some (.file bytes))) :
    (∀ settings warnings, load workspace path = .ok (settings, warnings) ↔
        Accepts workspace file bytes settings warnings) ∧
      (∀ error, load workspace path = .error error ∧ error.message?.isSome = true ↔
        Rejects workspace file bytes error) ∧
      (∀ error, load workspace path = .error error ∧ error.message? = none ↔
        BreaksOff workspace file bytes error) ∧
      ∀ settings warnings, load workspace path = .ok (settings, warnings) →
        settings.specsDirectory.anchor = .root ∧
          ∀ name ∈ settings.specsDirectory.parts, name ≠ ['.', '.'] := by
  -- Each relation decides the outcome and one of them always holds, so that the outcome tells
  -- which one it is.
  have accepted := @load_of_accepts workspace file bytes path located isFile
  have rejected := @load_of_rejects workspace file bytes path located isFile
  have brokenOff := @load_of_breaksOff workspace file bytes path located isFile
  have isAccepted (settings : Settings) (warnings : List Warning) :
      load workspace path = .ok (settings, warnings) ↔
        Accepts workspace file bytes settings warnings := by
    refine ⟨fun loaded => ?_, accepted⟩
    rcases outcome_of_file workspace file bytes with
      ⟨settings', warnings', accepts⟩ | ⟨error, rejects⟩ | ⟨error, breaksOff⟩
    · have same := (accepted accepts).symm.trans loaded
      cases same
      exact accepts
    · exact absurd ((rejected rejects).symm.trans loaded) (by simp)
    · exact absurd ((brokenOff breaksOff).symm.trans loaded) (by simp)
  refine ⟨isAccepted, fun error => ⟨?_, fun rejects => ⟨rejected rejects, rejects.isSome_message?⟩⟩,
    fun error => ⟨?_, fun breaksOff => ⟨brokenOff breaksOff, breaksOff.message?_eq_none⟩⟩, ?_⟩
  · rintro ⟨failed, isOwn⟩
    rcases outcome_of_file workspace file bytes with
      ⟨settings, warnings, accepts⟩ | ⟨error', rejects⟩ | ⟨error', breaksOff⟩
    · exact absurd ((accepted accepts).symm.trans failed) (by simp)
    · cases (rejected rejects).symm.trans failed
      exact rejects
    · cases (brokenOff breaksOff).symm.trans failed
      simp [breaksOff.message?_eq_none] at isOwn
  · rintro ⟨failed, isForeign⟩
    rcases outcome_of_file workspace file bytes with
      ⟨settings, warnings, accepts⟩ | ⟨error', rejects⟩ | ⟨error', breaksOff⟩
    · exact absurd ((accepted accepts).symm.trans failed) (by simp)
    · cases (rejected rejects).symm.trans failed
      have isOwn := rejects.isSome_message?
      simp [isForeign] at isOwn
    · cases (brokenOff breaksOff).symm.trans failed
      exact breaksOff
  · intro settings warnings loaded
    rcases (isAccepted settings warnings).mp loaded with ⟨⟨_, _, describes⟩, _⟩
    rcases describes.directory with ⟨named, _, isLocated⟩
    exact Workspace.of_locate_eq_ok isLocated

/-! ## A file on its own -/

/-- A settings file at the top of the file system. -/
def soleFile : Path := ⟨.root, ["c.toml".toList]⟩

/-- What a command sees that runs at the top of a file system, where its home is too. -/
def topWorkspace (tree : FileTree) : Workspace := ⟨⟨.root, []⟩, ⟨⟨.root, []⟩, []⟩, tree, {}⟩

/-- A file system with nothing in it but a settings file of some text. -/
def soleWorkspace (text : Text) : Workspace :=
  topWorkspace (.directory [("c.toml".toList, .file (Utf8.encode text))])

theorem find_soleFile (text : Text) :
    (soleWorkspace text).tree.find soleFile = .ok (some (.file (Utf8.encode text))) := by
  have short : (Utf8.encode soleFile.text).length ≤ FileTree.pathLimit := by decide +kernel
  rw [FileTree.find_of_le short]
  exact FileTree.walk_of_lookup_eq_some (by decide) (by decide +kernel) rfl

/-- A number in the place of a section breaks the loading off: no error of the settings file is
told. -/
theorem load_of_file_numberForSection :
    load (soleWorkspace "search = 5\n".toList) (some soleFile) = .error .notSection ∧
      Error.message? .notSection = none := by
  have located : locate (soleWorkspace "search = 5\n".toList)
      ((some soleFile).getD (standardFile (soleWorkspace "search = 5\n".toList))) =
        .ok soleFile := rfl
  have isRead (room : Nat) :
      Toml.read room "search = 5\n".toList = .ok [("search".toList, .int 5)] := by
    have bare : Toml.IsBareName "search".toList := Toml.isBareName_of_all rfl
    have short : (Toml.Scalar.int 5).IsShort := by
      change _ ≤ _
      decide +kernel
    have whole : "search = 5\n".toList =
        "search".toList ++ " = ".toList ++ (Toml.Scalar.int 5).write ++ ['\n'] := rfl
    rw [whole, Toml.read_entry bare short]
    rfl
  have notGiven (entry : Entry) : entry.given? [("search".toList, .int 5)] = none := by
    cases entry <;> rfl
  have earlier : ∀ other : Entry, other.rank < Entry.maxMatches.rank →
      other.IsRight (soleWorkspace "search = 5\n".toList).homes [("search".toList, .int 5)] := by
    intro other before
    refine ⟨?_, fun _ isGiven => ?_, fun _ isGiven => ?_⟩
    · cases other with
      | specsDirectory | isColored => exact trivial
      | _ => exact absurd before (by decide)
    all_goals
      rw [notGiven] at isGiven
      cases isGiven
  exact ((load_of_file located (find_soleFile _)).2.2.1 .notSection).mpr
    (.noSection ⟨_, Utf8.decode_encode _, isRead _⟩ earlier id)

end SpecFinder.Settings
