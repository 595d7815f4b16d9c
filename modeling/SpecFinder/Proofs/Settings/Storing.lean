import SpecFinder.Proofs.Settings.Loading
import SpecFinder.Proofs.Toml.Documents

/-!
# Saved settings load back

Settings that were saved are loaded again as they were, with the file as their source.  Every
character of the directory survives being written and read.  Numbers that are not positive
are saved all the same, and rejected when they are loaded; and a directory that cannot be
looked up breaks the loading off.
-/

namespace SpecFinder.Settings

/-! ## The written document -/

theorem sections_eq (settings : Settings) : settings.sections = [
    ⟨"paths".toList, [("specs_dir".toList, .string settings.specsDirectory.text)]⟩,
    ⟨"display".toList, [("colored_output".toList, .bool settings.isColored)]⟩,
    ⟨"search".toList, [
      ("max_matches_per_spec".toList, .int settings.maxMatches),
      ("context_length".toList, .int settings.reach),
      ("include_archived".toList, .bool settings.withArchive)]⟩] := rfl

theorem document_eq (settings : Settings) : settings.document = Toml.write settings.sections := rfl

/-- Whether both numbers of some settings have few enough digits to be read. -/
structure HasShortNumbers (settings : Settings) : Prop where
  maxMatches : (Toml.Scalar.int settings.maxMatches).IsShort
  reach : (Toml.Scalar.int settings.reach).IsShort

variable {settings : Settings}

theorem isWritable_of_mem_sections (short : settings.HasShortNumbers) {part : Toml.Section}
    (member : part ∈ settings.sections) : part.IsWritable := by
  simp only [sections_eq, List.mem_cons, List.not_mem_nil, or_false] at member
  rcases member with rfl | rfl | rfl
  · exact Toml.Section.isWritable_of_all rfl (by simp) (by simp [Toml.Scalar.IsShort])
  · exact Toml.Section.isWritable_of_all rfl (by simp) (by simp [Toml.Scalar.IsShort])
  · have shortNumbers : ∀ entry ∈ [
        ("max_matches_per_spec".toList, Toml.Scalar.int settings.maxMatches),
        ("context_length".toList, .int settings.reach),
        ("include_archived".toList, .bool settings.withArchive)], entry.2.IsShort := by
      intro entry member
      simp only [List.mem_cons, List.not_mem_nil, or_false] at member
      rcases member with rfl | rfl | rfl
      · exact short.maxMatches
      · exact short.reach
      · trivial
    exact Toml.Section.isWritable_of_all rfl (by simp) shortNumbers

/-- The written settings are a document of their sections. -/
theorem isDocument_document (short : settings.HasShortNumbers) (workspace : Workspace) :
    IsDocument workspace (Utf8.encode settings.document) (Toml.tableOf settings.sections) := by
  have read : Toml.read workspace.room.settings settings.document =
      .ok (Toml.tableOf settings.sections) := by
    rw [document_eq]
    exact Toml.read_write (fun _ => isWritable_of_mem_sections short) (by simp [sections_eq])
  exact ⟨settings.document, Utf8.decode_encode settings.document, read⟩

/-- The written settings give every entry its value. -/
theorem given?_tableOf_sections (settings : Settings) (entry : Entry) :
    entry.given? (Toml.tableOf settings.sections) = some (settings.value entry) := by
  cases entry <;> rfl

/-- The written settings describe themselves. -/
theorem describes_tableOf_sections (workspace : Workspace) (file : Path)
    (resolved : settings.specsDirectory.IsResolved) :
    Describes workspace file (Toml.tableOf settings.sections)
      { settings with source := some file } := by
  have isKnown : (Path.ofText settings.specsDirectory.text).expandHome workspace.homes =
      some settings.specsDirectory := by
    rw [resolved.ofText_text]
    exact Path.expandHome_of_isAbsolute _ resolved.isAbsolute
  refine ⟨fun entry => ⟨?_, ?_, ?_⟩, ?_, ?_, rfl⟩
  · exact Entry.hasSection_of_given?_eq_some (given?_tableOf_sections settings entry)
  · intro value isGiven
    rw [given?_tableOf_sections] at isGiven
    cases isGiven
    cases entry <;> trivial
  · intro text isGiven isPath
    rw [given?_tableOf_sections] at isGiven
    cases entry with
    | specsDirectory =>
        cases isGiven
        simp [isKnown]
    | _ => cases isPath
  · intro entry isOther
    rw [given?_tableOf_sections]
    cases entry with
    | specsDirectory => exact absurd rfl isOther
    | _ => rfl
  · have named : NamesDirectory workspace (Toml.tableOf settings.sections) file
        (file.parent.append settings.specsDirectory) :=
      .given (given?_tableOf_sections settings .specsDirectory) isKnown
    rw [Path.append_of_isAbsolute _ resolved.isAbsolute] at named
    exact ⟨_, named, Workspace.locate_of_isResolved resolved⟩

/-! ## The written file -/

/-- A saved text is in the file that was named, and nothing but files has changed. -/
theorem find_of_saveText {workspace saved : Workspace} {text : Text} {path : Path}
    (isSaved : saveText workspace text path = .ok saved) :
    ∃ file, workspace.locate path = .ok file ∧ saved.locate path = .ok file ∧
      saved.tree.find file = .ok (some (.file (Utf8.encode text))) := by
  rw [saveText] at isSaved
  cases located : workspace.locate path with
  | error fault => simp [located] at isSaved
  | ok file =>
      rcases written : FileTree.write (Utf8.encode text) workspace.tree file.parts
        with ⟨tree, fault⟩
      cases found : workspace.tree.find file with
      | error fault => simp [located, found] at isSaved
      | ok before =>
          cases fault with
          | some fault => simp [located, found, written] at isSaved
          | none =>
              simp only [located, found, written, Except.ok.injEq] at isSaved
              subst isSaved
              -- The path was looked up before the file was written.
              have short : (Utf8.encode file.text).length ≤ FileTree.pathLimit := by
                by_contra long
                rw [FileTree.find, if_pos (by omega)] at found
                cases found
              refine ⟨file, rfl, located, ?_⟩
              rw [FileTree.find_of_le short]
              exact FileTree.walk_write _ (Workspace.of_locate_eq_ok located).2 written []

/-- Saved settings load back from the file that they were saved in, if their directory can be
looked up and their numbers are positive; the first number that is not positive is rejected. -/
theorem load_save {workspace saved : Workspace} {path : Path}
    (resolved : settings.specsDirectory.IsResolved) (short : settings.HasShortNumbers)
    (isSaved : save workspace settings (some path) = .ok saved) :
    ∃ file, workspace.locate path = .ok file ∧
      (saved.tree.CanLookUp settings.specsDirectory → load saved (some path) =
        if settings.maxMatches < 1 then .error (.invalid .maxMatches .positive)
        else if settings.reach < 1 then .error (.invalid .reach .positive)
        else .ok ({ settings with source := some file },
          if (saved.tree.at? settings.specsDirectory).isSome then []
          else [.noSpecsDirectory settings.specsDirectory])) ∧
      (¬ saved.tree.CanLookUp settings.specsDirectory →
        load saved (some path) = .error (.badPath .tooLong)) := by
  have isChosen : chosenFile workspace settings (some path) = path := rfl
  rcases find_of_saveText isSaved with ⟨file, located, locatedAgain, isFile⟩
  rw [isChosen] at located locatedAgain
  have found : locate saved ((some path).getD (standardFile saved)) = .ok file := by
    simp [locate, locatedAgain, Except.mapError]
  have describes := describes_tableOf_sections saved file resolved
  rcases describes.ofDocument_eq with ⟨path', isRead, isLocated⟩
  have loaded := load_of_isDocument found isFile (isDocument_document short saved)
  rw [isRead] at loaded
  refine ⟨file, located, fun canLookUp => ?_, fun unreachable => ?_⟩
  · exact loaded.trans (validate_of_canLookUp isLocated canLookUp)
  · exact loaded.trans (validate_of_not_canLookUp isLocated unreachable)

/-! ## Entry by entry -/

theorem all_isShort_sections_iff :
    settings.sections.all Toml.Section.isShort = true ↔ settings.HasShortNumbers := by
  rw [sections_eq]
  simp only [List.all_cons, List.all_nil, Toml.Section.isShort, Toml.Scalar.isShort,
    Bool.and_true, Bool.true_and, Bool.and_eq_true, decide_eq_true_eq]
  exact ⟨fun ⟨maxMatches, reach⟩ => ⟨maxMatches, reach⟩,
    fun short => ⟨short.maxMatches, short.reach⟩⟩

/-- Settings are saved entry by entry exactly if they can be saved at once and no integer is too
long to be written. -/
theorem store_eq_ok_iff {workspace saved : Workspace} {path : Option Path} :
    store workspace settings path = .ok saved ↔
      settings.HasShortNumbers ∧ save workspace settings path = .ok saved := by
  rw [← all_isShort_sections_iff, store]
  by_cases isShort : settings.sections.all Toml.Section.isShort = true
  · rw [save, document_eq, Toml.cut_of_all_isShort isShort]
    cases saveText workspace (Toml.write settings.sections) (chosenFile workspace settings path) <;>
      simp [isShort]
  · cases saveText workspace (Toml.write (Toml.cut settings.sections))
      (chosenFile workspace settings path) <;> simp [isShort]

/-- An integer that is too long leaves a file behind with the entries before it. -/
theorem find_of_store_eq_integerTooLong {workspace left : Workspace} {path : Path}
    (failed : store workspace settings (some path) = .error (.integerTooLong left)) :
    ¬ settings.HasShortNumbers ∧ ∃ file, workspace.locate path = .ok file ∧
      left.tree.find file =
        .ok (some (.file (Utf8.encode (Toml.write (Toml.cut settings.sections))))) := by
  rw [← all_isShort_sections_iff]
  have isChosen : chosenFile workspace settings (some path) = path := rfl
  rw [store, isChosen] at failed
  cases isSaved : saveText workspace (Toml.write (Toml.cut settings.sections)) path with
  | error error => simp [isSaved] at failed
  | ok written =>
      by_cases isShort : settings.sections.all Toml.Section.isShort = true
      · simp [isSaved, isShort] at failed
      · simp only [isSaved, isShort] at failed
        cases failed
        rcases find_of_saveText isSaved with ⟨file, located, _, isFile⟩
        exact ⟨isShort, file, located, isFile⟩

/-! ## A file on its own -/

/-- In an empty file system, settings are saved as its only file. -/
theorem save_soleFile (settings : Settings) :
    save (topWorkspace FileTree.empty) settings (some soleFile) =
      .ok (soleWorkspace settings.document) := by
  have short : (Utf8.encode soleFile.text).length ≤ FileTree.pathLimit := by decide +kernel
  have notLong : ¬ FileTree.isLongName "c.toml".toList = true := by decide +kernel
  have located : (topWorkspace FileTree.empty).locate soleFile = .ok soleFile := rfl
  have absent : (topWorkspace FileTree.empty).tree.find soleFile = .ok none := by
    rw [FileTree.find_of_le short]
    exact FileTree.walk_of_lookup_eq_none (by decide) notLong rfl
  have written : FileTree.write (Utf8.encode settings.document) (topWorkspace FileTree.empty).tree
      soleFile.parts = ((soleWorkspace settings.document).tree, none) := by
    simp only [topWorkspace, soleFile, FileTree.empty, FileTree.write, notLong]
    rfl
  have isChosen :
      chosenFile (topWorkspace FileTree.empty) settings (some soleFile) = soleFile := rfl
  simp only [save, saveText, isChosen, located, absent, written]
  rfl

/-- Settings with a directory that is there are loaded back without a remark, but a directory
whose name is too long breaks the loading off. -/
theorem load_save_longName :
    load (soleWorkspace (document { specsDirectory := ⟨.root, []⟩ })) (some soleFile) =
        .ok ({ specsDirectory := ⟨.root, []⟩, source := some soleFile }, []) ∧
      load (soleWorkspace (document { specsDirectory := ⟨.root, [List.replicate 300 'x']⟩ }))
        (some soleFile) = .error (.badPath .tooLong) := by
  have shortNumbers (directory : Path) : HasShortNumbers { specsDirectory := directory } := by
    have shortFive : (Toml.Scalar.int 5).IsShort := by
      change _ ≤ _
      decide +kernel
    have shortEighty : (Toml.Scalar.int 80).IsShort := by
      change _ ≤ _
      decide +kernel
    exact ⟨shortFive, shortEighty⟩
  have isThere : (topWorkspace FileTree.empty).locate soleFile = .ok soleFile := rfl
  constructor
  · have resolved : Path.IsResolved ⟨.root, []⟩ := ⟨rfl, by simp⟩
    have shortPath : (Utf8.encode (Path.text ⟨.root, []⟩)).length ≤ FileTree.pathLimit := by
      decide +kernel
    rcases load_save resolved (shortNumbers _) (save_soleFile { specsDirectory := ⟨.root, []⟩ })
      with ⟨file, located, loads, _⟩
    cases located.symm.trans isThere
    have found (tree : FileTree) : tree.at? ⟨.root, []⟩ = some tree := by
      rw [FileTree.at?, FileTree.find_of_le shortPath]
      rfl
    have loaded := loads ⟨shortPath, by simp⟩
    rw [found] at loaded
    exact loaded
  · have resolved : Path.IsResolved ⟨.root, [List.replicate 300 'x']⟩ := by
      refine ⟨rfl, fun name member => ?_⟩
      rw [List.mem_singleton.mp member]
      exact ⟨by decide, by decide, by decide, by decide, by decide⟩
    have long : FileTree.isLongName (List.replicate 300 'x') = true := by decide +kernel
    rcases load_save resolved (shortNumbers _)
        (save_soleFile { specsDirectory := ⟨.root, [List.replicate 300 'x']⟩ })
      with ⟨file, located, _, fails⟩
    refine fails fun canLookUp => ?_
    have notLong := canLookUp.notLongBelow [] (List.replicate 300 'x') [] _ rfl rfl
    rw [long] at notLong
    cases notLong

end SpecFinder.Settings
