import Mathlib.Data.List.Forall2
import SpecFinder.Library
import SpecFinder.Proofs.Files.Access
import SpecFinder.Proofs.Text.Order

/-!
# The documents of a library

Each directory of a library that has a document is a spec, and the documents are read in the
order of the names of these directories, those out of use last.  Before any of them is read,
all entries are looked up: where that is refused or a path is too long, nothing is loaded.
-/

namespace SpecFinder.Library

variable {Refusal : Type}

namespace Document

/-- Whether a document makes a spec. -/
def IsSpec (room : Nat) (document : Document Refusal) : Prop :=
  ∃ spec, document.spec room = .ok spec

/-- Whether a document is that of a spec in a directory of specs. -/
structure IsIn (document : Document Refusal) (machine : Machine Refusal) (library : FileTree)
    (directory : Path) : Prop where
  path : document.path = (directory.entry document.name).entry documentName
  holds : ∃ inner content, library.entries.lookup document.name = some inner ∧
    inner.entries.lookup documentName = some (.file content) ∧
    document.content = machine.read document.path content

end Document

/-- The specs that are out of use. -/
def archiveOf (library : FileTree) : FileTree :=
  (library.entries.lookup archiveName).getD .empty

/-- Whether there is a directory of specs that are out of use. -/
def hasArchive (library : FileTree) : Bool :=
  (library.entries.lookup archiveName).any (·.isDirectory)

/-! ## What goes wrong before documents are read -/

section Faults

variable (machine : Machine Refusal) (library : FileTree) (directory : Path)

/-- What keeps an entry of a directory of specs from being looked up, with a document in it. -/
def entryFault? (entry : Text × FileTree) : Option (AccessFault Refusal) :=
  (machine.fault? (directory.entry entry.1)).or
    (if entry.2.isDirectory then machine.fault? ((directory.entry entry.1).entry documentName)
      else none)

/-- What keeps a directory of specs from being searched: it may not be listed, or an entry
cannot be looked up.  The first such entry that is listed decides. -/
def searchFault? : Option (AccessFault Refusal) :=
  ((machine.list? directory).map .refused).or
    (library.entries.findSome? (entryFault? machine directory))

/-- What keeps the archive of a library from being searched. -/
def archiveFault? : Option (AccessFault Refusal) :=
  (machine.fault? (directory.entry archiveName)).or
    (if hasArchive library
      then searchFault? machine (archiveOf library) (directory.entry archiveName) else none)

/-- What keeps a library from being searched, the specs in use first. -/
def libraryFault? (withArchive : Bool) : Option (AccessFault Refusal) :=
  (searchFault? machine library directory).or
    (if withArchive then archiveFault? machine library directory else none)

end Faults

/-! ## One after the other -/

section Sequences

variable {α β ε : Type} {run : α → Except ε β} {items : List α}

theorem mapM_cons_of_eq_ok {item : α} {result : β} (succeeds : run item = .ok result) :
    (item :: items).mapM run = (items.mapM run).map (result :: ·) := by
  rw [List.mapM_cons, succeeds]
  cases items.mapM run <;> rfl

theorem mapM_cons_of_eq_error {item : α} {fault : ε} (fails : run item = .error fault) :
    (item :: items).mapM run = .error fault := by
  rw [List.mapM_cons, fails]
  rfl

/-- All items succeed, each with its own result. -/
theorem mapM_eq_ok_iff {results : List β} :
    items.mapM run = .ok results ↔
      List.Forall₂ (fun item result => run item = .ok result) items results := by
  induction items generalizing results with
  | nil =>
      rw [List.mapM_nil, List.forall₂_nil_left_iff]
      constructor
      · intro same
        cases same
        rfl
      · rintro rfl
        rfl
  | cons item items ih =>
      rw [List.forall₂_cons_left_iff]
      cases outcome : run item with
      | error fault => simp [mapM_cons_of_eq_error outcome]
      | ok result =>
          rw [mapM_cons_of_eq_ok outcome]
          cases behind : items.mapM run with
          | error fault => simp [Except.map, ← ih, behind]
          | ok others => simp [Except.map, ← ih, behind, eq_comm]

/-- Each item has a result, and each result has an item. -/
theorem mem_of_mapM_eq_ok {results : List β} (succeeded : items.mapM run = .ok results) :
    (∀ item ∈ items, ∃ result ∈ results, run item = .ok result) ∧
      ∀ result ∈ results, ∃ item ∈ items, run item = .ok result := by
  induction mapM_eq_ok_iff.mp succeeded with
  | nil => simp
  | cons succeeds each ih =>
      rcases ih (mapM_eq_ok_iff.mpr each) with ⟨hasResult, hasItem⟩
      simp only [List.mem_cons, forall_eq_or_imp, exists_eq_or_imp]
      exact ⟨⟨.inl succeeds, fun item member => .inr (hasResult item member)⟩, .inl succeeds,
        fun result member => .inr (hasItem result member)⟩

/-- The first item that fails decides. -/
theorem mapM_eq_error_iff {fault : ε} :
    items.mapM run = .error fault ↔ ∃ before item behind, items = before ++ item :: behind ∧
      (∀ earlier ∈ before, ∃ result, run earlier = .ok result) ∧ run item = .error fault := by
  constructor
  · intro failed
    induction items with
    | nil => cases failed
    | cons item items ih =>
        cases outcome : run item with
        | error other =>
            cases (mapM_cons_of_eq_error outcome).symm.trans failed
            exact ⟨[], item, items, rfl, by simp, outcome⟩
        | ok result =>
            rw [mapM_cons_of_eq_ok outcome] at failed
            cases rest : items.mapM run with
            | ok results =>
                rw [rest] at failed
                cases failed
            | error other =>
                rw [rest] at failed
                cases failed
                rcases ih rest with ⟨before, last, behind, rfl, earlier, fails⟩
                refine ⟨item :: before, last, behind, rfl, ?_, fails⟩
                intro other member
                rcases List.mem_cons.mp member with rfl | isBefore
                · exact ⟨result, outcome⟩
                · exact earlier other isBefore
  · rintro ⟨before, item, behind, rfl, earlier, fails⟩
    induction before with
    | nil => exact mapM_cons_of_eq_error fails
    | cons first before ih =>
        rcases earlier first (by simp) with ⟨result, succeeds⟩
        rw [List.cons_append, mapM_cons_of_eq_ok succeeds,
          ih fun other member => earlier other (by simp [member])]
        rfl

theorem mapM_append_eq_ok_iff {others : List α} {results : List β} :
    (items ++ others).mapM run = .ok results ↔ ∃ front back, items.mapM run = .ok front ∧
      others.mapM run = .ok back ∧ results = front ++ back := by
  rw [List.mapM_append]
  constructor
  · intro succeeded
    cases first : items.mapM run with
    | error fault =>
        rw [first] at succeeded
        cases succeeded
    | ok front =>
        cases second : others.mapM run with
        | error fault =>
            rw [first, second] at succeeded
            cases succeeded
        | ok back =>
            rw [first, second] at succeeded
            cases succeeded
            exact ⟨front, back, rfl, rfl, rfl⟩
  · rintro ⟨front, back, first, second, rfl⟩
    rw [first, second]
    rfl

/-- Items fail in front, or else behind. -/
theorem mapM_append_eq_error_iff {others : List α} {fault : ε} :
    (items ++ others).mapM run = .error fault ↔ items.mapM run = .error fault ∨
      (∃ front, items.mapM run = .ok front) ∧ others.mapM run = .error fault := by
  rw [List.mapM_append]
  constructor
  · intro failed
    cases first : items.mapM run with
    | error other =>
        rw [first] at failed
        cases failed
        exact .inl rfl
    | ok front =>
        refine .inr ⟨⟨front, rfl⟩, ?_⟩
        cases second : others.mapM run with
        | error other =>
            rw [first, second] at failed
            cases failed
            rfl
        | ok back =>
            rw [first, second] at failed
            cases failed
  · rintro (failed | ⟨⟨front, succeeded⟩, failed⟩)
    · rw [failed]
      rfl
    · rw [succeeded, failed]
      rfl

theorem mapM_eq_ok_filterMap (succeed : ∀ item ∈ items, ∃ result, run item = .ok result) :
    items.mapM run = .ok (items.filterMap fun item => (run item).toOption) := by
  induction items with
  | nil => rfl
  | cons item items ih =>
      rcases succeed item (by simp) with ⟨result, succeeds⟩
      rw [mapM_cons_of_eq_ok succeeds, ih fun later member => succeed later (by simp [member])]
      simp [succeeds, Except.toOption, Except.map]

/-- All items succeed, or one fails, whatever order they come in. -/
theorem mapM_perm {others : List α} (perm : items.Perm others) (run : α → Except ε β) :
    (∃ fault otherFault, items.mapM run = .error fault ∧ others.mapM run = .error otherFault) ∨
      items.mapM run = .ok (items.filterMap fun item => (run item).toOption) ∧
        others.mapM run = .ok (others.filterMap fun item => (run item).toOption) := by
  by_cases succeed : ∀ item ∈ items, ∃ result, run item = .ok result
  · refine .inr ⟨mapM_eq_ok_filterMap succeed, mapM_eq_ok_filterMap fun other isOther => ?_⟩
    exact succeed other (perm.symm.subset isOther)
  · left
    have fails {list : List α} (same : ∀ item ∈ items, item ∈ list) :
        ∃ fault, list.mapM run = .error fault := by
      cases outcome : list.mapM run with
      | error fault => exact ⟨fault, rfl⟩
      | ok results =>
          refine absurd (fun item member => ?_) succeed
          rcases (mem_of_mapM_eq_ok outcome).1 item (same item member) with ⟨result, _, isOk⟩
          exact ⟨result, isOk⟩
    rcases fails fun _ member => member with ⟨fault, failed⟩
    rcases fails fun _ member => perm.subset member with ⟨otherFault, alsoFailed⟩
    exact ⟨fault, otherFault, failed, alsoFailed⟩

/-- Where each item has a result unless something is at fault, the first fault decides. -/
theorem mapM_eq_elim {fault? : α → Option ε} {result : α → β}
    (each : ∀ item ∈ items, run item = (fault? item).elim (.ok (result item)) .error) :
    items.mapM run = (items.findSome? fault?).elim (.ok (items.map result)) .error := by
  induction items with
  | nil => rfl
  | cons item items ih =>
      have first := each item (by simp)
      cases isFault : fault? item with
      | some fault =>
          rw [isFault] at first
          rw [mapM_cons_of_eq_error first, List.findSome?_cons, isFault]
          rfl
      | none =>
          rw [isFault] at first
          rw [mapM_cons_of_eq_ok first, ih fun later member => each later (by simp [member]),
            List.findSome?_cons, isFault]
          dsimp only
          cases items.findSome? fault? <;> rfl

end Sequences

/-! ## The documents in a directory -/

/-- The document of an entry of a directory of specs. -/
def documentAt? (machine : Machine Refusal) (directory : Path) (entry : Text × FileTree) :
    Option (Document Refusal) :=
  ((entry.2.entries.lookup documentName).bind (·.content?)).map
    (Document.read machine directory entry.1)

/-- The documents in a directory of specs, in the order of their names. -/
def documentsWithin (machine : Machine Refusal) (library : FileTree) (directory : Path) :
    List (Document Refusal) :=
  byName (library.entries.filterMap (documentAt? machine directory))

/-- The documents of a library, those out of use last. -/
def documents (machine : Machine Refusal) (library : FileTree) (directory : Path)
    (withArchive : Bool) : List (Document Refusal) :=
  documentsWithin machine library directory ++
    if withArchive then documentsWithin machine (archiveOf library) (directory.entry archiveName)
    else []

variable {machine : Machine Refusal} {library : FileTree} {directory : Path}

theorem documentAt?_eq_some_iff {entry : Text × FileTree} {document : Document Refusal} :
    documentAt? machine directory entry = some document ↔
      document.name = entry.1 ∧
        document.path = (directory.entry document.name).entry documentName ∧
        ∃ content, entry.2.entries.lookup documentName = some (.file content) ∧
          document.content = machine.read document.path content := by
  have isFile {tree : FileTree} {content : Bytes} :
      tree.content? = some content ↔ tree = .file content := by
    cases tree <;> simp [FileTree.content?]
  rw [documentAt?, Option.map_eq_some_iff]
  simp only [Option.bind_eq_some_iff, isFile]
  constructor
  · rintro ⟨content, ⟨tree, found, rfl⟩, rfl⟩
    exact ⟨rfl, rfl, content, found, rfl⟩
  · rcases document with ⟨path, name, read⟩
    intro same
    dsimp only at same
    rcases same with ⟨rfl, rfl, content, found, rfl⟩
    exact ⟨content, ⟨_, found, rfl⟩, rfl⟩

/-- The documents are exactly those of the specs in the directory. -/
theorem mem_documentsWithin (proper : library.IsProper) {document : Document Refusal} :
    document ∈ documentsWithin machine library directory ↔
      document.IsIn machine library directory := by
  rw [documentsWithin, byName, (List.mergeSort_perm _ _).mem_iff, List.mem_filterMap]
  simp only [documentAt?_eq_some_iff]
  constructor
  · rintro ⟨⟨name, inner⟩, isEntry, rfl, path, content, found, isRead⟩
    exact ⟨path, inner, content, (FileTree.lookup_eq_some_iff_mem proper.distinct).mpr isEntry,
      found, isRead⟩
  · rintro ⟨path, inner, content, isEntry, found, isRead⟩
    exact ⟨(document.name, inner), FileTree.mem_of_lookup_eq_some isEntry, rfl, path, content,
      found, isRead⟩

/-! ### Sorted documents -/

section Sorted

variable {found others : List (Document Refusal)}

theorem isAscending_byName (distinct : (found.map (·.name)).Nodup) :
    Text.IsAscending ((byName found).map (·.name)) := by
  have sameNames : (byName found).map (·.name) = (found.map (·.name)).mergeSort Text.isAtMost :=
    List.map_mergeSort fun _ _ _ _ => rfl
  rw [sameNames]
  exact Text.isAscending_mergeSort distinct

/-- Documents of distinct names have one order. -/
theorem byName_eq_of_perm (perm : found.Perm others) (distinct : (found.map (·.name)).Nodup) :
    byName found = byName others := by
  have ascending := isAscending_byName distinct
  have othersAscending := isAscending_byName ((perm.map _).nodup distinct)
  rw [Text.IsAscending, List.pairwise_map] at ascending othersAscending
  have sortedPerm : (byName found).Perm (byName others) :=
    ((List.mergeSort_perm found _).trans perm).trans (List.mergeSort_perm others _).symm
  refine sortedPerm.eq_of_pairwise (fun left right _ _ below above => ?_) ascending
    othersAscending
  exact absurd above (Text.not_isBelow_of_isBelow below)

theorem nodup_name_filterMap {α : Type} {items : List α} (name : α → Text)
    {find? : α → Option (Document Refusal)}
    (named : ∀ item document, find? item = some document → document.name = name item)
    (distinct : (items.map name).Nodup) : ((items.filterMap find?).map (·.name)).Nodup := by
  rw [List.Nodup, List.pairwise_map, List.pairwise_filterMap]
  rw [List.Nodup, List.pairwise_map] at distinct
  refine distinct.imp fun differ document isFirst other isSecond => ?_
  rw [named _ _ isFirst, named _ _ isSecond]
  exact differ

end Sorted

theorem isAscending_documentsWithin (proper : library.IsProper) :
    Text.IsAscending ((documentsWithin machine library directory).map (·.name)) :=
  isAscending_byName (nodup_name_filterMap Prod.fst
    (fun _ _ found => (documentAt?_eq_some_iff.mp found).1) proper.distinct)

/-! ## Listing them -/

theorem find_documentName {inner : FileTree} {path : Path}
    (reached : machine.find path = .ok (some inner)) :
    machine.find (path.entry documentName) = (machine.fault? (path.entry documentName)).elim
      (.ok (inner.entries.lookup documentName)) .error :=
  Machine.find_entry reached (by decide) (by decide +kernel)

theorem find_archiveName (reached : machine.find directory = .ok (some library)) :
    machine.find (directory.entry archiveName) = (machine.fault? (directory.entry archiveName)).elim
      (.ok (library.entries.lookup archiveName)) .error :=
  Machine.find_entry reached (by decide) (by decide +kernel)

section Reached

variable (proper : library.IsProper) (reached : machine.find directory = .ok (some library))

include proper reached

theorem find_of_mem {entry : Text × FileTree} (member : entry ∈ library.entries) :
    machine.find (directory.entry entry.1) =
      (machine.fault? (directory.entry entry.1)).elim (.ok (some entry.2)) .error := by
  rcases proper.names entry member with ⟨isName, notLong⟩
  rw [Machine.find_entry reached isName.notBack notLong,
    (FileTree.lookup_eq_some_iff_mem proper.distinct).mpr member]

/-- An entry is looked into for its document, if nothing keeps it from being looked up. -/
theorem documentOf?_of_mem {entry : Text × FileTree} (member : entry ∈ library.entries) :
    documentOf? machine directory entry.1 =
      (entryFault? machine directory entry).elim (.ok (documentAt? machine directory entry))
        .error := by
  have found := find_of_mem proper reached member
  rw [documentOf?, entryFault?]
  simp only [Machine.holdsDirectory, found]
  cases isFault : machine.fault? (directory.entry entry.1) with
  | some fault => rfl
  | none =>
      rw [isFault] at found
      have inside := find_documentName found
      rcases entry with ⟨name, tree⟩
      cases tree with
      | file content => rfl
      | directory entries =>
          simp only [Machine.file?, inside]
          cases machine.fault? ((directory.entry name).entry documentName) <;> rfl

/-- The documents in a directory are found if nothing keeps it from being searched. -/
theorem documentsIn_names :
    documentsIn machine directory (library.entries.map (·.1)) =
      (searchFault? machine library directory).elim
        (.ok (documentsWithin machine library directory)) .error := by
  have each : (library.entries.map (·.1)).mapM (documentOf? machine directory) =
      (library.entries.findSome? (entryFault? machine directory)).elim
        (.ok (library.entries.map (documentAt? machine directory))) .error := by
    rw [List.mapM_map]
    exact mapM_eq_elim fun entry member => documentOf?_of_mem proper reached member
  rw [documentsIn, searchFault?]
  cases machine.list? directory with
  | some refusal => rfl
  | none =>
      simp only [each, Option.map_none, Option.none_or]
      cases library.entries.findSome? (entryFault? machine directory) with
      | some fault => rfl
      | none =>
          change Except.ok (byName _) = Except.ok (byName _)
          rw [List.filterMap_map]
          rfl

end Reached

/-! ## The whole library -/

theorem IsProper.archiveOf (proper : library.IsProper) : (archiveOf library).IsProper := by
  rw [Library.archiveOf]
  cases found : library.entries.lookup archiveName with
  | none => exact .directory .nil (by simp) (by simp)
  | some archive => exact proper.of_mem (FileTree.mem_of_lookup_eq_some found)

theorem mem_documents (proper : library.IsProper) {withArchive : Bool}
    {document : Document Refusal} :
    document ∈ documents machine library directory withArchive ↔
      document.IsIn machine library directory ∨ withArchive = true ∧
        document.IsIn machine (archiveOf library) (directory.entry archiveName) := by
  rw [documents, List.mem_append, mem_documentsWithin proper]
  cases withArchive with
  | false => simp
  | true =>
      rw [if_pos rfl, mem_documentsWithin (IsProper.archiveOf proper)]
      simp

/-- An archive that is no directory has no documents. -/
theorem documentsWithin_archiveOf (noArchive : ¬ hasArchive library = true) :
    documentsWithin machine (archiveOf library) (directory.entry archiveName) = [] := by
  have noEntries : (archiveOf library).entries = [] := by
    rw [archiveOf]
    rw [hasArchive] at noArchive
    cases found : library.entries.lookup archiveName with
    | none => rfl
    | some archive =>
        rw [found] at noArchive
        cases archive with
        | file content => rfl
        | directory entries => exact absurd rfl noArchive
  rw [documentsWithin, noEntries, List.filterMap_nil, byName, List.mergeSort_nil]

section Reached

variable (proper : library.IsProper) (reached : machine.find directory = .ok (some library))

include proper reached

/-- The documents in the archive are found if nothing keeps it from being searched. -/
theorem archivedIn_eq :
    archivedIn machine directory = (archiveFault? machine library directory).elim
      (.ok (documentsWithin machine (archiveOf library) (directory.entry archiveName)))
        .error := by
  have found := find_archiveName reached
  rw [archivedIn, archiveFault?]
  cases isFault : machine.fault? (directory.entry archiveName) with
  | some fault =>
      rw [found, isFault]
      rfl
  | none =>
      rw [isFault, Option.elim_none] at found
      rw [Option.none_or, found]
      by_cases isThere : hasArchive library = true
      · rw [if_pos isThere]
        rcases (Option.any_eq_true _ _).mp isThere with ⟨archive, isArchive, isDirectory⟩
        cases archive with
        | file content => cases isDirectory
        | directory entries =>
            have whole : archiveOf library = .directory entries := by
              rw [archiveOf, isArchive]
              rfl
            rw [isArchive, whole]
            rw [isArchive] at found
            exact documentsIn_names (whole ▸ IsProper.archiveOf proper) found
      · rw [if_neg isThere, documentsWithin_archiveOf isThere]
        rw [hasArchive] at isThere
        cases isArchive : library.entries.lookup archiveName with
        | none => rfl
        | some archive =>
            rw [isArchive] at isThere
            cases archive with
            | file content => rfl
            | directory entries => exact absurd rfl isThere

/-- The documents of a library are found if nothing keeps it from being searched. -/
theorem documentsOf_names (withArchive : Bool) :
    documentsOf machine directory (library.entries.map (·.1)) withArchive =
      (libraryFault? machine library directory withArchive).elim
        (.ok (documents machine library directory withArchive)) .error := by
  rw [documentsOf, documentsIn_names proper reached, archivedIn_eq proper reached, libraryFault?]
  cases searchFault? machine library directory with
  | some fault => rfl
  | none =>
      cases withArchive with
      | false => rfl
      | true => cases archiveFault? machine library directory <;> rfl

/-- A library that can be searched is loaded document by document. -/
theorem loadOn_of_isDirectory (isDirectory : library.isDirectory = true) (withArchive : Bool) :
    loadOn machine directory withArchive =
      (libraryFault? machine library directory withArchive).elim
        ((documents machine library directory withArchive).mapM (Document.spec machine.room.head))
        fun fault => .error (.ofAccess fault) := by
  cases library with
  | file content => cases isDirectory
  | directory entries =>
      have listed := documentsOf_names proper reached withArchive
      rw [FileTree.entries] at listed
      rw [loadOn, reached]
      simp only [listed]
      cases libraryFault? machine (.directory entries) directory withArchive <;> rfl

end Reached

theorem loadOn_of_find_eq_error {fault : AccessFault Refusal}
    (failed : machine.find directory = .error fault) (withArchive : Bool) :
    loadOn machine directory withArchive = .error (.ofAccess fault) := by
  rw [loadOn, failed]

theorem loadOn_of_not_isDirectory {found : Option FileTree}
    (reached : machine.find directory = .ok found)
    (noDirectory : ¬ found.any (·.isDirectory) = true) (withArchive : Bool) :
    loadOn machine directory withArchive = .error (.noDirectory directory) := by
  rw [loadOn, reached]
  cases found with
  | none => rfl
  | some tree =>
      cases tree with
      | file content => rfl
      | directory entries => exact absurd rfl noDirectory

end SpecFinder.Library
