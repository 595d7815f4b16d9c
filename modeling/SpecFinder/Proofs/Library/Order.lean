import SpecFinder.Proofs.Library.Documents

/-!
# The order of specs

A library is loaded as one spec for each document, in the order of the names of their
directories and with those out of use behind all others.  Where a document is no spec, the
first one in this order decides, in whatever order directories list their entries.  That is
so as far as all entries can be looked up, which is done before any document is read.
-/

namespace SpecFinder.Library

variable {Refusal : Type}

/-- Whether loading comes to a document: all documents before it are specs. -/
inductive Reaches (machine : Machine Refusal) (library : FileTree) (directory : Path)
    (withArchive : Bool) (document : Document Refusal) : Prop
  | inUse (isIn : document.IsIn machine library directory)
      (earlier : ∀ other : Document Refusal, other.IsIn machine library directory →
        Text.isBelow other.name document.name = true → other.IsSpec machine.room.head)
  | archived (isOn : withArchive = true)
      (inUse : ∀ other : Document Refusal, other.IsIn machine library directory →
        other.IsSpec machine.room.head)
      (isIn : document.IsIn machine (archiveOf library) (directory.entry archiveName))
      (earlier : ∀ other : Document Refusal,
        other.IsIn machine (archiveOf library) (directory.entry archiveName) →
        Text.isBelow other.name document.name = true → other.IsSpec machine.room.head)

/-- Whether specs are those of the documents in a directory: one for each of them, in the
order of their names. -/
structure AreSpecsOf (machine : Machine Refusal) (library : FileTree) (directory : Path)
    (specs : List Spec) : Prop where
  ascending : Text.IsAscending (specs.map (·.name))
  fromDocument : ∀ spec ∈ specs, ∃ document : Document Refusal,
    document.IsIn machine library directory ∧ document.spec machine.room.head = .ok spec
  ofEach : ∀ document : Document Refusal, document.IsIn machine library directory →
    ∃ spec ∈ specs, document.spec machine.room.head = .ok spec ∧ spec.name = document.name ∧
      spec.path = document.path.text

variable {machine : Machine Refusal} {library : FileTree} {directory : Path} {withArchive : Bool}

/-! ## Documents one after the other -/

theorem Document.name_of_spec_eq_ok {document : Document Refusal} {spec : Spec}
    (isMade : document.spec machine.room.head = .ok spec) :
    spec.name = document.name ∧ spec.path = document.path.text := by
  rcases Document.spec_of_isRight (Document.isSpec_iff.mp ⟨spec, isMade⟩) with
    ⟨other, isOther, path, name⟩
  cases isMade.symm.trans isOther
  exact ⟨name, path⟩

/-- All documents of a directory are specs, and these are they. -/
theorem areSpecsOf_of_mapM_eq_ok (proper : library.IsProper) {specs : List Spec}
    (loaded : (documentsWithin machine library directory).mapM
      (Document.spec machine.room.head) = .ok specs) :
    AreSpecsOf machine library directory specs := by
  have each := mapM_eq_ok_iff.mp loaded
  have sameNames :
      specs.map (·.name) = (documentsWithin machine library directory).map (·.name) := by
    rw [← List.forall₂_eq_eq_eq, List.forall₂_map_left_iff, List.forall₂_map_right_iff]
    exact (each.imp fun _ _ isMade => (Document.name_of_spec_eq_ok isMade).1).flip
  rcases mem_of_mapM_eq_ok loaded with ⟨hasSpec, hasDocument⟩
  constructor
  · rw [sameNames]
    exact isAscending_documentsWithin proper
  · intro spec member
    rcases hasDocument spec member with ⟨document, isDocument, isMade⟩
    exact ⟨document, (mem_documentsWithin proper).mp isDocument, isMade⟩
  · intro document isIn
    rcases hasSpec document ((mem_documentsWithin proper).mpr isIn) with ⟨spec, member, isMade⟩
    exact ⟨spec, member, isMade, Document.name_of_spec_eq_ok isMade⟩

theorem exists_mapM_eq_ok_iff (proper : library.IsProper) :
    (∃ specs, (documentsWithin machine library directory).mapM
        (Document.spec machine.room.head) = .ok specs) ↔
      ∀ document : Document Refusal, document.IsIn machine library directory →
        document.IsSpec machine.room.head := by
  constructor
  · rintro ⟨specs, loaded⟩ document isIn
    rcases (areSpecsOf_of_mapM_eq_ok proper loaded).ofEach document isIn with ⟨spec, _, isMade, _⟩
    exact ⟨spec, isMade⟩
  · intro all
    cases outcome : (documentsWithin machine library directory).mapM
        (Document.spec machine.room.head) with
    | ok specs => exact ⟨specs, rfl⟩
    | error error =>
        rcases mapM_eq_error_iff.mp outcome with ⟨before, document, behind, split, _, failed⟩
        have isIn : document.IsIn machine library directory := by
          rw [← mem_documentsWithin proper, split]
          simp
        rcases all document isIn with ⟨spec, isMade⟩
        cases isMade.symm.trans failed

/-- The documents that stand before one are those whose names are below its own. -/
theorem mem_before_iff (proper : library.IsProper) {before behind : List (Document Refusal)}
    {document other : Document Refusal}
    (split : documentsWithin machine library directory = before ++ document :: behind)
    (isIn : other.IsIn machine library directory) :
    other ∈ before ↔ Text.isBelow other.name document.name = true := by
  have ascending : Text.IsAscending ((documentsWithin machine library directory).map (·.name)) :=
    isAscending_documentsWithin proper
  rw [split, Text.IsAscending, List.pairwise_map, List.pairwise_append] at ascending
  rcases ascending with ⟨_, behindAscending, across⟩
  constructor
  · intro isBefore
    exact across other isBefore document (by simp)
  · intro below
    rw [← mem_documentsWithin proper, split, List.mem_append, List.mem_cons] at isIn
    rcases isIn with isBefore | rfl | isBehind
    · exact isBefore
    · exact absurd below (Text.not_isBelow_self _)
    · exact absurd below
        (Text.not_isBelow_of_isBelow (List.rel_of_pairwise_cons behindAscending isBehind))

/-- The first document of a directory that is no spec decides. -/
theorem mapM_documentsWithin_eq_error_iff (proper : library.IsProper)
    {error : LoadFailure Refusal} :
    (documentsWithin machine library directory).mapM (Document.spec machine.room.head) =
        .error error ↔
      ∃ document : Document Refusal, document.IsIn machine library directory ∧
        (∀ other : Document Refusal, other.IsIn machine library directory →
          Text.isBelow other.name document.name = true → other.IsSpec machine.room.head) ∧
        document.spec machine.room.head = .error error := by
  rw [mapM_eq_error_iff]
  constructor
  · rintro ⟨before, document, behind, split, earlier, failed⟩
    refine ⟨document, ?_, fun other isIn below => ?_, failed⟩
    · rw [← mem_documentsWithin proper, split]
      simp
    · exact earlier other ((mem_before_iff proper split isIn).mpr below)
  · rintro ⟨document, isIn, earlier, failed⟩
    rcases List.append_of_mem ((mem_documentsWithin proper).mpr isIn) with ⟨before, behind, split⟩
    refine ⟨before, document, behind, split, fun other isBefore => ?_, failed⟩
    have isInToo : other.IsIn machine library directory := by
      rw [← mem_documentsWithin proper, split]
      simp [isBefore]
    exact earlier other isInToo ((mem_before_iff proper split isInToo).mp isBefore)

/-- Loading fails as the first document that is no spec does. -/
theorem mapM_documents_eq_error_iff (proper : library.IsProper) {error : LoadFailure Refusal} :
    (documents machine library directory withArchive).mapM (Document.spec machine.room.head) =
        .error error ↔
      ∃ document : Document Refusal, Reaches machine library directory withArchive document ∧
        document.spec machine.room.head = .error error := by
  have properArchive := IsProper.archiveOf proper
  rw [documents, mapM_append_eq_error_iff, mapM_documentsWithin_eq_error_iff proper,
    exists_mapM_eq_ok_iff proper]
  constructor
  · rintro (⟨document, isIn, earlier, fails⟩ | ⟨all, failed⟩)
    · exact ⟨document, .inUse isIn earlier, fails⟩
    · cases withArchive with
      | false => cases failed
      | true =>
          rcases (mapM_documentsWithin_eq_error_iff properArchive).mp failed with
            ⟨document, isIn, earlier, fails⟩
          exact ⟨document, .archived rfl all isIn earlier, fails⟩
  · rintro ⟨document, reaches, fails⟩
    cases reaches with
    | inUse isIn earlier => exact .inl ⟨document, isIn, earlier, fails⟩
    | archived isOn all isIn earlier =>
        refine .inr ⟨all, ?_⟩
        rw [if_pos isOn]
        exact (mapM_documentsWithin_eq_error_iff properArchive).mpr
          ⟨document, isIn, earlier, fails⟩

/-! ## Directories listed in another order -/

/-- Whether two searches on a machine come to the same, or both fail where it refuses to look
something up. -/
def SameSearch {α : Type} (machine : Machine Refusal)
    (left right : Except (AccessFault Refusal) α) : Prop :=
  left = right ∨ (∃ path refusal, machine.lookUp? path = some refusal) ∧
    ∃ fault otherFault, left = .error fault ∧ right = .error otherFault

theorem SameSearch.bind {α β : Type} {left right : Except (AccessFault Refusal) α}
    {next alsoNext : α → Except (AccessFault Refusal) β} (same : SameSearch machine left right)
    (sameNext : ∀ result, left = .ok result → SameSearch machine (next result) (alsoNext result)) :
    SameSearch machine (left >>= next) (right >>= alsoNext) := by
  rcases same with rfl | ⟨refuses, fault, otherFault, rfl, rfl⟩
  · cases left with
    | error fault => exact .inl rfl
    | ok result => exact sameNext result rfl
  · exact .inr ⟨refuses, fault, otherFault, rfl, rfl⟩

/-- Looking for a document fails where something is refused or a path is too long, and a document
that is found has the name of its directory. -/
theorem documentOf?_cases (machine : Machine Refusal) (directory : Path) (name : Text) :
    (∃ fault, documentOf? machine directory name = .error fault ∧
      ((∃ path refusal, machine.lookUp? path = some refusal) ∨ fault = .badPath .tooLong)) ∨
    ∃ found, documentOf? machine directory name = .ok found ∧
      ∀ document ∈ found, document.name = name := by
  rw [documentOf?]
  cases isDirectory : machine.holdsDirectory (directory.entry name) with
  | error fault =>
      exact .inl ⟨fault, rfl, (Machine.map_find_eq_error isDirectory).imp_left
        fun refuses => ⟨_, refuses⟩⟩
  | ok isThere =>
      cases isThere with
      | false => exact .inr ⟨none, rfl, by simp⟩
      | true =>
          cases content : machine.file? ((directory.entry name).entry documentName) with
          | error fault =>
              exact .inl ⟨fault, rfl, (Machine.map_find_eq_error content).imp_left
                fun refuses => ⟨_, refuses⟩⟩
          | ok content? =>
              refine .inr ⟨content?.map (Document.read machine directory name), rfl, ?_⟩
              intro document isMade
              rcases Option.map_eq_some_iff.mp isMade with ⟨_, _, rfl⟩
              rfl

section Relisted

variable {other : FileTree} (relisted : FileTree.Relisted machine.tree other)

include relisted

theorem documentOf?_relist (directory : Path) :
    documentOf? (machine.relist other) directory = documentOf? machine directory := by
  funext name
  rw [documentOf?, documentOf?]
  simp only [Machine.holdsDirectory_relist relisted, Machine.file?_relist relisted]
  rfl

/-- The entries of a directory are searched alike in any order. -/
theorem documentsIn_relist {names others : List Text} (perm : names.Perm others)
    (distinct : names.Nodup) (directory : Path) :
    SameSearch machine (documentsIn (machine.relist other) directory others)
      (documentsIn machine directory names) := by
  have sameList : (machine.relist other).list? directory = machine.list? directory := rfl
  rw [documentsIn, documentsIn, documentOf?_relist relisted, sameList]
  cases machine.list? directory with
  | some refusal => exact .inl rfl
  | none =>
      have onlyTooLong {names : List Text} {fault : AccessFault Refusal}
          (failed : names.mapM (documentOf? machine directory) = .error fault) :
          (∃ path refusal, machine.lookUp? path = some refusal) ∨ fault = .badPath .tooLong := by
        rcases mapM_eq_error_iff.mp failed with ⟨_, name, _, _, _, fails⟩
        rcases documentOf?_cases machine directory name with ⟨_, alsoFails, cause⟩ | ⟨_, found, _⟩
        · cases alsoFails.symm.trans fails
          exact cause
        · cases found.symm.trans fails
      rcases mapM_perm perm (documentOf? machine directory) with
        ⟨fault, otherFault, failed, alsoFailed⟩ | ⟨isOk, alsoOk⟩
      · simp only [failed, alsoFailed]
        rcases onlyTooLong failed with refuses | rfl
        · exact .inr ⟨refuses, otherFault, fault, rfl, rfl⟩
        rcases onlyTooLong alsoFailed with refuses | rfl
        · exact .inr ⟨refuses, _, _, rfl, rfl⟩
        · exact .inl rfl
      · simp only [isOk, alsoOk]
        refine .inl (congrArg Except.ok ?_)
        refine byName_eq_of_perm ((perm.symm.filterMap _).filterMap _) ?_
        rw [List.filterMap_filterMap]
        refine nodup_name_filterMap id (fun name document found => ?_) ?_
        · rcases documentOf?_cases machine directory name with ⟨_, failed, _⟩ | ⟨_, isFound, named⟩
          · simp [failed, Except.toOption] at found
          · exact named document (by simpa [isFound, Except.toOption] using found)
        · rw [List.map_id]
          exact perm.nodup distinct

/-- The archive is searched alike in whatever order directories list their entries. -/
theorem archivedIn_relist (proper : machine.tree.IsProper) (directory : Path) :
    SameSearch machine (archivedIn (machine.relist other) directory)
      (archivedIn machine directory) := by
  have same := Machine.find_relist relisted (directory.entry archiveName)
  have isProper (archive : FileTree)
      (reached : machine.find (directory.entry archiveName) = .ok (some archive)) :
      archive.IsProper := proper.find (Machine.find_tree reached)
  rw [archivedIn, archivedIn]
  generalize machine.find (directory.entry archiveName) = found,
    (machine.relist other).find (directory.entry archiveName) = alsoFound at same isProper ⊢
  cases same with
  | tree inside =>
      have distinct := (isProper _ rfl).distinct
      cases inside with
      | file content => exact .inl rfl
      | directory names _ => exact documentsIn_relist relisted names distinct _
  | _ => exact .inl rfl

theorem documentsOf_relist (proper : machine.tree.IsProper) {names others : List Text}
    (perm : names.Perm others) (distinct : names.Nodup) (directory : Path) (withArchive : Bool) :
    SameSearch machine (documentsOf (machine.relist other) directory others withArchive)
      (documentsOf machine directory names withArchive) := by
  refine (documentsIn_relist relisted perm distinct directory).bind fun inUse _ => ?_
  cases withArchive with
  | false => exact .inl rfl
  | true => exact (archivedIn_relist relisted proper directory).bind fun archived _ => .inl rfl

/-- A library is loaded alike in whatever order directories list their entries.  Only where it
cannot be searched and something is refused, another fault can come first. -/
theorem loadOn_relist (proper : machine.tree.IsProper) (directory : Path) (withArchive : Bool) :
    loadOn (machine.relist other) directory withArchive = loadOn machine directory withArchive ∨
      (∃ path refusal, machine.lookUp? path = some refusal) ∧ ∃ library fault otherFault,
        machine.find directory = .ok (some library) ∧
        libraryFault? machine library directory withArchive = some fault ∧
        loadOn (machine.relist other) directory withArchive = .error (.ofAccess otherFault) := by
  have same := Machine.find_relist relisted directory
  rw [loadOn, loadOn]
  generalize isFound : machine.find directory = found,
    (machine.relist other).find directory = alsoFound at same ⊢
  cases same with
  | tree inside =>
      have isProper := proper.find (Machine.find_tree isFound)
      cases inside with
      | file content => exact .inl rfl
      | @directory entries others names _ =>
          rcases documentsOf_relist relisted proper names isProper.distinct directory withArchive
            with equal | ⟨refuses, otherFault, fault, alsoFailed, failed⟩
          · simp only [equal]
            exact .inl rfl
          · simp only [alsoFailed]
            have isFault := (documentsOf_names isProper isFound withArchive).symm.trans failed
            refine .inr ⟨refuses, _, fault, otherFault, rfl, ?_, rfl⟩
            cases isKnown : libraryFault? machine (.directory entries) directory withArchive with
            | none =>
                rw [isKnown] at isFault
                cases isFault
            | some known =>
                rw [isKnown] at isFault
                cases isFault
                rfl
  | _ => exact .inl rfl

end Relisted

/-! ## The specs of a library -/

/-- What is loaded comes from a directory that nothing keeps from being searched. -/
theorem exists_of_loadOn_eq_ok (proper : machine.tree.IsProper) {specs : List Spec}
    (loaded : loadOn machine directory withArchive = .ok specs) :
    ∃ library, machine.find directory = .ok (some library) ∧ library.isDirectory = true ∧
      libraryFault? machine library directory withArchive = none := by
  cases found : machine.find directory with
  | error fault => cases (loadOn_of_find_eq_error found withArchive).symm.trans loaded
  | ok there =>
      by_cases isDirectory : there.any (·.isDirectory) = true
      · rcases (Option.any_eq_true _ _).mp isDirectory with ⟨library, rfl, isDirectory⟩
        refine ⟨library, rfl, isDirectory, ?_⟩
        have isLoaded := loadOn_of_isDirectory (proper.find (Machine.find_tree found)) found
          isDirectory withArchive
        cases isFault : libraryFault? machine library directory withArchive with
        | none => rfl
        | some fault =>
            rw [isFault] at isLoaded
            cases isLoaded.symm.trans loaded
      · cases (loadOn_of_not_isDirectory found isDirectory withArchive).symm.trans loaded

theorem libraryFault?_of_withArchive
    (noFault : libraryFault? machine library directory withArchive = none) :
    libraryFault? machine library directory false = none := by
  rw [libraryFault?, Option.or_eq_none_iff] at noFault ⊢
  exact ⟨noFault.1, rfl⟩

/-- What is loaded are the specs in use and behind them those of the archive. -/
theorem exists_areSpecsOf_of_loadOn_eq_ok (proper : machine.tree.IsProper) {specs : List Spec}
    (loaded : loadOn machine directory true = .ok specs) :
    ∃ library inUse archived, machine.find directory = .ok (some library) ∧
      library.isDirectory = true ∧ specs = inUse ++ archived ∧
      AreSpecsOf machine library directory inUse ∧
      AreSpecsOf machine (archiveOf library) (directory.entry archiveName) archived ∧
      loadOn machine directory false = .ok inUse := by
  rcases exists_of_loadOn_eq_ok proper loaded with ⟨library, found, isDirectory, noFault⟩
  have properLibrary := proper.find (Machine.find_tree found)
  have each := loadOn_of_isDirectory properLibrary found isDirectory
  rw [each, noFault, Option.elim_none, documents, if_pos rfl, mapM_append_eq_ok_iff] at loaded
  rcases loaded with ⟨inUse, archived, first, second, rfl⟩
  refine ⟨library, inUse, archived, found, isDirectory, rfl,
    areSpecsOf_of_mapM_eq_ok properLibrary first,
    areSpecsOf_of_mapM_eq_ok (IsProper.archiveOf properLibrary) second, ?_⟩
  rw [each, libraryFault?_of_withArchive noFault, Option.elim_none, documents, if_neg (by simp),
    List.append_nil, first]

/-- A library is loaded as exactly one spec for each of its documents, in the order of their
names, and behind them one for each document of its archive; those in front are what is loaded
without the archive.  Loading fails as the first document in this order does that is no spec,
or may not be read.  But it fails before that where entries cannot be looked up.  None of this
depends on the order in which directories list their entries, but for which of several refused
entries decides. -/
theorem load_inOrder (machine : Machine Refusal) (proper : machine.tree.IsProper)
    (directory : Path) :
    (∀ specs, loadOn machine directory true = .ok specs →
      ∃ library inUse archived, machine.find directory = .ok (some library) ∧
        library.isDirectory = true ∧ specs = inUse ++ archived ∧
        AreSpecsOf machine library directory inUse ∧
        AreSpecsOf machine (archiveOf library) (directory.entry archiveName) archived ∧
        loadOn machine directory false = .ok inUse) ∧
    (∀ library withArchive, machine.find directory = .ok (some library) →
      library.isDirectory = true →
      (libraryFault? machine library directory withArchive = none → ∀ error,
        loadOn machine directory withArchive = .error error ↔
          ∃ document : Document Refusal, Reaches machine library directory withArchive document ∧
            document.spec machine.room.head = .error error) ∧
      ∀ fault, libraryFault? machine library directory withArchive = some fault →
        loadOn machine directory withArchive = .error (.ofAccess fault)) ∧
    ∀ other withArchive, FileTree.Relisted machine.tree other →
      loadOn (machine.relist other) directory withArchive =
          loadOn machine directory withArchive ∨
        (∃ path refusal, machine.lookUp? path = some refusal) ∧ ∃ library fault otherFault,
          machine.find directory = .ok (some library) ∧
          libraryFault? machine library directory withArchive = some fault ∧
          loadOn (machine.relist other) directory withArchive = .error (.ofAccess otherFault) := by
  refine ⟨fun specs loaded => ?_, fun library withArchive found isDirectory => ?_, ?_⟩
  · exact exists_areSpecsOf_of_loadOn_eq_ok proper loaded
  · have properLibrary := proper.find (Machine.find_tree found)
    rw [loadOn_of_isDirectory properLibrary found isDirectory]
    constructor
    · intro noFault error
      rw [noFault]
      exact mapM_documents_eq_error_iff properLibrary
    · intro fault isFault
      rw [isFault]
      rfl
  · intro other withArchive relisted
    exact loadOn_relist relisted proper directory withArchive

/-! ## A library on its own -/

/-- A directory of some specs. -/
def shelf (specs : List (Text × Bytes)) : FileTree :=
  .directory (specs.map fun spec => (spec.1, .directory [(documentName, .file spec.2)]))

/-- Where the specs are in a file system with nothing else in it. -/
def shelfPath : Path := ⟨.root, ["specs".toList]⟩

/-- A file system with nothing in it but some specs. -/
def soleShelf (specs : List (Text × Bytes)) : FileTree :=
  .directory [("specs".toList, shelf specs)]

section Shelf

variable {specs : List (Text × Bytes)}

theorem find_soleShelf (specs : List (Text × Bytes)) :
    (soleShelf specs).find shelfPath = .ok (some (shelf specs)) := by
  have short : FileTree.IsShort shelfPath := by decide +kernel
  rw [FileTree.find_of_le short]
  exact FileTree.walk_of_lookup_eq_some (by decide) (by decide +kernel) rfl

theorem isProper_soleShelf (distinct : (specs.map (·.1)).Nodup)
    (names : ∀ spec ∈ specs, IsEntryName spec.1 ∧ FileTree.isLongName spec.1 = false) :
    (soleShelf specs).IsProper := by
  have single {name : Text} {inner : FileTree}
      (isName : IsEntryName name ∧ FileTree.isLongName name = false) (proper : inner.IsProper) :
      FileTree.IsProper (.directory [(name, inner)]) := by
    refine .directory (by simp) (fun entry member => ?_) fun entry member => ?_
    · rw [List.mem_singleton.mp member]
      exact isName
    · rw [List.mem_singleton.mp member]
      exact proper
  have known : ∀ name ∈ ["specs".toList, documentName],
      IsEntryName name ∧ FileTree.isLongName name = false := by
    intro name member
    simp only [List.mem_cons, List.not_mem_nil, or_false] at member
    rcases member with rfl | rfl <;>
      exact ⟨⟨by decide, by decide, by decide, by decide, by decide⟩, by decide +kernel⟩
  refine single (known _ (by simp)) (.directory ?_ (fun entry member => ?_) fun entry member => ?_)
  · rw [List.map_map]
    exact distinct
  · rcases List.mem_map.mp member with ⟨spec, isSpec, rfl⟩
    exact names spec isSpec
  · rcases List.mem_map.mp member with ⟨spec, isSpec, rfl⟩
    exact single (known _ (by simp)) (.file spec.2)

/-- Each spec of a shelf has its document. -/
theorem isIn_shelf (machine : Machine Refusal) (distinct : (specs.map (·.1)).Nodup)
    {spec : Text × Bytes} (member : spec ∈ specs) :
    (Document.read machine shelfPath spec.1 spec.2).IsIn machine (shelf specs) shelfPath := by
  have distinctNames : ((shelf specs).entries.map (·.1)).Nodup := by
    rw [shelf, FileTree.entries, List.map_map]
    exact distinct
  have isEntry : (spec.1, .directory [(documentName, .file spec.2)]) ∈ (shelf specs).entries :=
    List.mem_map.mpr ⟨spec, member, rfl⟩
  exact ⟨rfl, _, spec.2, (FileTree.lookup_eq_some_iff_mem distinctNames).mpr isEntry, rfl, rfl⟩

theorem name_mem_of_isIn_shelf {machine : Machine Refusal} {document : Document Refusal}
    (isIn : document.IsIn machine (shelf specs) shelfPath) :
    document.name ∈ specs.map (·.1) := by
  rcases isIn.holds with ⟨inner, _, found, _⟩
  rcases List.mem_map.mp (FileTree.mem_of_lookup_eq_some found) with ⟨spec, member, same⟩
  exact List.mem_map.mpr ⟨spec, member, congrArg Prod.fst same⟩

/-- A long way to the specs: there and back many times before. -/
def farPath : Path :=
  ⟨.root, (List.replicate 428 ["specs".toList, "..".toList]).flatten ++ ["specs".toList]⟩

theorem find_farPath (specs : List (Text × Bytes)) :
    (soleShelf specs).find farPath = .ok (some (shelf specs)) := by
  have short : FileTree.IsShort farPath := by decide +kernel
  have notLong : ¬ FileTree.isLongName "specs".toList = true := by decide +kernel
  have step (names : List Text) : FileTree.walk [] (soleShelf specs) ("specs".toList :: names) =
      FileTree.walk [soleShelf specs] (shelf specs) names :=
    FileTree.walk_of_lookup_eq_some (by decide) notLong rfl
  have around (count : Nat) (names : List Text) : FileTree.walk [] (soleShelf specs)
      ((List.replicate count ["specs".toList, "..".toList]).flatten ++ names) =
        FileTree.walk [] (soleShelf specs) names := by
    induction count with
    | zero => rfl
    | succ count ih =>
        rw [List.replicate_succ, List.flatten_cons, List.append_assoc]
        exact (step _).trans ih
  rw [FileTree.find_of_le short]
  exact (around 428 _).trans (step [])

end Shelf

/-- A machine that lets everything be looked up, but no file be read. -/
def sealed (tree : FileTree) : Machine Unit :=
  ⟨tree, fun _ => none, fun _ => none, fun _ => some (), {}⟩

/-- Two documents that are no texts, the first one listed last. -/
def twoFaults : List (Text × Bytes) :=
  [(List.replicate 250 'b', [0xfe]), ("a".toList, [0xff])]

/-- Where the first of two documents lies. -/
def firstPath : Path := ⟨.root, ["specs".toList, "a".toList, documentName]⟩

/-- Of two documents that are no texts, the one whose name comes first decides, though it is
listed last, and also where it may not be read.  But where the path to the other one is too long,
that is found before any document is read. -/
theorem load_inOrder_twoFaults :
    (soleShelf twoFaults).IsProper ∧
      load (soleShelf twoFaults) shelfPath true =
        .error (.notText firstPath ⟨0xff, 0, 1, .invalidStart⟩) ∧
      loadOn (sealed (soleShelf twoFaults)) shelfPath true = .error (.unread firstPath ()) ∧
      load (soleShelf twoFaults) farPath true = .error (.badPath .tooLong) := by
  have distinct : (twoFaults.map (·.1)).Nodup := by decide +kernel
  have proper : (soleShelf twoFaults).IsProper := by
    apply isProper_soleShelf distinct
    intro spec member
    simp only [twoFaults, List.mem_cons, List.not_mem_nil, or_false] at member
    rcases member with rfl | rfl <;>
      exact ⟨⟨by decide +kernel, by decide +kernel, by decide +kernel, by decide +kernel,
        by decide +kernel⟩, by decide +kernel⟩
  have reaches {Refusal : Type} (machine : Machine Refusal) :
      Reaches machine (shelf twoFaults) shelfPath true
        (Document.read machine shelfPath "a".toList [0xff]) := by
    refine .inUse (isIn_shelf machine distinct (List.mem_cons_of_mem _ List.mem_cons_self))
      fun other isIn below => ?_
    have isName := name_mem_of_isIn_shelf isIn
    simp only [twoFaults, List.map_cons, List.map_nil, List.mem_cons, List.not_mem_nil,
      or_false] at isName
    rcases isName with isB | isA
    · rw [isB] at below
      cases below
    · rw [isA] at below
      cases below
  refine ⟨proper, ?_, ?_, ?_⟩
  · have noText : Utf8.decode [0xff] = .error ⟨0xff, 0, 1, .invalidStart⟩ := by
      rw [Utf8.decode, Utf8.decodeFrom]
      rfl
    apply (((load_inOrder (.ofTree (soleShelf twoFaults) {}) proper shelfPath).2.1 _ true
      (Machine.find_of_find_tree rfl (find_soleShelf _)) rfl).1 (by decide +kernel) _).mpr
    exact ⟨_, reaches _, Document.spec_of_rejects (.notText rfl noText)⟩
  · apply (((load_inOrder (sealed (soleShelf twoFaults)) proper shelfPath).2.1 _ true
      (Machine.find_of_find_tree rfl (find_soleShelf _)) rfl).1 (by decide +kernel) _).mpr
    exact ⟨_, reaches _, Document.spec_of_rejects (.unread rfl)⟩
  · exact ((load_inOrder (.ofTree (soleShelf twoFaults) {}) proper farPath).2.1 _ true
      (Machine.find_of_find_tree rfl (find_farPath _)) rfl).2
        (.badPath .tooLong) (by decide +kernel)

end SpecFinder.Library
