import SpecFinder.Proofs.Library.Order
import SpecFinder.Proofs.Text.Utf8

/-!
# Loading a library

A library is loaded exactly when it is a directory that nothing keeps from being searched and all
of its documents are right.  Otherwise an error is told when it is no directory, or when the
first document that is not right may not be read, is no text, or has a head that is malformed or
no mapping.  But not all faults are told as errors: a refusal to look something up, a path that
is too long, an impossible value in a head and an integer that is too long to be written break
the loading off.
-/

namespace SpecFinder.Library

variable {Refusal : Type}

/-- Whether the documents of a library can be looked for: it is a directory that nothing keeps
from being searched. -/
structure CanLoad (machine : Machine Refusal) (directory : Path) (withArchive : Bool)
    (library : FileTree) : Prop where
  isThere : machine.find directory = .ok (some library)
  isDirectory : library.isDirectory = true
  noFault : libraryFault? machine library directory withArchive = none

/-- Whether a library is loaded: all of its documents are right. -/
def Accepts (machine : Machine Refusal) (directory : Path) (withArchive : Bool) : Prop :=
  ∃ library, CanLoad machine directory withArchive library ∧
    ∀ document : Document Refusal, document.IsIn machine library directory ∨
        withArchive = true ∧
          document.IsIn machine (archiveOf library) (directory.entry archiveName) →
      document.IsRight machine.room.head

/-- Which errors of a library are told: it is no directory, or the first document that is not
right has an error that is told. -/
inductive Rejects (machine : Machine Refusal) (directory : Path) (withArchive : Bool) :
    LoadFailure Refusal → Prop
  | noDirectory {found : Option FileTree} (isFound : machine.find directory = .ok found)
      (isNone : ¬ found.any (·.isDirectory) = true) :
      Rejects machine directory withArchive (.noDirectory directory)
  | document {library : FileTree} {document : Document Refusal} {error : LoadFailure Refusal}
      (canLoad : CanLoad machine directory withArchive library)
      (reaches : Reaches machine library directory withArchive document)
      (rejects : document.Rejects machine.room.head error) :
      Rejects machine directory withArchive error

/-- Which faults are told as no error of the library: it cannot be looked up or searched, or the
first document that is not right breaks off. -/
inductive BreaksOff (machine : Machine Refusal) (directory : Path) (withArchive : Bool) :
    LoadFailure Refusal → Prop
  | unreachable {fault : AccessFault Refusal} (isLost : machine.find directory = .error fault) :
      BreaksOff machine directory withArchive (.ofAccess fault)
  | unsearched {library : FileTree} {fault : AccessFault Refusal}
      (isThere : machine.find directory = .ok (some library))
      (isDirectory : library.isDirectory = true)
      (isFault : libraryFault? machine library directory withArchive = some fault) :
      BreaksOff machine directory withArchive (.ofAccess fault)
  | document {library : FileTree} {document : Document Refusal} {error : LoadFailure Refusal}
      (canLoad : CanLoad machine directory withArchive library)
      (reaches : Reaches machine library directory withArchive document)
      (breaksOff : document.BreaksOff machine.room.head error) :
      BreaksOff machine directory withArchive error

variable {machine : Machine Refusal} {directory : Path} {withArchive : Bool}
  {error : LoadFailure Refusal}

/-! ## Each relation decides -/

section Proper

variable (proper : machine.tree.IsProper)

include proper

/-- A library that can be searched fails as the first document does that is no spec. -/
theorem CanLoad.loadOn_eq_error_iff {library : FileTree}
    (canLoad : CanLoad machine directory withArchive library) :
    loadOn machine directory withArchive = .error error ↔
      ∃ document : Document Refusal, Reaches machine library directory withArchive document ∧
        document.spec machine.room.head = .error error := by
  have properLibrary := proper.find (Machine.find_tree canLoad.isThere)
  rw [loadOn_of_isDirectory properLibrary canLoad.isThere canLoad.isDirectory, canLoad.noFault]
  exact mapM_documents_eq_error_iff properLibrary

/-- A library that can be searched is accepted, or its first document that is not right
decides. -/
theorem CanLoad.outcome {library : FileTree}
    (canLoad : CanLoad machine directory withArchive library) :
    Accepts machine directory withArchive ∨ (∃ error, Rejects machine directory withArchive error) ∨
      ∃ error, BreaksOff machine directory withArchive error := by
  have properLibrary := proper.find (Machine.find_tree canLoad.isThere)
  cases loaded : loadOn machine directory withArchive with
  | ok specs =>
      refine .inl ⟨library, canLoad, fun document isIn => ?_⟩
      rw [loadOn_of_isDirectory properLibrary canLoad.isThere canLoad.isDirectory,
        canLoad.noFault] at loaded
      rcases (mem_of_mapM_eq_ok loaded).1 document ((mem_documents properLibrary).mpr isIn) with
        ⟨spec, _, isMade⟩
      exact Document.isSpec_iff.mp ⟨spec, isMade⟩
  | error error =>
      rcases (canLoad.loadOn_eq_error_iff proper).mp loaded with ⟨document, reaches, failed⟩
      rcases Document.rejects_or_breaksOff failed with rejects | breaksOff
      · exact .inr (.inl ⟨_, .document canLoad reaches rejects⟩)
      · exact .inr (.inr ⟨_, .document canLoad reaches breaksOff⟩)

/-- A library is accepted, or rejected, or breaks the loading off. -/
theorem outcome (directory : Path) (withArchive : Bool) :
    Accepts machine directory withArchive ∨ (∃ error, Rejects machine directory withArchive error) ∨
      ∃ error, BreaksOff machine directory withArchive error := by
  cases found : machine.find directory with
  | error fault => exact .inr (.inr ⟨_, .unreachable found⟩)
  | ok there =>
      by_cases isDirectory : there.any (·.isDirectory) = true
      · rcases (Option.any_eq_true _ _).mp isDirectory with ⟨library, rfl, isDirectory⟩
        cases isFault : libraryFault? machine library directory withArchive with
        | some fault => exact .inr (.inr ⟨_, .unsearched found isDirectory isFault⟩)
        | none => exact CanLoad.outcome proper ⟨found, isDirectory, isFault⟩
      · exact .inr (.inl ⟨_, .noDirectory found isDirectory⟩)

end Proper

theorem Rejects.isSome_message? (rejects : Rejects machine directory withArchive error)
    (say : Refusal → Text) : (error.message? say).isSome = true := by
  cases rejects with
  | noDirectory isFound isNone => rfl
  | document canLoad reaches rejects => exact rejects.isSome_message? say

theorem BreaksOff.message?_eq_none (breaksOff : BreaksOff machine directory withArchive error)
    (say : Refusal → Text) : error.message? say = none := by
  have untold (fault : AccessFault Refusal) :
      (LoadFailure.ofAccess fault).message? say = none := by
    cases fault <;> rfl
  cases breaksOff with
  | document canLoad reaches breaksOff => exact breaksOff.message?_eq_none say
  | _ => exact untold _

/-! ## What is told -/

end SpecFinder.Library
