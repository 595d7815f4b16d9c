import Mathlib.Order.WellFounded
import SpecFinder.Proofs.Text.Pieces
import SpecFinder.Settings.Basic

/-!
# Entries of settings

What a document gives for each entry, and what can be wrong with it.  The entries are read in
a fixed order, and the first one that is wrong decides; when none is, each one that is given
sets its own value and the others keep their defaults.
-/

namespace SpecFinder.Settings

/-! ## What a document gives -/

namespace Entry

/-- The place of an entry in the order in which they are read. -/
def rank : Entry → Nat
  | .specsDirectory => 0
  | .isColored => 1
  | .maxMatches => 2
  | .reach => 3
  | .withArchive => 4

/-- What the value of an entry has to be. -/
def requirement : Entry → Requirement
  | .specsDirectory => .stringPath
  | .isColored | .withArchive => .boolean
  | .maxMatches | .reach => .integer

/-- Whether the section of an entry can be looked into: it is missing, a table, or a list or a
text that does not hold the name of the entry. -/
def HasSection (document : Toml.Table) (entry : Entry) : Prop :=
  match Toml.Table.get? document entry.section_.toList with
  | none | some (.table _) => True
  | some (.array items) => .string entry.name.toList ∉ items
  | some (.string text) => ¬ entry.name.toList <:+: text
  | some _ => False

/-- The value that a document gives for an entry, if there is one. -/
def given? (document : Toml.Table) (entry : Entry) : Option Toml.Value :=
  match Toml.Table.get? document entry.section_.toList with
  | some (.table table) => Toml.Table.get? table entry.name.toList
  | _ => none

end Entry

/-- Whether a value is of the kind that is required. -/
def Requirement.IsMetBy : Requirement → Toml.Value → Prop
  | .stringPath, .string _ => True
  | .boolean, .bool _ => True
  | .integer, .int _ => True
  | .positive, .int value => 1 ≤ value
  | _, _ => False

/-- Whether a document can be read for an entry: its section can be looked into, its value is
of the right kind if one is given, and a directory lies in no unknown home. -/
structure Entry.IsRight (homes : Path.Homes) (document : Toml.Table) (entry : Entry) : Prop where
  hasSection : entry.HasSection document
  met : ∀ value, entry.given? document = some value → entry.requirement.IsMetBy value
  home : ∀ text, entry.given? document = some (.string text) → entry.requirement = .stringPath →
    (Path.ofText text).expandHome homes ≠ none

/-- The value of an entry in some settings. -/
def value (settings : Settings) : Entry → Toml.Value
  | .specsDirectory => .string settings.specsDirectory.text
  | .isColored => .bool settings.isColored
  | .maxMatches => .int settings.maxMatches
  | .reach => .int settings.reach
  | .withArchive => .bool settings.withArchive

/-- The directory of specs that a document leads to: the one it names, beside the settings
file unless it starts at the top, else the standard one. -/
inductive NamesDirectory (workspace : Workspace) (document : Toml.Table) (file : Path) :
    Path → Prop
  | given {text : Text} {path : Path}
      (isGiven : Entry.specsDirectory.given? document = some (.string text))
      (isKnown : (Path.ofText text).expandHome workspace.homes = some path) :
      NamesDirectory workspace document file (file.parent.append path)
  | standard (notGiven : Entry.specsDirectory.given? document = none) :
      NamesDirectory workspace document file (workspace.current.entry "specs".toList)

/-- What is wrong with an entry of a document. -/
inductive Entry.IsWrong (homes : Path.Homes) (document : Toml.Table) (entry : Entry) : Error → Prop
  | noSection (unusable : ¬ entry.HasSection document) : IsWrong homes document entry .notSection
  | unmet {value : Toml.Value} (isGiven : entry.given? document = some value)
      (unmet : ¬ entry.requirement.IsMetBy value) :
      IsWrong homes document entry (.invalid entry entry.requirement)
  | unknownHome {text : Text} (isGiven : entry.given? document = some (.string text))
      (isPath : entry.requirement = .stringPath)
      (isUnknown : (Path.ofText text).expandHome homes = none) :
      IsWrong homes document entry (.badPath .unknownHome)

/-! ## Single entries -/

namespace Entry

variable {homes : Path.Homes} {document : Toml.Table} {entry : Entry}

/-- An entry is right or something is wrong with it. -/
theorem isRight_or_isWrong (homes : Path.Homes) (document : Toml.Table) (entry : Entry) :
    entry.IsRight homes document ∨ ∃ error, entry.IsWrong homes document error := by
  by_cases hasSection : entry.HasSection document
  · by_cases met : ∀ value, entry.given? document = some value → entry.requirement.IsMetBy value
    · by_cases home : ∀ text, entry.given? document = some (.string text) →
          entry.requirement = .stringPath → (Path.ofText text).expandHome homes ≠ none
      · exact .inl ⟨hasSection, met, home⟩
      · simp only [not_forall, not_not] at home
        rcases home with ⟨text, isGiven, isPath, isUnknown⟩
        exact .inr ⟨_, .unknownHome isGiven isPath isUnknown⟩
    · simp only [not_forall] at met
      rcases met with ⟨value, isGiven, unmet⟩
      exact .inr ⟨_, .unmet isGiven unmet⟩
  · exact .inr ⟨_, .noSection hasSection⟩

/-- Either a property holds of all entries or there is a first one of which it does not. -/
theorem forall_or_exists_first (holds : Entry → Prop) :
    (∀ entry, holds entry) ∨
      ∃ entry, ¬ holds entry ∧ ∀ other : Entry, other.rank < entry.rank → holds other := by
  by_cases all : ∀ entry, holds entry
  · exact .inl all
  · rcases (measure rank).wf.has_min {entry | ¬ holds entry} (not_forall.mp all) with
      ⟨entry, fails, first⟩
    refine .inr ⟨entry, fails, fun other before => ?_⟩
    by_contra failsBefore
    exact first other failsBefore before

/-- Whether a list holds a name as a text. -/
theorem any_isName_iff {items : List Toml.Value} {name : Text} :
    (items.any fun
      | .string text => text == name
      | _ => false) = true ↔ .string name ∈ items := by
  rw [List.any_eq_true]
  constructor
  · rintro ⟨item, member, isName⟩
    cases item with
    | string text =>
        rw [beq_iff_eq] at isName
        exact isName ▸ member
    | _ => cases isName
  · intro member
    exact ⟨.string name, member, by simp⟩

theorem entryValue_of_hasSection (hasSection : entry.HasSection document) :
    entryValue document entry = .ok (entry.given? document) := by
  rw [HasSection] at hasSection
  rw [entryValue, given?]
  cases found : Toml.Table.get? document entry.section_.toList with
  | none => rfl
  | some value =>
      rw [found] at hasSection
      cases value with
      | table table => rfl
      | array items => exact if_neg fun hasName => hasSection (any_isName_iff.mp hasName)
      | string text => exact if_neg fun hasName => hasSection (Text.occursIn_iff_isInfix.mp hasName)
      | _ => exact absurd hasSection (by simp)

theorem entryValue_of_not_hasSection (unusable : ¬ entry.HasSection document) :
    entryValue document entry = .error .notSection := by
  rw [HasSection] at unusable
  rw [entryValue]
  cases found : Toml.Table.get? document entry.section_.toList with
  | none => simp [found] at unusable
  | some value =>
      rw [found] at unusable
      cases value with
      | table table => simp at unusable
      | array items => exact if_pos (any_isName_iff.mpr (not_not.mp unusable))
      | string text => exact if_pos (Text.occursIn_iff_isInfix.mpr (not_not.mp unusable))
      | _ => rfl

/-- A truth value that is right is the one given, else the default. -/
theorem IsRight.boolOf_eq (right : entry.IsRight homes document)
    (kind : entry.requirement = .boolean) (default : Bool) :
    ∃ value, boolOf document entry default = .ok value ∧
      .bool value = (entry.given? document).getD (.bool default) := by
  have met := right.met
  rw [boolOf, entryValue_of_hasSection right.hasSection]
  cases isGiven : entry.given? document with
  | none => exact ⟨default, rfl, rfl⟩
  | some value =>
      have isMet := met value isGiven
      rw [kind] at isMet
      cases value with
      | bool value => exact ⟨value, rfl, rfl⟩
      | _ => exact isMet.elim

/-- An integer that is right is the one given, else the default. -/
theorem IsRight.intOf_eq (right : entry.IsRight homes document)
    (kind : entry.requirement = .integer) (default : Int) :
    ∃ value, intOf document entry default = .ok value ∧
      .int value = (entry.given? document).getD (.int default) := by
  have met := right.met
  rw [intOf, entryValue_of_hasSection right.hasSection]
  cases isGiven : entry.given? document with
  | none => exact ⟨default, rfl, rfl⟩
  | some value =>
      have isMet := met value isGiven
      rw [kind] at isMet
      cases value with
      | int value => exact ⟨value, rfl, rfl⟩
      | _ => exact isMet.elim

/-- Only a table gives a value. -/
theorem hasSection_of_given?_eq_some {value : Toml.Value}
    (isGiven : entry.given? document = some value) : entry.HasSection document := by
  rw [given?] at isGiven
  rw [HasSection]
  split at isGiven
  next found => simp [found]
  next => cases isGiven

theorem entryValue_of_given?_eq_some {value : Toml.Value}
    (isGiven : entry.given? document = some value) :
    entryValue document entry = .ok (some value) := by
  rw [entryValue_of_hasSection (hasSection_of_given?_eq_some isGiven), isGiven]

theorem IsWrong.boolOf_eq {error : Error} (wrong : entry.IsWrong homes document error)
    (kind : entry.requirement = .boolean) (default : Bool) :
    boolOf document entry default = .error error := by
  rw [boolOf]
  cases wrong with
  | noSection unusable =>
      rw [entryValue_of_not_hasSection unusable]
      rfl
  | unmet isGiven unmet =>
      rename_i value
      rw [entryValue_of_given?_eq_some isGiven, kind]
      rw [kind] at unmet
      cases value with
      | bool value => exact absurd trivial unmet
      | _ => rfl
  | unknownHome isGiven isPath isUnknown =>
      rw [kind] at isPath
      cases isPath

theorem IsWrong.intOf_eq {error : Error} (wrong : entry.IsWrong homes document error)
    (kind : entry.requirement = .integer) (default : Int) :
    intOf document entry default = .error error := by
  rw [intOf]
  cases wrong with
  | noSection unusable =>
      rw [entryValue_of_not_hasSection unusable]
      rfl
  | unmet isGiven unmet =>
      rename_i value
      rw [entryValue_of_given?_eq_some isGiven, kind]
      rw [kind] at unmet
      cases value with
      | int value => exact absurd trivial unmet
      | _ => rfl
  | unknownHome isGiven isPath isUnknown =>
      rw [kind] at isPath
      cases isPath

end Entry

section Directory

variable {workspace : Workspace} {document : Toml.Table}

/-- A directory that is right is the one that the document leads to. -/
theorem directoryOf_of_isRight
    (right : Entry.specsDirectory.IsRight workspace.homes document) (file : Path) :
    ∃ path, directoryOf workspace document file .specsDirectory
        (standard workspace).specsDirectory = .ok path ∧
      NamesDirectory workspace document file path := by
  have met := right.met
  rw [directoryOf, Entry.entryValue_of_hasSection right.hasSection]
  cases isGiven : Entry.specsDirectory.given? document with
  | none => exact ⟨_, rfl, .standard isGiven⟩
  | some value =>
      have isMet := met value isGiven
      cases value with
      | string text =>
          cases isKnown : (Path.ofText text).expandHome workspace.homes with
          | none => exact absurd isKnown (right.home text isGiven rfl)
          | some path =>
              refine ⟨file.parent.append path, ?_, .given isGiven isKnown⟩
              simp [isKnown, bind, Except.bind, pure, Except.pure]
      | _ => exact isMet.elim

theorem directoryOf_of_isWrong {error : Error}
    (wrong : Entry.specsDirectory.IsWrong workspace.homes document error) (file default : Path) :
    directoryOf workspace document file .specsDirectory default = .error error := by
  rw [directoryOf]
  cases wrong with
  | noSection unusable =>
      rw [Entry.entryValue_of_not_hasSection unusable]
      rfl
  | unmet isGiven unmet =>
      rename_i value
      rw [Entry.entryValue_of_given?_eq_some isGiven]
      cases value with
      | string text => exact absurd trivial unmet
      | _ => rfl
  | unknownHome isGiven isPath isUnknown =>
      rw [Entry.entryValue_of_given?_eq_some isGiven]
      simp [isUnknown, bind, Except.bind]

/-! ## All entries -/

/-- When every entry is right, each one that is given sets its own value, and the others keep
their defaults. -/
theorem ofDocument_of_isRight
    (right : ∀ entry : Entry, entry.IsRight workspace.homes document) (file : Path) :
    ∃ settings, ofDocument workspace document file = .ok settings ∧
      NamesDirectory workspace document file settings.specsDirectory ∧
      (∀ entry : Entry, entry ≠ .specsDirectory → settings.value entry =
        (entry.given? document).getD ((standard workspace).value entry)) ∧
      settings.source = some file := by
  rcases directoryOf_of_isRight (right .specsDirectory) file with ⟨directory, isDirectory, names⟩
  rcases (right .isColored).boolOf_eq rfl (standard workspace).isColored with
    ⟨isColored, readColored, colored⟩
  rcases (right .maxMatches).intOf_eq rfl (standard workspace).maxMatches with
    ⟨maxMatches, readMatches, matches_⟩
  rcases (right .reach).intOf_eq rfl (standard workspace).reach with ⟨reach, readReach, reached⟩
  rcases (right .withArchive).boolOf_eq rfl (standard workspace).withArchive with
    ⟨withArchive, readArchive, archived⟩
  refine ⟨⟨directory, isColored, maxMatches, reach, withArchive, some file⟩, ?_, names, ?_, rfl⟩
  · rw [ofDocument]
    simp only [isDirectory, readColored, readMatches, readReach, readArchive]
    rfl
  · intro entry isOther
    cases entry with
    | specsDirectory => exact absurd rfl isOther
    | isColored => exact colored
    | maxMatches => exact matches_
    | reach => exact reached
    | withArchive => exact archived

/-- The first entry that is wrong decides. -/
theorem ofDocument_of_isWrong {entry : Entry} {error : Error}
    (wrong : entry.IsWrong workspace.homes document error)
    (earlier : ∀ other : Entry, other.rank < entry.rank → other.IsRight workspace.homes document)
    (file : Path) : ofDocument workspace document file = .error error := by
  have directory (before : Entry.specsDirectory.rank < entry.rank) :=
    directoryOf_of_isRight (earlier .specsDirectory before) file
  have isColored (before : Entry.isColored.rank < entry.rank) :=
    (earlier .isColored before).boolOf_eq rfl (standard workspace).isColored
  have maxMatches (before : Entry.maxMatches.rank < entry.rank) :=
    (earlier .maxMatches before).intOf_eq rfl (standard workspace).maxMatches
  have reach (before : Entry.reach.rank < entry.rank) :=
    (earlier .reach before).intOf_eq rfl (standard workspace).reach
  rw [ofDocument]
  cases entry with
  | specsDirectory =>
      simp only [directoryOf_of_isWrong wrong]
      rfl
  | isColored =>
      rcases directory (by decide) with ⟨_, readDirectory, _⟩
      simp only [readDirectory, wrong.boolOf_eq rfl]
      rfl
  | maxMatches =>
      rcases directory (by decide) with ⟨_, readDirectory, _⟩
      rcases isColored (by decide) with ⟨_, readColored, _⟩
      simp only [readDirectory, readColored, wrong.intOf_eq rfl]
      rfl
  | reach =>
      rcases directory (by decide) with ⟨_, readDirectory, _⟩
      rcases isColored (by decide) with ⟨_, readColored, _⟩
      rcases maxMatches (by decide) with ⟨_, readMatches, _⟩
      simp only [readDirectory, readColored, readMatches, wrong.intOf_eq rfl]
      rfl
  | withArchive =>
      rcases directory (by decide) with ⟨_, readDirectory, _⟩
      rcases isColored (by decide) with ⟨_, readColored, _⟩
      rcases maxMatches (by decide) with ⟨_, readMatches, _⟩
      rcases reach (by decide) with ⟨_, readReach, _⟩
      simp only [readDirectory, readColored, readMatches, readReach, wrong.boolOf_eq rfl]
      rfl

end Directory

end SpecFinder.Settings
