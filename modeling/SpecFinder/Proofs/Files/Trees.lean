import Mathlib.Data.List.Basic
import SpecFinder.FileTree

/-!
# Looking up and writing files

A file that was written is found again.  A path is only looked up when it is not too long,
and no name in it that is reached is too long either.
-/

namespace SpecFinder.FileTree

section Walking

variable {above : List FileTree} {entries : List (Text × FileTree)} {name : Text}
  {names : List Text}

theorem walk_of_isLongName (notBack : name ≠ ['.', '.']) (long : isLongName name = true) :
    walk above (.directory entries) (name :: names) = .error .tooLong := by
  simp [walk, isDirectory, notBack, long]

/-- A name leads to its entry. -/
theorem walk_of_lookup_eq_some {inner : FileTree} (notBack : name ≠ ['.', '.'])
    (notLong : ¬ isLongName name = true) (found : entries.lookup name = some inner) :
    walk above (.directory entries) (name :: names) =
      walk (.directory entries :: above) inner names := by
  simp [walk, isDirectory, FileTree.entries, notBack, notLong, found]

theorem walk_of_lookup_eq_none (notBack : name ≠ ['.', '.'])
    (notLong : ¬ isLongName name = true) (absent : entries.lookup name = none) :
    walk above (.directory entries) (name :: names) = .ok none := by
  simp [walk, isDirectory, FileTree.entries, notBack, notLong, absent]

end Walking

theorem find_of_le {tree : FileTree} {path : Path}
    (notLong : (Utf8.encode path.text).length ≤ pathLimit) :
    tree.find path = walk [] tree path.parts := if_neg (Nat.not_lt.mpr notLong)

/-! ## Writing -/

theorem lookup_setEntry (name : Text) (inner : FileTree) (entries : List (Text × FileTree)) :
    (setEntry name inner entries).lookup name = some inner := by
  induction entries with
  | nil => simp [setEntry]
  | cons entry entries ih =>
      rcases entry with ⟨known, old⟩
      by_cases same : known = name
      · simp [setEntry, same]
      · have differs : (name == known) = false := by simpa using Ne.symm same
        simp [setEntry, same, List.lookup_cons, differs, ih]

/-- A file is at the names under which it was written. -/
theorem walk_write (content : Bytes) {names : List Text}
    (down : ∀ name ∈ names, name ≠ ['.', '.']) {tree written : FileTree}
    (isWritten : write content tree names = (written, none)) (above : List FileTree) :
    walk above written names = .ok (some (.file content)) := by
  induction names generalizing tree written above with
  | nil =>
      cases tree with
      | file old =>
          cases isWritten
          rfl
      | directory entries => cases isWritten
  | cons name names ih =>
      cases tree with
      | file old => cases isWritten
      | directory entries =>
          have notBack := down name (by simp)
          rw [write] at isWritten
          split at isWritten
          next => cases isWritten
          next notLong =>
            rcases inside : write content
              ((entries.lookup name).getD (if names.isEmpty then .file [] else empty)) names
              with ⟨inner, fault⟩
            simp only [inside, Prod.mk.injEq, Option.map_eq_none_iff] at isWritten
            rcases isWritten with ⟨rfl, rfl⟩
            rw [walk_of_lookup_eq_some notBack notLong (lookup_setEntry name inner entries)]
            exact ih (fun other member => down other (by simp [member])) inside _

/-! ## What writing leaves alone -/

/-- The content of the file that names lead to, down from a tree. -/
def contentAt? : FileTree → List Text → Option Bytes
  | .file content, [] => some content
  | .directory entries, name :: names => (entries.lookup name).bind (contentAt? · names)
  | _, _ => none

theorem lookup_setEntry_of_ne {name other : Text} (differs : other ≠ name) (inner : FileTree)
    (entries : List (Text × FileTree)) :
    (setEntry name inner entries).lookup other = entries.lookup other := by
  have notSame : (other == name) = false := by simpa using differs
  induction entries with
  | nil => simp [setEntry, List.lookup_cons, notSame]
  | cons entry entries ih =>
      rcases entry with ⟨known, old⟩
      by_cases same : known = name
      · simp [setEntry, same, List.lookup_cons, notSame]
      · simp [setEntry, same, List.lookup_cons, ih]

/-- A file that was looked up is there. -/
theorem contentAt?_of_walk {names : List Text} (down : ∀ name ∈ names, name ≠ ['.', '.'])
    {above : List FileTree} {tree : FileTree} {content : Bytes}
    (found : walk above tree names = .ok (some (.file content))) :
    tree.contentAt? names = some content := by
  induction names generalizing above tree with
  | nil =>
      cases found
      rfl
  | cons name names ih =>
      have notBack := down name (by simp)
      cases tree with
      | file old => cases found
      | directory entries =>
          by_cases long : isLongName name = true
          · rw [walk_of_isLongName notBack long] at found
            cases found
          cases entry : entries.lookup name with
          | none =>
              rw [walk_of_lookup_eq_none notBack long entry] at found
              cases found
          | some inner =>
              rw [walk_of_lookup_eq_some notBack long entry] at found
              rw [contentAt?, entry]
              exact ih (fun other member => down other (by simp [member])) found

/-- Writing a file leaves all others as they are, also where it fails. -/
theorem contentAt?_write_of_ne (content : Bytes) (tree : FileTree) {names other : List Text}
    (differs : other ≠ names) : (write content tree names).1.contentAt? other =
      tree.contentAt? other := by
  induction names generalizing tree other with
  | nil =>
      cases tree with
      | file old =>
          cases other with
          | nil => exact absurd rfl differs
          | cons name other => rfl
      | directory entries => rfl
  | cons name names ih =>
      cases tree with
      | file old => rfl
      | directory entries =>
          rw [write]
          split
          next => rfl
          next =>
            cases other with
            | nil => rfl
            | cons first other =>
                by_cases same : first = name
                · subst same
                  have differsBelow : other ≠ names := fun isSame => differs (by rw [isSame])
                  rw [contentAt?, contentAt?, lookup_setEntry]
                  refine (ih _ differsBelow).trans ?_
                  cases entries.lookup first with
                  | some inner => rfl
                  | none =>
                      -- A new entry is a directory without files, or the file itself.
                      cases names with
                      | nil =>
                          cases other with
                          | nil => exact absurd rfl differsBelow
                          | cons name other => rfl
                      | cons name names =>
                          cases other with
                          | nil => rfl
                          | cons name other => rfl
                · rw [contentAt?, contentAt?, lookup_setEntry_of_ne same]

/-! ## Looking up -/

/-- Whether a path can be looked up: it is not too long, and there is no directory on it in
which a name that is too long would be looked for. -/
structure CanLookUp (tree : FileTree) (path : Path) : Prop where
  notLong : (Utf8.encode path.text).length ≤ pathLimit
  notLongBelow : ∀ front name back entries, path.parts = front ++ name :: back →
    walk [] tree front = .ok (some (.directory entries)) → isLongName name = false

/-- Names that lead down fail only where one that is too long stands in a directory. -/
theorem exists_of_walk_eq_error {names : List Text} (down : ∀ name ∈ names, name ≠ ['.', '.'])
    {above : List FileTree} {tree : FileTree} {fault : PathFault}
    (failed : walk above tree names = .error fault) :
    fault = .tooLong ∧ ∃ front name back entries, names = front ++ name :: back ∧
      walk above tree front = .ok (some (.directory entries)) ∧ isLongName name = true := by
  induction names generalizing above tree with
  | nil => cases failed
  | cons name names ih =>
      have notBack := down name (by simp)
      cases tree with
      | file content => cases failed
      | directory entries =>
          by_cases long : isLongName name = true
          · rw [walk_of_isLongName notBack long] at failed
            cases failed
            exact ⟨rfl, [], name, names, entries, rfl, rfl, long⟩
          cases found : entries.lookup name with
          | none =>
              rw [walk_of_lookup_eq_none notBack long found] at failed
              cases failed
          | some inner =>
              rw [walk_of_lookup_eq_some notBack long found] at failed
              rcases ih (fun other member => down other (by simp [member])) failed with
                ⟨isLong, front, last, back, inside, rfl, reached, long'⟩
              refine ⟨isLong, name :: front, last, back, inside, rfl, ?_, long'⟩
              rw [walk_of_lookup_eq_some notBack long found]
              exact reached

/-- A name that is too long fails in every directory that is reached. -/
theorem walk_eq_error_of_reached {front : List Text} {name : Text} {back : List Text}
    (down : ∀ other ∈ front ++ name :: back, other ≠ ['.', '.'])
    {above : List FileTree} {tree : FileTree} {entries : List (Text × FileTree)}
    (reached : walk above tree front = .ok (some (.directory entries)))
    (long : isLongName name = true) :
    walk above tree (front ++ name :: back) = .error .tooLong := by
  induction front generalizing above tree with
  | nil =>
      cases reached
      exact walk_of_isLongName (down name (by simp)) long
  | cons first front ih =>
      have notBack := down first (by simp)
      cases tree with
      | file content => cases reached
      | directory entries =>
          by_cases firstLong : isLongName first = true
          · rw [walk_of_isLongName notBack firstLong] at reached
            cases reached
          cases found : entries.lookup first with
          | none =>
              rw [walk_of_lookup_eq_none notBack firstLong found] at reached
              cases reached
          | some inner =>
              rw [walk_of_lookup_eq_some notBack firstLong found] at reached
              rw [List.cons_append, walk_of_lookup_eq_some notBack firstLong found]
              exact ih (fun other member => down other (by simp [member])) reached

/-- A path down the tree is found to lead somewhere or nowhere if it can be looked up; else
it is too long. -/
theorem holds_cases {path : Path} (down : ∀ name ∈ path.parts, name ≠ ['.', '.'])
    (tree : FileTree) :
    (tree.CanLookUp path ∧ tree.holds path = .ok (tree.at? path).isSome) ∨
      (¬ tree.CanLookUp path ∧ tree.holds path = .error .tooLong) := by
  by_cases long : pathLimit < (Utf8.encode path.text).length
  · refine .inr ⟨fun can => absurd can.notLong (by omega), ?_⟩
    simp [holds, find, long]
  have finds : tree.find path = walk [] tree path.parts := find_of_le (by omega)
  cases walked : walk [] tree path.parts with
  | ok found =>
      refine .inl ⟨⟨by omega, ?_⟩, by simp [holds, at?, finds, walked]⟩
      intro front name back entries split reached
      by_contra isLong
      rw [split] at down walked
      rw [walk_eq_error_of_reached down reached (by simpa using isLong)] at walked
      cases walked
  | error fault =>
      rcases exists_of_walk_eq_error down walked with
        ⟨rfl, front, name, back, entries, split, reached, isLong⟩
      refine .inr ⟨fun can => ?_, by simp [holds, finds, walked]⟩
      have notLong := can.notLongBelow front name back entries split reached
      rw [notLong] at isLong
      cases isLong

end SpecFinder.FileTree
