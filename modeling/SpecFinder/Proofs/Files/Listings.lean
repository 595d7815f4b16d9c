import SpecFinder.Proofs.Files.Paths
import SpecFinder.Proofs.Files.Trees

/-!
# Entries of directories

A directory that was reached leads on to each of its entries, as far as their paths can be
looked up.  In which order a directory lists its entries makes no difference to what is found
in it.
-/

namespace SpecFinder.FileTree

/-- Whether a tree is one that a file system can hold: the entries of a directory have names of
their own, which are names that can be looked up. -/
inductive IsProper : FileTree → Prop
  | file (content : Bytes) : IsProper (.file content)
  | directory {entries : List (Text × FileTree)} (distinct : (entries.map (·.1)).Nodup)
      (names : ∀ entry ∈ entries, IsEntryName entry.1 ∧ isLongName entry.1 = false)
      (inner : ∀ entry ∈ entries, IsProper entry.2) : IsProper (.directory entries)

/-- Whether two trees are the same but for the order in which directories list their entries. -/
inductive Relisted : FileTree → FileTree → Prop
  | file (content : Bytes) : Relisted (.file content) (.file content)
  | directory {entries others : List (Text × FileTree)}
      (names : (entries.map (·.1)).Perm (others.map (·.1)))
      (inner : ∀ name left right, (name, left) ∈ entries → (name, right) ∈ others →
        Relisted left right) : Relisted (.directory entries) (.directory others)

/-- Whether a path is short enough to be looked up. -/
def IsShort (path : Path) : Prop := (Utf8.encode path.text).length ≤ pathLimit

instance (path : Path) : Decidable (IsShort path) := inferInstanceAs (Decidable (_ ≤ _))

section Entries

variable {entries : List (Text × FileTree)} {name : Text} {inner : FileTree}

theorem mem_of_lookup_eq_some (found : entries.lookup name = some inner) :
    (name, inner) ∈ entries := by
  rcases List.lookup_eq_some_iff.mp found with ⟨front, back, rfl, _⟩
  simp

/-- A name that no other entry has leads to its entry. -/
theorem lookup_eq_some_iff_mem (distinct : (entries.map (·.1)).Nodup) :
    entries.lookup name = some inner ↔ (name, inner) ∈ entries := by
  constructor
  · exact mem_of_lookup_eq_some
  · intro member
    induction entries with
    | nil => cases member
    | cons entry entries ih =>
        rcases entry with ⟨first, tree⟩
        rw [List.map_cons, List.nodup_cons] at distinct
        rcases List.mem_cons.mp member with isFirst | isBehind
        · cases isFirst
          simp
        · have differs : name ≠ first := by
            rintro rfl
            exact distinct.1 (List.mem_map.mpr ⟨_, isBehind, rfl⟩)
          rw [List.lookup_cons, beq_eq_false_iff_ne.mpr differs]
          exact ih distinct.2 isBehind

theorem exists_lookup_of_mem_names (member : name ∈ entries.map (·.1)) :
    ∃ inner, entries.lookup name = some inner := by
  rcases List.mem_map.mp member with ⟨entry, isEntry, rfl⟩
  cases found : entries.lookup entry.1 with
  | some inner => exact ⟨inner, rfl⟩
  | none => simpa using List.lookup_eq_none_iff.mp found entry isEntry

end Entries

/-! ## Going on from a directory -/

/-- The first of some names ends the walk, or leads on to a tree that lies above or is an
entry. -/
theorem walk_cons_cases (above : List FileTree) (tree : FileTree) (name : Text) :
    (∀ names, walk above tree (name :: names) = .ok none) ∨
      (∀ names, walk above tree (name :: names) = .error .tooLong) ∨
      ∃ between inner, (∀ names, walk above tree (name :: names) = walk between inner names) ∧
        ∀ other ∈ inner :: between, other ∈ tree :: above ∨
          (name, other) ∈ tree.entries := by
  cases tree with
  | file content => exact .inl fun _ => rfl
  | directory entries =>
      by_cases isBack : name = ['.', '.']
      · subst isBack
        cases above with
        | nil => exact .inr (.inr ⟨[], _, fun _ => rfl, fun _ member => .inl member⟩)
        | cons parent above =>
            refine .inr (.inr ⟨above, parent, fun _ => rfl, fun _ member => .inl ?_⟩)
            exact List.mem_cons_of_mem _ member
      by_cases long : isLongName name = true
      · exact .inr (.inl fun _ => walk_of_isLongName isBack long)
      cases found : entries.lookup name with
      | none => exact .inl fun _ => walk_of_lookup_eq_none isBack long found
      | some inner =>
          refine .inr (.inr ⟨_, inner, fun _ => walk_of_lookup_eq_some isBack long found, ?_⟩)
          intro other member
          rcases List.mem_cons.mp member with rfl | isAbove
          · exact .inr (mem_of_lookup_eq_some found)
          · exact .inl isAbove

/-- What is walked behind a tree that was reached starts from it. -/
theorem exists_walk_append {above : List FileTree} {tree inner : FileTree} {front : List Text}
    (reached : walk above tree front = .ok (some inner)) :
    ∃ between, ∀ back, walk above tree (front ++ back) = walk between inner back := by
  induction front generalizing above tree with
  | nil =>
      cases reached
      exact ⟨above, fun _ => rfl⟩
  | cons name front ih =>
      rcases walk_cons_cases above tree name with ends | fails | ⟨between, next, leads, _⟩
      · cases (ends front).symm.trans reached
      · cases (fails front).symm.trans reached
      · rw [leads] at reached
        rcases ih reached with ⟨behind, goesOn⟩
        exact ⟨behind, fun back => (leads (front ++ back)).trans (goesOn back)⟩

/-- Nothing but a path that is too long makes looking up fail. -/
theorem find_eq_error {tree : FileTree} {path : Path} {fault : PathFault}
    (failed : tree.find path = .error fault) : fault = .tooLong := by
  have walked {above : List FileTree} {tree : FileTree} {names : List Text}
      (failed : walk above tree names = .error fault) : fault = .tooLong := by
    induction names generalizing above tree with
    | nil => cases failed
    | cons name names ih =>
        rcases walk_cons_cases above tree name with ends | fails | ⟨between, inner, leads, _⟩
        · cases (ends names).symm.trans failed
        · cases (fails names).symm.trans failed
          rfl
        · exact ih ((leads names).symm.trans failed)
  rw [find] at failed
  split at failed
  next =>
    cases failed
    rfl
  next => exact walked failed

/-- From a tree that was reached, a name leads to its entry if the path to it is short. -/
theorem find_entry {tree inner : FileTree} {path : Path} {name : Text}
    (reached : tree.find path = .ok (some inner)) (notBack : name ≠ ['.', '.'])
    (notLong : isLongName name = false) :
    tree.find (path.entry name) =
      if IsShort (path.entry name) then .ok (inner.entries.lookup name) else .error .tooLong := by
  rw [find] at reached
  split at reached
  next => cases reached
  next =>
    rcases exists_walk_append reached with ⟨between, goesOn⟩
    have step : walk between inner [name] = .ok (inner.entries.lookup name) := by
      cases inner with
      | file content => rfl
      | directory entries =>
          cases found : entries.lookup name with
          | none =>
              rw [walk_of_lookup_eq_none notBack (by simp [notLong]) found]
              exact congrArg Except.ok found.symm
          | some inner =>
              rw [walk_of_lookup_eq_some notBack (by simp [notLong]) found]
              exact congrArg Except.ok found.symm
    split
    next short => rw [find_of_le short, Path.entry, goesOn, step]
    next long => rw [find, if_pos (Nat.lt_of_not_le long)]

theorem IsProper.distinct {tree : FileTree} (proper : tree.IsProper) :
    (tree.entries.map (·.1)).Nodup := by
  cases proper with
  | file content => exact .nil
  | directory distinct _ _ => exact distinct

theorem IsProper.names {tree : FileTree} (proper : tree.IsProper) :
    ∀ entry ∈ tree.entries, IsEntryName entry.1 ∧ isLongName entry.1 = false := by
  cases proper with
  | file content => simp [entries]
  | directory _ names _ => exact names

theorem IsProper.of_mem {tree inner : FileTree} (proper : tree.IsProper) {name : Text}
    (member : (name, inner) ∈ tree.entries) : inner.IsProper := by
  cases proper with
  | file content => cases member
  | directory _ _ inners => exact inners _ member

/-- Whatever is reached in a proper tree is one. -/
theorem IsProper.walk {above : List FileTree} {tree inner : FileTree} {names : List Text}
    (proper : ∀ other ∈ tree :: above, other.IsProper)
    (reached : FileTree.walk above tree names = .ok (some inner)) : inner.IsProper := by
  induction names generalizing above tree with
  | nil =>
      cases reached
      exact proper inner (by simp)
  | cons name names ih =>
      rcases walk_cons_cases above tree name with ends | fails | ⟨between, next, leads, within⟩
      · cases (ends names).symm.trans reached
      · cases (fails names).symm.trans reached
      · rw [leads] at reached
        apply ih _ reached
        intro other member
        rcases within other member with isAbove | isEntry
        · exact proper other isAbove
        · exact (proper tree (by simp)).of_mem isEntry

theorem IsProper.find {tree inner : FileTree} {path : Path} (proper : tree.IsProper)
    (reached : tree.find path = .ok (some inner)) : inner.IsProper := by
  rw [FileTree.find] at reached
  split at reached
  next => cases reached
  next => exact IsProper.walk (by simpa using proper) reached

/-! ## The order of entries -/

/-- Whether looking up comes to the same, but for the order of entries. -/
inductive SameFind {Fault : Type} :
    Except Fault (Option FileTree) → Except Fault (Option FileTree) → Prop
  | fault (fault : Fault) : SameFind (.error fault) (.error fault)
  | nothing : SameFind (.ok none) (.ok none)
  | tree {left right : FileTree} (relisted : Relisted left right) :
      SameFind (.ok (some left)) (.ok (some right))

variable {left right : FileTree}

theorem Relisted.isDirectory_eq (relisted : Relisted left right) :
    left.isDirectory = right.isDirectory := by
  cases relisted <;> rfl

theorem Relisted.content?_eq (relisted : Relisted left right) :
    left.content? = right.content? := by
  cases relisted <;> rfl

theorem Relisted.lookup (relisted : Relisted left right) (name : Text) :
    SameFind (.ok (left.entries.lookup name) : Except PathFault (Option FileTree))
      (.ok (right.entries.lookup name)) := by
  cases relisted with
  | file content => exact .nothing
  | @directory entries others names inner =>
      change SameFind (.ok (entries.lookup name) : Except PathFault _) (.ok (others.lookup name))
      cases found : entries.lookup name with
      | none =>
          have absent : others.lookup name = none := by
            by_contra present
            rcases Option.ne_none_iff_exists'.mp present with ⟨other, isOther⟩
            have member := names.symm.subset
              (List.mem_map.mpr ⟨_, mem_of_lookup_eq_some isOther, rfl⟩)
            rcases exists_lookup_of_mem_names member with ⟨tree, isTree⟩
            cases found.symm.trans isTree
          rw [absent]
          exact .nothing
      | some tree =>
          have member := names.subset (List.mem_map.mpr ⟨_, mem_of_lookup_eq_some found, rfl⟩)
          rcases exists_lookup_of_mem_names member with ⟨other, isOther⟩
          rw [isOther]
          exact .tree (inner _ _ _ (mem_of_lookup_eq_some found) (mem_of_lookup_eq_some isOther))

/-- The same names lead to the same places. -/
theorem Relisted.walk {aboveLeft aboveRight : List FileTree}
    (above : List.Forall₂ Relisted aboveLeft aboveRight) (relisted : Relisted left right)
    (names : List Text) :
    SameFind (FileTree.walk aboveLeft left names) (FileTree.walk aboveRight right names) := by
  induction names generalizing aboveLeft aboveRight left right with
  | nil => exact .tree relisted
  | cons name names ih =>
      rw [FileTree.walk.eq_def, FileTree.walk.eq_def aboveRight]
      simp only [relisted.isDirectory_eq]
      split
      next => exact .nothing
      next =>
        split
        next =>
          cases above with
          | nil => exact ih .nil relisted
          | cons parent above => exact ih above parent
        next =>
          split
          next => exact .fault _
          next =>
            have same := relisted.lookup name
            generalize left.entries.lookup name = found, right.entries.lookup name = alsoFound
              at same ⊢
            cases same with
            | nothing => exact .nothing
            | tree inside => exact ih (.cons relisted above) inside

theorem Relisted.find (relisted : Relisted left right) (path : Path) :
    SameFind (left.find path) (right.find path) := by
  rw [FileTree.find, FileTree.find]
  split
  next => exact .fault _
  next => exact relisted.walk .nil path.parts

end SpecFinder.FileTree
