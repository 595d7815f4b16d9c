import SpecFinder.Machine
import SpecFinder.Proofs.Files.Listings

/-!
# Access to files

From a directory that was reached, looking up an entry goes wrong in two ways only: the machine
refuses it, or the path is too long.  What is found does not depend on the order in which
directories list their entries.
-/

namespace SpecFinder.Machine

variable {Refusal : Type} {machine : Machine Refusal} {path : Path}

theorem find_of_lookUp?_eq_none (allowed : machine.lookUp? path = none) :
    machine.find path = (machine.tree.find path).mapError .badPath := by
  rw [find, allowed]

theorem find_of_lookUp?_eq_some {refusal : Refusal}
    (isRefused : machine.lookUp? path = some refusal) :
    machine.find path = .error (.refused refusal) := by
  rw [find, isRefused]

/-- What is found in the tree is found where nothing is refused. -/
theorem find_of_find_tree {found : Option FileTree} (allowed : machine.lookUp? path = none)
    (reached : machine.tree.find path = .ok found) : machine.find path = .ok found := by
  rw [find_of_lookUp?_eq_none allowed, reached]
  rfl

theorem find_tree {found : Option FileTree} (reached : machine.find path = .ok found) :
    machine.tree.find path = .ok found := by
  cases isAllowed : machine.lookUp? path with
  | some refusal => cases (find_of_lookUp?_eq_some isAllowed).symm.trans reached
  | none =>
      rw [find_of_lookUp?_eq_none isAllowed] at reached
      cases inTree : machine.tree.find path with
      | error fault =>
          rw [inTree] at reached
          cases reached
      | ok other =>
          rw [inTree] at reached
          cases reached
          rfl

/-- Looking up fails where it is refused, and else only for a path that is too long. -/
theorem find_eq_error {fault : AccessFault Refusal} (failed : machine.find path = .error fault) :
    (∃ refusal, machine.lookUp? path = some refusal) ∨ fault = .badPath .tooLong := by
  cases isAllowed : machine.lookUp? path with
  | some refusal => exact .inl ⟨refusal, rfl⟩
  | none =>
      right
      rw [find_of_lookUp?_eq_none isAllowed] at failed
      cases inTree : machine.tree.find path with
      | ok found =>
          rw [inTree] at failed
          cases failed
      | error other =>
          rw [inTree] at failed
          cases failed
          rw [FileTree.find_eq_error inTree]

/-- Asking something about what is found fails as looking it up does. -/
theorem map_find_eq_error {α : Type} {ask : Option FileTree → α} {fault : AccessFault Refusal}
    (failed : ask <$> machine.find path = .error fault) :
    (∃ refusal, machine.lookUp? path = some refusal) ∨ fault = .badPath .tooLong := by
  cases found : machine.find path with
  | error other =>
      rw [found] at failed
      cases failed
      exact find_eq_error found
  | ok there =>
      rw [found] at failed
      cases failed

/-- What keeps a path to an entry of a directory from being looked up. -/
def fault? (machine : Machine Refusal) (path : Path) : Option (AccessFault Refusal) :=
  match machine.lookUp? path with
  | some refusal => some (.refused refusal)
  | none => if FileTree.IsShort path then none else some (.badPath .tooLong)

/-- From a tree that was reached, a name leads to its entry if nothing keeps it from being
looked up. -/
theorem find_entry {inner : FileTree} {name : Text}
    (reached : machine.find path = .ok (some inner)) (notBack : name ≠ ['.', '.'])
    (notLong : FileTree.isLongName name = false) :
    machine.find (path.entry name) =
      (machine.fault? (path.entry name)).elim (.ok (inner.entries.lookup name)) .error := by
  rw [find, fault?]
  cases machine.lookUp? (path.entry name) with
  | some refusal => rfl
  | none =>
      dsimp only
      rw [FileTree.find_entry (find_tree reached) notBack notLong]
      split <;> rfl

/-! ## The order of entries -/

/-- A machine that lists entries in another order. -/
def relist (machine : Machine Refusal) (other : FileTree) : Machine Refusal :=
  { machine with tree := other }

variable {other : FileTree} (relisted : FileTree.Relisted machine.tree other)

include relisted

theorem find_relist (path : Path) :
    FileTree.SameFind (machine.find path) ((machine.relist other).find path) := by
  cases isAllowed : machine.lookUp? path with
  | some refusal =>
      have alsoRefused : (machine.relist other).lookUp? path = some refusal := isAllowed
      rw [find_of_lookUp?_eq_some isAllowed, find_of_lookUp?_eq_some alsoRefused]
      exact .fault _
  | none =>
      have alsoAllowed : (machine.relist other).lookUp? path = none := isAllowed
      rw [find_of_lookUp?_eq_none isAllowed, find_of_lookUp?_eq_none alsoAllowed]
      have same : FileTree.SameFind (machine.tree.find path)
          ((machine.relist other).tree.find path) := relisted.find path
      generalize machine.tree.find path = found, (machine.relist other).tree.find path = alsoFound
        at same ⊢
      cases same with
      | fault fault => exact .fault _
      | nothing => exact .nothing
      | tree inside => exact .tree inside

/-- What is the same of relisted trees can be asked of either machine. -/
theorem map_find_relist {α : Type} {ask : Option FileTree → α}
    (askAlike : ∀ {left right : FileTree}, FileTree.Relisted left right →
      ask (some left) = ask (some right)) (path : Path) :
    ask <$> (machine.relist other).find path = ask <$> machine.find path := by
  have same := find_relist relisted path
  generalize machine.find path = found, (machine.relist other).find path = alsoFound at same ⊢
  cases same with
  | tree inside => exact congrArg Except.ok (askAlike inside).symm
  | _ => rfl

theorem holdsDirectory_relist (path : Path) :
    (machine.relist other).holdsDirectory path = machine.holdsDirectory path :=
  map_find_relist relisted (fun inside => inside.isDirectory_eq) path

theorem file?_relist (path : Path) : (machine.relist other).file? path = machine.file? path :=
  map_find_relist relisted (fun inside => inside.content?_eq) path

end SpecFinder.Machine
