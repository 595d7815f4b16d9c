import SpecFinder.Yaml.Graph

/-!
# Merge keys

Behind a merge key stands a mapping, or a sequence of mappings, whose entries a
mapping takes over in front of its own.
-/

namespace SpecFinder.Yaml.Graph

/-- The value behind the first merge key, and the other entries. -/
def takeMerge (graph : Graph) : List (Nat × Nat) → Option (Nat × List (Nat × Nat))
  | [] => none
  | (key, value) :: entries =>
      if graph.kind key == .merge then some (value, entries)
      else (graph.takeMerge entries).map fun (source, others) => (source, (key, value) :: others)

def mergeCount (graph : Graph) : Nat :=
  let inNode (node : Node) : Nat :=
    match node.content with
    | .mapping entries => entries.countP fun (key, _) => graph.kind key == .merge
    | .sequence _ | .scalar _ => 0
  (graph.nodes.toList.map inNode).foldr (· + ·) 0

/-- Read default keys as texts. -/
def readDefaults (graph : Graph) (entries : List (Nat × Nat)) : Graph :=
  entries.foldl (fun graph (key, _) =>
    if graph.kind key == .defaultValue then
      graph.modify key fun node => { node with kind := .string }
    else
      graph) graph

/-- Replace the merge keys of a mapping by what stands behind them, with `gained`
being taken over already. The mappings taken over are freed of merge keys before.
Every merge key is taken away before what it names is looked at, so that a mapping may
even merge itself: no more steps are taken than there are merge keys. -/
def mergeFrom : (steps : Nat) → (gained : List (Nat × Nat)) → (number : Nat) → Graph →
    Except Fault Graph
  | 0, _, _, _ => .error .tooDeep
  | steps + 1, gained, number, graph =>
      let entries := (graph.entries? number).getD []
      match graph.takeMerge entries with
      | none =>
          let entries := gained ++ entries
          .ok ((graph.setContent number (.mapping entries)).readDefaults entries)
      | some (source, others) => do
          let takeOver (graph : Graph) (source : Nat) :
              Except Fault (List (Nat × Nat) × Graph) := do
            if (graph.entries? source).isSome then
              let merged ← mergeFrom steps [] source graph
              return ((merged.entries? source).getD [], merged)
            else
              throw .malformed
          let shortened := graph.setContent number (.mapping others)
          let (more, merged) ← match graph.content source with
            | .sequence items =>
                items.foldlM (fun (more, graph) item => do
                  let (entries, merged) ← takeOver graph item
                  return (entries ++ more, merged)) ([], shortened)
            | .mapping _ | .scalar _ => takeOver shortened source
          mergeFrom steps (gained ++ more) number merged

def merge (graph : Graph) (number : Nat) : Except Fault Graph :=
  mergeFrom (graph.mergeCount + 1) [] number graph

end SpecFinder.Yaml.Graph
