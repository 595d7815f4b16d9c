import SpecFinder.Yaml.Document
import SpecFinder.Yaml.Merge
import SpecFinder.Yaml.Reader
import SpecFinder.Yaml.ScalarValue

/-!
# Making values of graphs

Every node is made into one value.  A collection is a value before it holds anything:
what it holds is made later, when its turn comes, so that it may hold itself.
-/

namespace SpecFinder.Yaml

/-- The making of values: the graph, whose merge keys are replaced on the way, the values
and collections made of its nodes, and the collections that wait for being filled. -/
structure Construction where
  graph : Graph
  values : Array (Option Value)
  collections : Array Collection
  waiting : List Nat := []
  deriving Repr

abbrev Maker := StateT Construction (Except Fault)

namespace Construction

def start (graph : Graph) : Construction where
  graph
  values := Array.replicate graph.nodes.size none
  collections := Array.replicate graph.nodes.size (.list [])

/-- The value of a node that has not been made before, and whether something has to be
filled for it. -/
def newValue (graph : Graph) (number : Nat) : Except Fault Value :=
  match graph.kind number with
  | .sequence | .mapping | .set | .pairs => .ok (.collection number)
  | .merge | .defaultValue | .unknown => .error .malformed
  | kind => do
      let text ← graph.text number
      if kind == .timestamp && (graph.entries? number).isSome then
        throw .dateOfMapping
      else
        match ← kind.readScalar text with
        | .float value => return if value.isNaN then .notNumber (some number) else .float value
        | value => return value

def make (number : Nat) : Maker Value := do
  let construction ← get
  match construction.values[number]?.join with
  | some value => return value
  | none =>
      let value ← newValue construction.graph number
      modify fun construction => { construction with
        values := construction.values.setIfInBounds number (some value)
        waiting := construction.waiting ++ if value.isKey then [] else [number] }
      return value

/-- The entries of a mapping. Of two entries with one key the later one counts. -/
def makeEntries (number : Nat) : Maker (List (Value × Value)) := do
  let construction ← get
  if (construction.graph.entries? number).isNone then
    throw .malformed
  else
    let graph ← construction.graph.merge number
    modify ({ · with graph })
    ((graph.entries? number).getD []).foldlM (fun done (key, value) => do
      let key ← make key
      if key.isKey then return Value.insert key (← make value) done else throw .malformed) []

/-- The pair that a mapping with one entry is read as. It is a collection of its own, next
to the mapping. -/
def makePair (number : Nat) : Maker Value := do
  match (← get).graph.content number with
  | .mapping [(key, value)] =>
      let pair := Collection.pair (← make key) (← make value)
      modifyGet fun construction =>
        (.collection construction.collections.size,
          { construction with collections := construction.collections.push pair })
  | _ => throw .malformed

def makeCollection (number : Nat) : Maker Collection := do
  let graph := (← get).graph
  match graph.kind number, graph.content number with
  | .mapping, _ => return .mapping (← makeEntries number)
  | .set, _ => return .set ((← makeEntries number).map (·.1))
  | .pairs, .sequence items => return .list (← items.mapM makePair)
  | _, .sequence items => return .list (← items.mapM make)
  | _, _ => throw .malformed

/-- Fill the collections that wait, and those that come to wait meanwhile. Each node is
filled once at most. -/
def fill : (steps : Nat) → Maker Unit
  | 0 => return ()
  | steps + 1 => do
      match (← get).waiting with
      | [] => return ()
      | number :: waiting =>
          modify ({ · with waiting })
          let collection ← makeCollection number
          modify fun construction => { construction with
            collections := construction.collections.setIfInBounds number collection }
          fill steps

end Construction

/-- The document whose root is a node of a graph. -/
def Document.ofGraph (root : Nat) (graph : Graph) : Except Fault Document := do
  let made : Maker Value := do
    let value ← Construction.make root
    Construction.fill (graph.nodes.size + 1)
    return value
  let (root, construction) ← made.run (.start graph)
  return { root, collections := construction.collections }

/-- The document of a YAML text. A text without a document is one with nothing in it. -/
def Document.ofText (room : Nat) (text : Text) : Except Fault Document := do
  match ← Graph.ofTokens room (Token.ofText text) with
  | none => return { root := .null, collections := #[] }
  | some (root, graph) => Document.ofGraph root graph

end SpecFinder.Yaml
