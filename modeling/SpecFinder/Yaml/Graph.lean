import SpecFinder.Yaml.Kind
import SpecFinder.Yaml.Token

/-!
# YAML graphs

What a YAML text is made of: scalars, sequences and mappings, each with its kind.
Nodes are known by their numbers, for an alias lets a node be part of several
collections, of itself among them.
-/

namespace SpecFinder.Yaml

/-- What a node consists of. The parts of a collection are given by their numbers. -/
inductive Content where
  | scalar (text : Text)
  | sequence (items : List Nat)
  | mapping (entries : List (Nat × Nat))
  deriving DecidableEq, Repr

structure Node where
  kind : Kind
  content : Content
  deriving DecidableEq, Repr

structure Graph where
  nodes : Array Node := #[]
  names : List (Text × Nat) := []
  deriving Repr

namespace Graph

/-- Add a node, which may bear a name. -/
def add (graph : Graph) (name : Option Text) (node : Node) : Nat × Graph :=
  let number := graph.nodes.size
  (number, {
    nodes := graph.nodes.push node
    names := match name with
      | some name => (name, number) :: graph.names
      | none => graph.names })

def kind (graph : Graph) (number : Nat) : Kind :=
  (graph.nodes[number]?.map (·.kind)).getD .unknown

def content (graph : Graph) (number : Nat) : Content :=
  (graph.nodes[number]?.map (·.content)).getD (.scalar [])

def modify (graph : Graph) (number : Nat) (change : Node → Node) : Graph :=
  { graph with nodes := graph.nodes.modify number change }

def setContent (graph : Graph) (number : Nat) (content : Content) : Graph :=
  graph.modify number fun node => { node with content }

def entries? (graph : Graph) (number : Nat) : Option (List (Nat × Nat)) :=
  match graph.content number with
  | .mapping entries => some entries
  | .sequence _ | .scalar _ => none

/-- The text of a node that is read as a scalar. A mapping is read as the value of its
default key. Only defaults that lead back to themselves take more steps than there
are nodes. -/
def textFrom (graph : Graph) : (steps : Nat) → (number : Nat) → Except Fault Text
  | 0, _ => .error .tooDeep
  | steps + 1, number =>
      match graph.content number with
      | .scalar text => .ok text
      | .sequence _ => .error .malformed
      | .mapping entries =>
          match entries.find? fun (key, _) => graph.kind key == .defaultValue with
          | some (_, value) => graph.textFrom steps value
          | none => .error .malformed

def text (graph : Graph) (number : Nat) : Except Fault Text :=
  graph.textFrom (graph.nodes.size + 1) number

end Graph

end SpecFinder.Yaml
