import SpecFinder.Yaml.Graph

/-!
# Reading YAML

Tokens are read into a graph.  A collection has its number before its parts are
read, so that an alias within it may name it.
-/

namespace SpecFinder.Yaml

structure Progress where
  tokens : List Token
  graph : Graph := {}
  deriving Repr

abbrev Reader := StateT Progress (Except Fault)

/-- What holds wherever a node is read: the expansions of the tag handles, and for how many
collections in one another there still is room. -/
structure Surroundings where
  handles : List (Text × Text)
  room : Nat
  deriving DecidableEq, Repr

/-- What holds inside a collection. -/
def Surroundings.within (around : Surroundings) : Surroundings :=
  { around with room := around.room - 1 }

namespace Reader

def goTo (tokens : List Token) : Reader Unit := modify ({ · with tokens })

/-- Give up at the tokens ahead. -/
def reject {α : Type} : Reader α := do throw (Token.blame (← get).tokens)

/-- Give up where the text breaks off. -/
def refuseBreak : Reader Unit := do
  match (← get).tokens with
  | .broken fault :: _ => throw fault
  | _ => return ()

def add (name : Option Text) (kind : Kind) (content : Content) : Reader Nat :=
  modifyGet fun progress =>
    let (number, graph) := progress.graph.add name ⟨kind, content⟩
    (number, { progress with graph })

def addEmpty : Reader Nat := add none .null (.scalar [])

def addCollection (around : Surroundings) (name : Option Text) (kind : Kind)
    (read : Reader Content) : Reader Nat := do
  if around.room = 0 then
    throw .tooDeep
  else
    let number ← add name kind (.scalar [])
    let content ← read
    modify fun progress =>
      { progress with graph := progress.graph.setContent number content }
    return number

/-- The kind that a tag gives, none when the tag leaves it open. -/
def kindOfTag (handles : List (Text × Text)) (tag : Option (Option Text × Text)) :
    Except Fault (Option Kind) :=
  match tag with
  | none => .ok none
  | some (none, suffix) => .ok (if suffix = ['!'] then none else some (Kind.ofTag suffix))
  | some (some handle, suffix) =>
      match handles.lookup handle with
      | some expansion =>
          let full := expansion ++ suffix
          .ok (if full = ['!'] then none else some (Kind.ofTag full))
      | none => .error .malformed

/-- What stands in front of a node. -/
structure Properties where
  name : Option Text := none
  tag : Option (Option Text × Text) := none
  deriving DecidableEq, Repr

def Properties.isEmpty (properties : Properties) : Bool :=
  properties.name.isNone && properties.tag.isNone

/-- Take the name and the tag in front of a node, in either order. -/
def takeProperties : List Token → Properties × List Token
  | .anchor name :: .tag handle suffix :: rest => (⟨some name, some (handle, suffix)⟩, rest)
  | .tag handle suffix :: .anchor name :: rest => (⟨some name, some (handle, suffix)⟩, rest)
  | .anchor name :: rest => (⟨some name, none⟩, rest)
  | .tag handle suffix :: rest => (⟨none, some (handle, suffix)⟩, rest)
  | rest => ({}, rest)

/-- The kind of a scalar: the one its tag names, else a text in quotes is a text
and any other scalar is what it is written like. A lone exclamation mark as a tag
treats quoted scalars like plain ones. -/
def scalarKind (kind : Option Kind) (hasTag isPlain : Bool) (text : Text) : Kind :=
  match kind with
  | some kind => kind
  | none => if isPlain || hasTag then Kind.ofPlain text else .string

/-- Where a node stands: this decides which collections may begin there. -/
inductive Place where
  | flow
  | block
  | mappingPart
  deriving DecidableEq, Repr

def endsMappingPart : Option Token → Bool
  | none | some .key | some .value | some .blockEnd => true
  | _ => false

def endsItem : Option Token → Bool
  | some .blockEntry | some .blockEnd => true
  | _ => false

def endsIndentlessItem : Option Token → Bool
  | some .blockEntry | some .key | some .value | some .blockEnd => true
  | _ => false

/-- Whether a token ends a key in a flow collection, which a given token closes. -/
def endsFlowKey (closing : Token) : Option Token → Bool
  | some .value | some .flowEntry => true
  | next => next == some closing

/-- Whether a token ends a value in a flow collection, which a given token closes. -/
def endsFlowValue (closing : Token) : Option Token → Bool
  | some .flowEntry => true
  | next => next == some closing

mutual

/-- Read a node, and return its number. -/
def read (steps : Nat) (place : Place) (around : Surroundings) : Reader Nat :=
  match steps with
  | 0 => reject
  | steps + 1 => do
      let progress ← get
      match progress.tokens with
      | .alias name :: _ =>
          match progress.graph.names.lookup name with
          | some number => goTo progress.tokens.tail; return number
          | none => throw .malformed
      | tokens =>
          let (properties, tokens) := takeProperties tokens
          goTo tokens
          if properties.name.isNone then refuseBreak
          let kind ← kindOfTag around.handles properties.tag
          refuseBreak
          if properties.name.any fun name => (progress.graph.names.lookup name).isSome then
            throw .malformed
          else
            let inside := around.within
            let scalar (isPlain : Bool) (text : Text) : Reader Nat :=
              add properties.name (scalarKind kind properties.tag.isSome isPlain text)
                (.scalar text)
            let sequence (items : Reader (List Nat)) : Reader Nat :=
              addCollection around properties.name (kind.getD .sequence) (.sequence <$> items)
            let mapping (entries : Reader (List (Nat × Nat))) : Reader Nat :=
              addCollection around properties.name (kind.getD .mapping) (.mapping <$> entries)
            let absent : Reader Nat := if properties.isEmpty then reject else scalar true []
            match tokens with
            | .scalar text isPlain :: rest => goTo rest; scalar isPlain text
            | .flowSequenceStart :: rest => goTo rest; sequence (readFlowItems steps true inside)
            | .flowMappingStart :: rest => goTo rest; mapping (readFlowEntries steps true inside)
            | .blockEntry :: _ =>
                if place = .mappingPart then sequence (readItems steps false inside) else absent
            | .blockSequenceStart :: rest =>
                if place = .flow then absent
                else goTo rest; sequence (readItems steps true inside)
            | .blockMappingStart :: rest =>
                if place = .flow then absent else goTo rest; mapping (readEntries steps inside)
            | _ => absent

/-- Read a node, or the empty one where a token already ends it. -/
def readUnless (steps : Nat) (ends : Option Token → Bool) (place : Place)
    (around : Surroundings) : Reader Nat :=
  match steps with
  | 0 => reject
  | steps + 1 => do
      if ends (← get).tokens.head? then addEmpty else read steps place around

/-- Read the items of a block sequence, which has an end of its own when it is
indented. -/
def readItems (steps : Nat) (isIndented : Bool) (around : Surroundings) :
    Reader (List Nat) :=
  match steps with
  | 0 => reject
  | steps + 1 => do
      match (← get).tokens with
      | .blockEntry :: rest =>
          goTo rest
          let item ← readUnless steps (if isIndented then endsItem else endsIndentlessItem)
            .block around
          return item :: (← readItems steps isIndented around)
      | .blockEnd :: rest => if isIndented then goTo rest; return [] else return []
      | _ => if isIndented then reject else return []

def readValue (steps : Nat) (ends : Option Token → Bool) (place : Place)
    (around : Surroundings) : Reader Nat :=
  match steps with
  | 0 => reject
  | steps + 1 => do
      match (← get).tokens with
      | .value :: rest => goTo rest; readUnless steps ends place around
      | _ => addEmpty

def readEntry (steps : Nat) (endsKey endsValue : Option Token → Bool) (place : Place)
    (around : Surroundings) : Reader (Nat × Nat) :=
  match steps with
  | 0 => reject
  | steps + 1 => do
      let key ← readUnless steps endsKey place around
      return (key, ← readValue steps endsValue place around)

def readEntries (steps : Nat) (around : Surroundings) : Reader (List (Nat × Nat)) :=
  match steps with
  | 0 => reject
  | steps + 1 => do
      match (← get).tokens with
      | .key :: rest =>
          goTo rest
          let entry ← readEntry steps endsMappingPart endsMappingPart .mappingPart around
          return entry :: (← readEntries steps around)
      | .blockEnd :: rest => goTo rest; return []
      | _ => reject

/-- Read the items of a flow sequence. A key makes a mapping of one entry. -/
def readFlowItems (steps : Nat) (isFirst : Bool) (around : Surroundings) :
    Reader (List Nat) :=
  match steps with
  | 0 => reject
  | steps + 1 => do
      let closing : Token := .flowSequenceEnd
      match isFirst, (← get).tokens with
      | _, .flowSequenceEnd :: rest | false, .flowEntry :: .flowSequenceEnd :: rest =>
          goTo rest; return []
      | false, .flowEntry :: .key :: rest | true, .key :: rest =>
          goTo rest
          let inside := around.within
          let item ← addCollection around none .mapping do
            return .mapping [← readEntry steps (endsFlowKey closing) (endsFlowValue closing)
              .flow inside]
          return item :: (← readFlowItems steps false around)
      | false, .flowEntry :: rest | true, rest =>
          goTo rest
          let item ← read steps .flow around
          return item :: (← readFlowItems steps false around)
      | false, _ => reject

/-- Read the entries of a flow mapping. A node without a key mark is a key without
a value. -/
def readFlowEntries (steps : Nat) (isFirst : Bool) (around : Surroundings) :
    Reader (List (Nat × Nat)) :=
  match steps with
  | 0 => reject
  | steps + 1 => do
      let closing : Token := .flowMappingEnd
      match isFirst, (← get).tokens with
      | _, .flowMappingEnd :: rest | false, .flowEntry :: .flowMappingEnd :: rest =>
          goTo rest; return []
      | false, .flowEntry :: .key :: rest | true, .key :: rest =>
          goTo rest
          let entry ← readEntry steps (endsFlowKey closing) (endsFlowValue closing) .flow around
          return entry :: (← readFlowEntries steps false around)
      | false, .flowEntry :: rest | true, rest =>
          goTo rest
          let key ← read steps .flow around
          let value ← addEmpty
          return (key, value) :: (← readFlowEntries steps false around)
      | false, _ => reject

end

def standardHandles : List (Text × Text) :=
  [("!".toList, "!".toList), ("!!".toList, Kind.standardTags)]

/-- Read the directives in front of a document: the tag handles that they set. -/
def readDirectives (hasVersion : Bool) (handles : List (Text × Text)) :
    List Token → Except Fault (List (Text × Text) × List Token)
  | .directive (.version major) :: rest =>
      if hasVersion || major != 1 then .error .malformed
      else readDirectives true handles rest
  | .directive (.tagPrefix handle expansion) :: rest =>
      if (handles.lookup handle).isSome then .error .malformed
      else readDirectives hasVersion ((handle, expansion) :: handles) rest
  | .directive .reserved :: rest => readDirectives hasVersion handles rest
  | rest => .ok (handles, rest)

def endsDocument : Option Token → Bool
  | none | some (.directive _) | some .documentStart | some .documentEnd => true
  | _ => false

/-- How many steps some tokens take at most. -/
def stepsFor (tokens : List Token) : Nat := 5 * tokens.length + 10

def readDocument (room : Nat) : Reader Nat := do
  let tokens := (← get).tokens
  match tokens with
  | .directive _ :: _ | .documentStart :: _ =>
      let (handles, rest) ← readDirectives false [] tokens
      goTo rest
      match rest with
      | .documentStart :: rest =>
          goTo rest
          let standard := standardHandles.filter fun (name, _) => (handles.lookup name).isNone
          readUnless (stepsFor rest) endsDocument .block ⟨handles ++ standard, room⟩
      | _ => reject
  | _ => read (stepsFor tokens) .block ⟨standardHandles, room⟩

/-- Read the end of a text behind its only document. -/
def readEnd : Reader Unit := do
  let rest := (← get).tokens.dropWhile (· == .documentEnd)
  if rest.isEmpty then
    return ()
  else
    goTo rest
    refuseBreak
    goTo (← readDirectives false [] rest).2
    reject

end Reader

/-- The graph of a token list that holds at most one document, and the number of the
node that is the document. -/
def Graph.ofTokens (room : Nat) (tokens : List Token) : Except Fault (Option (Nat × Graph)) :=
  if tokens.isEmpty then
    .ok none
  else do
    let (number, progress) ← (do
      let number ← Reader.readDocument room
      Reader.readEnd
      return number : Reader Nat).run { tokens }
    return some (number, progress.graph)

end SpecFinder.Yaml
