import Cyclometry.Yaml.Input
import Cyclometry.Yaml.Resolve

/-!
# The graph of a YAML document

The nodes of a document by number.  An alias is the number of the node that it stands for, so
a node may be a part of several others, and even of itself.

A mapping can have **merge keys**, which take in the fields of other mappings.  They are worked
in one mapping at a time, and the graph changes on the way: a merge key is taken out before the
mappings that it names are looked at, so a mapping that merges itself comes to an end.
-/

namespace Cyclometry.Yaml

/-- The number of a node. -/
abbrev NodeId := Nat

/-- A key and a value by their numbers. -/
abbrev NodeField := NodeId × NodeId

/-- What a node consists of. -/
inductive Content
  | scalar (text : String)
  | sequence (items : List NodeId)
  | mapping (fields : List NodeField)
  deriving DecidableEq, Repr

/-- A node of a document. -/
structure Node where
  tag : Tag
  content : Content
  deriving DecidableEq, Repr

/-- The nodes of a document, each at the place of its number. -/
structure Graph where
  nodes : Array Node

namespace Graph

/-- A document without nodes. -/
def empty : Graph := ⟨#[]⟩

/-- The node of a number. -/
def node (g : Graph) (id : NodeId) : Node := g.nodes[id]?.getD ⟨.unknown, .scalar ""⟩

/-- The tag of a node. -/
def tag (g : Graph) (id : NodeId) : Tag := (g.node id).tag

/-- The fields of a mapping; another node has none. -/
def fields (g : Graph) (id : NodeId) : List NodeField :=
  match (g.node id).content with
  | .mapping fields => fields
  | _ => []

/-- A node more, with the number it gets. -/
def add (g : Graph) (n : Node) : NodeId × Graph := (g.nodes.size, ⟨g.nodes.push n⟩)

/-- The graph with another tag of a node. -/
def setTag (g : Graph) (id : NodeId) (tag : Tag) : Graph :=
  ⟨g.nodes.setIfInBounds id { g.node id with tag }⟩

/-- The graph with another content of a node. -/
def setContent (g : Graph) (id : NodeId) (content : Content) : Graph :=
  ⟨g.nodes.setIfInBounds id { g.node id with content }⟩

/-! ## Merge keys -/

/-- The field has a merge key. -/
def isMerge (g : Graph) (field : NodeField) : Bool := g.tag field.1 == .merge

/-- The number of merge keys of the document. -/
def mergeCount (g : Graph) : Nat :=
  g.nodes.foldl (fun n node =>
    match node.content with
    | .mapping fields => n + fields.countP g.isMerge
    | _ => n) 0

/-- The first merge key of a mapping is taken out: the graph without it, and what it names. -/
def takeMerge? (g : Graph) (id : NodeId) : Option (Graph × NodeId) :=
  ((g.fields id).find? g.isMerge).map fun field =>
    (g.setContent id (.mapping ((g.fields id).eraseP g.isMerge)), field.2)

/-- A key that is the mark of a value is a text. -/
def plainKey (g : Graph) (field : NodeField) : Graph :=
  if g.tag field.1 == .value then g.setTag field.1 .str else g

/-- Put the fields that a mapping has taken in in front of its own ones. -/
def takeIn (g : Graph) (id : NodeId) (merged : List NodeField) : Graph :=
  let own := g.fields id
  (own.foldl plainKey g).setContent id (.mapping (merged ++ own))

/-- The fields of a mapping after `flatten` has worked in its merge keys. -/
def mappingFields (flatten : Graph → NodeId → Except Fault Graph) (g : Graph) (id : NodeId) :
    Except Fault (Graph × List NodeField) :=
  match (g.node id).content with
  | .mapping _ => do
    let g ← flatten g id
    pure (g, g.fields id)
  | _ => .error .malformed

/-- The fields of several mappings, those of the last one first. -/
def mappingsFields (flatten : Graph → NodeId → Except Fault Graph) :
    Graph → List NodeId → List NodeField → Except Fault (Graph × List NodeField)
  | g, [], done => .ok (g, done)
  | g, id :: rest, done => do
    let (g, fields) ← mappingFields flatten g id
    mappingsFields flatten g rest (fields ++ done)

/-- The fields that a merge key takes in: those of a mapping, or of a sequence of mappings. -/
def mergedFields (flatten : Graph → NodeId → Except Fault Graph) (g : Graph) (id : NodeId) :
    Except Fault (Graph × List NodeField) :=
  match (g.node id).content with
  | .sequence items => mappingsFields flatten g items []
  | _ => mappingFields flatten g id

/-- Work in the merge keys of a mapping, `merged` being the fields taken in so far.  Each step
takes out a merge key, so `count` is a bound on the number of steps. -/
def flattenWith : Nat → List NodeField → Graph → NodeId → Except Fault Graph
  | count, merged, g, id =>
    match g.takeMerge? id with
    | none => .ok (g.takeIn id merged)
    | some (g, source) =>
      match count with
      | 0 => .error .malformed
      | count + 1 => do
        let (g, fields) ← mergedFields (flattenWith count []) g source
        flattenWith count (merged ++ fields) g id

/-- Work in the merge keys of a mapping, of a document with `count` merge keys. -/
def flatten (count : Nat) (g : Graph) (id : NodeId) : Except Fault Graph :=
  flattenWith count [] g id

/-! ## Texts -/

/-- The text that a node stands for: a mapping may have a key for its value.  `bound` bounds
how far it is looked for. -/
def text (g : Graph) : Nat → NodeId → Except Fault String
  | bound, id =>
    match (g.node id).content with
    | .scalar text => .ok text
    | .sequence _ => .error .malformed
    | .mapping fields =>
      match fields.find? fun field => g.tag field.1 == .value with
      | none => .error .malformed
      | some field =>
        match bound with
        | 0 => .error .nestedTooDeep
        | bound + 1 => g.text bound field.2

end Graph

end Cyclometry.Yaml
