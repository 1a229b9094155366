import Cyclometry.Yaml.Atom
import Cyclometry.Yaml.Document

/-!
# Reading YAML

The value of a document.  Scalars become values at once, collections wait in a queue: the parts
of the root come first, then the parts of its parts, so of several faults the one nearest to the
root counts.  Of several equal keys the last one gives the value and the first one the place.

In the end the collections are put together.  One that contains itself is laid out only to some
depth, with a mark for what would follow.
-/

namespace Cyclometry.Yaml

/-- The tag makes a collection. -/
def Tag.isCollection : Tag → Bool
  | .omap => true
  | .pairs => true
  | .set => true
  | .seq => true
  | .map => true
  | _ => false

/-- A part of a collection. -/
inductive Part
  | value (v : Value)
  /-- Another collection. -/
  | collection (id : NodeId)
  deriving Inhabited

/-- What a collection consists of. -/
inductive Shape
  | list (items : List Part)
  | pairs (items : List (Part × Part))
  | set (members : List Value)
  | map (fields : List (Value × Part))

/-- The state of the work on a document. -/
structure Builder where
  graph : Graph
  /-- The number of merge keys in the beginning. -/
  merges : Nat
  /-- What the nodes seen so far are, by their numbers. -/
  parts : Array (Option Part)
  /-- What the finished collections consist of, by their numbers. -/
  shapes : Array (Option Shape)
  /-- The collections still to be worked on, last one first. -/
  waiting : List NodeId

/-- Work on a document that may fail. -/
abbrev Build (α : Type) := StateT Builder (Except Fault) α

namespace Builder

/-- The work on a document begins. -/
def start (g : Graph) : Builder :=
  ⟨g, g.mergeCount, Array.replicate g.nodes.size none, Array.replicate g.nodes.size none, []⟩

end Builder

/-! ## Parts -/

/-- The value of a node that makes no collection. -/
def atomValue (g : Graph) (id : NodeId) : Except Fault Value :=
  let tag := g.tag id
  if tag == .unknown || tag == .merge || tag == .value then .error .malformed
  else do
    let text ← g.text g.nodes.size id
    match tag, (g.node id).content with
    | .timestamp, .mapping _ => throw .dateOfMapping
    | _, _ => scalarValue tag text

/-- The value of a node with its mark: what is not a number is told apart by its node, but its
name always means the same thing. -/
def marked (g : Graph) (id : NodeId) (v : Value) : Value :=
  match v with
  | .float (.nan _) =>
    match g.text g.nodes.size id with
    | .ok text => .float (.nan (if isNanName text then 0 else id + 1))
    | .error _ => v
  | _ => v

/-- What a node is.  A collection that is new has to wait. -/
def part (id : NodeId) : Build Part := do
  let b ← get
  match b.parts[id]?.join with
  | some p => pure p
  | none =>
    if (b.graph.tag id).isCollection then
      let p := Part.collection id
      set { b with parts := b.parts.setIfInBounds id (some p), waiting := id :: b.waiting }
      pure p
    else
      let v ← atomValue b.graph id
      let p := Part.value (marked b.graph id v)
      set { b with parts := b.parts.setIfInBounds id (some p) }
      pure p

/-- What a node is that is a key.  Collections are no keys. -/
def keyPart (id : NodeId) : Build Value := do
  match ← part id with
  | .value v => pure v
  | .collection _ => throw .malformed

/-! ## Collections -/

/-- Give a key its part.  A key that is there stays where and as it is. -/
def setField : List (Value × Part) → Value → Part → List (Value × Part)
  | [], k, p => [(k, p)]
  | field :: rest, k, p =>
    if field.1.sameKey k then (field.1, p) :: rest else field :: setField rest k p

/-- The fields of a mapping with its merge keys worked in. -/
def mappingParts (id : NodeId) : Build (List (Value × Part)) := do
  let b ← get
  let (graph, fields) ← Graph.mappingFields (Graph.flatten b.merges) b.graph id
  set { b with graph }
  let parts ← fields.mapM fun field => do
    let k ← keyPart field.1
    let p ← part field.2
    pure (k, p)
  pure (parts.foldl (fun done field => setField done field.1 field.2) [])

/-- The items of a sequence. -/
def sequenceItems (id : NodeId) : Build (List NodeId) := do
  match ((← get).graph.node id).content with
  | .sequence items => pure items
  | _ => throw .malformed

/-- The parts of an item that has to be a mapping of a single field. -/
def pairParts (id : NodeId) : Build (Part × Part) := do
  match ((← get).graph.node id).content with
  | .mapping [field] =>
    let k ← part field.1
    let v ← part field.2
    pure (k, v)
  | _ => throw .malformed

/-- What a collection consists of. -/
def shape (id : NodeId) : Build Shape := do
  match (← get).graph.tag id with
  | .seq => do
    let items ← (← sequenceItems id).mapM part
    pure (.list items)
  | .map => do
    let fields ← mappingParts id
    pure (.map fields)
  | .set => do
    let fields ← mappingParts id
    pure (.set (fields.map (·.1)))
  | _ => do
    let items ← (← sequenceItems id).mapM pairParts
    pure (.pairs items)

/-- Finish a collection. -/
def finish (id : NodeId) : Build Unit := do
  let s ← shape id
  modify fun b => { b with shapes := b.shapes.setIfInBounds id (some s) }

/-- Finish all collections, those that wait longest first.  Every round finishes at least one,
so `rounds` may be the number of nodes. -/
def finishAll : Nat → Build Unit
  | 0 => pure ()
  | rounds + 1 => do
    let ids := (← get).waiting.reverse
    if ids.isEmpty then pure ()
    else do
      modify fun b => { b with waiting := [] }
      ids.forM finish
      finishAll rounds

/-! ## Values -/

/-- A value as far as it is laid out, and whether that is all of it. -/
structure Layer where
  value : Value
  complete : Bool
  deriving Inhabited

/-- Nothing is laid out. -/
def Layer.none : Layer := ⟨.cycle, false⟩

/-- A part, where the collections are laid out as `layers` says. -/
def Part.layer (layers : Array Layer) : Part → Layer
  | .value v => ⟨v, true⟩
  | .collection id => layers[id]?.getD Layer.none

/-- A collection, where its parts are laid out as `layers` says. -/
def Shape.layer (layers : Array Layer) : Shape → Layer
  | .list items =>
    let items := items.map (Part.layer layers)
    ⟨.list (items.map (·.value)), items.all (·.complete)⟩
  | .pairs items =>
    let items := items.map fun (a, b) => (a.layer layers, b.layer layers)
    ⟨.list (items.map fun (a, b) => .pair a.value b.value),
      items.all fun (a, b) => a.complete && b.complete⟩
  | .set members => ⟨.set members, true⟩
  | .map fields =>
    let fields := fields.map fun (k, p) => (k, p.layer layers)
    ⟨.map (fields.map fun (k, p) => (k, p.value)), fields.all fun (_, p) => p.complete⟩

/-- Lay out one level more of every collection. -/
def deepen (shapes : Array (Option Shape)) (layers : Array Layer) : Array Layer :=
  layers.mapIdx fun id layer =>
    if layer.complete then layer
    else
      match shapes[id]?.join with
      | some s => s.layer layers
      | none => layer

/-- Lay out a collection, to some depth if it has no end. -/
def layOut (shapes : Array (Option Shape)) (id : NodeId) : Nat → Array Layer → Value
  | 0, layers => (layers[id]?.getD Layer.none).value
  | depth + 1, layers =>
    let layer := layers[id]?.getD Layer.none
    if layer.complete then layer.value else layOut shapes id depth (deepen shapes layers)

/-- How deep a collection that contains itself is laid out beyond the number of nodes. -/
def spareDepth : Nat := 8

/-- The value of a document. -/
def Document.value (d : Document) : Except Fault Value := do
  let size := d.graph.nodes.size
  let build : Build Part := do
    let p ← part d.root
    finishAll (size + 1)
    pure p
  let (p, b) ← build.run (.start d.graph)
  match p with
  | .value v => pure v
  | .collection id =>
    pure (layOut b.shapes id (size + spareDepth) (Array.replicate size Layer.none))

/-- The value of the only document of a text, null if there is none. -/
def read (s : List Char) : Except Fault Value := do
  match ← document? (tokens s) with
  | none => pure .null
  | some d => d.value

end Cyclometry.Yaml
