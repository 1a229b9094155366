import Cyclometry.Yaml.Graph
import Cyclometry.Yaml.Token

/-!
# YAML documents

The tokens of a document as a graph of scalars, sequences and mappings, each with its tag.  An
alias stands for the node of its anchor, which has to come before it.  A collection has its
anchor already while its parts are read, so that it may contain itself.

The tokens are looked at one by one, so a text that breaks in the middle has the fault of the
first place at which it cannot be read on.
-/

namespace Cyclometry.Yaml

/-- What is left of the tokens, the anchors so far, the tag handles of the document, and its
nodes so far. -/
structure Reader where
  tokens : List Token
  anchors : List (String × NodeId)
  handles : List (String × String)
  graph : Graph

namespace Reader

/-- The next token. -/
def peek (r : Reader) : Option Token := r.tokens.head?

/-- Pass a token. -/
def step (r : Reader) : Reader := { r with tokens := r.tokens.drop 1 }

/-- The next token is one of these. -/
def sees (r : Reader) (ts : List Token) : Bool := (r.peek.map ts.contains).getD false

/-- The fault of a token that does not belong where it stands. -/
def fault (r : Reader) : Fault :=
  match r.peek with
  | some (.broken fault) => fault
  | _ => .malformed

/-- A node more, which gets its anchor. -/
def add (r : Reader) (anchor : Option String) (n : Node) : NodeId × Reader :=
  let (id, graph) := r.graph.add n
  (id, { r with graph, anchors := (anchor.map fun name => (name, id)).toList ++ r.anchors })

/-- The node of a scalar that is not written at all. -/
def addEmpty (r : Reader) : NodeId × Reader := r.add none ⟨resolve "", .scalar ""⟩

/-- Give a node its content. -/
def setContent (r : Reader) (id : NodeId) (content : Content) : Reader :=
  { r with graph := r.graph.setContent id content }

/-- The node of an anchor. -/
def anchored? (r : Reader) (name : String) : Option NodeId :=
  (r.anchors.find? fun a => a.1 == name).map (·.2)

/-- The full text of a tag. -/
def tagName (r : Reader) (handle : Option String) (suffix : String) : Except Fault String :=
  match handle with
  | none => .ok suffix
  | some handle =>
    match r.handles.find? fun h => h.1 == handle with
    | some (_, lead) => .ok (lead ++ suffix)
    | none => .error .malformed

end Reader

/-! ## Properties -/

/-- What stands in front of a node. -/
structure Properties where
  anchor : Option String
  tag : Option String
  deriving DecidableEq, Repr

/-- The properties at the front of the tokens, in either order.  After the first one the next
token is looked at before anything else. -/
def properties (r : Reader) : Except Fault (Properties × Reader) :=
  match r.tokens with
  | .anchor name :: .tag handle suffix :: rest => do
    pure (⟨some name, some (← r.tagName handle suffix)⟩, { r with tokens := rest })
  | .tag handle suffix :: .anchor name :: rest => do
    pure (⟨some name, some (← r.tagName handle suffix)⟩, { r with tokens := rest })
  | .anchor _ :: .broken fault :: _ => .error fault
  | .tag _ _ :: .broken fault :: _ => .error fault
  | .anchor name :: rest => .ok (⟨some name, none⟩, { r with tokens := rest })
  | .tag handle suffix :: rest => do
    pure (⟨none, some (← r.tagName handle suffix)⟩, { r with tokens := rest })
  | _ => .ok (⟨none, none⟩, r)

/-- The tag of a collection: an exclamation mark alone is none. -/
def collectionTag (tag : Option String) (default : Tag) : Tag :=
  match tag with
  | none => default
  | some "!" => default
  | some tag => .ofText tag

/-- The tag of a scalar: without a tag a plain one gets it by its spelling, and so does one
with an exclamation mark alone. -/
def scalarTag (tag : Option String) (plain : Bool) (text : String) : Tag :=
  match tag with
  | none => if plain then resolve text else .str
  | some "!" => resolve text
  | some tag => .ofText tag

/-! ## Nodes -/

/-- What kind of node begins. -/
inductive Opening
  | scalar (text : String) (plain : Bool)
  /-- A scalar that is not written. -/
  | nothing
  | flowSequence
  | flowMapping
  /-- A block sequence, which has an end of its own if it is `indented`. -/
  | blockSequence (indented : Bool)
  | blockMapping
  deriving DecidableEq, Repr

/-- The kind of the node that begins here.  Block collections are allowed if `block` says so,
and a sequence without indentation of its own if `indentless` does.  A node that has properties
need not be written. -/
def opening (block indentless : Bool) (props : Properties) (r : Reader) :
    Except Fault Opening :=
  let other : Except Fault Opening :=
    if props.anchor.isSome || props.tag.isSome then .ok .nothing else .error r.fault
  match r.peek with
  | some (.broken fault) => .error fault
  | some (.scalar text plain) => .ok (.scalar text plain)
  | some .flowSequenceStart => .ok .flowSequence
  | some .flowMappingStart => .ok .flowMapping
  | some .blockEntry => if indentless then .ok (.blockSequence false) else other
  | some .blockSequenceStart => if block then .ok (.blockSequence true) else other
  | some .blockMappingStart => if block then .ok .blockMapping else other
  | _ => other

/-- Collections may be nested so deep. -/
def maxNesting : Nat := 490

mutual

/-- The node at the front of the tokens, which may be nested `room` deep. -/
def readNode : Nat → Nat → Bool → Bool → Reader → Except Fault (NodeId × Reader)
  | 0, _, _, _, _ => .error .malformed
  | fuel + 1, room, block, indentless, r =>
    match r.peek with
    | some (.alias name) =>
      match r.anchored? name with
      | some id => .ok (id, r.step)
      | none => .error .malformed
    | _ => do
      let (props, r) ← properties r
      let begun ← opening block indentless props r
      if (props.anchor.bind r.anchored?).isSome then throw .malformed
      else
        match begun with
        | .scalar text plain =>
          pure (r.step.add props.anchor ⟨scalarTag props.tag plain text, .scalar text⟩)
        | .nothing => pure (r.add props.anchor ⟨scalarTag props.tag true "", .scalar ""⟩)
        | .flowSequence => readCollection fuel room .flowSequence props r.step
        | .flowMapping => readCollection fuel room .flowMapping props r.step
        | .blockSequence true => readCollection fuel room (.blockSequence true) props r.step
        | .blockSequence false => readCollection fuel room (.blockSequence false) props r
        | .blockMapping => readCollection fuel room .blockMapping props r.step

/-- A collection after its opening token. -/
def readCollection : Nat → Nat → Opening → Properties → Reader →
    Except Fault (NodeId × Reader)
  | 0, _, _, _, _ => .error .malformed
  | _, 0, _, _, _ => .error .nestedTooDeep
  | fuel + 1, room + 1, begun, props, r =>
    match begun with
    | .flowMapping => do
      let (id, r) := r.add props.anchor ⟨collectionTag props.tag .map, .mapping []⟩
      let (fields, r) ← readFlowFields fuel room true [] r
      pure (id, r.setContent id (.mapping fields))
    | .blockMapping => do
      let (id, r) := r.add props.anchor ⟨collectionTag props.tag .map, .mapping []⟩
      let (fields, r) ← readFields fuel room [] r
      pure (id, r.setContent id (.mapping fields))
    | .blockSequence indented => do
      let (id, r) := r.add props.anchor ⟨collectionTag props.tag .seq, .sequence []⟩
      let (items, r) ← readEntries fuel room indented [] r
      pure (id, r.setContent id (.sequence items))
    | _ => do
      let (id, r) := r.add props.anchor ⟨collectionTag props.tag .seq, .sequence []⟩
      let (items, r) ← readFlowItems fuel room true [] r
      pure (id, r.setContent id (.sequence items))

/-- The entries of a block sequence, which has an end of its own if it is `indented`. -/
def readEntries : Nat → Nat → Bool → List NodeId → Reader →
    Except Fault (List NodeId × Reader)
  | 0, _, _, _, _ => .error .malformed
  | fuel + 1, room, indented, done, r =>
    if r.sees [.blockEntry] then
      let r := r.step
      let ends := if indented then [.blockEntry, .blockEnd]
        else [.blockEntry, .key, .value, .blockEnd]
      if r.sees ends then
        let (id, r) := r.addEmpty
        readEntries fuel room indented (id :: done) r
      else do
        let (id, r) ← readNode fuel room true false r
        readEntries fuel room indented (id :: done) r
    else if !indented then .ok (done.reverse, r)
    else if r.sees [.blockEnd] then .ok (done.reverse, r.step)
    else .error r.fault

/-- The fields of a block mapping. -/
def readFields : Nat → Nat → List NodeField → Reader → Except Fault (List NodeField × Reader)
  | 0, _, _, _ => .error .malformed
  | fuel + 1, room, done, r =>
    if r.sees [.key] then do
      let (k, r) ← readBlockPart fuel room r.step
      let (v, r) ← if r.sees [.value] then readBlockPart fuel room r.step else pure r.addEmpty
      readFields fuel room ((k, v) :: done) r
    else if r.sees [.blockEnd] then .ok (done.reverse, r.step)
    else .error r.fault

/-- A key or a value of a block mapping, which may be left out. -/
def readBlockPart : Nat → Nat → Reader → Except Fault (NodeId × Reader)
  | 0, _, _ => .error .malformed
  | fuel + 1, room, r =>
    if r.sees [.key, .value, .blockEnd] then .ok r.addEmpty else readNode fuel room true true r

/-- The items of a sequence in brackets.  A key among them makes a mapping of one field. -/
def readFlowItems : Nat → Nat → Bool → List NodeId → Reader →
    Except Fault (List NodeId × Reader)
  | 0, _, _, _, _ => .error .malformed
  | fuel + 1, room, first, done, r =>
    if r.sees [.flowSequenceEnd] then .ok (done.reverse, r.step)
    else if !first && !r.sees [.flowEntry] then .error r.fault
    else
      let r := if first then r else r.step
      if r.sees [.key] then
        match room with
        | 0 => .error .nestedTooDeep
        | room + 1 => do
          let (k, r) ← readFlowPart fuel room [.value, .flowEntry, .flowSequenceEnd] r.step
          let (v, r) ←
            if r.sees [.value] then readFlowPart fuel room [.flowEntry, .flowSequenceEnd] r.step
            else pure r.addEmpty
          let (id, r) := r.add none ⟨.map, .mapping [(k, v)]⟩
          readFlowItems fuel (room + 1) false (id :: done) r
      else if r.sees [.flowSequenceEnd] then .ok (done.reverse, r.step)
      else do
        let (id, r) ← readNode fuel room false false r
        readFlowItems fuel room false (id :: done) r

/-- The fields of a mapping in braces.  A node that is no key has no value. -/
def readFlowFields : Nat → Nat → Bool → List NodeField → Reader →
    Except Fault (List NodeField × Reader)
  | 0, _, _, _, _ => .error .malformed
  | fuel + 1, room, first, done, r =>
    if r.sees [.flowMappingEnd] then .ok (done.reverse, r.step)
    else if !first && !r.sees [.flowEntry] then .error r.fault
    else
      let r := if first then r else r.step
      if r.sees [.key] then do
        let (k, r) ← readFlowPart fuel room [.value, .flowEntry, .flowMappingEnd] r.step
        let (v, r) ←
          if r.sees [.value] then readFlowPart fuel room [.flowEntry, .flowMappingEnd] r.step
          else pure r.addEmpty
        readFlowFields fuel room false ((k, v) :: done) r
      else if r.sees [.flowMappingEnd] then .ok (done.reverse, r.step)
      else do
        let (k, r) ← readNode fuel room false false r
        let (v, r) := r.addEmpty
        readFlowFields fuel room false ((k, v) :: done) r

/-- A key or a value within brackets, which is left out if one of `ends` comes. -/
def readFlowPart : Nat → Nat → List Token → Reader → Except Fault (NodeId × Reader)
  | 0, _, _, _ => .error .malformed
  | fuel + 1, room, ends, r =>
    if r.sees ends then .ok r.addEmpty else readNode fuel room false false r

end

/-! ## Documents -/

/-- The tag handles of every document. -/
def standardHandles : List (String × String) := [("!", "!"), ("!!", standardLead)]

/-- The directives at the front of the tokens: at most one version, which has to be 1, and one
meaning for each handle. -/
def readDirectives : List Token → Bool → List (String × String) →
    Except Fault (List Token × List (String × String))
  | .directive (.version major _) :: rest, versioned, handles =>
    if versioned || major != 1 then .error .malformed else readDirectives rest true handles
  | .directive (.tag handle lead) :: rest, versioned, handles =>
    if handles.any fun h => h.1 == handle then .error .malformed
    else readDirectives rest versioned ((handle, lead) :: handles)
  | .directive .unknown :: rest, versioned, handles => readDirectives rest versioned handles
  | ts, _, handles => .ok (ts, handles ++ standardHandles)

/-- The reader at the beginning of some tokens. -/
def Reader.start (ts : List Token) (handles : List (String × String)) : Reader :=
  ⟨ts, [], handles, .empty⟩

/-- A bound on the depth of nested calls of the reader: of four at least one passes a
token. -/
def depth (ts : List Token) : Nat := 4 * ts.length + 8

/-- Nothing but ends of documents may be left.  What else is left is read up to the beginning
of the next document. -/
def expectEnd (r : Reader) : Except Fault Unit :=
  match r.tokens.dropWhile (· == Token.documentEnd) with
  | [] => .ok ()
  | ts => do
    let (ts, handles) ← readDirectives ts false []
    throw (Reader.start ts handles).fault

/-- The nodes of a document and its root. -/
structure Document where
  graph : Graph
  root : NodeId

/-- A document that begins with its mark. -/
def readDocument (ts : List Token) : Except Fault Document := do
  let (ts, handles) ← readDirectives ts false []
  match ts with
  | .documentStart :: rest =>
    let r := Reader.start rest handles
    let bare := match rest.head? with
      | none => true
      | some (.directive _) => true
      | some .documentStart => true
      | some .documentEnd => true
      | _ => false
    let (root, r) ←
      if bare then pure r.addEmpty else readNode (depth rest) maxNesting true false r
    expectEnd r
    pure ⟨r.graph, root⟩
  | ts => throw (Reader.start ts handles).fault

/-- The only document of a text, `none` if there is none. -/
def document? (ts : List Token) : Except Fault (Option Document) :=
  match ts with
  | [] => .ok none
  | .directive _ :: _ => (readDocument ts).map some
  | .documentStart :: _ => (readDocument ts).map some
  | _ => do
    let (root, r) ←
      readNode (depth ts) maxNesting true false (Reader.start ts standardHandles)
    expectEnd r
    pure (some ⟨r.graph, root⟩)

end Cyclometry.Yaml
