import Cyclometry.Preorder
import Cyclometry.Text.Utf8

/-!
# Grammar trees

The tree that a grammar-based parser builds over a source text.  Every node has the name of
its grammar rule, and a child may stand under a field of its parent.  Nodes point into the
source by byte offsets, which need not be in order or in range.
-/

namespace Cyclometry.Grammar

/-- What the parser tells about a node. -/
structure Head where
  /-- The name of the grammar rule. -/
  rule : String
  /-- The rule has a name of its own, unlike a keyword or a punctuation mark. -/
  named : Bool
  /-- The field of the parent that this node stands under. -/
  field : Option String
  startByte : Int
  endByte : Int
  startRow : Int
  startColumn : Int
  deriving DecidableEq, Repr

/-- A node of a grammar tree. -/
inductive Node
  | mk (head : Head) (children : List Node)

/-- What the parser makes of a source. -/
structure Parse where
  /-- Some of the source did not fit the grammar. -/
  hasError : Bool
  root : Node

namespace Node

/-- What the parser tells about a node. -/
def head : Node → Head
  | mk head _ => head

/-- The children of a node. -/
def children : Node → List Node
  | mk _ children => children

/-- The name of a node's grammar rule. -/
def rule (n : Node) : String := n.head.rule

/-- The node stands under a field of its parent. -/
def isUnder (field : String) (n : Node) : Bool := n.head.field == some field

/-- The first child under a field. -/
def under? (n : Node) (field : String) : Option Node := n.children.find? (isUnder field)

/-- The last child whose rule has a name. -/
def lastNamed? (n : Node) : Option Node := (n.children.filter fun c => c.head.named).getLast?

/-- The tree of preorder rows. -/
def ofRows? (rows : List (Head × Nat)) : Option Node := Preorder.tree? mk rows

mutual

/-- All nodes of a tree in preorder. -/
def preorder : Node → List Node
  | mk head children => mk head children :: preorderAll children

/-- All nodes of several trees in preorder. -/
def preorderAll : List Node → List Node
  | [] => []
  | n :: rest => n.preorder ++ preorderAll rest

end

theorem sizeOf_lt_of_mem_children {n m : Node} (h : m ∈ n.children) : sizeOf m < sizeOf n := by
  cases n with
  | mk head children =>
    have := List.sizeOf_lt_of_mem h
    simp only [Node.children] at this
    simp only [Node.mk.sizeOf_spec]
    omega

theorem mem_children_of_under? {n m : Node} {field : String} (h : n.under? field = some m) :
    m ∈ n.children := List.mem_of_find?_eq_some h

theorem mem_children_of_lastNamed? {n m : Node} (h : n.lastNamed? = some m) :
    m ∈ n.children := (List.mem_filter.1 (List.mem_of_getLast? h)).1

end Node

/-! ## Text of a node -/

/-- A byte offset brought into range.  Negative offsets count from the end. -/
def clampOffset (size : Nat) (offset : Int) : Nat :=
  min size (if offset < 0 then offset + size else offset).toNat

/-- The bytes between two offsets. -/
def slice (source : Bytes) (start stop : Int) : Bytes :=
  let first := clampOffset source.length start
  (source.drop first).take (clampOffset source.length stop - first)

/-- The text that a node covers, with U+FFFD for every malformed piece. -/
def Node.text (source : Bytes) (n : Node) : List Char :=
  Utf8.decodeLossy (slice source n.head.startByte n.head.endByte)

end Cyclometry.Grammar
