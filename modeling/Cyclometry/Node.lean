import Cyclometry.Location

/-!
# Syntax trees

The tree that the analysis sees.  A node has a kind, may declare a function, and has children,
some of which may be missing.  Different parsers produce different trees; each of them is
brought to this form first.
-/

namespace Cyclometry

/-- What a node means for the flow of control. -/
inductive Kind
  | ifElse
  | switch
  | forLoop
  | whileLoop
  | doWhile
  | conditional
  | other
  deriving DecidableEq, Repr

namespace Kind

/-- All kinds. -/
def all : List Kind := [ifElse, switch, forLoop, whileLoop, doWhile, conditional, other]

/-- The name of a kind. -/
def name : Kind → String
  | ifElse => "if"
  | switch => "switch"
  | forLoop => "for"
  | whileLoop => "while"
  | doWhile => "do_while"
  | conditional => "conditional"
  | other => "other"

/-- The kind of a name. -/
def ofName? (s : String) : Option Kind := all.find? fun kind => kind.name == s

/-- The flow of control divides here. -/
def isDecision : Kind → Bool
  | other => false
  | _ => true

/-- How much a node of this kind adds to the complexity of the code around it. -/
def weight (kind : Kind) : Nat := if kind.isDecision then 1 else 0

end Kind

/-- A function that a node declares; `β` is the type of bodies. -/
structure Declaration (β : Type) where
  name : String
  location : Except LocationError Location
  /-- The declaration means to define the function. -/
  isDefinition : Bool
  body : Option β

/-- A node of a syntax tree. -/
inductive Node
  | mk (kind : Kind) (declared : Option (Declaration Node)) (children : List (Option Node))

namespace Node

/-- The kind of a node. -/
def kind : Node → Kind
  | mk kind _ _ => kind

/-- The function that a node declares. -/
def declared : Node → Option (Declaration Node)
  | mk _ declared _ => declared

/-- The children of a node. -/
def children : Node → List (Option Node)
  | mk _ _ children => children

mutual

/-- The number of nodes of a tree, bodies that are not among its children left out. -/
def size : Node → Nat
  | mk _ _ children => 1 + sizeAll children

/-- The number of nodes of several trees, where a missing one counts as one. -/
def sizeAll : List (Option Node) → Nat
  | [] => 0
  | none :: rest => 1 + sizeAll rest
  | some n :: rest => n.size + sizeAll rest

end

mutual

/-- All nodes of a tree in preorder. -/
def preorder : Node → List Node
  | mk kind declared children => mk kind declared children :: preorderAll children

/-- All nodes of several trees in preorder, missing ones left out. -/
def preorderAll : List (Option Node) → List Node
  | [] => []
  | none :: rest => preorderAll rest
  | some n :: rest => n.preorder ++ preorderAll rest

end

theorem sizeAll_append (xs ys : List (Option Node)) :
    sizeAll (xs ++ ys) = sizeAll xs + sizeAll ys := by
  induction xs with
  | nil => simp [sizeAll]
  | cons x xs ih =>
    cases x with
    | none => simp only [List.cons_append, sizeAll, ih, Nat.add_assoc]
    | some n => simp only [List.cons_append, sizeAll, ih, Nat.add_assoc]

theorem sizeAll_reverse (xs : List (Option Node)) : sizeAll xs.reverse = sizeAll xs := by
  induction xs with
  | nil => rfl
  | cons x xs ih =>
    rw [List.reverse_cons, sizeAll_append, ih]
    cases x with
    | none => simp only [sizeAll]; omega
    | some n => simp only [sizeAll]; omega

/-- Work on a node gives way to work on its children: the amount of work shrinks. -/
theorem sizeAll_children_append_lt (n : Node) (rest : List (Option Node)) :
    sizeAll (n.children ++ rest) < sizeAll (some n :: rest) := by
  cases n with
  | mk kind declared children =>
    simp only [Node.children, sizeAll_append, sizeAll, size]
    omega

end Node

end Cyclometry
