import Cyclometry.Node

/-!
# Cyclomatic complexity

The complexity of a function is one more than the number of decisions in its body, at any
depth.  The count works through a list of pending trees, so that deep trees need no deep
recursion; it takes up the children of a node from the last one to the first.
-/

namespace Cyclometry.Complexity

/-- The number of decisions in the pending trees, added to `total`. -/
def countPending (total : Nat) (pending : List (Option Node)) : Nat :=
  match pending with
  | [] => total
  | none :: rest => countPending total rest
  | some n :: rest => countPending (total + n.kind.weight) (n.children.reverse ++ rest)
  termination_by Node.sizeAll pending
  decreasing_by
    · simp only [Node.sizeAll]; omega
    · rw [Node.sizeAll_append, Node.sizeAll_reverse, ← Node.sizeAll_append]
      exact Node.sizeAll_children_append_lt n rest

/-- The number of decisions in a tree. -/
def decisions (n : Node) : Nat := countPending 0 [some n]

/-- The complexity of a body without decisions. -/
def base : Nat := 1

/-- The complexity of a body, zero if there is none. -/
def ofBody : Option Node → Nat
  | none => 0
  | some body => base + decisions body

end Cyclometry.Complexity
