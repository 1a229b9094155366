/-!
# Trees from preorder rows

Parsers hand over a tree as the rows of its nodes in preorder, each with the number of its
children.  Read from the last row to the first, the trees that are already built stand in
front of each other, and a row takes as many of them as it has children.
-/

namespace Cyclometry.Preorder

variable {α β : Type}

/-- The trees of some rows; `make` builds a node from its row and its children. -/
def forest (make : α → List β → β) (rows : List (α × Nat)) : List β :=
  rows.foldr (fun row built => make row.1 (built.take row.2) :: built.drop row.2) []

/-- The tree of some rows. -/
def tree? (make : α → List β → β) (rows : List (α × Nat)) : Option β := (forest make rows).head?

end Cyclometry.Preorder
