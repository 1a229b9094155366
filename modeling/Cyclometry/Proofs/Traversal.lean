import Cyclometry.Walk

/-!
# Work lists and preorder

The count of decisions and the walk of a unit are loops over a list of pending trees: the first
one is taken, and its children are put in front of the rest.  This module proves that the loops
do what a plain recursion does.  The pending trees always stand for the nodes that are still to
come, in preorder, so the count is the number of decisions among them (`countPending_eq`) and
the walk visits their declarations one after the other (`visitPending_eq_visitAll`).  The count
takes children in the opposite order, which a sum does not notice.
-/

namespace Cyclometry
namespace Node

theorem preorder_eq (n : Node) : n.preorder = n :: preorderAll n.children := by
  cases n with
  | mk kind declared children => rw [preorder, Node.children]

theorem preorderAll_append (xs ys : List (Option Node)) :
    preorderAll (xs ++ ys) = preorderAll xs ++ preorderAll ys := by
  induction xs with
  | nil => rfl
  | cons x xs ih =>
    cases x with
    | none => rw [List.cons_append, preorderAll, preorderAll, ih]
    | some n => rw [List.cons_append, preorderAll, preorderAll, ih, List.append_assoc]

theorem preorderAll_singleton (n : Node) : preorderAll [some n] = n.preorder := by
  rw [preorderAll, preorderAll, List.append_nil]

/-- Putting the children of the first pending tree in its place leaves out that node alone. -/
theorem preorderAll_some_cons (n : Node) (rest : List (Option Node)) :
    preorderAll (some n :: rest) = n :: preorderAll (n.children ++ rest) := by
  rw [preorderAll, preorder_eq, preorderAll_append, List.cons_append]

theorem countP_preorderAll_reverse (p : Node → Bool) (xs : List (Option Node)) :
    (preorderAll xs.reverse).countP p = (preorderAll xs).countP p := by
  induction xs with
  | nil => rfl
  | cons x xs ih =>
    have happ : preorderAll (x :: xs) = preorderAll [x] ++ preorderAll xs := by
      rw [← preorderAll_append, List.singleton_append]
    rw [List.reverse_cons, preorderAll_append, List.countP_append, ih, happ, List.countP_append,
      Nat.add_comm]

/-! ## Trees without missing nodes -/

/-- No node of the tree has a missing child. -/
def Complete (n : Node) : Prop := ∀ m ∈ n.preorder, none ∉ m.children

/-- None of the trees is missing, and each of them is complete. -/
def CompleteAll (forest : List (Option Node)) : Prop :=
  none ∉ forest ∧ ∀ n ∈ preorderAll forest, none ∉ n.children

theorem Complete.completeAll {n : Node} (h : n.Complete) : CompleteAll [some n] := by
  refine ⟨by simp, ?_⟩
  rw [preorderAll_singleton]
  exact h

/-- Work on a complete forest goes on with a complete forest. -/
theorem CompleteAll.step {n : Node} {rest : List (Option Node)}
    (h : CompleteAll (some n :: rest)) : CompleteAll (n.children ++ rest) := by
  obtain ⟨hpresent, hchildren⟩ := h
  rw [preorderAll_some_cons] at hchildren
  refine ⟨fun hmem => ?_, fun m hm => hchildren m (List.mem_cons_of_mem n hm)⟩
  rcases List.mem_append.mp hmem with hmem | hmem
  · exact hchildren n (List.mem_cons_self ..) hmem
  · exact hpresent (List.mem_cons_of_mem _ hmem)

/-- The functions that a tree declares, in preorder. -/
def declarations (n : Node) : List (Declaration Node) := n.preorder.filterMap declared

/-! Where a tree comes from another one, node by node, what is picked from its declarations can be
picked from the nodes that they come from. -/

theorem filterMap_declarations {α β : Type} {root : Node} {f : α → Node} {as : List α}
    (h : root.preorder = as.map f) (g : Declaration Node → Option β) :
    root.declarations.filterMap g = as.filterMap fun a => (f a).declared.bind g := by
  rw [declarations, h, List.filterMap_map, List.filterMap_filterMap]
  rfl

theorem countP_declarations {α : Type} {root : Node} {f : α → Node} {as : List α}
    (h : root.preorder = as.map f) (p : Declaration Node → Bool) :
    root.declarations.countP p = as.countP fun a => (f a).declared.any p := by
  rw [declarations, h, List.filterMap_map, List.countP_filterMap]
  refine List.countP_congr fun a _ => ?_
  rw [Function.comp_apply]
  cases (f a).declared <;> rfl

/-- The number of decisions in a tree, by recursion. -/
def decisionCount (n : Node) : Nat := n.preorder.countP fun m => m.kind.isDecision

end Node

/-! ## Counting decisions -/

namespace Complexity

theorem countPending_eq (total : Nat) (pending : List (Option Node)) :
    countPending total pending =
      total + (Node.preorderAll pending).countP fun m => m.kind.isDecision := by
  fun_induction countPending total pending with
  | case1 total => rw [Node.preorderAll, List.countP_nil, Nat.add_zero]
  | case2 total rest ih => rw [ih, Node.preorderAll]
  | case3 total n rest ih =>
    -- The children are pending in the opposite order: only their number of decisions matters.
    have hweight : n.kind.weight = if n.kind.isDecision then 1 else 0 := rfl
    rw [ih, Node.preorderAll_append, List.countP_append, Node.countP_preorderAll_reverse,
      ← List.countP_append, ← Node.preorderAll_append, Node.preorderAll_some_cons,
      List.countP_cons, hweight]
    omega

theorem decisions_eq (n : Node) : decisions n = n.decisionCount := by
  rw [decisions, countPending_eq, Node.preorderAll_singleton, Nat.zero_add, Node.decisionCount]

theorem ofBody_some (body : Node) : ofBody (some body) = 1 + body.decisionCount := by
  rw [ofBody, decisions_eq, base]

end Complexity

/-! ## Visiting declarations -/

namespace Walk

variable (policy : Policy) (remarkId : Nat)

/-- Visit declarations one after the other, up to the first fault. -/
def visitAll : List (Declaration Node) → State → State × Except Fault Unit
  | [], s => (s, .ok ())
  | f :: rest, s =>
    match visit policy remarkId f s with
    | (s, .error fault) => (s, .error fault)
    | (s, .ok ()) => visitAll rest s

theorem visitAll_cons_ok {f : Declaration Node} {s s' : State}
    (h : visit policy remarkId f s = (s', .ok ())) (rest : List (Declaration Node)) :
    visitAll policy remarkId (f :: rest) s = visitAll policy remarkId rest s' := by
  rw [visitAll, h]

theorem visitAll_cons_error {f : Declaration Node} {s s' : State} {fault : Fault}
    (h : visit policy remarkId f s = (s', .error fault)) (rest : List (Declaration Node)) :
    visitAll policy remarkId (f :: rest) s = (s', .error fault) := by
  rw [visitAll, h]

/-- **The loop is a preorder visit**: on a complete forest, working through the pending trees
is visiting the declarations of their nodes in preorder. -/
theorem visitPending_eq_visitAll {pending : List (Option Node)}
    (h : Node.CompleteAll pending) (s : State) :
    visitPending policy remarkId pending s =
      visitAll policy remarkId ((Node.preorderAll pending).filterMap Node.declared) s := by
  fun_induction visitPending policy remarkId pending s with
  | case1 s => rfl
  | case2 rest s => exact absurd (List.mem_cons_self ..) h.1
  -- From here on the children of `n` take its place, which leaves the preorder as it is.
  | case3 s n rest hnone ih =>
    rw [ih h.step, Node.preorderAll_some_cons, List.filterMap_cons_none hnone]
  | case4 s n rest f hsome s' fault hvisit =>
    rw [Node.preorderAll_some_cons, List.filterMap_cons_some hsome,
      visitAll_cons_error policy remarkId hvisit]
  | case5 s n rest f hsome s' hvisit ih =>
    rw [ih h.step, Node.preorderAll_some_cons, List.filterMap_cons_some hsome,
      visitAll_cons_ok policy remarkId hvisit]

end Walk

/-- A walk of a complete tree visits its declarations. -/
theorem Walker.walk_eq_visitAll (w : Walker) {root : Node} (h : root.Complete) (tally : Tally)
    (diagnostics : Option Diagnostics) :
    w.walk (some root) tally diagnostics =
      Walk.visitAll w.policy w.remarkId root.declarations ⟨.empty, tally, diagnostics, []⟩ := by
  rw [Walker.walk, Walk.visitPending_eq_visitAll _ _ h.completeAll, Node.preorderAll_singleton,
    Node.declarations]

end Cyclometry
