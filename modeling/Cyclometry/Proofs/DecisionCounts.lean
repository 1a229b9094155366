import Mathlib.Algebra.BigOperators.Ring.Finset
import Mathlib.Data.List.Nodup
import Cyclometry.Proofs.MissingNodes

/-!
# The count of decisions

The count of a tree is kept by a loop over pending trees.  This module says what the number is, and
what follows for functions inside of functions.

**The loop.**  One turn takes the first pending tree and leaves one node less to be taken
(`sizeAll_turn`), while the number that the loop will end with stays (`countPending_turn`).  So the
loop ends after as many turns as the tree has places, with the count.

**The number.**  A node counts itself, if it is a decision, and what its children count
(`decisionCount_node`).  No other number does that, and the order of children plays no part in it,
whether at the top or further down (`Rearranged.decisionCount_eq`).

**Occurrences.**  A subtree is found at an address, the numbers of the children on the way to it.
`forks` lists the addresses of the decisions.  Those in a subtree are the ones that begin with its
address (`filter_forks`), and no address begins with two addresses that are apart.  A tree therefore
has the decisions of disjoint subtrees, and those outside of all of them (`Holds.decisionCount_eq`).
-/

namespace Cyclometry
namespace Node

/-- The nodes of several trees are those of the trees that are there, one tree after the other. -/
theorem preorderAll_eq_flatMap (forest : List (Option Node)) :
    preorderAll forest = forest.reduceOption.flatMap preorder := by
  induction forest with
  | nil => rfl
  | cons x forest ih =>
    cases x with
    | none => rw [preorderAll, ih, List.reduceOption_cons_of_none]
    | some n => rw [preorderAll, ih, List.reduceOption_cons_of_some, List.flatMap_cons]

/-- What holds of a tree if it holds of the children that are there. -/
theorem children_induction {P : Node → Prop}
    (node : ∀ n : Node, (∀ c, some c ∈ n.children → P c) → P n) (n : Node) : P n := by
  have hforest : ∀ forest : List (Option Node), ∀ c, some c ∈ forest → P c := by
    intro forest
    induction forest using forest_induction with
    | nil => exact fun c hc => absurd hc List.not_mem_nil
    | gap rest ih =>
      intro c hc
      rcases List.mem_cons.mp hc with hc | hc
      · cases hc
      · exact ih c hc
    | node n rest ih =>
      intro c hc
      rcases List.mem_cons.mp hc with hc | hc
      · obtain rfl := Option.some.inj hc
        exact node c fun d hd => ih d (List.mem_append_left rest hd)
      · exact ih c (List.mem_append_right n.children hc)
  exact hforest [some n] n (List.mem_singleton.mpr rfl)

/-! ## Addresses -/

/-- The subtree at an address: the number of a child, then of a child of that one, and so on. -/
def subtree? (n : Node) : List Nat → Option Node
  | [] => some n
  | i :: address => n.children[i]?.join.bind fun c => c.subtree? address

/-- Neither of two addresses leads to the other one, so what is found at them has no common node. -/
def Apart (p q : List Nat) : Prop := ¬ p <+: q ∧ ¬ q <+: p

/-- The parts are subtrees of `n`, each given with its address, and no two of them overlap. -/
structure Holds (n : Node) (parts : List (List Nat × Node)) : Prop where
  found : ∀ part ∈ parts, n.subtree? part.1 = some part.2
  apart : parts.Pairwise fun part other => Apart part.1 other.1

mutual

/-- The addresses of the decisions in a tree, in preorder. -/
def forks : Node → List (List Nat)
  | mk kind _ children => (if kind.isDecision then [[]] else []) ++ forksFrom 0 children

/-- The addresses of the decisions in some children of a node, the first of which has number `i`. -/
def forksFrom (i : Nat) : List (Option Node) → List (List Nat)
  | [] => []
  | none :: rest => forksFrom (i + 1) rest
  | some n :: rest => n.forks.map (i :: ·) ++ forksFrom (i + 1) rest

end

theorem forks_eq (n : Node) :
    n.forks = (if n.kind.isDecision then [[]] else []) ++ forksFrom 0 n.children := by
  cases n with
  | mk kind declared children => rw [forks, Node.kind, Node.children]

/-- A decision in some children is one of a child, with the number of that child in front. -/
theorem exists_of_mem_forksFrom {i : Nat} {forest : List (Option Node)} {q : List Nat}
    (h : q ∈ forksFrom i forest) :
    ∃ j c address, q = (i + j) :: address ∧ forest[j]?.join = some c ∧ address ∈ c.forks := by
  induction forest generalizing i with
  | nil => exact absurd h List.not_mem_nil
  | cons x forest ih =>
    have hlater (hq : q ∈ forksFrom (i + 1) forest) : ∃ j c address,
        q = (i + j) :: address ∧ (x :: forest)[j]?.join = some c ∧ address ∈ c.forks := by
      obtain ⟨j, c, address, rfl, hc, hmem⟩ := ih hq
      exact ⟨j + 1, c, address, by rw [Nat.add_assoc, Nat.add_comm 1 j], hc, hmem⟩
    cases x with
    | none => exact hlater h
    | some n =>
      rw [forksFrom] at h
      rcases List.mem_append.mp h with h | h
      · obtain ⟨address, hmem, rfl⟩ := List.mem_map.mp h
        exact ⟨0, n, address, rfl, rfl, hmem⟩
      · exact hlater h

/-- Among the decisions in some children, those below an address of the child `c` are its own. -/
theorem filter_forksFrom {i j : Nat} {forest : List (Option Node)} {c : Node}
    (hc : forest[j]?.join = some c) (address : List Nat) :
    (forksFrom i forest).filter (fun q => decide ((i + j) :: address <+: q)) =
      (c.forks.filter fun q => decide (address <+: q)).map ((i + j) :: ·) := by
  induction forest generalizing i j with
  | nil => cases hc
  | cons x forest ih =>
    cases j with
    | zero =>
      obtain rfl : x = some c := hc
      -- The children behind this one have greater numbers.
      have hrest :
          (forksFrom (i + 1) forest).filter (fun q => decide (i :: address <+: q)) = [] := by
        refine List.filter_eq_nil_iff.mpr fun q hq => ?_
        obtain ⟨k, -, rest, rfl, -⟩ := exists_of_mem_forksFrom hq
        simp only [List.cons_prefix_cons, decide_eq_true_eq]
        omega
      rw [Nat.add_zero, forksFrom, List.filter_append, hrest, List.append_nil, List.filter_map]
      simp [Function.comp_def, List.cons_prefix_cons]
    | succ j =>
      have hstep : i + (j + 1) = i + 1 + j := by omega
      rw [List.getElem?_cons_succ] at hc
      rw [hstep]
      cases x with
      | none => rw [forksFrom, ih hc]
      | some n =>
        -- The first child has another number than the one that is asked for.
        have hfirst : (n.forks.map (i :: ·)).filter
            (fun q => decide ((i + 1 + j) :: address <+: q)) = [] := by
          refine List.filter_eq_nil_iff.mpr fun q hq => ?_
          obtain ⟨rest, -, rfl⟩ := List.mem_map.mp hq
          simp only [List.cons_prefix_cons, decide_eq_true_eq]
          omega
        rw [forksFrom, List.filter_append, hfirst, List.nil_append, ih hc]

/-- **The decisions in a subtree** are those of the tree that its address leads to. -/
theorem filter_forks {n m : Node} {p : List Nat} (h : n.subtree? p = some m) :
    n.forks.filter (fun q => decide (p <+: q)) = m.forks.map (p ++ ·) := by
  induction p generalizing n with
  | nil =>
    obtain rfl := Option.some.inj h
    simp
  | cons i p ih =>
    obtain ⟨c, hc, hm⟩ := Option.bind_eq_some_iff.mp h
    have hroot : (if n.kind.isDecision then [[]] else []).filter
        (fun q => decide (i :: p <+: q)) = [] := by
      split <;> simp
    have hbelow := filter_forksFrom (i := 0) hc p
    rw [Nat.zero_add] at hbelow
    rw [forks_eq, List.filter_append, hroot, List.nil_append, hbelow, ih hm, List.map_map]
    rfl

theorem length_forksFrom (i : Nat) {forest : List (Option Node)}
    (h : ∀ c, some c ∈ forest → c.forks.length = c.decisionCount) :
    (forksFrom i forest).length = (preorderAll forest).countP fun m => m.kind.isDecision := by
  induction forest generalizing i with
  | nil => rfl
  | cons x forest ih =>
    have hrest := ih (i + 1) fun c hc => h c (List.mem_cons_of_mem x hc)
    cases x with
    | none => rw [forksFrom, preorderAll, hrest]
    | some n =>
      rw [forksFrom, preorderAll, List.length_append, List.length_map, List.countP_append, hrest,
        h n (List.mem_cons_self ..), decisionCount]

theorem length_forks (n : Node) : n.forks.length = n.decisionCount := by
  induction n using children_induction with
  | node n ih =>
    rw [forks_eq, List.length_append, length_forksFrom 0 ih, decisionCount, preorder_eq,
      List.countP_cons, Nat.add_comm]
    split <;> rfl

theorem nil_mem_forks_iff {n : Node} : [] ∈ n.forks ↔ n.kind.isDecision = true := by
  have hbelow : [] ∉ forksFrom 0 n.children := by
    intro h
    obtain ⟨j, -, address, heq, -⟩ := exists_of_mem_forksFrom h
    cases heq
  rw [forks_eq, List.mem_append]
  constructor
  · rintro (h | h)
    · split at h
      · assumption
      · exact absurd h List.not_mem_nil
    · exact absurd h hbelow
  · intro h
    rw [if_pos h]
    exact .inl (List.mem_singleton.mpr rfl)

/-- An address is listed exactly if there is a decision at it. -/
theorem mem_forks_iff {n : Node} {q : List Nat} :
    q ∈ n.forks ↔ ∃ m, n.subtree? q = some m ∧ m.kind.isDecision = true := by
  constructor
  · intro h
    induction q generalizing n with
    | nil => exact ⟨n, rfl, nil_mem_forks_iff.mp h⟩
    | cons i q ih =>
      rw [forks_eq, List.mem_append] at h
      rcases h with h | h
      · split at h
        · cases List.mem_singleton.mp h
        · exact absurd h List.not_mem_nil
      · obtain ⟨j, c, address, heq, hc, hmem⟩ := exists_of_mem_forksFrom h
        obtain ⟨rfl, rfl⟩ := List.cons.inj heq
        obtain ⟨m, hm, hdecision⟩ := ih hmem
        refine ⟨m, ?_, hdecision⟩
        rw [subtree?, Nat.zero_add, hc]
        exact hm
  · rintro ⟨m, hm, hdecision⟩
    -- The decision stands at the root of the subtree, whose addresses are among those of the tree.
    have hmem : q ++ [] ∈ m.forks.map (q ++ ·) :=
      List.mem_map_of_mem (nil_mem_forks_iff.mpr hdecision)
    rw [← filter_forks hm, List.append_nil] at hmem
    exact (List.mem_filter.mp hmem).1

theorem nodup_forksFrom (i : Nat) {forest : List (Option Node)}
    (h : ∀ c, some c ∈ forest → c.forks.Nodup) : (forksFrom i forest).Nodup := by
  induction forest generalizing i with
  | nil => exact List.nodup_nil
  | cons x forest ih =>
    have hrest := ih (i + 1) fun c hc => h c (List.mem_cons_of_mem x hc)
    cases x with
    | none => exact hrest
    | some n =>
      have hfirst : (n.forks.map (i :: ·)).Nodup :=
        (h n (List.mem_cons_self ..)).map fun _ _ heq => (List.cons.inj heq).2
      refine hfirst.append hrest fun q hq hlater => ?_
      obtain ⟨address, -, rfl⟩ := List.mem_map.mp hq
      obtain ⟨j, -, later, heq, -⟩ := exists_of_mem_forksFrom hlater
      obtain ⟨hi, -⟩ := List.cons.inj heq
      omega

/-- No address is listed twice. -/
theorem nodup_forks (n : Node) : n.forks.Nodup := by
  induction n using children_induction with
  | node n ih =>
    have hroot : (if n.kind.isDecision then [[]] else [] : List (List Nat)).Nodup := by
      split <;> simp
    rw [forks_eq]
    refine hroot.append (nodup_forksFrom 0 ih) fun q hq hbelow => ?_
    obtain ⟨j, -, address, rfl, -⟩ := exists_of_mem_forksFrom hbelow
    split at hq
    · cases List.mem_singleton.mp hq
    · exact absurd hq List.not_mem_nil

/-- Some addresses, by the one of several addresses apart that they lie below, if there is one. -/
theorem length_eq_sum_below {parts : List (List Nat × Node)}
    (h : parts.Pairwise fun part other => Apart part.1 other.1) (qs : List (List Nat)) :
    qs.length = (parts.map fun part => qs.countP fun q => decide (part.1 <+: q)).sum +
      qs.countP fun q => decide (∀ part ∈ parts, ¬ part.1 <+: q) := by
  induction parts with
  | nil => simp
  | cons part parts ih =>
    obtain ⟨hpart, hparts⟩ := List.pairwise_cons.mp h
    -- What lies below the first address lies below none of the others.
    have hbelow : (qs.filter fun q => decide (part.1 <+: q)).countP
        (fun q => decide (∀ other ∈ parts, ¬ other.1 <+: q)) =
          qs.countP fun q => decide (part.1 <+: q) := by
      rw [List.countP_filter]
      refine List.countP_congr fun q _ => ?_
      simp only [Bool.and_eq_true, decide_eq_true_eq, and_iff_right_iff_imp]
      intro hq other hother hq'
      rcases List.prefix_or_prefix_of_prefix hq hq' with hle | hle
      · exact (hpart other hother).1 hle
      · exact (hpart other hother).2 hle
    have hbeside : (qs.filter fun q => !decide (part.1 <+: q)).countP
        (fun q => decide (∀ other ∈ parts, ¬ other.1 <+: q)) =
          qs.countP fun q => decide (∀ other ∈ part :: parts, ¬ other.1 <+: q) := by
      rw [List.countP_filter]
      refine List.countP_congr fun q _ => ?_
      simp [and_comm]
    rw [ih hparts, List.countP_eq_countP_filter_add qs _ fun q => decide (part.1 <+: q), hbelow,
      hbeside, List.map_cons, List.sum_cons]
    omega

/-- A tree has the decisions of disjoint subtrees, and those that are in none of them. -/
theorem Holds.decisionCount_eq {n : Node} {parts : List (List Nat × Node)} (h : n.Holds parts) :
    n.decisionCount = (parts.map fun part => part.2.decisionCount).sum +
      n.forks.countP fun q => decide (∀ part ∈ parts, ¬ part.1 <+: q) := by
  have hbelow : parts.map (fun part => n.forks.countP fun q => decide (part.1 <+: q)) =
      parts.map fun part => part.2.decisionCount := by
    refine List.map_congr_left fun part hpart => ?_
    rw [List.countP_eq_length_filter, filter_forks (h.found part hpart), List.length_map,
      length_forks]
  rw [← length_forks, length_eq_sum_below h.apart, hbelow]

theorem Holds.sum_le {n : Node} {parts : List (List Nat × Node)} (h : n.Holds parts) :
    (parts.map fun part => part.2.decisionCount).sum ≤ n.decisionCount := by
  rw [h.decisionCount_eq]
  exact Nat.le_add_right ..

/-- A subtree alone is disjoint from nothing else. -/
theorem holds_singleton {n m : Node} {p : List Nat} (h : n.subtree? p = some m) :
    n.Holds [(p, m)] where
  found part hpart := by
    obtain rfl := List.mem_singleton.mp hpart
    exact h
  apart := List.pairwise_singleton ..

/-! ## The order of children -/

/-- The second forest is the first one in another order: its trees may change places, and so may
the children of each node in them, at any depth.  What a node declares plays no part. -/
inductive Rearranged : List (Option Node) → List (Option Node) → Prop
  | perm {xs ys : List (Option Node)} (h : xs.Perm ys) : Rearranged xs ys
  | inside {kind : Kind} {declared declared' : Option (Declaration Node)}
      {children children' : List (Option Node)} (rest : List (Option Node))
      (h : Rearranged children children') :
      Rearranged (some (.mk kind declared children) :: rest)
        (some (.mk kind declared' children') :: rest)
  | trans {xs ys zs : List (Option Node)} (h : Rearranged xs ys) (h' : Rearranged ys zs) :
      Rearranged xs zs

/-- Another order of the trees has the same number of decisions in them. -/
theorem Rearranged.countP_eq {xs ys : List (Option Node)} (h : Rearranged xs ys) :
    (preorderAll xs).countP (fun m => m.kind.isDecision) =
      (preorderAll ys).countP fun m => m.kind.isDecision := by
  induction h with
  | perm h =>
    rw [preorderAll_eq_flatMap, preorderAll_eq_flatMap]
    exact ((h.filterMap id).flatMap_right preorder).countP_eq _
  | inside rest h ih =>
    simp only [preorderAll, preorder, List.cons_append, List.countP_cons, List.countP_append, ih]
    rfl
  | trans h h' ih ih' => exact ih.trans ih'

theorem Rearranged.decisionCount_eq {n m : Node} (h : Rearranged [some n] [some m]) :
    n.decisionCount = m.decisionCount := by
  have hcount := h.countP_eq
  rw [preorderAll_singleton, preorderAll_singleton] at hcount
  exact hcount

/-! ## The recursion -/

theorem decisionCount_node (n : Node) :
    n.decisionCount = (if n.kind.isDecision then 1 else 0) +
      (n.children.reduceOption.map decisionCount).sum := by
  rw [decisionCount, preorder_eq, List.countP_cons, preorderAll_eq_flatMap, List.countP_flatMap,
    Nat.add_comm]
  rfl

/-- Only the count of decisions obeys its recursion. -/
theorem eq_decisionCount_iff (count : Node → Nat) :
    (∀ n : Node, count n = (if n.kind.isDecision then 1 else 0) +
      (n.children.reduceOption.map count).sum) ↔ count = decisionCount := by
  constructor
  · intro h
    funext n
    induction n using children_induction with
    | node n ih =>
      have hchildren : n.children.reduceOption.map count =
          n.children.reduceOption.map decisionCount :=
        List.map_congr_left fun c hc => ih c (List.reduceOption_mem_iff.mp hc)
      rw [h n, hchildren, decisionCount_node n]
  · rintro rfl
    exact decisionCount_node

end Node

/-! ## The loop -/

namespace Complexity

/-- One turn of the loop: the first pending tree is counted and its children are pending instead.
Nothing happens once no tree is pending. -/
def turn : Nat × List (Option Node) → Nat × List (Option Node)
  | (total, []) => (total, [])
  | (total, none :: rest) => (total, rest)
  | (total, some n :: rest) => (total + n.kind.weight, n.children.reverse ++ rest)

/-- A turn leaves one node less to be taken. -/
theorem sizeAll_turn (s : Nat × List (Option Node)) :
    Node.sizeAll (turn s).2 = Node.sizeAll s.2 - 1 := by
  obtain ⟨total, - | ⟨- | ⟨kind, declared, children⟩, rest⟩⟩ := s
  · rfl
  · simp only [turn, Node.sizeAll]
    omega
  · simp only [turn, Node.sizeAll_append, Node.sizeAll_reverse, Node.sizeAll, Node.size,
      Node.children]
    omega

/-- A turn does not change what the loop will end with. -/
theorem countPending_turn (s : Nat × List (Option Node)) :
    countPending (turn s).1 (turn s).2 = countPending s.1 s.2 := by
  obtain ⟨total, - | ⟨- | n, rest⟩⟩ := s
  · rfl
  · rw [turn, countPending]
  · rw [turn, countPending]

theorem sizeAll_turns (k : Nat) (s : Nat × List (Option Node)) :
    Node.sizeAll (turn^[k] s).2 = Node.sizeAll s.2 - k := by
  induction k generalizing s with
  | zero => rfl
  | succ k ih =>
    rw [Function.iterate_succ_apply, ih, sizeAll_turn]
    omega

theorem countPending_turns (k : Nat) (s : Nat × List (Option Node)) :
    countPending (turn^[k] s).1 (turn^[k] s).2 = countPending s.1 s.2 := by
  induction k generalizing s with
  | zero => rfl
  | succ k ih => rw [Function.iterate_succ_apply, ih, countPending_turn]

theorem sizeAll_eq_zero_iff {pending : List (Option Node)} :
    Node.sizeAll pending = 0 ↔ pending = [] := by
  rcases pending with - | ⟨- | ⟨kind, declared, children⟩, rest⟩
  · exact ⟨fun _ => rfl, fun _ => rfl⟩
  · simp [Node.sizeAll]
  · simp [Node.sizeAll, Node.size]

/-- The loop has nothing left to do after as many turns as there are places, and not before. -/
theorem turns_done_iff (k : Nat) (s : Nat × List (Option Node)) :
    (turn^[k] s).2 = [] ↔ Node.sizeAll s.2 ≤ k := by
  rw [← sizeAll_eq_zero_iff, sizeAll_turns]
  omega

/-- The loop ends with the count. -/
theorem turns_eq {k : Nat} {s : Nat × List (Option Node)} (h : Node.sizeAll s.2 ≤ k) :
    turn^[k] s = (countPending s.1 s.2, []) := by
  have hdone := (turns_done_iff k s).mpr h
  have hcount := countPending_turns k s
  rw [hdone, countPending] at hcount
  exact Prod.ext hcount hdone

/-! ## Complexity -/

theorem decisions_eq_decisionCount : decisions = Node.decisionCount := funext decisions_eq

theorem ofBody_eq_zero_iff (body : Option Node) : ofBody body = 0 ↔ body = none := by
  cases body with
  | none => exact ⟨fun _ => rfl, fun _ => rfl⟩
  | some body => simp [ofBody_some]

/-- What functions that stand apart in the body of another one have above the complexity of a plain
function, that one has too. -/
theorem sum_ofBody_le {f : Declaration Node} {body : Node}
    {inner : List (Declaration Node × List Nat × Node)} (hf : f.body = some body)
    (hinner : ∀ g ∈ inner, g.1.body = some g.2.2) (hholds : body.Holds (inner.map Prod.snd)) :
    (inner.map fun g => (ofBody g.1.body : Int) - 1).sum ≤ (ofBody f.body : Int) - 1 := by
  have habove : inner.map (fun g => (ofBody g.1.body : Int) - 1) =
      ((inner.map Prod.snd).map fun part => part.2.decisionCount).map Nat.cast := by
    rw [List.map_map, List.map_map]
    refine List.map_congr_left fun g hg => ?_
    rw [hinner g hg, ofBody_some, Function.comp_apply, Function.comp_apply]
    omega
  have hsum := hholds.sum_le
  rw [habove, ← Nat.cast_list_sum, hf, ofBody_some]
  omega

/-- **The count of decisions.**  The loop ends, after one turn for each place of the tree, with the
number that the recursion over the tree gives and nothing else does.  Another order of children does
not change it.  A tree has the decisions of disjoint subtrees and, one for each address, those in
none of them, so a subtree never has more than the tree.  What a function has above the complexity
of a plain one is at least what all functions together have that stand apart in its body.  The
complexity is zero for a missing body alone. -/
theorem decisions_laws :
    (∀ n : Node, (∀ k, (turn^[k] (0, [some n])).2 = [] ↔ n.size ≤ k) ∧
      turn^[n.size] (0, [some n]) = (decisions n, [])) ∧
    (∀ count : Node → Nat,
      (∀ n : Node, count n = (if n.kind.isDecision then 1 else 0) +
        (n.children.reduceOption.map count).sum) ↔ count = decisions) ∧
    (∀ n m : Node, Node.Rearranged [some n] [some m] → decisions n = decisions m) ∧
    (∀ n : Node, n.forks.Nodup ∧
      (∀ q, q ∈ n.forks ↔ ∃ m, n.subtree? q = some m ∧ m.kind.isDecision = true) ∧
      ∀ parts, n.Holds parts → decisions n = (parts.map fun part => decisions part.2).sum +
        n.forks.countP fun q => decide (∀ part ∈ parts, ¬ part.1 <+: q)) ∧
    (∀ (n m : Node) (p : List Nat), n.subtree? p = some m → decisions m ≤ decisions n) ∧
    (∀ (f : Declaration Node) (body : Node) (inner : List (Declaration Node × List Nat × Node)),
      f.body = some body → (∀ g ∈ inner, g.1.body = some g.2.2) →
      body.Holds (inner.map Prod.snd) →
      (inner.map fun g => (ofBody g.1.body : Int) - 1).sum ≤ (ofBody f.body : Int) - 1) ∧
    ∀ body : Option Node, (ofBody body = 0 ↔ body = none) ∧ (body ≠ none → 1 ≤ ofBody body) := by
  simp only [decisions_eq_decisionCount]
  refine ⟨fun n => ⟨fun k => turns_done_iff k _, ?_⟩, Node.eq_decisionCount_iff,
    fun n m h => h.decisionCount_eq,
    fun n => ⟨n.nodup_forks, fun q => Node.mem_forks_iff, fun parts h => h.decisionCount_eq⟩,
    fun n m p h => ?_, fun f body inner hf hinner hholds => sum_ofBody_le hf hinner hholds,
    fun body => ⟨ofBody_eq_zero_iff body, fun hbody => ?_⟩⟩
  · rw [← decisions_eq]
    exact turns_eq (Nat.le_refl n.size)
  · simpa using (Node.holds_singleton h).sum_le
  · exact Nat.one_le_iff_ne_zero.mpr fun h => hbody ((ofBody_eq_zero_iff body).mp h)

/-- The body of a lambda with a loop in it. -/
def loopBody : Node := .mk .other none [some (.mk .whileLoop none [])]

/-- The body of a lambda with a choice inside of another one. -/
def choiceBody : Node := .mk .other none [some (.mk .conditional none [some (.mk .switch none [])])]

/-- The body of a function with both lambdas in it, one in a branch and one in a loop, and a gap. -/
def lambdasBody : Node := .mk .other none
  [some (.mk .ifElse none [some loopBody]), none, some (.mk .forLoop none [none, some choiceBody])]

/-- The same body with its statements, and those around the second lambda, the other way round. -/
def turnedBody : Node := .mk .other none
  [some (.mk .forLoop none [some choiceBody, none]), none, some (.mk .ifElse none [some loopBody])]

/-- A definition of a function. -/
def definedBy (body : Node) : Declaration Node :=
  ⟨"operator()", .ok ⟨"main.cpp", 1, 1, false⟩, true, some body⟩

theorem holds_lambdasBody :
    lambdasBody.Holds [([0, 0], loopBody), ([2, 1], choiceBody)] where
  found part hpart := by
    simp only [List.mem_cons, List.not_mem_nil, or_false] at hpart
    rcases hpart with rfl | rfl
    · rfl
    · rfl
  apart := List.pairwise_pair.mpr (by unfold Node.Apart; decide)

theorem rearranged_lambdasBody : Node.Rearranged [some lambdasBody] [some turnedBody] :=
  .inside [] (.trans (.perm (List.reverse_perm _).symm) (.inside _ (.perm (List.Perm.swap ..))))

/-- The function has two decisions of its own and three in its lambdas. -/
theorem decisions_laws_lambdasBody :
    lambdasBody.Holds [([0, 0], loopBody), ([2, 1], choiceBody)] ∧
    turn^[10] (0, [some lambdasBody]) = (5, []) ∧ (turn^[9] (0, [some lambdasBody])).2 ≠ [] ∧
    decisions turnedBody = 5 ∧
    decisions lambdasBody = decisions loopBody + decisions choiceBody + 2 ∧
    decisions choiceBody ≤ decisions lambdasBody ∧
    (ofBody (some loopBody) : Int) - 1 + (ofBody (some choiceBody) - 1) ≤
      ofBody (some lambdasBody) - 1 ∧
    1 ≤ ofBody (some loopBody) := by
  obtain ⟨hloop, -, horder, hadd, hle, hinner, hbody⟩ := decisions_laws
  have hcount : decisions lambdasBody = 5 := by
    rw [decisions_eq]
    decide
  have hsize : lambdasBody.size = 10 := by decide
  refine ⟨holds_lambdasBody, ?_, ?_, ?_, ?_, hle _ _ [2, 1] rfl, ?_, (hbody _).2 (by simp)⟩
  · rw [← hsize, ← hcount]
    exact (hloop lambdasBody).2
  · rw [Ne, (hloop lambdasBody).1, hsize]
    decide
  · rw [← horder _ _ rearranged_lambdasBody, hcount]
  · rw [(hadd lambdasBody).2.2 _ holds_lambdasBody]
    rfl
  · have hnested := hinner (definedBy lambdasBody) lambdasBody
      [(definedBy loopBody, [0, 0], loopBody), (definedBy choiceBody, [2, 1], choiceBody)] rfl
      (by simp [definedBy]) holds_lambdasBody
    simpa [definedBy] using hnested

end Complexity
end Cyclometry
