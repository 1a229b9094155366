import Mathlib.Data.List.ReduceOption
import Cyclometry.Proofs.WalkOutcome

/-!
# Trees with missing nodes

A child may be missing, and so may the root.  The walk and the count of decisions take this
differently: the walk stops at the first missing node that it comes to, and the count passes over
it.

**The walk.**  `placesAll` lists the places of a forest in preorder, those of missing nodes too, and
`ahead` the nodes in front of the first gap.  The work list always stands for the places still to
come, so a walk does what visiting the declarations ahead does, and then stops if there is a gap
(`Walk.visitPending_eq`).  What the visits have done by then stays.

**The count.**  A tree has as many decisions as the tree without its gaps (`decisionCount_pruned`).
A function whose body has a gap is therefore recorded with its full complexity, before the walk
comes to that gap and stops.
-/

namespace Cyclometry
namespace Node

/-! ## Places -/

mutual

/-- All places of a tree in preorder, those of missing nodes included. -/
def places : Node → List (Option Node)
  | mk kind declared children => some (mk kind declared children) :: placesAll children

/-- All places of several trees in preorder, those of missing nodes included. -/
def placesAll : List (Option Node) → List (Option Node)
  | [] => []
  | none :: rest => none :: placesAll rest
  | some n :: rest => n.places ++ placesAll rest

end

/-- The nodes of several trees in front of the first missing one, in preorder. -/
def ahead (forest : List (Option Node)) : List Node :=
  ((placesAll forest).takeWhile Option.isSome).reduceOption

theorem placesAll_append (xs ys : List (Option Node)) :
    placesAll (xs ++ ys) = placesAll xs ++ placesAll ys := by
  induction xs with
  | nil => rfl
  | cons x xs ih =>
    cases x with
    | none => rw [List.cons_append, placesAll, placesAll, ih, List.cons_append]
    | some n => rw [List.cons_append, placesAll, placesAll, ih, List.append_assoc]

/-- Putting the children of the first tree in its place leaves out its own place alone. -/
theorem placesAll_some_cons (n : Node) (rest : List (Option Node)) :
    placesAll (some n :: rest) = some n :: placesAll (n.children ++ rest) := by
  cases n with
  | mk kind declared children =>
    rw [placesAll, places, placesAll_append, List.cons_append, Node.children]

theorem ahead_none_cons (rest : List (Option Node)) : ahead (none :: rest) = [] := by
  rw [ahead, placesAll, List.takeWhile_cons_of_neg (by decide), List.reduceOption_nil]

theorem ahead_some_cons (n : Node) (rest : List (Option Node)) :
    ahead (some n :: rest) = n :: ahead (n.children ++ rest) := by
  rw [ahead, placesAll_some_cons, List.takeWhile_cons_of_pos rfl, List.reduceOption_cons_of_some,
    ahead]

/-- What holds of a forest if it holds of the forest that work on the first tree leaves. -/
theorem forest_induction {P : List (Option Node) → Prop} (nil : P [])
    (gap : ∀ rest, P rest → P (none :: rest))
    (node : ∀ n rest, P (n.children ++ rest) → P (some n :: rest)) (forest : List (Option Node)) :
    P forest :=
  match forest with
  | [] => nil
  | none :: rest => gap rest (forest_induction nil gap node rest)
  | some n :: rest => node n rest (forest_induction nil gap node (n.children ++ rest))
  termination_by sizeAll forest
  decreasing_by
    · rw [sizeAll]
      omega
    · exact sizeAll_children_append_lt n rest

/-- A node is missing at the top, or among the children of a node. -/
theorem none_mem_placesAll_iff (forest : List (Option Node)) :
    none ∈ placesAll forest ↔ none ∈ forest ∨ ∃ n ∈ preorderAll forest, none ∈ n.children := by
  induction forest using forest_induction with
  | nil => simp [placesAll, preorderAll]
  | gap rest ih => simp [placesAll]
  | node n rest ih =>
    rw [placesAll_some_cons, preorderAll_some_cons, List.mem_cons, ih]
    simp only [List.mem_append, List.mem_cons, reduceCtorEq, false_or, exists_eq_or_imp]
    tauto

/-! ## Trees without their gaps -/

mutual

/-- The tree without its missing nodes.  What its nodes declare stays. -/
def pruned : Node → Node
  | mk kind declared children => mk kind declared (prunedAll children)

/-- Several trees without their missing nodes. -/
def prunedAll : List (Option Node) → List (Option Node)
  | [] => []
  | none :: rest => prunedAll rest
  | some n :: rest => some n.pruned :: prunedAll rest

end

theorem kind_pruned (n : Node) : n.pruned.kind = n.kind := by
  cases n with
  | mk kind declared children => rw [pruned, Node.kind, Node.kind]

theorem children_pruned (n : Node) : n.pruned.children = prunedAll n.children := by
  cases n with
  | mk kind declared children => rw [pruned, Node.children, Node.children]

theorem prunedAll_append (xs ys : List (Option Node)) :
    prunedAll (xs ++ ys) = prunedAll xs ++ prunedAll ys := by
  induction xs with
  | nil => rfl
  | cons x xs ih =>
    cases x with
    | none => rw [List.cons_append, prunedAll, prunedAll, ih]
    | some n => rw [List.cons_append, prunedAll, prunedAll, ih, List.cons_append]

theorem none_not_mem_prunedAll (forest : List (Option Node)) : none ∉ prunedAll forest := by
  induction forest with
  | nil => exact List.not_mem_nil
  | cons x forest ih =>
    cases x with
    | none => exact ih
    | some n =>
      rw [prunedAll, List.mem_cons]
      rintro (h | h)
      · cases h
      · exact ih h

/-- The nodes of the pruned forest are the pruned nodes, in the same order. -/
theorem preorderAll_prunedAll (forest : List (Option Node)) :
    preorderAll (prunedAll forest) = (preorderAll forest).map pruned := by
  induction forest using forest_induction with
  | nil => rfl
  | gap rest ih => rw [prunedAll, preorderAll, ih]
  | node n rest ih =>
    rw [prunedAll, preorderAll_some_cons, preorderAll_some_cons, children_pruned,
      ← prunedAll_append, ih, List.map_cons]

theorem preorder_pruned (n : Node) : n.pruned.preorder = n.preorder.map pruned := by
  rw [← preorderAll_singleton, ← preorderAll_singleton, ← preorderAll_prunedAll, prunedAll,
    prunedAll]

theorem complete_pruned (n : Node) : n.pruned.Complete := by
  intro m hm
  rw [preorder_pruned] at hm
  obtain ⟨k, -, rfl⟩ := List.mem_map.mp hm
  rw [children_pruned]
  exact none_not_mem_prunedAll k.children

/-- **Gaps do not count**: a tree has the decisions of the tree without them. -/
theorem decisionCount_pruned (n : Node) : n.pruned.decisionCount = n.decisionCount := by
  rw [decisionCount, preorder_pruned, List.countP_map, decisionCount]
  exact List.countP_congr fun m _ => by rw [Function.comp_apply, kind_pruned]

end Node

theorem Complexity.ofBody_pruned (body : Node) :
    ofBody (some body.pruned) = ofBody (some body) := by
  rw [ofBody_some, ofBody_some, Node.decisionCount_pruned]

/-! ## A walk up to the first gap -/

namespace Walk

/-- How a walk ends that no visit stops. -/
def ending (forest : List (Option Node)) : Except Fault Unit :=
  if (Node.placesAll forest).all Option.isSome then .ok () else .error .missingNode

theorem ending_none_cons (rest : List (Option Node)) :
    ending (none :: rest) = .error .missingNode := by
  rw [ending, Node.placesAll]
  rfl

theorem ending_some_cons (n : Node) (rest : List (Option Node)) :
    ending (some n :: rest) = ending (n.children ++ rest) := by
  rw [ending, Node.placesAll_some_cons, List.all_cons, Option.isSome_some, Bool.true_and, ending]

theorem ending_cases (forest : List (Option Node)) :
    (none ∉ Node.placesAll forest ∧ ending forest = .ok ()) ∨
      (none ∈ Node.placesAll forest ∧ ending forest = .error .missingNode) := by
  rw [ending]
  by_cases hall : (Node.placesAll forest).all Option.isSome = true
  · refine .inl ⟨fun hmem => ?_, if_pos hall⟩
    exact absurd (List.all_eq_true.mp hall none hmem) Bool.false_ne_true
  · refine .inr ⟨?_, if_neg hall⟩
    obtain ⟨place, hmem, hplace⟩ : ∃ place ∈ Node.placesAll forest, ¬ place.isSome = true := by
      simpa using hall
    obtain rfl := Option.not_isSome_iff_eq_none.mp hplace
    exact hmem

/-- A gap is noticed only if nothing has stopped the loop in front of it. -/
theorem bind_ending {result : Except Fault Unit} (h : result ≠ .error .missingNode)
    (forest : List (Option Node)) :
    ((result >>= fun _ => ending forest) = .error .missingNode ↔
      result = .ok () ∧ none ∈ Node.placesAll forest) ∧
    (result ≠ .ok () ∨ none ∉ Node.placesAll forest →
      (result >>= fun _ => ending forest) = result) := by
  cases result with
  | error fault =>
    refine ⟨⟨fun hfault => absurd hfault h, fun hok => ?_⟩, fun _ => rfl⟩
    cases hok.1
  | ok =>
    rcases ending_cases forest with ⟨hnone, hending⟩ | ⟨hnone, hending⟩
    · refine ⟨⟨fun hfault => ?_, fun hok => absurd hok.2 hnone⟩, fun _ => hending⟩
      cases hending.symm.trans hfault
    · refine ⟨⟨fun _ => ⟨rfl, hnone⟩, fun _ => hending⟩, ?_⟩
      rintro (hok | hnot)
      · exact absurd rfl hok
      · exact absurd hnone hnot

variable (policy : Policy) (remarkId : Nat)

/-- **The loop stops at the first gap**: it visits the declarations ahead of that, and what they
have done stays. -/
theorem visitPending_eq (pending : List (Option Node)) (s : State) :
    visitPending policy remarkId pending s =
      ((visitAll policy remarkId ((Node.ahead pending).filterMap Node.declared) s).1,
        (visitAll policy remarkId ((Node.ahead pending).filterMap Node.declared) s).2 >>=
          fun _ => ending pending) := by
  fun_induction visitPending policy remarkId pending s with
  | case1 s => rfl
  | case2 rest s =>
    rw [Node.ahead_none_cons, ending_none_cons]
    rfl
  -- The children of `n` take its place, so nodes ahead and gaps stay as they are but for `n`.
  | case3 s n rest hnone ih =>
    rw [ih, Node.ahead_some_cons, List.filterMap_cons_none hnone, ending_some_cons]
  | case4 s n rest f hsome s' fault hvisit =>
    rw [Node.ahead_some_cons, List.filterMap_cons_some hsome,
      visitAll_cons_error policy remarkId hvisit]
    rfl
  | case5 s n rest f hsome s' hvisit ih =>
    rw [ih, Node.ahead_some_cons, List.filterMap_cons_some hsome,
      visitAll_cons_ok policy remarkId hvisit, ending_some_cons]

/-- A remark leaves the outcome alone, and its fault is not that of a missing node. -/
theorem remark_keeps (s : State) (r : FunctionResult) :
    (s.remark remarkId r).1.outcome = s.outcome ∧
      (s.remark remarkId r).2 ≠ .error .missingNode := by
  rw [State.remark]
  split
  · exact ⟨rfl, by simp⟩
  · split
    · exact ⟨rfl, by simp⟩
    · split
      · exact ⟨rfl, by simp⟩
      · exact ⟨rfl, by simp⟩

/-- A visit adds nothing to the functions but what is recorded for its declaration, and never faults
for a missing node. -/
theorem visit_adds (f : Declaration Node) (s : State) :
    (∀ r ∈ (visit policy remarkId f s).1.outcome.functions,
      r ∈ s.outcome.functions ∨ policy.recorded? f = some r) ∧
    (visit policy remarkId f s).2 ≠ .error .missingNode := by
  rcases visit_cases policy remarkId f s with ⟨-, hv⟩ | ⟨-, e, hv⟩ | ⟨l, -, -, hv⟩ |
    ⟨l, -, -, -, hv⟩ | ⟨l, body, hl, hdef, hbody, hv⟩
  · rw [hv]
    exact ⟨fun _ => .inl, by simp⟩
  · rw [hv]
    exact ⟨fun _ => .inl, by simp⟩
  · rw [hv]
    exact ⟨fun _ => .inl, by simp⟩
  · rw [hv]
    exact ⟨fun _ => .inl, by simp⟩
  · obtain ⟨houtcome, hresult⟩ := remark_keeps remarkId (s.record (resultOf f body l))
      (resultOf f body l)
    rw [hv, houtcome]
    refine ⟨fun r hr => (List.mem_append.mp hr).imp_right fun hr => ?_, hresult⟩
    obtain rfl := List.mem_singleton.mp hr
    simp only [Policy.recorded?, hl, hdef, hbody]

theorem visitAll_adds (fs : List (Declaration Node)) (s : State) :
    (∀ r ∈ (visitAll policy remarkId fs s).1.outcome.functions,
      r ∈ s.outcome.functions ∨ ∃ f ∈ fs, policy.recorded? f = some r) ∧
    (visitAll policy remarkId fs s).2 ≠ .error .missingNode := by
  induction fs generalizing s with
  | nil => exact ⟨fun _ => .inl, by simp [visitAll]⟩
  | cons f fs ih =>
    obtain ⟨hfunctions, hresult⟩ := visit_adds policy remarkId f s
    have hfirst : ∀ r ∈ (visit policy remarkId f s).1.outcome.functions,
        r ∈ s.outcome.functions ∨ ∃ g ∈ f :: fs, policy.recorded? g = some r :=
      fun r hr => (hfunctions r hr).imp_right fun hf => ⟨f, List.mem_cons_self .., hf⟩
    rcases hvisit : visit policy remarkId f s with ⟨s', fault | ⟨⟩⟩
    · rw [hvisit] at hfirst hresult
      rw [visitAll_cons_error policy remarkId hvisit]
      exact ⟨hfirst, hresult⟩
    · rw [hvisit] at hfirst
      rw [visitAll_cons_ok policy remarkId hvisit]
      obtain ⟨hrest, hresult'⟩ := ih s'
      refine ⟨fun r hr => ?_, hresult'⟩
      rcases hrest r hr with hr | ⟨g, hg, hr⟩
      · exact hfirst r hr
      · exact .inr ⟨g, List.mem_cons_of_mem f hg, hr⟩

/-- Visits come through if and only if each remark can be written. -/
theorem visitAll_ok_iff {policy : Policy} (hp : policy.headersComplete = true) {remarkId : Nat}
    {s : State} (hreg : ∀ d ∈ s.diagnostics, Registered remarkId d)
    {done : List (Declaration Node)} (hdone : s.outcome.Accounts policy done)
    (fs : List (Declaration Node)) :
    (visitAll policy remarkId fs s).2 = .ok () ↔ Shown policy s.sink fs := by
  obtain ⟨seen, -, -, hshown, hlong⟩ := visitAll_accounts hp fs hreg hdone
  refine ⟨fun hok => ?_, fun h => (hshown h).2⟩
  by_contra h
  rw [hlong h] at hok
  cases hok

end Walk

namespace Walker

/-- **A walk of a tree with missing nodes.**  Whatever is missing where, the walk leaves behind what
visiting the declarations of the nodes in front of the first gap leaves behind, in preorder.  It
faults for a missing node if and only if there is one, the root or some child, and no visit in front
of it has stopped the walk; otherwise it ends as these visits do.  They all come through if the
endings of the policy are texts and each remark can be written.  The complexity of a body does
not depend on its gaps: it is that of the body without them, also in what is recorded by the time
the walk stops. -/
theorem walk_missing (policy : Policy) (root : Option Node) (tally : Tally)
    (diagnostics : Option Diagnostics) :
    let start := Walker.start policy diagnostics
    let walked := start.1.walk root tally start.2
    let declared := (Node.ahead [root]).filterMap Node.declared
    let visited := Walk.visitAll policy start.1.remarkId declared ⟨.empty, tally, start.2, []⟩
    let missing := root = none ∨ ∃ n ∈ Node.preorderAll [root], none ∈ n.children
    walked.1 = visited.1 ∧
    (walked.2 = .error .missingNode ↔ visited.2 = .ok () ∧ missing) ∧
    (visited.2 ≠ .ok () ∨ ¬ missing → walked.2 = visited.2) ∧
    (policy.headersComplete = true →
      (visited.2 = .ok () ↔ Walk.Shown policy (diagnostics.bind Diagnostics.sink) declared)) ∧
    (∀ body : Node, body.pruned.Complete ∧
      Complexity.ofBody (some body.pruned) = Complexity.ofBody (some body)) ∧
    ∀ r ∈ walked.1.outcome.functions, ∃ n ∈ Node.ahead [root], ∃ f body, n.declared = some f ∧
      f.body = some body ∧ r.name = f.name ∧ f.location = .ok r.location ∧
      r.complexity = Complexity.ofBody (some body.pruned) := by
  intro start walked declared visited missing
  have hloop : walked =
      Walk.visitPending policy start.1.remarkId [root] ⟨.empty, tally, start.2, []⟩ := by
    rw [← start_policy policy diagnostics]
    rfl
  have hwalked : walked = (visited.1, visited.2 >>= fun _ => Walk.ending [root]) :=
    hloop.trans (Walk.visitPending_eq policy start.1.remarkId [root] _)
  have hmissing : none ∈ Node.placesAll [root] ↔ missing := by
    rw [Node.none_mem_placesAll_iff, List.mem_singleton, eq_comm]
  obtain ⟨hfunctions, hvisited⟩ : (∀ r ∈ visited.1.outcome.functions,
      r ∈ Walk.Outcome.empty.functions ∨ ∃ f ∈ declared, policy.recorded? f = some r) ∧
      visited.2 ≠ .error .missingNode :=
    Walk.visitAll_adds policy start.1.remarkId declared ⟨.empty, tally, start.2, []⟩
  have hstate : walked.1 = visited.1 := by rw [hwalked]
  have hresult : walked.2 = visited.2 >>= fun _ => Walk.ending [root] := by rw [hwalked]
  refine ⟨hstate, ?_, ?_, fun hp => ?_,
    fun body => ⟨body.complete_pruned, Complexity.ofBody_pruned body⟩, fun r hr => ?_⟩
  · rw [hresult, ← hmissing]
    exact (Walk.bind_ending hvisited [root]).1
  · rw [hresult, ← hmissing]
    exact (Walk.bind_ending hvisited [root]).2
  · have hsink : start.2.bind Diagnostics.sink = diagnostics.bind Diagnostics.sink :=
      start_sink policy diagnostics
    rw [← hsink]
    exact Walk.visitAll_ok_iff hp (start_registers policy diagnostics) Walk.Outcome.accounts_empty
      declared
  · rw [hstate] at hr
    rcases hfunctions r hr with hr | ⟨f, hf, hr⟩
    · cases hr
    · obtain ⟨n, hn, hdeclared⟩ := List.mem_filterMap.mp hf
      obtain ⟨l, body, hl, -, hbody, rfl⟩ := Policy.recorded?_eq_some hr
      refine ⟨n, hn, f, body, hdeclared, hbody, rfl, (Policy.eligible?_eq_some_iff.mp hl).1, ?_⟩
      rw [Complexity.ofBody_pruned, Complexity.ofBody_some]
      rfl

/-- Two functions.  The body of the first one has two decisions with a gap between them. -/
def gapSample : Node :=
  let function (name : String) (line : Int) (body : Node) : Node :=
    .mk .other (some ⟨name, .ok ⟨"main.c", line, 5, false⟩, true, some body⟩) [some body]
  .mk .other none [
    some (function "f" 1 (.mk .other none [
      some (.mk .ifElse none []), none, some (.mk .whileLoop none [])])),
    some (function "g" 2 (.mk .other none []))]

/-- The walk of the sample stops at the gap.  By then it has recorded and remarked the first
function with both of its decisions, but not the second function. -/
theorem walk_missing_gapSample :
    let start := Walker.start (Policy.ofLists [".h"] ["/usr/include"]) (some (.start none))
    let walked := start.1.walk (some gapSample) .empty start.2
    walked.2 = .error .missingNode ∧ walked.1.tally.entries = [("f", 3)] ∧
      walked.1.diagnostics.map Diagnostics.issued =
        some [⟨.remark, ⟨"main.c", 1, 5, false⟩, "Cyclomatic Complexity: 3", 0⟩] ∧
      walked.1.events.filterMap Event.row? = [] := by
  intro start walked
  obtain ⟨hstate, hmissing, -, hshown, -⟩ := walk_missing
    (Policy.ofLists [".h"] ["/usr/include"]) (some gapSample) .empty (some (.start none))
  refine ⟨hmissing.mpr ⟨(hshown rfl).mpr fun h => ?_, .inr ?_⟩, ?_, ?_, ?_⟩
  · cases h
  · simp [gapSample, Node.preorderAll, Node.preorder, Node.children]
  · rw [hstate]
    decide +kernel
  · rw [hstate]
    decide +kernel
  · rw [hstate]
    decide +kernel

end Walker

end Cyclometry
