import Mathlib.Algebra.BigOperators.Group.List.Basic
import Mathlib.Data.List.Infix
import Cyclometry.Frontend
import Cyclometry.Proofs.WalkOutcome

/-!
# Recorded functions of a grammar tree

Which nodes of a grammar tree become recorded functions, said in terms of the rules and fields of
the tree.  A node has to define a function (`Node.Defines`): its body stands under a field, or is
a try block with no clause before it that defines nothing.  And the name of the function has to
stand at an eligible location (`Source.EligibleAt`).  Bringing the tree to the form of the
analysis keeps the order of its nodes (`preorder_node`), so the outcome of a walk can be read off
the grammar tree itself (`Frontend.walk_parsed`).
-/

namespace Cyclometry.Grammar

/-! ## Definitions in a grammar tree -/

namespace Node

/-- A child stands under the field of bodies. -/
def HasBodyField (n : Node) : Prop := ∃ c ∈ n.children, c.isUnder "body"

/-- There is a try block among the children, and no clause that defines nothing precedes it. -/
def HasTryBody (n : Node) : Prop :=
  ∃ before block after, n.children = before ++ block :: after ∧ block.rule = "try_block" ∧
    ∀ c ∈ before, c.rule ∉ bodylessRules

/-- There is neither a try block among the children nor a clause that defines nothing. -/
def Unsettled (n : Node) : Prop :=
  ∀ c ∈ n.children, c.rule ≠ "try_block" ∧ c.rule ∉ bodylessRules

/-- The node is a function definition, and its declarator leads to a name. -/
def IsNamedDefinition (source : Bytes) (n : Node) : Prop :=
  n.rule = "function_definition" ∧
    ∃ declarator name, n.under? "declarator" = some declarator ∧
      declarator.declaredName? source = some name

/-- The node defines a function. -/
def Defines (source : Bytes) (n : Node) : Prop :=
  (n.rule = "lambda_expression" ∧ n.HasBodyField) ∨
    (n.IsNamedDefinition source ∧ (n.HasBodyField ∨ n.HasTryBody))

/-- The node means to define a function, but has nothing in the place of a body. -/
def LacksBody (source : Bytes) (n : Node) : Prop :=
  (n.rule = "lambda_expression" ∧ ¬ n.HasBodyField) ∨
    (n.IsNamedDefinition source ∧ ¬ n.HasBodyField ∧ n.Unsettled)

/-- The node whose start is the place of the function: the name in the declarator, or a lambda
expression as a whole. -/
def place? (n : Node) : Option Node :=
  if n.rule = "lambda_expression" then some n else (n.under? "declarator").map nameNode

theorem place?_of_under? {n declarator : Node} (hrule : n.rule ≠ "lambda_expression")
    (h : n.under? "declarator" = some declarator) : n.place? = some declarator.nameNode := by
  rw [place?, if_neg hrule, h, Option.map_some]

theorem HasTryBody.not_unsettled {n : Node} (h : n.HasTryBody) : ¬ n.Unsettled := by
  obtain ⟨before, block, after, hchildren, hblock, -⟩ := h
  intro hunsettled
  have hmem : block ∈ n.children := by
    rw [hchildren]
    exact List.mem_append_right _ (List.mem_cons_self ..)
  exact (hunsettled block hmem).1 hblock

/-! A lambda expression is no function definition, so only one half of `Defines` and `LacksBody`
can hold of a node. -/

theorem defines_iff_of_lambda (source : Bytes) {n : Node} (hrule : n.rule = "lambda_expression") :
    (n.Defines source ↔ n.HasBodyField) ∧ (n.LacksBody source ↔ ¬ n.HasBodyField) := by
  have hne : "lambda_expression" ≠ "function_definition" := by decide
  simp [Defines, LacksBody, IsNamedDefinition, hrule, hne]

theorem defines_iff_of_ne_lambda (source : Bytes) {n : Node}
    (hrule : n.rule ≠ "lambda_expression") :
    (n.Defines source ↔ n.IsNamedDefinition source ∧ (n.HasBodyField ∨ n.HasTryBody)) ∧
    (n.LacksBody source ↔
      n.IsNamedDefinition source ∧ ¬ n.HasBodyField ∧ n.Unsettled) := by
  simp [Defines, LacksBody, hrule]

theorem not_defines_of_prototype {source : Bytes} {n : Node}
    (hrule : n.rule ∈ ["declaration", "field_declaration"]) : ¬ n.Defines source := by
  rintro (⟨hrule', -⟩ | ⟨⟨hrule', -⟩, -⟩)
  · rw [hrule'] at hrule
    exact absurd hrule (by decide)
  · rw [hrule'] at hrule
    exact absurd hrule (by decide)

/-! ## Finding the body -/

theorem settlesBody_iff {c : Node} :
    c.settlesBody = true ↔ c.rule = "try_block" ∨ c.rule ∈ bodylessRules := by
  rw [settlesBody, Bool.or_eq_true, beq_iff_eq, List.contains_iff_mem]

theorem bodyField?_cases (n : Node) :
    (n.HasBodyField ∧ ∃ i < n.children.length, n.bodyField? = some i) ∨
    (¬ n.HasBodyField ∧ n.bodyField? = none) := by
  rw [bodyField?]
  cases hfind : n.children.findIdx? (isUnder "body") with
  | none =>
    refine .inr ⟨fun ⟨c, hc, hunder⟩ => ?_, rfl⟩
    rw [List.findIdx?_eq_none_iff.mp hfind c hc] at hunder
    cases hunder
  | some i =>
    obtain ⟨hlt, hunder, -⟩ := List.findIdx?_eq_some_iff_getElem.mp hfind
    exact .inl ⟨⟨n.children[i], List.getElem_mem hlt, hunder⟩, i, hlt, rfl⟩

/-- The first child that settles the body decides: a try block is the body, and a clause means
that there is none. -/
theorem settled_cases {n : Node} {i : Nat} (h : n.children.findIdx? settlesBody = some i) :
    ∃ hi : i < n.children.length, ¬ n.Unsettled ∧
      (n.children[i].rule = "try_block" ↔ n.HasTryBody) := by
  obtain ⟨hlt, hsettles, hbefore⟩ := List.findIdx?_eq_some_iff_getElem.mp h
  have hsplit : n.children = n.children.take i ++ n.children[i] :: n.children.drop (i + 1) := by
    rw [List.getElem_cons_drop, List.take_append_drop]
  refine ⟨hlt, fun hunsettled => ?_, fun hrule => ?_, ?_⟩
  · obtain ⟨htry, hclause⟩ := hunsettled _ (List.getElem_mem hlt)
    exact (settlesBody_iff.mp hsettles).elim htry hclause
  · refine ⟨_, _, _, hsplit, hrule, fun c hc hclause => ?_⟩
    obtain ⟨j, hj, rfl⟩ := List.mem_take_iff_getElem.mp hc
    exact hbefore j (by omega) (settlesBody_iff.mpr (.inr hclause))
  · rintro ⟨before, block, after, hchildren, hblock, hbare⟩
    -- The try block settles the body, so the first settling child comes no later.
    have hle : i ≤ before.length := by
      refine Nat.le_of_not_lt fun hlt' => hbefore before.length hlt' ?_
      simp [hchildren, settlesBody_iff, hblock]
    rcases Nat.lt_or_eq_of_le hle with hlt' | rfl
    · have hmem : n.children[i] ∈ before := by
        simp only [hchildren, List.getElem_append_left hlt']
        exact List.getElem_mem hlt'
      exact (settlesBody_iff.mp hsettles).resolve_right (hbare _ hmem)
    · simp [hchildren, hblock]

/-- **What a function definition says about its body**, in the three cases that there are. -/
theorem definedBody_cases (n : Node) :
    ((n.HasBodyField ∨ n.HasTryBody) ∧
      ∃ i < n.children.length, n.definedBody = (true, some i)) ∨
    (¬ n.HasBodyField ∧ n.Unsettled ∧ n.definedBody = (true, none)) ∨
    (¬ (n.HasBodyField ∨ n.HasTryBody) ∧ ¬ n.Unsettled ∧ n.definedBody = (false, none)) := by
  rw [definedBody]
  rcases n.bodyField?_cases with ⟨hbody, i, hi, hfield⟩ | ⟨hbody, hfield⟩
  · rw [hfield]
    exact .inl ⟨.inl hbody, i, hi, rfl⟩
  · rw [hfield]
    cases hfind : n.children.findIdx? settlesBody with
    | none =>
      refine .inr (.inl ⟨hbody, fun c hc => ?_, rfl⟩)
      have hfree : ¬ c.settlesBody = true := by
        rw [List.findIdx?_eq_none_iff.mp hfind c hc]
        exact Bool.false_ne_true
      exact not_or.mp (mt settlesBody_iff.mpr hfree)
    | some i =>
      obtain ⟨hi, hunsettled, htry⟩ := settled_cases hfind
      simp only [List.getElem?_eq_getElem hi, Option.map_some, beq_iff_eq, Option.some.injEq]
      by_cases hrule : n.children[i].rule = "try_block"
      · rw [if_pos hrule]
        exact .inl ⟨.inr (htry.mp hrule), i, hi, rfl⟩
      · rw [if_neg hrule]
        exact .inr (.inr ⟨not_or.mpr ⟨hbody, mt htry.mpr hrule⟩, hunsettled, rfl⟩)

end Node

/-! ## From the grammar tree to the tree of the analysis -/

namespace Source

variable (s : Source)

theorem nodes_eq_map (ns : List Node) : s.nodes ns = ns.map s.node := by
  induction ns with
  | nil => rw [nodes, List.map_nil]
  | cons n ns ih => rw [nodes, List.map_cons, ih]

theorem children_node (n : Node) : (s.node n).children = (n.children.map s.node).map some := by
  cases n with
  | mk head children => rw [node, nodes_eq_map, Cyclometry.Node.children, Node.children]

theorem declared_node (n : Node) :
    (s.node n).declared = (s.declared? n).map (withBody (n.children.map s.node)) := by
  cases n with
  | mk head children => rw [node, nodes_eq_map, Cyclometry.Node.declared, Node.children]

/-- **Everything that a node can declare**: a lambda expression, a function definition or a
prototype, the latter two with what their declarator leads to. -/
theorem declared?_cases {n : Node} {d : Declaration Nat} (h : s.declared? n = some d) :
    (n.rule = "lambda_expression" ∧ d = ⟨lambdaName, s.locate n, true, n.bodyField?⟩) ∨
    (n.rule = "function_definition" ∧ ∃ declarator name, n.under? "declarator" = some declarator ∧
      declarator.declaredName? s.text = some name ∧
      d = ⟨name, s.locate declarator.nameNode, n.definedBody.1, n.definedBody.2⟩) ∨
    (n.rule ∈ ["declaration", "field_declaration"] ∧
      ∃ declarator name, n.under? "declarator" = some declarator ∧ declarator.hasParameters = true ∧
      declarator.declaredName? s.text = some name ∧
      d = ⟨name, s.locate declarator.nameNode, false, none⟩) := by
  rw [declared?] at h
  split at h
  · exact .inl ⟨beq_iff_eq.mp ‹_›, (Option.some.inj h).symm⟩
  · split at h
    · obtain ⟨declarator, hdeclarator, h⟩ := Option.bind_eq_some_iff.mp h
      obtain ⟨name, hname, h⟩ := Option.bind_eq_some_iff.mp h
      exact .inr (.inl ⟨beq_iff_eq.mp ‹_›, declarator, name, hdeclarator, hname,
        (Option.some.inj h).symm⟩)
    · split at h
      · rename_i hrule
        obtain ⟨declarator, hdeclarator, h⟩ := Option.bind_eq_some_iff.mp h
        split at h
        · obtain ⟨name, hname, h⟩ := Option.bind_eq_some_iff.mp h
          refine .inr (.inr ⟨?_, declarator, name, hdeclarator, ‹_›, hname,
            (Option.some.inj h).symm⟩)
          simpa using hrule
        · cases h
      · cases h

/-- The declarator of whatever declares a function that is no lambda expression. -/
theorem declarator_of_declared? {n : Node} {f : Declaration Nat} (h : s.declared? n = some f)
    (hrule : n.rule ≠ "lambda_expression") :
    ∃ d, n.under? "declarator" = some d ∧ d.declaredName? s.text = some f.name ∧
      f.location = s.locate d.nameNode := by
  rcases s.declared?_cases h with ⟨hlambda, -⟩ | ⟨-, d, name, hd, hname, rfl⟩ |
    ⟨-, d, name, hd, -, hname, rfl⟩
  · exact absurd hlambda hrule
  · exact ⟨d, hd, hname, rfl⟩
  · exact ⟨d, hd, hname, rfl⟩

mutual

/-- The nodes of the converted tree are the converted nodes, in the same order. -/
theorem preorder_node : ∀ n : Node, (s.node n).preorder = n.preorder.map s.node
  | .mk head children => by
    rw [Cyclometry.Node.preorder_eq, children_node, Node.preorder, List.map_cons,
      ← preorderAll_map_node children, Node.children]

theorem preorderAll_map_node : ∀ ns : List Node,
    Cyclometry.Node.preorderAll ((ns.map s.node).map some) = (Node.preorderAll ns).map s.node
  | [] => rfl
  | n :: ns => by
    rw [List.map_cons, List.map_cons, Cyclometry.Node.preorderAll, Node.preorderAll,
      List.map_append, preorder_node n, preorderAll_map_node ns]

end

theorem complete_node (n : Node) : (s.node n).Complete := by
  intro m hm hmissing
  rw [preorder_node] at hm
  obtain ⟨c, -, rfl⟩ := List.mem_map.mp hm
  rw [children_node] at hmissing
  simp at hmissing

/-! ## Recorded nodes -/

/-- What is recorded for a node of the grammar tree. -/
def recorded? (policy : Policy) (n : Node) : Option FunctionResult :=
  (s.node n).declared.bind policy.recorded?

/-- The node counts as a definition without a body. -/
def missesBody (policy : Policy) (n : Node) : Bool :=
  (s.node n).declared.any policy.missesBody

/-- The place of the function stands at a known and eligible location. -/
def EligibleAt (policy : Policy) (n : Node) : Prop :=
  ∃ place l, n.place? = some place ∧
    s.lineMap.resolve place.head.startRow place.head.startColumn = .ok l ∧ policy.Eligible l

/-- The node declares a definition, which stands at the place of the node. -/
def DeclaresDefinition (n : Node) (f : Declaration Cyclometry.Node) : Prop :=
  (s.node n).declared = some f ∧ f.isDefinition = true ∧
    ∃ place, n.place? = some place ∧ f.location = s.locate place

theorem declaresDefinition_of_declared? {n place : Node} {d : Declaration Nat}
    (hd : s.declared? n = some d) (hdef : d.isDefinition = true)
    (hplace : n.place? = some place) (hlocation : d.location = s.locate place) :
    s.DeclaresDefinition n (withBody (n.children.map s.node) d) := by
  refine ⟨?_, hdef, place, hplace, hlocation⟩
  rw [declared_node, hd, Option.map_some]

theorem isSome_body_withBody {n : Node} {d : Declaration Nat} {i : Nat}
    (hbody : d.body = some i) (hi : i < n.children.length) :
    (withBody (n.children.map s.node) d).body.isSome := by
  simp [withBody, hbody, hi]

/-- The three cases of a node: it declares a definition with a body, it declares a definition that
lacks one, or it declares no definition at all. -/
inductive Fate (n : Node) : Prop
  | defines (f : Declaration Cyclometry.Node) (declares : s.DeclaresDefinition n f)
      (body : f.body.isSome) (defines : n.Defines s.text) (lacks : ¬ n.LacksBody s.text)
  | lacksBody (f : Declaration Cyclometry.Node) (declares : s.DeclaresDefinition n f)
      (body : f.body = none) (defines : ¬ n.Defines s.text) (lacks : n.LacksBody s.text)
  | other (declares : ∀ f ∈ (s.node n).declared, f.isDefinition = false)
      (defines : ¬ n.Defines s.text) (lacks : ¬ n.LacksBody s.text)

theorem fate_of_lambda {n : Node} (hrule : n.rule = "lambda_expression") : s.Fate n := by
  have hd : s.declared? n = some ⟨lambdaName, s.locate n, true, n.bodyField?⟩ := by
    rw [declared?, if_pos (beq_iff_eq.mpr hrule)]
  have hdeclares := s.declaresDefinition_of_declared? hd rfl (if_pos hrule) rfl
  obtain ⟨hdefines, hlacks⟩ := Node.defines_iff_of_lambda s.text hrule
  rcases n.bodyField?_cases with ⟨hbody, i, hi, hfield⟩ | ⟨hbody, hfield⟩
  · exact .defines _ hdeclares (s.isSome_body_withBody hfield hi) (hdefines.mpr hbody)
      (mt hlacks.mp (not_not_intro hbody))
  · refine .lacksBody _ hdeclares ?_ (mt hdefines.mp hbody) (hlacks.mpr hbody)
    rw [withBody, hfield, Option.bind_none]

theorem fate_of_named {n : Node} (hrule : n.rule ≠ "lambda_expression")
    (hnamed : n.IsNamedDefinition s.text) : s.Fate n := by
  obtain ⟨hrule', declarator, name, hdeclarator, hname⟩ := id hnamed
  have hd : s.declared? n =
      some ⟨name, s.locate declarator.nameNode, n.definedBody.1, n.definedBody.2⟩ := by
    rw [declared?, if_neg (mt beq_iff_eq.mp hrule), if_pos (beq_iff_eq.mpr hrule'), hdeclarator]
    simp only [Option.bind_eq_bind, Option.bind_some, hname]
  have hplace := Node.place?_of_under? hrule hdeclarator
  obtain ⟨hdefines, hlacks⟩ := Node.defines_iff_of_ne_lambda s.text hrule
  -- A body, nothing that settles it, or a clause that comes first.
  rcases n.definedBody_cases with ⟨hbody, i, hi, h⟩ | ⟨hbody, hunsettled, h⟩ | ⟨hbody, hsettled, h⟩
  · rw [h] at hd
    refine .defines _ (s.declaresDefinition_of_declared? hd rfl hplace rfl)
      (s.isSome_body_withBody rfl hi) (hdefines.mpr ⟨hnamed, hbody⟩) fun hlack => ?_
    obtain ⟨-, hfield, hunsettled⟩ := hlacks.mp hlack
    exact (hbody.resolve_left hfield).not_unsettled hunsettled
  · rw [h] at hd
    refine .lacksBody _ (s.declaresDefinition_of_declared? hd rfl hplace rfl) rfl
      (fun hdefine => ?_) (hlacks.mpr ⟨hnamed, hbody, hunsettled⟩)
    exact ((hdefines.mp hdefine).2.resolve_left hbody).not_unsettled hunsettled
  · rw [h] at hd
    refine .other ?_ (fun hdefine => hbody (hdefines.mp hdefine).2)
      (fun hlack => hsettled (hlacks.mp hlack).2.2)
    rw [declared_node, hd]
    rintro f ⟨⟩
    rfl

/-- Whatever else a node declares is no definition. -/
theorem isDefinition_eq_false {n : Node} {d : Declaration Nat}
    (hrule : n.rule ≠ "lambda_expression") (hnamed : ¬ n.IsNamedDefinition s.text)
    (hd : s.declared? n = some d) : d.isDefinition = false := by
  rcases s.declared?_cases hd with ⟨hlambda, -⟩ |
    ⟨hrule', declarator, name, hdeclarator, hname, -⟩ | ⟨-, declarator, name, -, -, -, rfl⟩
  · exact absurd hlambda hrule
  · exact absurd ⟨hrule', declarator, name, hdeclarator, hname⟩ hnamed
  · rfl

theorem fate (n : Node) : s.Fate n := by
  by_cases hrule : n.rule = "lambda_expression"
  · exact s.fate_of_lambda hrule
  · by_cases hnamed : n.IsNamedDefinition s.text
    · exact s.fate_of_named hrule hnamed
    · obtain ⟨hdefines, hlacks⟩ := Node.defines_iff_of_ne_lambda s.text hrule
      refine .other (fun f hf => ?_) (fun h => hnamed (hdefines.mp h).1)
        (fun h => hnamed (hlacks.mp h).1)
      rw [declared_node] at hf
      obtain ⟨d, hd, rfl⟩ := Option.map_eq_some_iff.mp hf
      exact s.isDefinition_eq_false hrule hnamed hd

/-! ## The two conditions -/

variable {s} {policy : Policy} {n : Node}

theorem DeclaresDefinition.eligibleAt_iff {f : Declaration Cyclometry.Node}
    (h : s.DeclaresDefinition n f) :
    s.EligibleAt policy n ↔ ∃ l, policy.eligible? f.location = some l := by
  obtain ⟨-, -, place, hplace, hlocation⟩ := h
  simp only [Policy.eligible?_eq_some_iff, hlocation]
  constructor
  · rintro ⟨place', l, hplace', hl⟩
    obtain rfl := Option.some.inj (hplace.symm.trans hplace')
    exact ⟨l, hl⟩
  · rintro ⟨l, hl⟩
    exact ⟨place, l, hplace, hl⟩

theorem DeclaresDefinition.isSome_recorded?_iff {f : Declaration Cyclometry.Node}
    (h : s.DeclaresDefinition n f) :
    (s.recorded? policy n).isSome ↔ f.body.isSome ∧ s.EligibleAt policy n := by
  rw [h.eligibleAt_iff, recorded?, h.1, Option.bind_some, Policy.recorded?, h.2.1]
  cases policy.eligible? f.location with
  | none => simp
  | some l => cases f.body <;> simp

theorem DeclaresDefinition.missesBody_iff {f : Declaration Cyclometry.Node}
    (h : s.DeclaresDefinition n f) :
    s.missesBody policy n = true ↔ f.body = none ∧ s.EligibleAt policy n := by
  rw [h.eligibleAt_iff, missesBody, h.1, Option.any_some, Policy.missesBody, Policy.excludes, h.2.1]
  cases policy.eligible? f.location with
  | none => simp
  | some l => cases f.body <;> simp

/-- What is no definition is neither recorded nor missing a body. -/
theorem not_recorded_of_isDefinition
    (h : ∀ f ∈ (s.node n).declared, f.isDefinition = false) :
    s.recorded? policy n = none ∧ s.missesBody policy n = false := by
  rw [recorded?, missesBody]
  cases hf : (s.node n).declared with
  | none => exact ⟨rfl, rfl⟩
  | some f =>
    have hdef : f.isDefinition = false := h f hf
    simp [Policy.recorded?, Policy.missesBody, hdef]

/-- **A function is recorded for a node** if and only if the node defines one at an eligible
place. -/
theorem isSome_recorded?_iff :
    (s.recorded? policy n).isSome ↔ n.Defines s.text ∧ s.EligibleAt policy n := by
  cases s.fate n with
  | defines f declares body defines lacks => simp [declares.isSome_recorded?_iff, body, defines]
  | lacksBody f declares body defines lacks =>
    simp [declares.isSome_recorded?_iff, body, defines]
  | other declares defines lacks => simp [(not_recorded_of_isDefinition declares).1, defines]

/-- A node counts as a definition without a body if and only if it lacks one at an eligible
place. -/
theorem missesBody_eq_true_iff :
    s.missesBody policy n = true ↔ n.LacksBody s.text ∧ s.EligibleAt policy n := by
  cases s.fate n with
  | defines f declares body defines lacks =>
    have hbody : f.body ≠ none := Option.isSome_iff_ne_none.mp body
    simp [declares.missesBody_iff, hbody, lacks]
  | lacksBody f declares body defines lacks => simp [declares.missesBody_iff, body, lacks]
  | other declares defines lacks => simp [(not_recorded_of_isDefinition declares).2, lacks]

/-- A recorded function has the name of what its node declares, and stands there. -/
theorem declared?_of_recorded? {r : FunctionResult} (h : s.recorded? policy n = some r) :
    ∃ d, s.declared? n = some d ∧ d.name = r.name ∧ d.location = .ok r.location := by
  obtain ⟨f, hf, hrecorded⟩ := Option.bind_eq_some_iff.mp h
  obtain ⟨l, body, hl, -, -, rfl⟩ := Policy.recorded?_eq_some hrecorded
  rw [declared_node] at hf
  obtain ⟨d, hd, rfl⟩ := Option.map_eq_some_iff.mp hf
  exact ⟨d, hd, rfl, (Policy.eligible?_eq_some_iff.mp hl).1⟩

/-- A recorded function is reported where its node has its place. -/
theorem locate_of_recorded? {r : FunctionResult} (h : s.recorded? policy n = some r) :
    ∃ place, n.place? = some place ∧ s.locate place = .ok r.location := by
  obtain ⟨d, hd, -, hlocation⟩ := declared?_of_recorded? h
  by_cases hrule : n.rule = "lambda_expression"
  · rw [declared?, if_pos (beq_iff_eq.mpr hrule)] at hd
    obtain rfl := Option.some.inj hd
    exact ⟨n, if_pos hrule, hlocation⟩
  · obtain ⟨declarator, hdeclarator, -, hplaced⟩ := s.declarator_of_declared? hd hrule
    exact ⟨_, Node.place?_of_under? hrule hdeclarator, hplaced.symm.trans hlocation⟩

/-! ## Outcomes over the grammar tree -/

theorem filterMap_recorded? (s : Source) (policy : Policy) (root : Node) :
    (s.node root).declarations.filterMap policy.recorded? =
      root.preorder.filterMap (s.recorded? policy) :=
  Cyclometry.Node.filterMap_declarations (s.preorder_node root) policy.recorded?

theorem countP_missesBody (s : Source) (policy : Policy) (root : Node) :
    (s.node root).declarations.countP policy.missesBody =
      root.preorder.countP (s.missesBody policy) :=
  Cyclometry.Node.countP_declarations (s.preorder_node root) policy.missesBody

end Source

end Cyclometry.Grammar

namespace Cyclometry.Frontend

theorem parse_grammar {tools : Toolchain} {fs : FileSystem} {asked : Option String}
    {path language : String} {source : Option Bytes} {bytes cleaned : Bytes} {lineMap : LineMap}
    (hlanguage : languageName? asked path = some language)
    (hsource : sourceOf fs path source = .ok bytes)
    (hscan : LineMap.scan path bytes = .ok (lineMap, cleaned)) :
    (parse tools fs (.grammar asked) path source).2 = .ok ⟨path, language,
      (Grammar.Source.mk cleaned lineMap).node
        (tools.grammar (fs.absolute path) (.ofName language) cleaned).root⟩ := by
  rw [parse, parseGrammar, hlanguage, hsource]
  simp only [hscan]

/-- **The functions of a parsed unit.**  Walking a unit from the grammar-based parser records a
function for exactly those nodes that define one at an eligible place, in the order of the tree,
and counts the nodes that lack a body there.  No other function is recorded even if a remark that
is too long ends the walk early. -/
theorem walk_parsed (tools : Toolchain) {fs : FileSystem} {asked : Option String}
    {path language : String} {source : Option Bytes} {bytes cleaned : Bytes} {lineMap : LineMap}
    (hlanguage : languageName? asked path = some language)
    (hsource : sourceOf fs path source = .ok bytes)
    (hscan : LineMap.scan path bytes = .ok (lineMap, cleaned))
    (headers dirs : List String) (tally : Tally) (diagnostics : Option Diagnostics) :
    let tree := (tools.grammar (fs.absolute path) (.ofName language) cleaned).root
    let s : Grammar.Source := ⟨cleaned, lineMap⟩
    let policy := Policy.ofLists headers dirs
    let recorded := tree.preorder.filterMap (s.recorded? policy)
    let start := Walker.start policy diagnostics
    (∀ n, (s.recorded? policy n).isSome ↔ n.Defines cleaned ∧ s.EligibleAt policy n) ∧
    (∀ n r, s.recorded? policy n = some r →
      ∃ place, n.place? = some place ∧ s.locate place = .ok r.location) ∧
    (∀ n, n.rule ∈ ["declaration", "field_declaration"] → s.recorded? policy n = none) ∧
    (∀ n, s.missesBody policy n = true ↔ n.LacksBody cleaned ∧ s.EligibleAt policy n) ∧
    ∃ unit, (parse tools fs (.grammar asked) path source).2 = .ok unit ∧
      let walked := start.1.walk (some unit.root) tally start.2
      walked.1.outcome.functions <+: recorded ∧
      (((diagnostics.bind Diagnostics.sink).isSome → ∀ r ∈ recorded, r.location.isShort) →
        walked.2 = .ok () ∧ walked.1.outcome.functions = recorded ∧
        walked.1.outcome.anomalies = tree.preorder.countP (s.missesBody policy)) := by
  intro tree s policy recorded start
  have hp : policy.headersComplete = true := rfl
  have hrecorded : (s.node tree).declarations.filterMap policy.recorded? = recorded :=
    s.filterMap_recorded? policy tree
  refine ⟨fun n => Grammar.Source.isSome_recorded?_iff,
    fun n r h => Grammar.Source.locate_of_recorded? h, fun n hrule => ?_,
    fun n => Grammar.Source.missesBody_eq_true_iff, _, parse_grammar hlanguage hsource hscan, ?_⟩
  · rw [← Option.not_isSome_iff_eq_none, Grammar.Source.isSome_recorded?_iff]
    exact fun h => Grammar.Node.not_defines_of_prototype hrule h.1
  · intro walked
    obtain ⟨seen, hseen, haccounts, hok, -⟩ :=
      Walker.walk_accounts hp (s.complete_node tree) tally diagnostics
    rw [Walk.Shown, hrecorded] at hok
    refine ⟨?_, fun hshown => ?_⟩
    · rw [haccounts.functions, ← hrecorded]
      exact hseen.filterMap policy.recorded?
    · obtain ⟨rfl, hresult⟩ := hok hshown
      exact ⟨hresult, haccounts.functions.trans hrecorded,
        haccounts.anomalies.trans (s.countP_missesBody policy tree)⟩

/-- A tree over four names: a definition by a try block with a clause behind it, one with the
clause in front, one with neither, and a prototype. -/
def clauseTree : Grammar.Node :=
  let node (rule : String) (field : Option String) (start : Int) := Grammar.Node.mk
    ⟨rule, true, field, start, start + 1, 1, start - 13⟩
  let name (start : Int) := node "identifier" (some "declarator") start []
  let definition (start : Int) (rules : List String) := node "function_definition" none start
    (name start :: rules.map fun rule => node rule none start [])
  node "translation_unit" none 13 [
    definition 13 ["try_block", "default_method_clause"],
    definition 15 ["default_method_clause", "try_block"],
    definition 17 [],
    node "declaration" none 19 [node "function_declarator" (some "declarator") 19 [name 19]]]

/-- A source with four names in line 7 of another file. -/
def clauseSource : Bytes := "# 7 \"main.c\"\nf g h p".toUTF8.toList

/-- The four names, found by a parser that always gives the same tree: the first one is recorded,
and the third one lacks a body. -/
theorem walk_parsed_clauseTree :
    let tools : Toolchain := ⟨fun _ _ _ => ⟨false, clauseTree⟩, fun _ _ => .finish none, .noLibrary⟩
    let start := Walker.start (Policy.ofLists [".h"] ["/usr/include"]) (some (.start (some .plain)))
    ∃ unit, (parse tools ⟨.dir [], []⟩ (.grammar none) "a.c" (some clauseSource)).2 = .ok unit ∧
      let walked := start.1.walk (some unit.root) .empty start.2
      walked.2 = .ok () ∧
      walked.1.outcome.functions = [⟨"f", 1, ⟨"main.c", 7, 1, false⟩⟩] ∧
      walked.1.outcome.anomalies = 1 := by
  intro tools start
  have hlanguage : languageName? none "a.c" = some "c" := by decide +kernel
  have hsource : sourceOf ⟨.dir [], []⟩ "a.c" (some clauseSource) = .ok clauseSource := rfl
  have hscan : LineMap.scan "a.c" clauseSource =
      .ok (⟨"a.c", #[⟨0, 1, some "a.c", false⟩, ⟨1, 7, some "main.c", false⟩]⟩,
        "            \nf g h p".toUTF8.toList) := by decide +kernel
  obtain ⟨-, -, -, -, unit, hunit, -, hwalked⟩ := walk_parsed tools hlanguage hsource hscan
    [".h"] ["/usr/include"] .empty (some (.start (some .plain)))
  obtain ⟨hresult, hfunctions, hanomalies⟩ := hwalked (by decide +kernel)
  exact ⟨unit, hunit, hresult, hfunctions.trans (by decide +kernel),
    hanomalies.trans (by decide +kernel)⟩

end Cyclometry.Frontend
