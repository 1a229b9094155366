import Mathlib.Algebra.Ring.Nat
import Cyclometry.Frontend
import Cyclometry.Proofs.WalkOutcome

/-!
# Functions of a compiler tree

What a walk makes of a compiler tree, said in terms of its cursors.  A cursor is a function by its
kind, the body of the function is the last child of a body's kind, and its complexity is the number
of cursors of a decision's kind below that child, and one more (`Cursor.recorded?_eq_some_iff`).

A cursor whose kind has no name here is none of these, but its children are looked at like those of
any other.  So giving it a kind that means nothing (`Cursor.Fills`) does not change the tree that
the analysis sees (`Cursor.Fills.node_eq`), and no walk can tell the difference.
-/

namespace Cyclometry.Compiler

/-- Kinds of cursors where the flow of control divides. -/
def decisionKinds : List String :=
  ["IF_STMT", "SWITCH_STMT", "FOR_STMT", "WHILE_STMT", "DO_STMT", "CONDITIONAL_OPERATOR"]

/-- Kinds of cursors that are functions: those that declare one, and that of lambda expressions. -/
def callableKinds : List String := "LAMBDA_EXPR" :: functionKinds

/-- The kind means nothing to the analysis: it is that of no decision, no function and no body. -/
def IsPlainKind (kind : String) : Prop :=
  kind ∉ decisionKinds ∧ kind ∉ callableKinds ∧ kind ∉ bodyKinds

instance (kind : String) : Decidable (IsPlainKind kind) := inferInstanceAs (Decidable (_ ∧ _ ∧ _))

theorem kindOf_of_not_mem {kind : String} (h : kind ∉ decisionKinds) :
    kindOf (some kind) = .other := by
  unfold kindOf
  split
  all_goals first
    | rfl
    | simp_all [decisionKinds]

theorem isDecision_kindOf (kind : Option String) :
    (kindOf kind).isDecision = kind.any decisionKinds.contains := by
  cases kind with
  | none => rfl
  | some kind =>
    by_cases h : kind ∈ decisionKinds
    · simp only [decisionKinds, List.mem_cons, List.not_mem_nil, or_false] at h
      rcases h with rfl | rfl | rfl | rfl | rfl | rfl <;> rfl
    · rw [kindOf_of_not_mem h, Option.any_some, List.contains_eq_mem, decide_eq_false h]
      rfl

/-! ## What a cursor says by its kind -/

namespace Cursor

/-- The kind of the cursor is known, and one of some kinds. -/
def isOneOf (kinds : List String) (c : Cursor) : Bool := c.head.kind.any kinds.contains

/-- The name of the function that a cursor is. -/
def functionName (c : Cursor) : String :=
  if c.head.kind = some "LAMBDA_EXPR" then lambdaName else c.head.spelling

/-- The function means to be defined here. -/
def isDefining (c : Cursor) : Bool := c.head.kind = some "LAMBDA_EXPR" || c.head.isDefinition

/-- The location of the function that a cursor is. -/
def location (c : Cursor) : Except LocationError Location := c.head.location c.functionName

/-- The cursor is the last one of a body's kind among the children of another. -/
def IsBodyOf (body c : Cursor) : Prop :=
  ∃ before after, c.children = before ++ body :: after ∧ body.isOneOf bodyKinds = true ∧
    ∀ other ∈ after, other.isOneOf bodyKinds = false

mutual

/-- All cursors of a tree in preorder. -/
def preorder : Cursor → List Cursor
  | mk head children => mk head children :: preorderAll children

/-- All cursors of several trees in preorder. -/
def preorderAll : List Cursor → List Cursor
  | [] => []
  | c :: rest => c.preorder ++ preorderAll rest

end

/-- The number of decisions in a tree. -/
def decisionCount (c : Cursor) : Nat := c.preorder.countP (isOneOf decisionKinds)

/-- The last child of a body's kind. -/
def body? (c : Cursor) : Option Cursor := (c.children.filter isBody).getLast?

theorem isBody_eq (c : Cursor) : c.isBody = c.isOneOf bodyKinds := by
  rw [isBody, isOneOf]
  cases c.head.kind <;> rfl

theorem body?_eq_some_iff {body c : Cursor} : c.body? = some body ↔ body.IsBodyOf c := by
  -- The last of them is the first one from behind, where `find?` has a lemma about its place.
  rw [body?, List.getLast?_filter, List.find?_eq_some_iff_append]
  simp only [isBody_eq, Bool.not_eq_true']
  constructor
  · rintro ⟨hbody, after, before, hchildren, hafter⟩
    refine ⟨before.reverse, after.reverse, ?_, hbody, fun other hother => ?_⟩
    · rw [← List.reverse_reverse c.children, hchildren]
      simp
    · exact hafter other (List.mem_reverse.mp hother)
  · rintro ⟨before, after, hchildren, hbody, hafter⟩
    refine ⟨hbody, after.reverse, before.reverse, ?_, fun other hother => ?_⟩
    · rw [hchildren]
      simp
    · exact hafter other (List.mem_reverse.mp hother)

theorem body?_eq_none_iff {c : Cursor} :
    c.body? = none ↔ ∀ child ∈ c.children, child.isOneOf bodyKinds = false := by
  rw [body?, List.getLast?_eq_none_iff, List.filter_eq_nil_iff]
  simp only [isBody_eq, Bool.not_eq_true]

/-! ## From the compiler tree to the tree of the analysis -/

theorem nodes_eq_map (cs : List Cursor) : nodes cs = cs.map node := by
  induction cs with
  | nil => rw [nodes, List.map_nil]
  | cons c cs ih => rw [nodes, List.map_cons, ih]

theorem lastBody_zip (cs : List Cursor) :
    lastBody (cs.zip (cs.map node)) = ((cs.filter isBody).getLast?).map node := by
  have hfilter : ((fun p : Cursor × Node => p.1.isBody) ∘ fun c => (c, c.node)) = isBody := rfl
  rw [lastBody, ← List.map_prod_left_eq_zip, List.filter_map, hfilter, List.getLast?_map,
    Option.map_map]
  rfl

theorem children_node (c : Cursor) : c.node.children = (c.children.map node).map some := by
  cases c with
  | mk head children => rw [node, nodes_eq_map, Node.children, Cursor.children]

theorem kind_node (c : Cursor) : c.node.kind = kindOf c.head.kind := by
  cases c with
  | mk head children => rw [node, Node.kind, Cursor.head]

/-- The function that a cursor declares, by its kind. -/
theorem declared_node (c : Cursor) :
    c.node.declared = if c.isOneOf callableKinds then
      some ⟨c.functionName, c.location, c.isDefining, c.body?.map node⟩ else none := by
  cases c with
  | mk head children =>
    rw [node, nodes_eq_map, Node.declared, lastBody_zip]
    simp only [Head.declared?, isOneOf, functionName, location, isDefining, body?, Cursor.head,
      Cursor.children]
    obtain hkind | ⟨kind, hkind⟩ := Option.eq_none_or_eq_some head.kind
    · simp [hkind]
    · by_cases hlambda : kind = "LAMBDA_EXPR"
      · simp [hkind, hlambda, callableKinds]
      · simp [hkind, hlambda, callableKinds]

mutual

/-- The nodes of the converted tree are the converted cursors, in the same order. -/
theorem preorder_node : ∀ c : Cursor, c.node.preorder = c.preorder.map node
  | .mk head children => by
    rw [Node.preorder_eq, children_node, preorder, List.map_cons, ← preorderAll_map_node children,
      Cursor.children]

theorem preorderAll_map_node : ∀ cs : List Cursor,
    Node.preorderAll ((cs.map node).map some) = (preorderAll cs).map node
  | [] => rfl
  | c :: cs => by
    rw [List.map_cons, List.map_cons, Node.preorderAll, preorderAll, List.map_append,
      preorder_node c, preorderAll_map_node cs]

end

theorem complete_node (c : Cursor) : c.node.Complete := by
  intro m hm hmissing
  rw [preorder_node] at hm
  obtain ⟨d, -, rfl⟩ := List.mem_map.mp hm
  rw [children_node] at hmissing
  simp at hmissing

theorem decisionCount_node (c : Cursor) : c.node.decisionCount = c.decisionCount := by
  rw [Node.decisionCount, preorder_node, List.countP_map, decisionCount]
  refine List.countP_congr fun d _ => ?_
  rw [Function.comp_apply, kind_node, isDecision_kindOf, isOneOf]

theorem decisionCount_eq (c : Cursor) : c.decisionCount =
    (if c.isOneOf decisionKinds then 1 else 0) + (c.children.map decisionCount).sum := by
  have hall (cs : List Cursor) : (preorderAll cs).countP (isOneOf decisionKinds) =
      (cs.map decisionCount).sum := by
    induction cs with
    | nil => rfl
    | cons c cs ih => rw [preorderAll, List.countP_append, ih, List.map_cons, List.sum_cons,
        decisionCount]
  cases c with
  | mk head children =>
    rw [decisionCount, preorder, List.countP_cons, hall, Cursor.children, Nat.add_comm]

/-- A cursor of an unknown kind is neither a function nor a body, and its decisions are those of its
children. -/
theorem of_kind_eq_none {c : Cursor} (h : c.head.kind = none) :
    c.node.declared = none ∧ (∀ d, ¬ c.IsBodyOf d) ∧
      c.decisionCount = (c.children.map decisionCount).sum := by
  have hunknown (kinds : List String) : c.isOneOf kinds = false := by
    rw [isOneOf, h, Option.any_none]
  refine ⟨?_, fun d hbody => ?_, ?_⟩
  · rw [declared_node, hunknown, if_neg Bool.false_ne_true]
  · obtain ⟨-, -, -, hkind, -⟩ := hbody
    rw [hunknown] at hkind
    cases hkind
  · rw [decisionCount_eq, hunknown, if_neg Bool.false_ne_true, Nat.zero_add]

/-! ## Recorded cursors -/

/-- What is recorded for a cursor. -/
def recorded? (policy : Policy) (c : Cursor) : Option FunctionResult :=
  c.node.declared.bind policy.recorded?

/-- The cursor counts as a definition without a body. -/
def missesBody (policy : Policy) (c : Cursor) : Bool := c.node.declared.any policy.missesBody

/-- The cursor is a function that means to be defined here, at an eligible location. -/
def DefinesAt (policy : Policy) (c : Cursor) (l : Location) : Prop :=
  c.isOneOf callableKinds = true ∧ c.isDefining = true ∧ c.location = .ok l ∧ policy.Eligible l

variable {policy : Policy} {c : Cursor}

/-- **A function is recorded for a cursor** that defines one at an eligible location and has a child
of a body's kind; the complexity is counted below the last of these. -/
theorem recorded?_eq_some_iff {r : FunctionResult} :
    c.recorded? policy = some r ↔ ∃ (l : Location) (body : Cursor), c.DefinesAt policy l ∧
      body.IsBodyOf c ∧ r = ⟨c.functionName, (1 + body.decisionCount : Nat), l⟩ := by
  rw [recorded?, declared_node]
  constructor
  · intro h
    split at h
    · rename_i hcallable
      obtain ⟨l, converted, hl, hdef, hconverted, rfl⟩ := Policy.recorded?_eq_some h
      obtain ⟨body, hbody, rfl⟩ := Option.map_eq_some_iff.mp hconverted
      obtain ⟨hlocation, heligible⟩ := Policy.eligible?_eq_some_iff.mp hl
      refine ⟨l, body, ⟨hcallable, hdef, hlocation, heligible⟩, body?_eq_some_iff.mp hbody, ?_⟩
      rw [Walk.resultOf, decisionCount_node]
    · cases h
  · rintro ⟨l, body, ⟨hcallable, hdef, hlocation, heligible⟩, hbody, rfl⟩
    rw [if_pos hcallable, Option.bind_some, Policy.recorded?, body?_eq_some_iff.mpr hbody, hdef,
      Policy.eligible?_eq_some_iff.mpr ⟨hlocation, heligible⟩, Option.map_some]
    simp only [Walk.resultOf, decisionCount_node]

/-- A cursor counts as a definition without a body if it defines a function at an eligible location
and has no child of a body's kind. -/
theorem missesBody_eq_true_iff :
    c.missesBody policy = true ↔ (∃ l, c.DefinesAt policy l) ∧
      ∀ child ∈ c.children, child.isOneOf bodyKinds = false := by
  have hdefines : (∃ l, c.DefinesAt policy l) ↔ c.isOneOf callableKinds = true ∧
      c.isDefining = true ∧ (policy.eligible? c.location).isSome := by
    simp only [DefinesAt, ← Policy.eligible?_eq_some_iff, exists_and_left, Option.isSome_iff_exists]
  rw [missesBody, declared_node, hdefines, ← body?_eq_none_iff]
  by_cases hcallable : c.isOneOf callableKinds = true
  · simp [hcallable, Policy.missesBody, Policy.excludes, and_comm]
  · simp [hcallable]

end Cursor

/-! ## Giving kinds to unknown cursors -/

/-- The second head is the first one, with a kind that means nothing in the place of an unknown
one. -/
def Head.Fills (h h' : Head) : Prop :=
  (h.kind.isSome ∧ h' = h) ∨
    (h.kind = none ∧ ∃ kind, IsPlainKind kind ∧ h' = { h with kind := some kind })

namespace Cursor

mutual

/-- The second tree is the first one, in which each cursor of an unknown kind has been given a kind
that means nothing to the analysis. -/
inductive Fills : Cursor → Cursor → Prop
  | mk {head head' : Head} {children children' : List Cursor} (hhead : head.Fills head')
      (hchildren : FillsAll children children') : Fills (.mk head children) (.mk head' children')

/-- The same for several trees. -/
inductive FillsAll : List Cursor → List Cursor → Prop
  | nil : FillsAll [] []
  | cons {c c' : Cursor} {rest rest' : List Cursor} (hfirst : Fills c c')
      (hrest : FillsAll rest rest') : FillsAll (c :: rest) (c' :: rest')

end

mutual

theorem exists_fills : ∀ c : Cursor, ∃ c', c.Fills c'
  | .mk head children => by
    obtain ⟨children', hchildren⟩ := exists_fillsAll children
    cases hkind : head.kind with
    | some kind => exact ⟨_, .mk (.inl ⟨by rw [hkind]; rfl, rfl⟩) hchildren⟩
    | none =>
      exact ⟨_, .mk (.inr ⟨hkind, "UNEXPOSED_STMT", by decide, rfl⟩) hchildren⟩

theorem exists_fillsAll : ∀ cs : List Cursor, ∃ cs', FillsAll cs cs'
  | [] => ⟨[], .nil⟩
  | c :: cs => by
    obtain ⟨c', hfirst⟩ := exists_fills c
    obtain ⟨cs', hrest⟩ := exists_fillsAll cs
    exact ⟨c' :: cs', .cons hfirst hrest⟩

end

end Cursor

/-! A kind that means nothing says as little about a cursor as an unknown one. -/

namespace Head.Fills

variable {h h' : Head}

theorem kindOf_eq (hfills : h.Fills h') : kindOf h'.kind = kindOf h.kind := by
  rcases hfills with ⟨-, rfl⟩ | ⟨hnone, kind, ⟨hdecision, -, -⟩, rfl⟩
  · rfl
  · rw [hnone, kindOf_of_not_mem hdecision]
    rfl

theorem declared?_eq (hfills : h.Fills h') (body : Option Node) :
    h'.declared? body = h.declared? body := by
  rcases hfills with ⟨-, rfl⟩ | ⟨hnone, kind, ⟨-, hcallable, -⟩, rfl⟩
  · rfl
  · obtain ⟨hlambda, hfunction⟩ := not_or.mp (mt List.mem_cons.mpr hcallable)
    simp [declared?, hnone, hlambda, hfunction]

theorem isBody_eq (hfills : h.Fills h') :
    (h'.kind.map bodyKinds.contains).getD false = (h.kind.map bodyKinds.contains).getD false := by
  rcases hfills with ⟨-, rfl⟩ | ⟨hnone, kind, ⟨-, -, hbody⟩, rfl⟩
  · rfl
  · simp [hnone, hbody]

end Head.Fills

namespace Cursor

theorem Fills.isBody_eq {c c' : Cursor} (h : c.Fills c') : c'.isBody = c.isBody := by
  cases h with
  | mk hhead hchildren => exact hhead.isBody_eq

mutual

/-- **The analysis does not see the difference** between an unknown kind and one that means
nothing. -/
theorem Fills.node_eq : ∀ {c c' : Cursor}, c.Fills c' → c'.node = c.node
  | _, _, .mk hhead hchildren => by
    -- The converted children agree, and so do those among them that can be the body.
    obtain ⟨hnodes, hbodies⟩ := hchildren.map_node_eq
    rw [node, node, nodes_eq_map, nodes_eq_map, lastBody_zip, lastBody_zip, ← List.getLast?_map,
      ← List.getLast?_map, hnodes, hbodies, hhead.kindOf_eq, hhead.declared?_eq]

theorem FillsAll.map_node_eq : ∀ {cs cs' : List Cursor}, FillsAll cs cs' →
    cs'.map node = cs.map node ∧ (cs'.filter isBody).map node = (cs.filter isBody).map node
  | _, _, .nil => ⟨rfl, rfl⟩
  | _, _, .cons hfirst hrest => by
    obtain ⟨hnodes, hbodies⟩ := hrest.map_node_eq
    refine ⟨by rw [List.map_cons, List.map_cons, hfirst.node_eq, hnodes], ?_⟩
    rw [List.filter_cons, List.filter_cons, hfirst.isBody_eq]
    split
    · rw [List.map_cons, List.map_cons, hfirst.node_eq, hbodies]
    · exact hbodies

end

end Cursor

end Cyclometry.Compiler

namespace Cyclometry.Frontend

open Compiler

variable {tools : Toolchain} {fs : FileSystem} {args : List Value} {path : String}
  {source : Option Bytes}

theorem parse_compiler {compiled : Compiler.Parse}
    (h : (tools.compiler (fs.absolute path) ⟨path, args, source.map textOf⟩).run fs =
      some compiled) :
    (parse tools fs (.compiler args) path source).2 =
      .ok ⟨path, ((Language.ofPath? path).getD .c).name, compiled.root.node⟩ := by
  rw [parse, parseCompiler]
  simp only [h]

/-- **The functions of a compiled unit.**

* The tree of the compiler may have cursors of unknown kinds anywhere.  No walk of the unit can tell
  it from a tree in which these are given kinds that mean nothing: it is the same in all that it
  finds, records, reports and logs, and in how it ends.  Such a cursor is no function and no body,
  and what counts below it is what its children count.
* A function is recorded for exactly those cursors that define one at an eligible location and have
  a child of a body's kind, and its complexity is one more than the number of decisions below the
  last such child.  A cursor that defines one and has no such child counts as lacking a body.  No
  other function is recorded even if a remark that is too long ends the walk early. -/
theorem walk_compiled {compiled : Compiler.Parse}
    (hcompile : (tools.compiler (fs.absolute path) ⟨path, args, source.map textOf⟩).run fs =
      some compiled)
    (headers dirs : List String) (tally : Tally) (diagnostics : Option Diagnostics) :
    let tree := compiled.root
    let policy := Policy.ofLists headers dirs
    let recorded := tree.preorder.filterMap (Cursor.recorded? policy)
    let start := Walker.start policy diagnostics
    ∃ unit, (parse tools fs (.compiler args) path source).2 = .ok unit ∧
      (∃ filled, tree.Fills filled) ∧
      (∀ (tools' : Toolchain) messages filled, tree.Fills filled →
        (tools'.compiler (fs.absolute path) ⟨path, args, source.map textOf⟩).run fs =
          some ⟨messages, filled⟩ →
        ∃ unit', (parse tools' fs (.compiler args) path source).2 = .ok unit' ∧
          ∀ (w : Walker) tally diagnostics,
            w.walk (some unit'.root) tally diagnostics =
              w.walk (some unit.root) tally diagnostics) ∧
      (∀ c : Cursor, c.head.kind = none → c.node.declared = none ∧ (∀ d, ¬ c.IsBodyOf d) ∧
        c.decisionCount = (c.children.map Cursor.decisionCount).sum) ∧
      (∀ (c : Cursor) r, c.recorded? policy = some r ↔
        ∃ (l : Location) (body : Cursor), c.DefinesAt policy l ∧ body.IsBodyOf c ∧
          r = ⟨c.functionName, (1 + body.decisionCount : Nat), l⟩) ∧
      (∀ c : Cursor, c.missesBody policy = true ↔ (∃ l, c.DefinesAt policy l) ∧
        ∀ child ∈ c.children, child.isOneOf bodyKinds = false) ∧
      let walked := start.1.walk (some unit.root) tally start.2
      walked.1.outcome.functions <+: recorded ∧
      (((diagnostics.bind Diagnostics.sink).isSome → ∀ r ∈ recorded, r.location.isShort) →
        walked.2 = .ok () ∧ walked.1.outcome.functions = recorded ∧
        walked.1.outcome.anomalies = tree.preorder.countP (Cursor.missesBody policy)) := by
  intro tree policy recorded start
  have hp : policy.headersComplete = true := rfl
  have hrecorded : tree.node.declarations.filterMap policy.recorded? = recorded :=
    Node.filterMap_declarations tree.preorder_node policy.recorded?
  have hmisses : tree.node.declarations.countP policy.missesBody =
      tree.preorder.countP (Cursor.missesBody policy) :=
    Node.countP_declarations tree.preorder_node policy.missesBody
  refine ⟨_, parse_compiler hcompile, tree.exists_fills, ?_, fun c => Cursor.of_kind_eq_none,
    fun c r => Cursor.recorded?_eq_some_iff, fun c => Cursor.missesBody_eq_true_iff, ?_⟩
  · intro tools' messages filled hfills hcompile'
    refine ⟨_, parse_compiler hcompile', fun w tally diagnostics => ?_⟩
    rw [hfills.node_eq]
  · intro walked
    obtain ⟨seen, hseen, haccounts, hok, -⟩ :=
      Walker.walk_accounts hp tree.complete_node tally diagnostics
    rw [Walk.Shown, hrecorded] at hok
    refine ⟨?_, fun hshown => ?_⟩
    · rw [haccounts.functions, ← hrecorded]
      exact hseen.filterMap policy.recorded?
    · obtain ⟨rfl, hresult⟩ := hok hshown
      exact ⟨hresult, haccounts.functions.trans hrecorded, haccounts.anomalies.trans hmisses⟩

/-- A function with two children of a body's kind and a decision below each of them, and another one
with none, both among cursors of some kind. -/
def unnamedSample (kind : Option String) : Cursor :=
  let cursor (kind : Option String) (spelling : String) := Cursor.mk
    ⟨kind, spelling, true, some "main.c", 1, 1, none⟩
  cursor (some "TRANSLATION_UNIT") "main.c" [
    cursor (some "FUNCTION_DECL") "f" [
      cursor (some "CXX_TRY_STMT") ""
        [cursor (some "FOR_STMT") "" [], cursor (some "DO_STMT") "" []],
      cursor (some "COMPOUND_STMT") "" [cursor kind "" [cursor (some "IF_STMT") "" []]],
      cursor kind "" [cursor (some "WHILE_STMT") "" []]],
    cursor kind "" [cursor (some "CXX_METHOD") "g" [
      cursor kind "" [cursor (some "COMPOUND_STMT") "" []]]]]

theorem fills_unnamedSample :
    (unnamedSample none).Fills (unnamedSample (some "CXX_TYPEID_EXPR")) := by
  have hknown {head : Head} (h : head.kind.isSome) : head.Fills head := .inl ⟨h, rfl⟩
  have hfilled {head : Head} (h : head.kind = none) :
      head.Fills { head with kind := some "CXX_TYPEID_EXPR" } := .inr ⟨h, _, by decide, rfl⟩
  refine .mk (hknown rfl) (.cons (.mk (hknown rfl) (.cons (.mk (hknown rfl) ?_) (.cons
    (.mk (hknown rfl) ?_) (.cons (.mk (hfilled rfl) ?_) .nil)))) (.cons (.mk (hfilled rfl)
    (.cons (.mk (hknown rfl) ?_) .nil)) .nil))
  · exact .cons (.mk (hknown rfl) .nil) (.cons (.mk (hknown rfl) .nil) .nil)
  · exact .cons (.mk (hfilled rfl) (.cons (.mk (hknown rfl) .nil) .nil)) .nil
  · exact .cons (.mk (hknown rfl) .nil) .nil
  · exact .cons (.mk (hfilled rfl) (.cons (.mk (hknown rfl) .nil) .nil)) .nil

/-- The sample with unknown kinds: only the decision below the last body counts for the first
function, and the second one lacks a body.  The walk is that of the sample with known kinds. -/
theorem walk_compiled_unnamedSample :
    let tools (kind : Option String) : Toolchain :=
      ⟨fun _ _ _ => ⟨false, .mk ⟨"translation_unit", true, none, 0, 0, 0, 0⟩ []⟩,
        fun _ _ => .finish (some ⟨[], unnamedSample kind⟩), .available⟩
    let parsed (kind : Option String) :=
      (parse (tools kind) ⟨.dir [], []⟩ (.compiler []) "main.c" none).2
    let start := Walker.start (Policy.ofLists [".h"] ["/usr/include"]) (some (.start (some .plain)))
    ∃ unit unit', parsed none = .ok unit ∧ parsed (some "CXX_TYPEID_EXPR") = .ok unit' ∧
      let walked (unit : ParsedUnit) := start.1.walk (some unit.root) .empty start.2
      walked unit' = walked unit ∧ (walked unit).2 = .ok () ∧
      (walked unit).1.outcome.functions = [⟨"f", 2, ⟨"main.c", 1, 1, false⟩⟩] ∧
      (walked unit).1.outcome.anomalies = 1 := by
  intro tools parsed start
  have hcompile : ((tools none).compiler (FileSystem.absolute ⟨.dir [], []⟩ "main.c")
      ⟨"main.c", [], Option.map textOf none⟩).run ⟨.dir [], []⟩ =
        some ⟨[], unnamedSample none⟩ := rfl
  obtain ⟨unit, hunit, -, hfilled, -, -, -, -, hwalked⟩ :=
    walk_compiled hcompile [".h"] ["/usr/include"] .empty (some (.start (some .plain)))
  obtain ⟨unit', hunit', hsame⟩ := hfilled (tools (some "CXX_TYPEID_EXPR")) [] _
    fills_unnamedSample rfl
  obtain ⟨hresult, hfunctions, hanomalies⟩ := hwalked (by decide +kernel)
  exact ⟨unit, unit', hunit, hunit', hsame _ _ _, hresult, hfunctions.trans (by decide +kernel),
    hanomalies.trans (by decide +kernel)⟩

end Cyclometry.Frontend
