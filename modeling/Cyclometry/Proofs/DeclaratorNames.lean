import Mathlib.Algebra.BigOperators.Group.List.Basic
import Cyclometry.Proofs.FunctionNames

/-!
# From a declarator to its name

A declarator leads inwards to the name of what it declares, and two descents follow it:
`declaredName?` to spell the name, `nameNode` to tell where it stands.

**The name of a declarator** (`Declares`).  Wrappers that hold the wrapped declarator under a field
and scopes always lead on.  A wrapper that holds it without a field is entered through its last
named child, and this is the wrapped declarator only if nothing named stands behind it.  A comment
in front of a closing parenthesis is named, and so are the attributes that every attributed
declarator ends with: a definition with one of them on the way is missed
(`Source.definition_missed_iff`).

**The place of a name** (`Leads`).  The two descents ask for fields in different orders.  On nodes
whose fields are those of the grammar (`Regular`) they take the same steps, so a function is
reported at the start of the text that its name is taken from (`Source.name_spelled_at_location`).
-/

namespace Cyclometry.Grammar

/-- Rules of nodes that spell a name themselves. -/
def leafRules : List String := "operator_name" :: "operator_cast" :: plainNameRules

/-- Rules of wrappers with the wrapped declarator under a field. -/
def fieldedRules : List String := ["function_declarator", "pointer_declarator", "array_declarator"]

/-- Rules of wrappers with the wrapped declarator among the children without a field. -/
def bareRules : List String := ["reference_declarator", "parenthesized_declarator"]

namespace Node

/-! ## One step inwards -/

/-- The wrappers, by where they hold the wrapped declarator. -/
theorem isWrapper_iff {n : Node} :
    n.isWrapper = true ↔
      n.rule ∈ fieldedRules ∨ n.rule ∈ bareRules ∨ n.rule = "attributed_declarator" := by
  simp only [isWrapper, wrapperRules, fieldedRules, bareRules, List.contains_iff_mem,
    List.mem_cons, List.not_mem_nil]
  tauto

theorem not_isWrapper_of_scoped {n : Node} (h : n.rule ∈ scopedRules) :
    ¬ n.isWrapper = true := by
  have hdisjoint : ∀ rule ∈ scopedRules, ¬ wrapperRules.contains rule = true := by decide
  exact hdisjoint n.rule h

theorem isSome_ownName?_iff (source : Bytes) (n : Node) :
    (n.ownName? source).isSome ↔ n.rule ∈ leafRules := by
  rw [ownName?, leafRules, List.mem_cons, List.mem_cons]
  by_cases hname : n.rule = "operator_name"
  · simp [hname]
  · by_cases hcast : n.rule = "operator_cast"
    · simp [hcast]
    · by_cases hplain : n.rule ∈ plainNameRules
      · simp [hname, hcast, hplain]
      · simp [hname, hcast, hplain]

/-- A node that spells a name is the end of the way. -/
theorem not_inner_of_leaf {n : Node} (h : n.rule ∈ leafRules) :
    ¬ (n.isWrapper || n.isScoped) = true := by
  have hdisjoint : ∀ rule ∈ leafRules,
      ¬ (wrapperRules.contains rule || scopedRules.contains rule) = true := by decide
  exact hdisjoint n.rule h

theorem declaredName?_of_not_inner (source : Bytes) {n : Node}
    (h : ¬ (n.isWrapper || n.isScoped) = true) : n.declaredName? source = n.ownName? source := by
  rw [declaredName?, if_neg h]

/-- Comments and attributes have no name. -/
theorem declaredName?_of_trailing (source : Bytes) {n : Node}
    (h : n.rule ∈ ["comment", "attribute_declaration"]) : n.declaredName? source = none := by
  have hdisjoint : ∀ rule ∈ ["comment", "attribute_declaration"], rule ∉ leafRules ∧
      ¬ (wrapperRules.contains rule || scopedRules.contains rule) = true := by decide
  obtain ⟨hleaf, hinner⟩ := hdisjoint n.rule h
  rw [declaredName?_of_not_inner source hinner, ← Option.not_isSome_iff_eq_none,
    isSome_ownName?_iff]
  exact hleaf

theorem inner_of_inward? {n m : Node} (h : n.inward? = some m) :
    (n.isWrapper || n.isScoped) = true := by
  rw [inward?] at h
  split at h
  · simp [*]
  · split at h
    · simp [*]
    · cases h

theorem declaredName?_of_inward? (source : Bytes) {n m : Node} (h : n.inward? = some m) :
    n.declaredName? source = m.declaredName? source := by
  rw [declaredName?, if_pos (inner_of_inward? h)]
  split
  · rename_i k hk
    obtain rfl := Option.some.inj (hk.symm.trans h)
    rfl
  · rename_i hk
    rw [hk] at h
    cases h

/-! ## Wrappers without a field -/

/-- Among the children of a node there is a named one with `after` behind it, and no child stands
under the field of wrapped declarators. -/
structure Holds (n inner : Node) (after : List Node) : Prop where
  children : ∃ before, n.children = before ++ inner :: after
  named : inner.head.named = true
  bare : ∀ c ∈ n.children, c.isUnder "declarator" = false

theorem Holds.inward? {n inner : Node} {after : List Node} (h : n.Holds inner after)
    (hwrapper : n.isWrapper = true) :
    n.inward? = ((after.filter fun c => c.head.named).getLast?).or (some inner) := by
  obtain ⟨before, hchildren⟩ := h.children
  have hfield : n.under? "declarator" = none := by
    rw [under?, List.find?_eq_none]
    intro c hc
    rw [h.bare c hc]
    exact Bool.false_ne_true
  -- Whatever is named in front of `inner`, the last named child is `inner` or stands behind it.
  have hnamed : (inner :: after).filter (fun c => c.head.named) =
      inner :: after.filter fun c => c.head.named := List.filter_cons_of_pos h.named
  rw [Node.inward?, if_pos hwrapper, hfield, Option.none_or, lastNamed?, hchildren,
    List.filter_append, hnamed, List.getLast?_append, List.getLast?_cons]
  cases (after.filter fun c => c.head.named).getLast? with
  | none => rfl
  | some c => rfl

/-- The wrapper leads to the wrapped declarator if nothing named stands behind that, and to
nothing otherwise. -/
theorem Holds.declaredName? {n inner : Node} {after : List Node} (source : Bytes)
    (h : n.Holds inner after) (hwrapper : n.isWrapper = true)
    (hafter : ∀ c ∈ after, c.head.named = true → c.rule ∈ ["comment", "attribute_declaration"]) :
    n.declaredName? source =
      if after.any fun c => c.head.named then none else inner.declaredName? source := by
  have hinward := h.inward? hwrapper
  cases hlast : (after.filter fun c => c.head.named).getLast? with
  | none =>
    have hnone : ¬ after.any (fun c => c.head.named) = true := by
      rw [List.any_eq_true]
      rintro ⟨c, hc, hnamed⟩
      exact List.filter_eq_nil_iff.mp (List.getLast?_eq_none_iff.mp hlast) c hc hnamed
    rw [hlast, Option.none_or] at hinward
    rw [declaredName?_of_inward? source hinward, if_neg hnone]
  | some c =>
    obtain ⟨hc, hnamed⟩ := List.mem_filter.mp (List.mem_of_getLast? hlast)
    rw [hlast, Option.some_or] at hinward
    rw [declaredName?_of_inward? source hinward, if_pos (List.any_eq_true.mpr ⟨c, hc, hnamed⟩)]
    exact declaredName?_of_trailing source (hafter c hc hnamed)

end Node

/-! ## Shapes of declarators -/

/-- `Declares leaf d behind`: `d` is a declarator of the grammar, `leaf` the innermost name in it,
and `behind` are all nodes that stand behind a wrapped declarator in a wrapper without a field.
These are tokens and comments, and in an attributed declarator at least one attribute. -/
inductive Declares (leaf : Node) : Node → List Node → Prop
  | name (hrule : leaf.rule ∈ leafRules) : Declares leaf leaf []
  | qualified {n inner : Node} {behind : List Node} (hrule : n.rule ∈ scopedRules)
      (hinner : n.under? "name" = some inner) (h : Declares leaf inner behind) :
      Declares leaf n behind
  | fielded {n inner : Node} {behind : List Node} (hrule : n.rule ∈ fieldedRules)
      (hinner : n.under? "declarator" = some inner) (h : Declares leaf inner behind) :
      Declares leaf n behind
  | bare {n inner : Node} {after behind : List Node} (hrule : n.rule ∈ bareRules)
      (hinner : n.Holds inner after)
      (hafter : ∀ c ∈ after, c.head.named = true → c.rule = "comment")
      (h : Declares leaf inner behind) : Declares leaf n (after ++ behind)
  | attributed {n inner : Node} {after behind : List Node}
      (hrule : n.rule = "attributed_declarator") (hinner : n.Holds inner after)
      (hafter : ∀ c ∈ after, c.head.named = true → c.rule ∈ ["comment", "attribute_declaration"])
      (hattribute : ∃ c ∈ after, c.head.named = true ∧ c.rule = "attribute_declaration")
      (h : Declares leaf inner behind) : Declares leaf n (after ++ behind)

namespace Declares

variable {leaf d : Node} {behind : List Node}

theorem leaf_mem (h : Declares leaf d behind) : leaf.rule ∈ leafRules := by
  induction h with
  | name hrule => exact hrule
  | qualified _ _ _ ih => exact ih
  | fielded _ _ _ ih => exact ih
  | bare _ _ _ _ ih => exact ih
  | attributed _ _ _ _ _ ih => exact ih

/-- **The name of a declarator** is that of its innermost node, unless something named stands
behind a wrapped declarator. -/
theorem declaredName? (source : Bytes) (h : Declares leaf d behind) :
    d.declaredName? source =
      if behind.any fun c => c.head.named then none else leaf.ownName? source := by
  -- Scopes and fields lead on; wrappers without a field add to the nodes behind.
  induction h with
  | name hrule => exact Node.declaredName?_of_not_inner source (Node.not_inner_of_leaf hrule)
  | @qualified n inner behind hrule hinner _ ih =>
    have hinward : n.inward? = some inner := by
      have hscoped : n.isScoped = true := List.contains_iff_mem.mpr hrule
      rw [Node.inward?, if_neg (Node.not_isWrapper_of_scoped hrule), if_pos hscoped, hinner]
    rw [Node.declaredName?_of_inward? source hinward, ih]
  | @fielded n inner behind hrule hinner _ ih =>
    have hinward : n.inward? = some inner := by
      rw [Node.inward?, if_pos (Node.isWrapper_iff.mpr (.inl hrule)), hinner, Option.some_or]
    rw [Node.declaredName?_of_inward? source hinward, ih]
  | @bare n inner after behind hrule hinner hafter _ ih =>
    have hwrapper := Node.isWrapper_iff.mpr (.inr (.inl hrule))
    have htrailing : ∀ c ∈ after, c.head.named = true →
        c.rule ∈ ["comment", "attribute_declaration"] := by
      intro c hc hnamed
      rw [hafter c hc hnamed]
      exact List.mem_cons_self ..
    rw [hinner.declaredName? source hwrapper htrailing, ih]
    simp only [List.any_append, Bool.or_eq_true, ite_or]
  | attributed hrule hinner hafter _ _ ih =>
    have hwrapper := Node.isWrapper_iff.mpr (.inr (.inr hrule))
    rw [hinner.declaredName? source hwrapper hafter, ih]
    simp only [List.any_append, Bool.or_eq_true, ite_or]

/-- An attributed declarator ends with an attribute, and attributes are named. -/
theorem exists_named_of_attributed (h : Declares leaf d behind)
    (hrule : d.rule = "attributed_declarator") : ∃ c ∈ behind, c.head.named = true := by
  cases h with
  | name hleaf => exact absurd (hrule ▸ hleaf) (by decide)
  | qualified hscoped => exact absurd (hrule ▸ hscoped) (by decide)
  | fielded hfielded => exact absurd (hrule ▸ hfielded) (by decide)
  | bare hbare => exact absurd (hrule ▸ hbare) (by decide)
  | attributed _ _ _ hattribute _ =>
    obtain ⟨c, hc, hnamed, -⟩ := hattribute
    exact ⟨c, List.mem_append_left _ hc, hnamed⟩

end Declares

/-- A function definition declares something if and only if its declarator leads to a name, and
then this is its name. -/
theorem Source.declared?_definition (s : Source) {n d : Node}
    (hrule : n.rule = "function_definition") (hd : n.under? "declarator" = some d) :
    (s.declared? n).map Declaration.name = d.declaredName? s.text := by
  have hlambda : ¬ (n.rule == "lambda_expression") = true := by
    rw [hrule]
    decide
  rw [declared?, if_neg hlambda, if_pos (beq_iff_eq.mpr hrule), hd]
  cases hname : d.declaredName? s.text with
  | none => simp [hname]
  | some name => simp [hname]

/-- **Which declarators lead to their names.**  The innermost node of a declarator always spells a
name.  The declarator leads to it if and only if nothing named stands behind a wrapped declarator
in a wrapper without a field; otherwise it leads to no name, as all attributed declarators do, and
its definition is missed. -/
theorem Source.definition_missed_iff {leaf d : Node} {behind : List Node}
    (h : Declares leaf d behind) (s : Source) :
    (leaf.ownName? s.text).isSome ∧
    ((∀ c ∈ behind, c.head.named = false) → d.declaredName? s.text = leaf.ownName? s.text) ∧
    ((∃ c ∈ behind, c.head.named = true) → d.declaredName? s.text = none) ∧
    (d.rule = "attributed_declarator" → ∃ c ∈ behind, c.head.named = true) ∧
    ∀ n : Node, n.rule = "function_definition" → n.under? "declarator" = some d →
      (s.declared? n = none ↔ ∃ c ∈ behind, c.head.named = true) ∧
      ∀ f, s.declared? n = some f → leaf.ownName? s.text = some f.name := by
  have hleaf : (leaf.ownName? s.text).isSome := (leaf.isSome_ownName?_iff s.text).mpr h.leaf_mem
  have hname := h.declaredName? s.text
  have hplain : (∀ c ∈ behind, c.head.named = false) →
      d.declaredName? s.text = leaf.ownName? s.text := by
    intro hunnamed
    have hany : behind.any (fun c => c.head.named) = false := by
      simpa using hunnamed
    rw [hname, hany, if_neg Bool.false_ne_true]
  have hmissed : (∃ c ∈ behind, c.head.named = true) → d.declaredName? s.text = none := by
    intro hnamed
    rw [hname, if_pos (List.any_eq_true.mpr hnamed)]
  refine ⟨hleaf, hplain, hmissed, h.exists_named_of_attributed, fun n hrule hd => ?_⟩
  have hdeclared := s.declared?_definition hrule hd
  refine ⟨?_, fun f hf => ?_⟩
  · rw [← Option.map_eq_none_iff, hdeclared]
    refine ⟨fun hnone => ?_, hmissed⟩
    by_contra hunnamed
    rw [hplain (by simpa using hunnamed)] at hnone
    rw [hnone] at hleaf
    cases hleaf
  · rw [hf, Option.map_some] at hdeclared
    by_cases hnamed : ∃ c ∈ behind, c.head.named = true
    · rw [hmissed hnamed] at hdeclared
      cases hdeclared
    · exact (hplain (by simpa using hnamed)).symm.trans hdeclared.symm

/-- The declarator of a function around another declarator. -/
def functionSample (inner : Node) : Node :=
  .mk ⟨"function_declarator", true, some "declarator", 4, 20, 0, 4⟩ [inner]

/-- The definition of a function by its declarator. -/
def definitionSample (declarator : Node) : Node :=
  .mk ⟨"function_definition", true, none, 0, 23, 0, 0⟩ [declarator]

/-- The declarator `f [[noreturn]]`. -/
def attributedSample : Node :=
  .mk ⟨"attributed_declarator", true, some "declarator", 4, 18, 0, 4⟩
    [.mk ⟨"identifier", true, none, 4, 5, 0, 4⟩ [],
      .mk ⟨"attribute_declaration", true, none, 6, 18, 0, 6⟩ []]

/-- The declarator `(f)`. -/
def parenthesizedSample : Node :=
  .mk ⟨"parenthesized_declarator", true, some "declarator", 4, 7, 0, 4⟩
    [.mk ⟨"(", false, none, 4, 5, 0, 4⟩ [], .mk ⟨"identifier", true, none, 5, 6, 0, 5⟩ [],
      .mk ⟨")", false, none, 6, 7, 0, 6⟩ []]

/-- The function of `int f [[noreturn]]() {}` is missed, the one of `int (f)() {}` is not. -/
theorem Source.definition_missed_iff_samples :
    let s (text : String) : Source := ⟨text.toUTF8.toList, ⟨"a.cpp", #[]⟩⟩
    (s "int f [[noreturn]]() {}").declared? (definitionSample (functionSample attributedSample)) =
      none ∧
    ∃ f, (s "int (f)() {}").declared? (definitionSample (functionSample parenthesizedSample)) =
      some f ∧ f.name = "f" := by
  intro s
  constructor
  · have hdeclares : Declares (.mk ⟨"identifier", true, none, 4, 5, 0, 4⟩ [])
        (functionSample attributedSample)
        ([.mk ⟨"attribute_declaration", true, none, 6, 18, 0, 6⟩ []] ++ []) :=
      .fielded (by decide) rfl (.attributed rfl ⟨⟨[], rfl⟩, rfl, by decide⟩ (by decide)
        ⟨_, List.mem_cons_self .., rfl, rfl⟩ (.name (by decide)))
    obtain ⟨-, -, -, -, hdefinition⟩ := definition_missed_iff hdeclares (s _)
    exact (hdefinition (definitionSample _) rfl rfl).1.mpr ⟨_, List.mem_cons_self .., rfl⟩
  · have hdeclares : Declares (.mk ⟨"identifier", true, none, 5, 6, 0, 5⟩ [])
        (functionSample parenthesizedSample) ([.mk ⟨")", false, none, 6, 7, 0, 6⟩ []] ++ []) :=
      .fielded (by decide) rfl (.bare (by decide) ⟨⟨[_], rfl⟩, rfl, by decide⟩ (by decide)
        (.name (by decide)))
    obtain ⟨-, -, -, -, hdefinition⟩ := definition_missed_iff hdeclares (s "int (f)() {}")
    obtain ⟨hmissed, hname⟩ := hdefinition
      (definitionSample (functionSample parenthesizedSample)) rfl rfl
    obtain ⟨f, hf⟩ := Option.ne_none_iff_exists'.mp (mt hmissed.mp (by decide))
    refine ⟨f, hf, Option.some.inj ((hname f hf).symm.trans ?_)⟩
    decide +kernel

namespace Node

/-! ## Two ways inwards -/

/-- The fields of a node are those of the grammar: a wrapper without a field for the wrapped
declarator has none for a name, and a name in a scope has none for a declarator. -/
def Regular (n : Node) : Prop :=
  (n.isWrapper = true → (n.under? "declarator").isNone = true → (n.under? "name").isNone = true) ∧
    (n.isScoped = true → (n.under? "declarator").isNone = true)

instance : DecidablePred Regular := fun n =>
  inferInstanceAs (Decidable ((n.isWrapper = true → (n.under? "declarator").isNone = true →
    (n.under? "name").isNone = true) ∧ (n.isScoped = true → (n.under? "declarator").isNone = true)))

/-- Steps inwards lead from one node to another. -/
def Leads : Node → Node → Prop := Relation.ReflTransGen fun n m => n.inward? = some m

/-- On a regular node the way to the place of the name is the way to the name. -/
theorem Regular.towardsName? {n m : Node} (hn : n.Regular) (h : n.inward? = some m) :
    n.towardsName? = some m := by
  obtain ⟨hwrapper, hscoped⟩ := hn
  simp only [Option.isNone_iff_eq_none] at hwrapper hscoped
  rw [Node.towardsName?, if_pos (inner_of_inward? h)]
  rw [inward?] at h
  split at h
  · -- With a field for the declarator both take it, without one both take the last named child.
    rename_i hw
    rcases hdeclarator : n.under? "declarator" with _ | d
    · rw [hdeclarator] at h
      rw [hwrapper hw hdeclarator]
      exact h
    · rw [hdeclarator] at h
      exact h
  · split at h
    · rename_i hs
      rw [hscoped hs, h]
      rfl
    · cases h

theorem nameNode_of_towardsName? {n m : Node} (h : n.towardsName? = some m) :
    n.nameNode = m.nameNode := by
  rw [nameNode]
  split
  · rename_i k hk
    obtain rfl := Option.some.inj (hk.symm.trans h)
    rfl
  · rename_i hk
    rw [hk] at h
    cases h

theorem nameNode_of_not_inner {n : Node} (h : ¬ (n.isWrapper || n.isScoped) = true) :
    n.nameNode = n := by
  have hend : n.towardsName? = none := by
    rw [towardsName?, if_neg h]
  rw [nameNode]
  split
  · rename_i k hk
    rw [hk] at hend
    cases hend
  · rfl

theorem mem_preorder_self (n : Node) : n ∈ n.preorder := by
  cases n with
  | mk head children =>
    rw [preorder]
    exact List.mem_cons_self ..

theorem mem_preorderAll {m : Node} {ns : List Node} (h : m ∈ ns) : m ∈ preorderAll ns := by
  induction ns with
  | nil => cases h
  | cons n ns ih =>
    rw [preorderAll, List.mem_append]
    rcases List.mem_cons.mp h with rfl | h
    · exact .inl m.mem_preorder_self
    · exact .inr (ih h)

mutual

/-- The children of a node of a tree are nodes of the tree. -/
theorem mem_preorder_of_mem_children {n m : Node} (hm : m ∈ n.children) :
    ∀ root : Node, n ∈ root.preorder → m ∈ root.preorder
  | .mk head children, hn => by
    rw [preorder, List.mem_cons] at hn ⊢
    rcases hn with rfl | hn
    · exact .inr (mem_preorderAll hm)
    · exact .inr (mem_preorderAll_of_mem_children hm children hn)

theorem mem_preorderAll_of_mem_children {n m : Node} (hm : m ∈ n.children) :
    ∀ roots : List Node, n ∈ preorderAll roots → m ∈ preorderAll roots
  | [], hn => by cases hn
  | root :: roots, hn => by
    rw [preorderAll, List.mem_append] at hn ⊢
    rcases hn with hn | hn
    · exact .inl (mem_preorder_of_mem_children hm root hn)
    · exact .inr (mem_preorderAll_of_mem_children hm roots hn)

end

variable {root d m k : Node} {source : Bytes}

/-- **Both ways end at one node**, the one that spells the name. -/
theorem leads_nameNode (hroot : ∀ n ∈ root.preorder, n.Regular) {name : String}
    (hd : d ∈ root.preorder) (h : d.declaredName? source = some name) :
    Leads d d.nameNode ∧ d.nameNode.ownName? source = some name := by
  -- Along the recursion of the name; every node on the way is one of the tree.
  fun_induction declaredName? source d with
  | case1 n hinner m hm ih =>
    have hmem : m ∈ root.preorder :=
      mem_preorder_of_mem_children (mem_children_of_inward? hm) root hd
    obtain ⟨hleads, hname⟩ := ih hmem h
    -- The node is regular, so the place of the name is looked for in the same child.
    rw [nameNode_of_towardsName? ((hroot n hd).towardsName? hm)]
    exact ⟨.head hm hleads, hname⟩
  | case2 n hinner hnone => cases h
  | case3 n hinner =>
    rw [nameNode_of_not_inner hinner]
    exact ⟨.refl, h⟩

/-- A node that spells a name leads to no other node. -/
theorem Leads.eq_of_spells (h : Leads m k) (hm : (m.ownName? source).isSome) : m = k := by
  have hend := not_inner_of_leaf ((m.isSome_ownName?_iff source).mp hm)
  rcases Relation.ReflTransGen.cases_head h with rfl | ⟨c, hc, -⟩
  · rfl
  · exact absurd (inner_of_inward? hc) hend

/-- A declarator leads to at most one node that spells a name. -/
theorem Leads.unique (hm : Leads d m) (hk : Leads d k) (hmname : (m.ownName? source).isSome)
    (hkname : (k.ownName? source).isSome) : m = k := by
  have hdeterministic : Relator.RightUnique fun n m : Node => n.inward? = some m :=
    fun _ _ _ h h' => Option.some.inj (h.symm.trans h')
  rcases Relation.ReflTransGen.total_of_right_unique hdeterministic hm hk with h | h
  · exact Leads.eq_of_spells h hmname
  · exact (Leads.eq_of_spells h hkname).symm

end Node

/-! ## Where functions are reported -/

namespace Source

/-- What is no lambda expression takes name and location of its function from one node. -/
theorem spelled_of_declared? {root n : Node} {s : Source} {f : Declaration Nat}
    (hroot : ∀ n ∈ root.preorder, n.Regular) (hn : n ∈ root.preorder)
    (hrule : n.rule ≠ "lambda_expression") (hf : s.declared? n = some f) :
    ∃ d spelled, n.under? "declarator" = some d ∧ Node.Leads d spelled ∧
      spelled.ownName? s.text = some f.name ∧ f.location = s.locate spelled := by
  obtain ⟨d, hd, hname, hlocation⟩ := s.declarator_of_declared? hf hrule
  have hmem := Node.mem_preorder_of_mem_children (Node.mem_children_of_under? hd) root hn
  obtain ⟨hleads, hspelled⟩ := Node.leads_nameNode hroot hmem hname
  exact ⟨d, d.nameNode, hd, hleads, hspelled, hlocation⟩

/-- **A function is reported where its name is spelled.**  In a tree with the fields of the grammar
the two ways inwards from a declarator with a name end at one node, and no other node on the way
spells a name.  So whatever declares a function that is no lambda expression takes its name from
the text of a node and its location from the start of the same node, and so does a recorded
function. -/
theorem name_spelled_at_location {root : Node} (hroot : ∀ n ∈ root.preorder, n.Regular)
    (s : Source) (policy : Policy) :
    (∀ d ∈ root.preorder, ∀ name, d.declaredName? s.text = some name →
      Node.Leads d d.nameNode ∧ d.nameNode.ownName? s.text = some name ∧
      ∀ m, Node.Leads d m → (m.ownName? s.text).isSome → m = d.nameNode) ∧
    ∀ n ∈ root.preorder, n.rule ∈ ["function_definition", "declaration", "field_declaration"] →
      (∀ f, s.declared? n = some f → ∃ d spelled, n.under? "declarator" = some d ∧
        Node.Leads d spelled ∧ spelled.ownName? s.text = some f.name ∧
        f.location = s.lineMap.resolve spelled.head.startRow spelled.head.startColumn) ∧
      ∀ r, s.recorded? policy n = some r → ∃ d spelled, n.under? "declarator" = some d ∧
        Node.Leads d spelled ∧ spelled.ownName? s.text = some r.name ∧
        s.lineMap.resolve spelled.head.startRow spelled.head.startColumn = .ok r.location := by
  refine ⟨fun d hd name hname => ?_, fun n hn hrule => ?_⟩
  · obtain ⟨hleads, hspelled⟩ := Node.leads_nameNode hroot hd hname
    refine ⟨hleads, hspelled, fun m hm hmname => ?_⟩
    exact hm.unique hleads hmname (by rw [hspelled]; rfl)
  · have hlambda : n.rule ≠ "lambda_expression" := by
      intro h
      rw [h] at hrule
      exact absurd hrule (by decide)
    refine ⟨fun f hf => spelled_of_declared? hroot hn hlambda hf, fun r hr => ?_⟩
    obtain ⟨f, hf, hname, hlocation⟩ := declared?_of_recorded? hr
    obtain ⟨d, spelled, hd, hleads, hspelled, hplace⟩ := spelled_of_declared? hroot hn hlambda hf
    exact ⟨d, spelled, hd, hleads, hname ▸ hspelled, hplace.symm.trans hlocation⟩

/-- The tree of `int (*f(int))(void) {}`. -/
def pointerSample : Node :=
  .mk ⟨"function_definition", true, none, 0, 22, 0, 0⟩
    [.mk ⟨"primitive_type", true, some "type", 0, 3, 0, 0⟩ [],
      .mk ⟨"function_declarator", true, some "declarator", 4, 19, 0, 4⟩
        [.mk ⟨"parenthesized_declarator", true, some "declarator", 4, 13, 0, 4⟩
          [.mk ⟨"(", false, none, 4, 5, 0, 4⟩ [],
            .mk ⟨"pointer_declarator", true, none, 5, 12, 0, 5⟩
              [.mk ⟨"*", false, none, 5, 6, 0, 5⟩ [],
                .mk ⟨"function_declarator", true, some "declarator", 6, 12, 0, 6⟩
                  [.mk ⟨"identifier", true, some "declarator", 6, 7, 0, 6⟩ [],
                    .mk ⟨"parameter_list", true, some "parameters", 7, 12, 0, 7⟩ []]],
            .mk ⟨")", false, none, 12, 13, 0, 12⟩ []],
          .mk ⟨"parameter_list", true, some "parameters", 13, 19, 0, 13⟩ []],
      .mk ⟨"compound_statement", true, some "body", 20, 22, 0, 20⟩ []]

/-- The function is recorded at the seventh column, where its name is spelled. -/
theorem name_spelled_at_location_pointerSample :
    let s : Source :=
      ⟨"int (*f(int))(void) {}".toUTF8.toList, ⟨"a.c", #[⟨0, 1, some "a.c", false⟩]⟩⟩
    let policy := Policy.ofLists [] []
    (∀ n ∈ pointerSample.preorder, n.Regular) ∧
      s.recorded? policy pointerSample = some ⟨"f", 1, ⟨"a.c", 1, 7, false⟩⟩ ∧
      ∃ d spelled, pointerSample.under? "declarator" = some d ∧ Node.Leads d spelled ∧
        spelled.ownName? s.text = some "f" ∧
        s.lineMap.resolve spelled.head.startRow spelled.head.startColumn =
          .ok ⟨"a.c", 1, 7, false⟩ := by
  intro s policy
  have hregular : ∀ n ∈ pointerSample.preorder, n.Regular := by decide +kernel
  have hrecorded : s.recorded? policy pointerSample = some ⟨"f", 1, ⟨"a.c", 1, 7, false⟩⟩ := by
    decide +kernel
  obtain ⟨-, hplace⟩ := name_spelled_at_location hregular s policy
  exact ⟨hregular, hrecorded,
    (hplace pointerSample pointerSample.mem_preorder_self (by decide +kernel)).2 _ hrecorded⟩

end Source

end Cyclometry.Grammar
