import Cyclometry.Proofs.DeclaratorNames

/-!
# Prototypes and their definitions

A declaration without a body is a **prototype** if its declarator has a parameter list, and then it
should have the name and the place that a definition with the same declarator has.

The parameter list is looked for by a third descent, `hasParameters`, which knows one of the two
ways into a wrapper: it follows the field of wrapped declarators and gives up at a wrapper that
holds its declarator without one.  The way to the name goes on there, through the last named child.
`Parameterized d passed` has the wrappers that the way to the name passes in front of the first
parameter list, so a prototype is missed exactly if one of `passed` has no such field
(`Parameterized.hasParameters_iff`).  A reference has none: `int &f();` is missed, while
`int &f() {}` is found.  In the other direction nothing is lost: what is found as a prototype would
be found as a definition (`Source.prototype_missed_iff`).
-/

namespace Cyclometry.Grammar

/-- Rules of declarations that may be prototypes. -/
def prototypeRules : List String := ["declaration", "field_declaration"]

namespace Node

/-- `Parameterized d passed`: the way inwards from `d` leads through wrappers to a parameter list,
and `passed` are the wrappers in front of the first one. -/
inductive Parameterized : Node → List Node → Prop
  | here {n : Node} (hrule : n.rule = "function_declarator") : Parameterized n []
  | through {n m : Node} {passed : List Node} (hrule : n.rule ≠ "function_declarator")
      (hwrapper : n.isWrapper = true) (hinward : n.inward? = some m)
      (h : Parameterized m passed) : Parameterized n (n :: passed)

/-! ## The third descent -/

theorem hasParameters_of_rule {n : Node} (hrule : n.rule = "function_declarator") :
    n.hasParameters = true := by
  rw [hasParameters, if_pos (beq_iff_eq.mpr hrule)]

theorem hasParameters_of_wrapper {n : Node} (hrule : n.rule ≠ "function_declarator")
    (hwrapper : n.isWrapper = true) :
    n.hasParameters = (n.under? "declarator").any hasParameters := by
  rw [hasParameters, if_neg (mt beq_iff_eq.mp hrule), if_pos hwrapper]
  split
  · rename_i m hm
    rw [hm, Option.any_some]
  · rename_i hm
    rw [hm, Option.any_none]

/-- Where the field is there, the way to the name takes it too. -/
theorem inward?_of_under? {n m : Node} (hwrapper : n.isWrapper = true)
    (h : n.under? "declarator" = some m) : n.inward? = some m := by
  rw [inward?, if_pos hwrapper, h, Option.some_or]

/-- **The descent finds the parameter list** if each wrapper in front of it has the field. -/
theorem Parameterized.hasParameters_iff {d : Node} {passed : List Node}
    (h : Parameterized d passed) :
    d.hasParameters = true ↔ ∀ n ∈ passed, (n.under? "declarator").isSome := by
  induction h with
  | here hrule =>
    rw [hasParameters_of_rule hrule]
    exact ⟨fun _ n hn => absurd hn List.not_mem_nil, fun _ => rfl⟩
  | @through n m passed hrule hwrapper hinward _ ih =>
    rw [hasParameters_of_wrapper hrule hwrapper, List.forall_mem_cons]
    rcases hunder : n.under? "declarator" with _ | k
    · -- The way to the name leads on, but this descent does not.
      rw [Option.any_none]
      exact ⟨fun h => absurd h Bool.false_ne_true, fun h => absurd h.1 Bool.false_ne_true⟩
    · have hnext := inward?_of_under? hwrapper hunder
      obtain rfl := Option.some.inj (hnext.symm.trans hinward)
      rw [Option.any_some, ih]
      exact ⟨fun hall => ⟨rfl, hall⟩, And.right⟩

/-- What the descent finds lies on the way to the name, and has the field all along. -/
theorem exists_parameterized {d : Node} (h : d.hasParameters = true) :
    ∃ passed, Parameterized d passed ∧ ∀ n ∈ passed, (n.under? "declarator").isSome := by
  -- Along the recursion of the descent; only its first two cases can succeed.
  fun_induction hasParameters d with
  | case1 n hrule => exact ⟨[], .here (beq_iff_eq.mp hrule), by simp⟩
  | case2 n hrule hwrapper m hm ih =>
    obtain ⟨passed, hpassed, hall⟩ := ih h
    refine ⟨n :: passed, .through (mt beq_iff_eq.mpr hrule) hwrapper
      (inward?_of_under? hwrapper hm) hpassed, List.forall_mem_cons.mpr ⟨?_, hall⟩⟩
    rw [hm]
    rfl
  | case3 n hrule hwrapper hnone => cases h
  | case4 n hrule hwrapper => cases h

end Node

/-! ## One declarator in a definition and in a prototype -/

namespace Source

variable (s : Source) {n p d : Node}

/-- A definition has the name that its declarator leads to, at the place of that name. -/
theorem exists_definition (hrule : n.rule = "function_definition")
    (hd : n.under? "declarator" = some d) {name : String}
    (hname : d.declaredName? s.text = some name) :
    ∃ f, s.declared? n = some f ∧ f.name = name ∧ f.location = s.locate d.nameNode := by
  have hdeclared := s.declared?_definition hrule hd
  rw [hname] at hdeclared
  obtain ⟨f, hf, hfname⟩ := Option.map_eq_some_iff.mp hdeclared
  have hlambda : n.rule ≠ "lambda_expression" := by
    rw [hrule]
    decide
  obtain ⟨d', hd', -, hlocation⟩ := s.declarator_of_declared? hf hlambda
  obtain rfl := Option.some.inj (hd.symm.trans hd')
  exact ⟨f, hf, hfname, hlocation⟩

/-- A prototype has them too, if the descent finds its parameter list. -/
theorem declared?_prototype (hrule : p.rule ∈ prototypeRules)
    (hd : p.under? "declarator" = some d) :
    s.declared? p = if d.hasParameters then (d.declaredName? s.text).map fun name =>
      ⟨name, s.locate d.nameNode, false, none⟩ else none := by
  have hother : ∀ rule ∈ prototypeRules, ¬ (rule == "lambda_expression") = true ∧
      ¬ (rule == "function_definition") = true ∧
      (rule == "declaration" || rule == "field_declaration") = true := by decide
  obtain ⟨hlambda, hdefinition, hprototype⟩ := hother p.rule hrule
  rw [declared?, if_neg hlambda, if_neg hdefinition, if_pos hprototype, hd]
  simp only [Option.bind_eq_bind, Option.bind_some]
  split
  · cases d.declaredName? s.text with
    | none => rfl
    | some name => rfl
  · rfl

/-- **Which prototypes are missed.**  Take a declarator that leads through wrappers to a parameter
list and finally to a name.  As the declarator of a definition it gives a function with this name,
at the place of the name.  As the declarator of a declaration it gives a prototype with the same
name and place if each wrapper in front of the parameter list holds the next one under its field,
and otherwise the prototype is missed.  Conversely, every prototype that is found has such a
declarator, and a definition with it is found under the same name and at the same place. -/
theorem prototype_missed_iff (d : Node) :
    (∀ passed name, d.Parameterized passed → d.declaredName? s.text = some name →
      (∀ n, n.rule = "function_definition" → n.under? "declarator" = some d →
        ∃ f, s.declared? n = some f ∧ f.name = name ∧ f.location = s.locate d.nameNode) ∧
      ∀ p, p.rule ∈ prototypeRules → p.under? "declarator" = some d →
        ((∀ n ∈ passed, (n.under? "declarator").isSome) →
          s.declared? p = some ⟨name, s.locate d.nameNode, false, none⟩) ∧
        ((∃ n ∈ passed, n.under? "declarator" = none) → s.declared? p = none)) ∧
    ∀ p f, p.rule ∈ prototypeRules → p.under? "declarator" = some d → s.declared? p = some f →
      f.isDefinition = false ∧ f.body = none ∧
      (∃ passed, d.Parameterized passed ∧ ∀ n ∈ passed, (n.under? "declarator").isSome) ∧
      ∀ n, n.rule = "function_definition" → n.under? "declarator" = some d →
        ∃ g, s.declared? n = some g ∧ g.name = f.name ∧ g.location = f.location := by
  constructor
  · intro passed name hpassed hname
    refine ⟨fun n hrule hd => s.exists_definition hrule hd hname, fun p hrule hd => ?_⟩
    rw [s.declared?_prototype hrule hd, hname]
    refine ⟨fun hall => ?_, fun ⟨n, hn, hnone⟩ => if_neg fun hparameters => ?_⟩
    · rw [if_pos (hpassed.hasParameters_iff.mpr hall), Option.map_some]
    · have hsome := hpassed.hasParameters_iff.mp hparameters n hn
      rw [hnone] at hsome
      cases hsome
  · intro p f hrule hd hf
    rw [s.declared?_prototype hrule hd] at hf
    split at hf
    · rename_i hparameters
      obtain ⟨name, hname, rfl⟩ := Option.map_eq_some_iff.mp hf
      exact ⟨rfl, rfl, Node.exists_parameterized hparameters,
        fun n hrule hd => s.exists_definition hrule hd hname⟩
    · cases hf

/-- The declarator of a function `f` that returns a reference or a pointer: the rule and the sign
of the wrapper, and the field that the function declarator stands under. -/
def returningSample (rule sign : String) (field : Option String) : Node :=
  .mk ⟨rule, true, some "declarator", 4, 8, 0, 4⟩
    [.mk ⟨sign, false, none, 4, 5, 0, 4⟩ [],
      .mk ⟨"function_declarator", true, field, 5, 8, 0, 5⟩
        [.mk ⟨"identifier", true, some "declarator", 5, 6, 0, 5⟩ [],
          .mk ⟨"parameter_list", true, some "parameters", 6, 8, 0, 6⟩ []]]

/-- The declaration of a function by its declarator. -/
def prototypeSample (declarator : Node) : Node :=
  .mk ⟨"declaration", true, none, 0, 9, 0, 0⟩ [declarator]

/-- The function of `int &f() {}` is found, but the prototype `int &f();` is missed.  Of `int *f()`
both are found, with one name and one place. -/
theorem prototype_missed_iff_samples :
    let s (text : String) : Source :=
      ⟨text.toUTF8.toList, ⟨"a.cpp", #[⟨0, 1, some "a.cpp", false⟩]⟩⟩
    let reference := returningSample "reference_declarator" "&" none
    let pointer := returningSample "pointer_declarator" "*" (some "declarator")
    let place : Except LocationError Location := .ok ⟨"a.cpp", 1, 6, false⟩
    (∃ f, (s "int &f() {}").declared? (definitionSample reference) = some f ∧ f.name = "f" ∧
      f.location = place) ∧
    (s "int &f();").declared? (prototypeSample reference) = none ∧
    (s "int *f();").declared? (prototypeSample pointer) = some ⟨"f", place, false, none⟩ ∧
    ∃ g, (s "int *f();").declared? (definitionSample pointer) = some g ∧ g.name = "f" ∧
      g.location = place := by
  intro s reference pointer place
  have hreference : reference.Parameterized [reference] :=
    .through (by decide) (by decide) rfl (.here rfl)
  have hpointer : pointer.Parameterized [pointer] :=
    .through (by decide) (by decide) rfl (.here rfl)
  have hplace : (s "int &f();").locate reference.nameNode = place ∧
      (s "int *f();").locate pointer.nameNode = place := by decide +kernel
  obtain ⟨hfound, -⟩ := prototype_missed_iff (s "int &f() {}") reference
  obtain ⟨hmissed, -⟩ := prototype_missed_iff (s "int &f();") reference
  obtain ⟨hboth, hback⟩ := prototype_missed_iff (s "int *f();") pointer
  have hprototype : (s "int *f();").declared? (prototypeSample pointer) =
      some ⟨"f", place, false, none⟩ := by
    rw [← hplace.2]
    exact ((hboth _ "f" hpointer (by decide +kernel)).2 _ (by decide) rfl).1 (by decide)
  refine ⟨?_, ?_, hprototype, ?_⟩
  · obtain ⟨f, hf, hname, hlocation⟩ :=
      (hfound _ "f" hreference (by decide +kernel)).1 (definitionSample reference) rfl rfl
    exact ⟨f, hf, hname, hlocation.trans hplace.1⟩
  · exact ((hmissed _ "f" hreference (by decide +kernel)).2 _ (by decide) rfl).2
      ⟨reference, List.mem_singleton_self _, rfl⟩
  · exact (hback _ _ (by decide) rfl hprototype).2.2.2 (definitionSample pointer) rfl rfl

end Source

end Cyclometry.Grammar
