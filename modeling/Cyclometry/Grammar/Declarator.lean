import Cyclometry.Grammar.Node
import Cyclometry.Grammar.OperatorName

/-!
# Declarators

In C and C++ the name of a function stands inside a **declarator**, which may wrap it in
pointers, references, parentheses, arrays, attributes and parameter lists, and may qualify it
with scopes and template arguments.  Going inwards from the outermost declarator leads to the
name.
-/

namespace Cyclometry.Grammar

/-- Rules of declarators that wrap another one. -/
def wrapperRules : List String :=
  ["function_declarator", "pointer_declarator", "reference_declarator",
    "attributed_declarator", "parenthesized_declarator", "array_declarator"]

/-- Rules of names with something in front of or behind them. -/
def scopedRules : List String := ["qualified_identifier", "template_function"]

/-- Rules of plain names. -/
def plainNameRules : List String :=
  ["identifier", "field_identifier", "type_identifier", "destructor_name"]

namespace Node

/-- The node wraps another declarator. -/
def isWrapper (n : Node) : Bool := wrapperRules.contains n.rule

/-- The node is a name with something in front of or behind it. -/
def isScoped (n : Node) : Bool := scopedRules.contains n.rule

/-- The next node on the way to the name: the wrapped declarator, which is the last named child
unless a field tells it, or the name that a scope qualifies. -/
def inward? (n : Node) : Option Node :=
  if n.isWrapper then (n.under? "declarator").or n.lastNamed?
  else if n.isScoped then n.under? "name"
  else none

theorem mem_children_of_inward? {n m : Node} (h : n.inward? = some m) : m ∈ n.children := by
  simp only [inward?] at h
  split at h
  · rcases Option.or_eq_some_iff.1 h with h | ⟨_, h⟩
    · exact mem_children_of_under? h
    · exact mem_children_of_lastNamed? h
  · split at h
    · exact mem_children_of_under? h
    · simp at h

/-- The name that a node itself spells. -/
def ownName? (source : Bytes) (n : Node) : Option String :=
  if n.rule == "operator_name" then
    some (String.ofList (operatorName (n.text source)))
  else if n.rule == "operator_cast" then
    some (String.ofList (operatorName ((n.text source).takeWhile (· != '('))))
  else if plainNameRules.contains n.rule then
    some (String.ofList (Text.squeeze (n.text source)))
  else none

/-- The name that a declarator leads to. -/
def declaredName? (source : Bytes) (n : Node) : Option String :=
  if n.isWrapper || n.isScoped then
    match _h : n.inward? with
    | some m => m.declaredName? source
    | none => none
  else n.ownName? source
  termination_by sizeOf n
  decreasing_by exact sizeOf_lt_of_mem_children (mem_children_of_inward? _h)

/-- The next node on the way to the place of the name: what one of the fields tells, or else
the last named child. -/
def towardsName? (n : Node) : Option Node :=
  if n.isWrapper || n.isScoped then
    ((n.under? "declarator").or (n.under? "name")).or n.lastNamed?
  else none

theorem mem_children_of_towardsName? {n m : Node} (h : n.towardsName? = some m) :
    m ∈ n.children := by
  simp only [towardsName?] at h
  split at h
  · rcases Option.or_eq_some_iff.1 h with h | ⟨_, h⟩
    · rcases Option.or_eq_some_iff.1 h with h | ⟨_, h⟩
      · exact mem_children_of_under? h
      · exact mem_children_of_under? h
    · exact mem_children_of_lastNamed? h
  · simp at h

/-- The innermost node of a declarator, whose start is where the function is said to stand. -/
def nameNode (n : Node) : Node :=
  match _h : n.towardsName? with
  | some m => m.nameNode
  | none => n
  termination_by sizeOf n
  decreasing_by exact sizeOf_lt_of_mem_children (mem_children_of_towardsName? _h)

/-- Following the field of the wrapped declarator leads to a parameter list. -/
def hasParameters (n : Node) : Bool :=
  if n.rule == "function_declarator" then true
  else if n.isWrapper then
    match _h : n.under? "declarator" with
    | some m => m.hasParameters
    | none => false
  else false
  termination_by sizeOf n
  decreasing_by exact sizeOf_lt_of_mem_children (mem_children_of_under? _h)

end Node

end Cyclometry.Grammar
