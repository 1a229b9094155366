import Cyclometry.Grammar.Declarator
import Cyclometry.LineMap.Basic
import Cyclometry.Node

/-!
# Functions in a grammar tree

Three shapes declare a function: a lambda expression, a function definition, and a declaration
or field declaration whose declarator has a parameter list.  The tree over a source is brought
to the form of the analysis by `Source.node`.
-/

namespace Cyclometry.Grammar

/-- A source that a tree points into: the text without line markers, and the map of its rows. -/
structure Source where
  text : Bytes
  lineMap : LineMap

/-- The name of a function that has none. -/
def lambdaName : String := "operator()"

/-- Clauses in the place of a body that define nothing. -/
def bodylessRules : List String :=
  ["default_method_clause", "delete_method_clause", "pure_virtual_clause"]

/-- The kind of a rule. -/
def kindOf : String → Kind
  | "if_statement" => .ifElse
  | "switch_statement" => .switch
  | "for_statement" => .forLoop
  | "while_statement" => .whileLoop
  | "do_statement" => .doWhile
  | "conditional_expression" => .conditional
  | _ => .other

namespace Node

/-- The position of the child under the field of bodies. -/
def bodyField? (n : Node) : Option Nat := n.children.findIdx? (isUnder "body")

/-- A child that settles whether a definition without a body field has a body. -/
def settlesBody (n : Node) : Bool := n.rule == "try_block" || bodylessRules.contains n.rule

/-- Whether a function definition defines something, and the position of its body.  Without a
body field, a try block is the body unless a clause that defines nothing comes first. -/
def definedBody (n : Node) : Bool × Option Nat :=
  match n.bodyField? with
  | some i => (true, some i)
  | none =>
    match n.children.findIdx? settlesBody with
    | none => (true, none)
    | some i =>
      if (n.children[i]?.map rule) == some "try_block" then (true, some i) else (false, none)

end Node

namespace Source

/-- The location of the start of a node. -/
def locate (s : Source) (n : Node) : Except LocationError Location :=
  s.lineMap.resolve n.head.startRow n.head.startColumn

/-- The function that a node declares, its body as a position among the children. -/
def declared? (s : Source) (n : Node) : Option (Declaration Nat) :=
  if n.rule == "lambda_expression" then
    some ⟨lambdaName, s.locate n, true, n.bodyField?⟩
  else if n.rule == "function_definition" then do
    let declarator ← n.under? "declarator"
    let name ← declarator.declaredName? s.text
    let (isDefinition, body) := n.definedBody
    some ⟨name, s.locate declarator.nameNode, isDefinition, body⟩
  else if n.rule == "declaration" || n.rule == "field_declaration" then do
    let declarator ← n.under? "declarator"
    if declarator.hasParameters then
      let name ← declarator.declaredName? s.text
      some ⟨name, s.locate declarator.nameNode, false, none⟩
    else none
  else none

/-- Put the child at its position in the place of a position. -/
def withBody (children : List Cyclometry.Node) (d : Declaration Nat) :
    Declaration Cyclometry.Node :=
  { d with body := d.body.bind fun i => children[i]? }

mutual

/-- A grammar tree in the form of the analysis. -/
def node (s : Source) : Node → Cyclometry.Node
  | .mk head children =>
    let converted := s.nodes children
    .mk (kindOf head.rule) ((s.declared? (.mk head children)).map (withBody converted))
      (converted.map some)

/-- Several trees in the form of the analysis. -/
def nodes (s : Source) : List Node → List Cyclometry.Node
  | [] => []
  | n :: rest => s.node n :: s.nodes rest

end

end Source

end Cyclometry.Grammar
