import Cyclometry.Node
import Cyclometry.Preorder

/-!
# Compiler trees

The tree that a compiler makes of a whole unit, included files among it.  Each
cursor has a kind, unless the compiler knows kinds that have no name here, and a location,
unless it has no file.
-/

namespace Cyclometry.Compiler

/-- What the compiler tells about a cursor. -/
structure Head where
  kind : Option String
  spelling : String
  isDefinition : Bool
  file : Option String
  line : Int
  column : Int
  /-- The file is a system header, if the compiler tells. -/
  system : Option Bool
  deriving DecidableEq, Repr

/-- A cursor of a compiler tree. -/
inductive Cursor
  | mk (head : Head) (children : List Cursor)

/-- Kinds of cursors that declare a function. -/
def functionKinds : List String :=
  ["FUNCTION_DECL", "CXX_METHOD", "CONSTRUCTOR", "DESTRUCTOR", "CONVERSION_FUNCTION",
    "FUNCTION_TEMPLATE"]

/-- Kinds of cursors that can be the body of a function. -/
def bodyKinds : List String := ["COMPOUND_STMT", "CXX_TRY_STMT"]

/-- The name of a function that has none. -/
def lambdaName : String := "operator()"

/-- The kind of a cursor; an unnamed one is like any other. -/
def kindOf : Option String → Kind
  | some "IF_STMT" => .ifElse
  | some "SWITCH_STMT" => .switch
  | some "FOR_STMT" => .forLoop
  | some "WHILE_STMT" => .whileLoop
  | some "DO_STMT" => .doWhile
  | some "CONDITIONAL_OPERATOR" => .conditional
  | _ => .other

/-- The location of a cursor. -/
def Head.location (h : Head) (name : String) : Except LocationError Location :=
  match h.file with
  | none => .error (.noSourceFile name)
  | some file => .ok ⟨file, h.line, h.column, h.system.getD false⟩

namespace Cursor

/-- What the compiler tells about a cursor. -/
def head : Cursor → Head
  | mk head _ => head

/-- The children of a cursor. -/
def children : Cursor → List Cursor
  | mk _ children => children

/-- The cursor can be the body of a function. -/
def isBody (c : Cursor) : Bool := (c.head.kind.map bodyKinds.contains).getD false

/-- The tree of preorder rows. -/
def ofRows? (rows : List (Head × Nat)) : Option Cursor := Preorder.tree? mk rows

end Cursor

/-- The last of some trees whose cursor can be a body. -/
def lastBody (cursors : List (Cursor × Node)) : Option Node :=
  ((cursors.filter fun c => c.1.isBody).getLast?).map (·.2)

/-- The function that a cursor declares, its body still open. -/
def Head.declared? (h : Head) (body : Option Node) : Option (Declaration Node) :=
  match h.kind with
  | none => none
  | some kind =>
    if kind == "LAMBDA_EXPR" then some ⟨lambdaName, h.location lambdaName, true, body⟩
    else if functionKinds.contains kind then
      some ⟨h.spelling, h.location h.spelling, h.isDefinition, body⟩
    else none

mutual

/-- A compiler tree in the form of the analysis. -/
def Cursor.node : Cursor → Node
  | .mk head children =>
    let converted := Cursor.nodes children
    .mk (kindOf head.kind) (head.declared? (lastBody (children.zip converted)))
      (converted.map some)

/-- Several trees in the form of the analysis. -/
def Cursor.nodes : List Cursor → List Node
  | [] => []
  | c :: rest => c.node :: Cursor.nodes rest

end

end Cyclometry.Compiler
