import Cyclometry.Complexity
import Cyclometry.Diagnostics
import Cyclometry.Eligibility
import Cyclometry.Event
import Cyclometry.Tally

/-!
# Walking a unit

The walk visits every node of a tree in preorder and looks at each function it declares.  An
excluded declaration is counted as such; of the others, one that is no definition and one
without a body are counted too, and every other one is **recorded**: its complexity goes into
the tally, the list of functions and, as a remark, into the diagnostics.
-/

namespace Cyclometry

/-- The complexity of one function definition. -/
structure FunctionResult where
  name : String
  complexity : Int
  location : Location
  deriving DecidableEq, Repr

namespace Walk

/-- What a walk has found so far. -/
structure Outcome where
  functions : List FunctionResult
  excluded : Nat
  declarations : Nat
  anomalies : Nat
  deriving DecidableEq, Repr

/-- Nothing found yet. -/
def Outcome.empty : Outcome := ⟨[], 0, 0, 0⟩

/-- Everything that a walk changes. -/
structure State where
  outcome : Outcome
  tally : Tally
  diagnostics : Option Diagnostics
  events : List Event

/-- Why a walk stops. -/
inductive Fault
  /-- A node is missing. -/
  | missingNode
  /-- The policy cannot judge a file name. -/
  | notText
  /-- A remark cannot be reported. -/
  | diagnostics (fault : Diagnostics.Fault)
  /-- A remark is reported, but its location has too many digits to be written to the sink. -/
  | numeralTooLong
  deriving DecidableEq, Repr

/-- The template of the remark that a recorded function gets. -/
def remarkTemplate : String := "Cyclomatic Complexity: \x7b0\x7d"

namespace State

/-- Add a row to the log. -/
def note (s : State) (row : Log.Row) : State := { s with events := s.events ++ [.log row] }

/-- Count an excluded declaration. -/
def countExcluded (s : State) : State :=
  { s with outcome := { s.outcome with excluded := s.outcome.excluded + 1 } }

/-- Count a declaration that is no definition. -/
def countDeclaration (s : State) : State :=
  { s with outcome := { s.outcome with declarations := s.outcome.declarations + 1 } }

/-- Count a definition without a body. -/
def countAnomaly (s : State) : State :=
  { s with outcome := { s.outcome with anomalies := s.outcome.anomalies + 1 } }

/-- Record a function in the tally and in the list of functions. -/
def record (s : State) (f : FunctionResult) : State :=
  { s with
    tally := s.tally.record f.name f.complexity
    outcome := { s.outcome with functions := s.outcome.functions ++ [f] }
    events := s.events ++ (s.tally.recordLog f.name f.complexity).map .log }

/-- Report the remark of a recorded function.  It is added to the diagnostics before it is
written to their sink.  A tree has never so many decisions that their number could not be written,
so there is no need for limits. -/
def remark (s : State) (remarkId : Nat) (f : FunctionResult) : State × Except Fault Unit :=
  match s.diagnostics with
  | none => (s, .ok ())
  | some d =>
    match d.reportWithin .absent f.location remarkId [.int f.complexity] with
    | .error fault => (s, .error (.diagnostics fault))
    | .ok (diagnostic, d') =>
      if d.shows f.location then
        ({ s with
          diagnostics := some d'
          events := s.events ++ (d.written diagnostic).toList.map .remark }, .ok ())
      else ({ s with diagnostics := some d' }, .error .numeralTooLong)

end State

/-- Look at a declared function. -/
def visit (policy : Policy) (remarkId : Nat) (f : Declaration Node) (s : State) :
    State × Except Fault Unit :=
  match policy.judge f.location with
  | .error _ => (s, .error .notText)
  | .ok (.error exclusion) => ((s.note (exclusion.row f.name)).countExcluded, .ok ())
  | .ok (.ok location) =>
    if !f.isDefinition then
      (s.countDeclaration.note
        ⟨.debug, .walker, "Skipping declaration without body: " ++ f.name⟩, .ok ())
    else
      match f.body with
      | none =>
        (((s.note ⟨.debug, .calculator, "Empty function body encountered"⟩).countAnomaly).note
          ⟨.info, .walker, "Function " ++ f.name ++ " at " ++ location.text ++
            " has an empty body; not recorded"⟩, .ok ())
      | some body =>
        let result : FunctionResult := ⟨f.name, Complexity.ofBody (some body), location⟩
        (s.record result).remark remarkId result

/-- Visit the pending trees.  A fault ends the walk and leaves everything as it is then. -/
def visitPending (policy : Policy) (remarkId : Nat) (pending : List (Option Node)) (s : State) :
    State × Except Fault Unit :=
  match pending with
  | [] => (s, .ok ())
  | none :: _ => (s, .error .missingNode)
  | some n :: rest =>
    match n.declared with
    | none => visitPending policy remarkId (n.children ++ rest) s
    | some f =>
      match visit policy remarkId f s with
      | (s, .error fault) => (s, .error fault)
      | (s, .ok ()) => visitPending policy remarkId (n.children ++ rest) s
  termination_by Node.sizeAll pending
  decreasing_by all_goals exact Node.sizeAll_children_append_lt n rest

end Walk

/-- What is needed to walk units: the policy, and the number of the remark. -/
structure Walker where
  policy : Policy
  remarkId : Nat
  deriving DecidableEq, Repr

namespace Walker

/-- A walker, and the diagnostics with its remark registered. -/
def start (policy : Policy) (diagnostics : Option Diagnostics) :
    Walker × Option Diagnostics :=
  match diagnostics with
  | none => (⟨policy, 0⟩, none)
  | some d =>
    let (id, d) := d.register .remark Walk.remarkTemplate
    (⟨policy, id⟩, some d)

/-- Walk a unit.  The functions that are found go into `tally`. -/
def walk (w : Walker) (root : Option Node) (tally : Tally) (diagnostics : Option Diagnostics) :
    Walk.State × Except Walk.Fault Unit :=
  Walk.visitPending w.policy w.remarkId [root] ⟨.empty, tally, diagnostics, []⟩

end Walker

end Cyclometry
