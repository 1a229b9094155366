import Cyclometry.Location
import Cyclometry.Template.Basic

/-!
# Diagnostics

Messages at source locations, as compilers show them.  A message template is registered once
for its level and gets a number; a diagnostic is reported by that number with arguments.  When
a sink is attached, every diagnostic is written to it as one line, in colour if the sink can
show it.
-/

namespace Cyclometry

/-- How serious a diagnostic is. -/
inductive Severity
  | remark
  | note
  | warning
  | error
  deriving DecidableEq, Repr

namespace Severity

/-- All severities. -/
def all : List Severity := [remark, note, warning, error]

/-- The name of a severity. -/
def name : Severity → String
  | remark => "remark"
  | note => "note"
  | warning => "warning"
  | error => "error"

/-- The terminal's code for the colour of a severity. -/
def color : Severity → Nat
  | remark => 94
  | note => 96
  | warning => 95
  | error => 91

end Severity

/-- A message at a location. -/
structure Diagnostic where
  severity : Severity
  location : Location
  message : String
  /-- The number that it was reported by. -/
  id : Int
  deriving DecidableEq, Repr

namespace Diagnostic

/-- Location, severity and message on one line. -/
def text (d : Diagnostic) : String :=
  d.location.text ++ ": " ++ d.severity.name ++ ": " ++ d.message

/-- The control sequence that switches the terminal to a graphic mode. -/
def mode (code : Nat) : String :=
  String.singleton (Char.ofNat 27) ++ "[" ++ Decimal.ofNat code ++ "m"

/-- Back to plain text. -/
def plainMode : String := mode 0

/-- Bold text. -/
def boldMode : String := mode 1

/-- The line in bold, the severity in its colour. -/
def coloredText (d : Diagnostic) : String :=
  boldMode ++ d.location.text ++ ": " ++ plainMode ++
    boldMode ++ mode d.severity.color ++ d.severity.name ++ ":" ++ plainMode ++ " " ++
    boldMode ++ d.message ++ plainMode

end Diagnostic

/-- Where diagnostics are written to: a stream that takes every line, plain or with colours. -/
inductive Sink
  | plain
  | colored
  deriving DecidableEq, Repr

/-- The registered templates and the diagnostics so far. -/
structure Diagnostics where
  sink : Option Sink
  templates : List (Severity × String)
  issued : List Diagnostic
  deriving DecidableEq, Repr

namespace Diagnostics

/-- Nothing registered or reported yet. -/
def start (sink : Option Sink) : Diagnostics := ⟨sink, [], []⟩

/-- The number of a template, which is registered if it is new. -/
def register (d : Diagnostics) (severity : Severity) (template : String) : Nat × Diagnostics :=
  match d.templates.findIdx? (· == (severity, template)) with
  | some id => (id, d)
  | none =>
    (d.templates.length, { d with templates := d.templates ++ [(severity, template)] })

/-- Why a diagnostic cannot be reported. -/
inductive Fault
  | unknownId (id : Int)
  | template (fault : Template.Fault)
  deriving DecidableEq, Repr

/-- The wording of a number that no template has. -/
def unknownIdText (id : Int) : String := "Unknown diagnostic id: " ++ Decimal.ofInt id

/-- The template of a number.  Negative numbers count from the end. -/
def template? (d : Diagnostics) (id : Int) : Option (Severity × String) :=
  if 0 ≤ id then d.templates[id.toNat]?
  else if id.natAbs ≤ d.templates.length then d.templates[d.templates.length - id.natAbs]?
  else none

/-- The diagnostic of a number and its arguments at a location. -/
def make (d : Diagnostics) (limits : Template.Limits) (location : Location) (id : Int)
    (args : List Value) : Except Fault Diagnostic :=
  match d.template? id with
  | none => .error (.unknownId id)
  | some (severity, template) =>
    match Template.messageWithin limits template args with
    | .error fault => .error (.template fault)
    | .ok message => .ok ⟨severity, location, message, id⟩

/-- Add a diagnostic. -/
def add (d : Diagnostics) (diagnostic : Diagnostic) : Diagnostics :=
  { d with issued := d.issued ++ [diagnostic] }

/-- The line that stands for a diagnostic. -/
def render (d : Diagnostics) (diagnostic : Diagnostic) : String :=
  if d.sink = some .colored then diagnostic.coloredText else diagnostic.text

/-- The location can be written: there is no sink, or its numbers are short enough. -/
def shows (d : Diagnostics) (location : Location) : Bool := d.sink.isNone || location.isShort

/-- What the sink receives for a diagnostic. -/
def written (d : Diagnostics) (diagnostic : Diagnostic) : Option String :=
  d.sink.map fun _ => d.render diagnostic ++ "\n"

/-- Report by number: the diagnostic, and the diagnostics with it. -/
def reportWithin (d : Diagnostics) (limits : Template.Limits) (location : Location) (id : Int)
    (args : List Value) : Except Fault (Diagnostic × Diagnostics) :=
  (d.make limits location id args).map fun diagnostic => (diagnostic, d.add diagnostic)

/-- Report any arguments, so within the limits. -/
def report (d : Diagnostics) (location : Location) (id : Int) (args : List Value) :
    Except Fault (Diagnostic × Diagnostics) :=
  d.reportWithin .present location id args

/-- The number of diagnostics, of one severity or of all. -/
def count (d : Diagnostics) (severity : Option Severity) : Nat :=
  match severity with
  | none => d.issued.length
  | some severity => d.issued.countP fun diagnostic => diagnostic.severity == severity

end Diagnostics

end Cyclometry
