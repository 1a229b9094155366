import Cyclometry.Log
import Cyclometry.Value

/-!
# Events

What can be seen of a run from outside, in the order in which it happens: rows of the log,
remarks written to the sink of the diagnostics, and calls of the compiler.
-/

namespace Cyclometry

/-- A call of the compiler: the unit, the arguments, and the text of the unit if it is not to
be read from disk. -/
structure CompilerCall where
  path : String
  args : List Value
  unsaved : Option String

/-- Something that happens while the program runs. -/
inductive Event
  | log (row : Log.Row)
  /-- A line written to the sink of the diagnostics. -/
  | remark (text : String)
  | compile (call : CompilerCall)

namespace Event

/-- The row of a log event. -/
def row? : Event → Option Log.Row
  | log row => some row
  | _ => none

/-- The text of a remark. -/
def remark? : Event → Option String
  | remark text => some text
  | _ => none

/-- A call of the compiler. -/
def call? : Event → Option CompilerCall
  | compile call => some call
  | _ => none

end Event

end Cyclometry
