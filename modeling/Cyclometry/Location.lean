import Cyclometry.Number.Decimal

/-!
# Source locations

Where a function's name stands in the file that the programmer wrote.  Not every row of a
parsed buffer comes from a file, so resolving one can fail.
-/

namespace Cyclometry

/-- A place in a source file.  Lines and columns count from one. -/
structure Location where
  path : String
  line : Int
  column : Int
  /-- The text comes from a system header. -/
  system : Bool
  deriving DecidableEq, Repr

namespace Location

/-- A location as messages show it. -/
def text (l : Location) : String :=
  l.path ++ ":" ++ Decimal.ofInt l.line ++ ":" ++ Decimal.ofInt l.column

/-- The line and the column are short enough to be shown. -/
def isShort (l : Location) : Bool := Decimal.isShort l.line && Decimal.isShort l.column

end Location

/-- Why a location cannot be resolved. -/
inductive LocationError
  /-- A row in front of the first one. -/
  | invalidRow (row : Int) (path : String)
  /-- The row lies in a region that no file contains. -/
  | noOriginatingFile (row : Int) (path : String)
  /-- The compiler knows no file for the declaration. -/
  | noSourceFile (name : String)
  /-- A reason given from outside. -/
  | other (reason : String)
  deriving DecidableEq, Repr

namespace LocationError

/-- The wording of each failure. -/
def message : LocationError → String
  | invalidRow row path => "invalid row " ++ Decimal.ofInt row ++ " in " ++ path
  | noOriginatingFile row path =>
    "row " ++ Decimal.ofInt row ++ " of " ++ path ++ " has no originating file"
  | noSourceFile name => "declaration of " ++ name ++ " has no source file"
  | other reason => reason

/-- The numbers in the message are short enough to be shown. -/
def isShort : LocationError → Bool
  | invalidRow row _ => Decimal.isShort row
  | noOriginatingFile row _ => Decimal.isShort row
  | _ => true

end LocationError

end Cyclometry
