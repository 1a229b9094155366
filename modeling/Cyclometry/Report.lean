import Cyclometry.FileSystem
import Cyclometry.Tally

/-!
# The report file

The report of a unit has one line for each function of its tally, in the order of the names.
The path of the report may depend on the unit: `{stem}` stands for the stem of its file name.
-/

namespace Cyclometry.Report

/-- The line of a function. -/
def line (entry : String × Int) : String :=
  "Function: " ++ entry.1 ++ ", Cyclomatic Complexity: " ++ Decimal.ofInt entry.2 ++ "\n"

/-- The text of a report. -/
def text (t : Tally) : String := String.join (t.entries.map line)

/-- Put `stem` in the place of every `{stem}`. -/
def expandStem (stem : List Char) : List Char → List Char
  | [] => []
  | '{' :: 's' :: 't' :: 'e' :: 'm' :: '}' :: rest => stem ++ expandStem stem rest
  | c :: rest => c :: expandStem stem rest

/-- The report path of a unit. -/
def pathFor (template unit : String) : String :=
  String.ofList (expandStem (Path.ofString unit).stem.toList template.toList)

/-- Write a report: the file system with it, whether it was written, and the log. -/
def write (fs : FileSystem) (t : Tally) (path : String) :
    Except FileError (FileSystem × Bool × Log.Row) :=
  match fs.write path (bytesOf (text t)) with
  | .ok fs =>
    .ok (fs, true, ⟨.info, .report,
      "Wrote " ++ Decimal.ofNat t.size ++ " function(s) to " ++ path⟩)
  | .error .nulCharacter => .error .nulCharacter
  | .error error =>
    .ok (fs, false, ⟨.error, .report,
      "Error opening report file " ++ path ++ ": " ++ error.message⟩)

end Cyclometry.Report
