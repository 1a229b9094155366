import Cyclometry.Json.Write
import Cyclometry.Text.LowerCase
import Cyclometry.Text.Pad
import Cyclometry.Walk

/-!
# Results and their summary

The result of one unit, and the summary of all units as plain text or as JSON.
-/

namespace Cyclometry

/-- A diagnostic of a result. -/
inductive Remark
  | issued (d : Diagnostic)
  /-- A text given from outside. -/
  | other (text : String)
  deriving DecidableEq, Repr

/-- A diagnostic as the summary shows it. -/
def Remark.text : Remark → String
  | issued d => d.text
  | other text => text

/-- The numbers in the text are short enough to be written. -/
def Remark.isShort : Remark → Bool
  | issued d => d.location.isShort
  | other _ => true

/-- The result of analysing one unit. -/
structure AnalysisResult where
  unit : String
  tally : Tally
  functions : List FunctionResult
  reportPath : Option String
  reportWritten : Bool
  excluded : Int
  anomalies : Int
  error : Option String
  diagnostics : List Remark
  deriving DecidableEq, Repr

namespace AnalysisResult

/-- The result of a unit about which nothing is known yet. -/
def start (unit : String) : AnalysisResult :=
  ⟨unit, .empty, [], none, false, 0, 0, none, []⟩

/-- The unit was analysed, and its report was written if there had to be one. -/
def ok (r : AnalysisResult) : Bool :=
  r.error.isNone && (r.reportPath.isNone || r.reportWritten)

/-- All numbers of the result are short enough to be written. -/
def isShort (r : AnalysisResult) : Bool :=
  (r.functions.all fun f => Decimal.isShort f.complexity && f.location.isShort) &&
    (r.tally.entries.all fun entry => Decimal.isShort entry.2) &&
    Decimal.isShort r.excluded && Decimal.isShort r.anomalies && r.diagnostics.all Remark.isShort

end AnalysisResult

namespace Summary

/-- The ways to write a summary. -/
inductive Format
  | text
  | json
  deriving DecidableEq, Repr

/-- The format of a name, in letters of any case. -/
def Format.ofName? (name : String) : Option Format :=
  match Text.lower name with
  | "text" => some .text
  | "json" => some .json
  | _ => none

/-- A count over all units. -/
def total (count : AnalysisResult → Nat) (results : List AnalysisResult) : Nat :=
  results.foldr (fun r n => count r + n) 0

/-! ## Plain text -/

/-- Functions go by line, then by name. -/
def before (f g : FunctionResult) : Bool :=
  decide (f.location.line < g.location.line) ||
    (f.location.line == g.location.line && decide (f.name ≤ g.name))

/-- The line of a function. -/
def functionLine (f : FunctionResult) : String :=
  "  " ++ Text.padLeft 4 (Decimal.ofInt f.complexity) ++ "  " ++ Text.padRight 32 f.name ++ " " ++
    f.location.path ++ ":" ++ Decimal.ofInt f.location.line

/-- A text that is there and not empty. -/
def nonempty (s : Option String) : Option String := s.filter fun s => !s.isEmpty

/-- The lines of a unit. -/
def unitLines (r : AnalysisResult) : List String :=
  ("== " ++ r.unit ++ " ==") ::
    match nonempty r.error with
    | some error => ["  Error: " ++ error, ""]
    | none =>
      (r.functions.mergeSort before).map functionLine ++
        (match nonempty r.reportPath with
          | some path =>
            ["  Report: " ++ path ++ (if r.reportWritten then " (written)" else " (NOT written)")]
          | none => []) ++
        (if r.excluded = 0 then []
          else ["  Excluded declarations: " ++ Decimal.ofInt r.excluded]) ++
        (if r.anomalies = 0 then [] else ["  Empty bodies: " ++ Decimal.ofInt r.anomalies]) ++
        [""]

/-- The number of functions that the plain text shows for a unit. -/
def shownFunctions (r : AnalysisResult) : Nat :=
  if (nonempty r.error).isSome then 0 else r.functions.length

/-- All numbers in the lines of a unit are short enough to be written.  There is no column among
them, and none at all beside an error. -/
def linesAreShort (r : AnalysisResult) : Bool :=
  (nonempty r.error).isSome ||
    (r.functions.all fun f => Decimal.isShort f.complexity && Decimal.isShort f.location.line) &&
      Decimal.isShort r.excluded && Decimal.isShort r.anomalies

/-- The summary as plain text. -/
def plainText (results : List AnalysisResult) : String :=
  Text.joinTexts "\n" (results.flatMap unitLines ++
    ["Translation units: " ++ Decimal.ofNat results.length,
      "Functions analyzed: " ++ Decimal.ofNat (total shownFunctions results)]) ++ "\n"

/-! ## JSON -/

/-- Named values. -/
def object (members : List (String × Value)) : Value :=
  .map (members.map fun (name, value) => (.text name, value))

/-- A text, or null. -/
def optional (s : Option String) : Value := (s.map Value.text).getD .null

/-- A function as data. -/
def functionValue (f : FunctionResult) : Value :=
  object [("name", .text f.name), ("complexity", .int f.complexity),
    ("file_path", .text f.location.path), ("line", .int f.location.line),
    ("column", .int f.location.column)]

/-- The complexities of a tally as data. -/
def tallyValue (t : Tally) : Value := object (t.entries.map fun (name, n) => (name, .int n))

/-- A result as data. -/
def resultValue (r : AnalysisResult) : Value :=
  object [("unit", .text r.unit), ("complexities", tallyValue r.tally),
    ("functions", .list (r.functions.map functionValue)),
    ("report_path", optional r.reportPath), ("report_written", .bool r.reportWritten),
    ("excluded", .int r.excluded), ("anomalies", .int r.anomalies),
    ("error", optional r.error), ("diagnostics", .list (r.diagnostics.map fun d => .text d.text))]

/-- The summary as data. -/
def value (results : List AnalysisResult) : Value :=
  object [
    ("summary", object [("units", .int results.length),
      ("functions", .int (total (fun r => r.functions.length) results))]),
    ("units", .list (results.map resultValue))]

/-- The summary as JSON. -/
def jsonText (results : List AnalysisResult) : String := Json.write (value results)

/-- All numbers that a summary shows are short enough to be written. -/
def isWritable : Format → List AnalysisResult → Bool
  | .text, results => results.all linesAreShort && Decimal.isShort results.length &&
      Decimal.isShort (total shownFunctions results)
  | .json, results => results.all AnalysisResult.isShort && Decimal.isShort results.length &&
      Decimal.isShort (total (fun r => r.functions.length) results)

/-- The summary in a format. -/
def render : Format → List AnalysisResult → String
  | .text => plainText
  | .json => jsonText

end Summary

end Cyclometry
