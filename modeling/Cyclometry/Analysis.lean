import Cyclometry.Frontend
import Cyclometry.Report
import Cyclometry.Settings
import Cyclometry.Summary

/-!
# Analysing units

One unit at a time is parsed, walked and reported.  Nothing is carried over from one unit to
the next but the file system, so a unit that cannot be parsed does no harm to the others.
-/

namespace Cyclometry

/-- Why a run stops. -/
inductive Fault
  | frontend (error : FrontendError)
  | load (fault : Settings.LoadFault)
  | file (error : FileError)
  /-- A path that was asked for does not exist. -/
  | noSuchPath (path : String)
  /-- A section of the settings is not a mapping. -/
  | notAMapping
  /-- Something that should be a text is not. -/
  | notText
  /-- Something that should have elements has none. -/
  | notAList
  /-- An element of a list, or a report path, is not a text. -/
  | elementNotText
  /-- A line marker has a number of too many digits, or a location has one. -/
  | numeralTooLong
  /-- A directory with units is nested too deep. -/
  | nestedTooDeep
  /-- There is no summary format of this name. -/
  | unknownFormat (name : String)
  /-- A tree has a missing node. -/
  | missingNode
  /-- A remark cannot be reported. -/
  | diagnostics (fault : Diagnostics.Fault)
  deriving DecidableEq, Repr

namespace Fault

/-- A fault of reading a setting. -/
def ofSettings : Settings.Fault → Fault
  | .notAMapping => notAMapping
  | .notAList => notAList

/-- A fault of choosing a frontend. -/
def ofChoice : Frontend.ChoiceFault → Fault
  | .refused error => frontend error
  | .nameNotText => notText
  | .notAMapping => notAMapping
  | .notAList => notAList

/-- A fault of a walk. -/
def ofWalk : Walk.Fault → Fault
  | .missingNode => missingNode
  | .notText => elementNotText
  | .diagnostics fault => diagnostics fault
  | .numeralTooLong => numeralTooLong

end Fault

/-- Where remarks go: whether there is a terminal, which can show colours. -/
structure Terminal where
  showsColor : Bool
  deriving DecidableEq, Repr

/-- What does not change during a run. -/
structure Engine where
  settings : Settings
  frontend : Frontend
  policy : Policy

namespace Engine

/-- The engine of some settings. -/
def start (availability : Compiler.Availability) (settings : Settings) :
    Except Fault Engine := do
  let name ← settings.frontendName.mapError .ofSettings
  let frontend ← (Frontend.choose availability name settings.frontendOptions).mapError .ofChoice
  let headers ← settings.headerExtensions.mapError .ofSettings
  let dirs ← settings.systemIncludeDirs.mapError .ofSettings
  let policy ← (Policy.ofValues headers dirs).mapError fun _ => .elementNotText
  pure ⟨settings, frontend, policy⟩

/-- The diagnostics of one unit. -/
def newDiagnostics (e : Engine) (terminal : Terminal) : Except Fault Diagnostics := do
  if !(← e.settings.diagnosticsEnabled.mapError Fault.ofSettings) then pure (.start none)
  else
    let color ← e.settings.diagnosticsColor.mapError Fault.ofSettings
    pure (.start (some (if color && terminal.showsColor then .colored else .plain)))

/-- The state of a run: the file system, and what has happened so far. -/
structure Run where
  fs : FileSystem
  events : List Event

/-- Add what has happened. -/
def Run.add (r : Run) (events : List Event) : Run := { r with events := r.events ++ events }

/-- The report path of a unit, if it gets a report.  A template that is a list or a mapping is
no path, whether or not it contains the placeholder. -/
def reportPathFor (template : Value) (unit : String) : Except Fault (Option String) :=
  if !template.truthy then .ok none
  else
    match template with
    | .text template => .ok (some (Report.pathFor template unit))
    | .list items => if items.any isPlaceholder then .error .notText else .error .elementNotText
    | .set items => if items.any isPlaceholder then .error .notText else .error .elementNotText
    | .map fields =>
      if fields.any fun f => isPlaceholder f.1 then .error .notText else .error .elementNotText
    | _ => .error .elementNotText
where
  /-- The value is the placeholder for the stem of the unit. -/
  isPlaceholder (v : Value) : Bool := v.text? == some "\x7bstem\x7d"

/-- Write the report of a unit. -/
def writeReport (template : Value) (result : AnalysisResult) (r : Run) :
    Run × Except Fault AnalysisResult :=
  match reportPathFor template result.unit with
  | .error fault => (r, .error fault)
  | .ok none => (r, .ok result)
  | .ok (some path) =>
    match Report.write r.fs result.tally path with
    | .error error => (r, .error (.file error))
    | .ok (fs, written, row) =>
      ({ fs, events := r.events ++ [.log row] },
        .ok { result with reportPath := some path, reportWritten := written })

/-- Walk a unit and write its report. -/
def analyzeUnit (e : Engine) (terminal : Terminal) (unit : ParsedUnit) (r : Run) :
    Run × Except Fault AnalysisResult :=
  match e.newDiagnostics terminal with
  | .error fault => (r, .error fault)
  | .ok diagnostics =>
    let (walker, registered) := Walker.start e.policy (some diagnostics)
    match walker.walk (some unit.root) .empty registered with
    | (state, .error fault) => (r.add state.events, .error (.ofWalk fault))
    | (state, .ok ()) =>
      let r := r.add state.events
      let issued := (state.diagnostics.map Diagnostics.issued).getD []
      let result : AnalysisResult := { AnalysisResult.start unit.path with
        tally := state.tally
        functions := state.outcome.functions
        excluded := state.outcome.excluded
        anomalies := state.outcome.anomalies
        diagnostics := issued.map .issued }
      match e.settings.reportPath with
      | .error fault => (r, .error (.ofSettings fault))
      | .ok template => writeReport template result r

/-- Analyse one unit, whose source may be given.  A unit that cannot be parsed has a result
that says so. -/
def analyze (e : Engine) (tools : Toolchain) (terminal : Terminal) (path : String)
    (source : Option Bytes) (r : Run) : Run × Except Fault AnalysisResult :=
  match e.frontend.parse tools r.fs path source with
  | (events, .ok unit) => e.analyzeUnit terminal unit (r.add events)
  | (events, .error (.refused error)) =>
    ((r.add events).add [.log ⟨.error, .engine,
        "Skipping " ++ path ++ ": " ++ error.message⟩],
      .ok { AnalysisResult.start path with error := some error.message })
  | (events, .error .numeralTooLong) => (r.add events, .error .numeralTooLong)
  | (events, .error .nulCharacter) => (r.add events, .error (.file .nulCharacter))

/-- Analyse several units, one after the other. -/
def analyzePaths (e : Engine) (tools : Toolchain) (terminal : Terminal) :
    List String → Run → Run × Except Fault (List AnalysisResult)
  | [], r => (r, .ok [])
  | path :: rest, r =>
    match e.analyze tools terminal path none r with
    | (r, .error fault) => (r, .error fault)
    | (r, .ok result) =>
      match analyzePaths e tools terminal rest r with
      | (r, .error fault) => (r, .error fault)
      | (r, .ok results) => (r, .ok (result :: results))

end Engine

/-- The summary in the format of a name, if all numbers in it can be written. -/
def summarize (format : Value) (results : List AnalysisResult) : Except Fault String :=
  match format with
  | .text name =>
    match Summary.Format.ofName? name with
    | some format =>
      if Summary.isWritable format results then .ok (Summary.render format results)
      else .error .numeralTooLong
    | none => .error (.unknownFormat name)
  | .bytes name => .error (.unknownFormat (Value.bytes name).plain)
  | _ => .error .notText

end Cyclometry
