import Cyclometry.Analysis
import Cyclometry.Request
import Cyclometry.Units
import Cyclometry.Yaml.Write

/-!
# The program

What the program does with a command line.  Everything that it needs from outside is in its
`Surroundings`, and everything that it leaves behind is in the `Outcome`: the file system, the
texts on both output streams, and how it ends.  Paths are checked and settings are read before
the first unit is analysed, so a request that cannot be carried out changes nothing.
-/

namespace Cyclometry

/-- What the program finds when it starts. -/
structure Surroundings where
  fs : FileSystem
  tools : Toolchain
  /-- Where remarks go. -/
  terminal : Terminal
  /-- An error is not only reported, but also ends the program. -/
  debug : Bool
  /-- The user interrupts the analysis. -/
  interrupted : Bool

/-! ## Faults that are reported -/

/-- The report of a fault that the user can do something about.  Any other fault ends the
program. -/
def Fault.report? : Fault → Option String
  | frontend error => some error.message
  | noSuchPath path => some ("No such file or directory: " ++ path)
  | file (.refused cause path) => some (FileError.refused cause path).message
  | load (.notFound path) => some ("Config file not found: " ++ path)
  | load (.file (.refused cause path)) => some (FileError.refused cause path).message
  | load (.config error) => some error.message
  | _ => none

/-! ## Settings of a request -/

namespace AnalyzeRequest

/-- A word that is there and not empty. -/
def given (word : Option String) : Option Value := (word.filter fun s => !s.isEmpty).map .text

/-- An argument for the compiler; one without a word is an empty list. -/
def compilerArg (word : Option String) : Value := (word.map Value.text).getD (.list [])

/-- A field, if there is a value for it. -/
def field (name : String) (value : Option Value) : Fields :=
  (value.map fun v => (Value.text name, v)).toList

/-- A section, if there is a field in it. -/
def group (name : String) (fields : Fields) : Fields :=
  if fields.isEmpty then [] else [(.text name, .map fields)]

/-- What the options of a request say about the settings. -/
def overrides (r : AnalyzeRequest) : Fields :=
  group "frontend" (field "name" (given r.frontend) ++
    field "clang_args"
      (if r.compilerArgs.isEmpty then none
        else some (.list (r.compilerArgs.map compilerArg)))) ++
  group "report" (field "path" (given r.report)) ++
  group "diagnostics" (field "enabled" (if r.noDiagnostics then some (.bool false) else none) ++
    field "color" (if r.noColor then some (.bool false) else none)) ++
  group "output" (field "format" (given r.format))

/-- The configuration file of a request: the given one, or the one that counts for the first
path. -/
def configPath (r : AnalyzeRequest) (fs : FileSystem) :
    Except Settings.LoadFault (Option String) :=
  match r.config.filter fun s => !s.isEmpty with
  | some path => .ok (some path)
  | none => Settings.find fs (r.paths.headD ".")

/-- The settings of a request: its options over the configuration file over the defaults. -/
def settings (r : AnalyzeRequest) (fs : FileSystem) : Except Settings.LoadFault Settings := do
  let path ← r.configPath fs
  let settings ← Settings.load fs path
  (settings.overriddenBy r.overrides).mapError fun _ => .nestedTooDeep

end AnalyzeRequest

/-! ## Analysing -/

/-- What a command has done so far. -/
structure Effects where
  fs : FileSystem
  events : List Event
  /-- The text on the standard output. -/
  out : String

namespace Program

/-- The units below a path that has to exist. -/
def unitsOf (fs : FileSystem) (settings : Settings) (path : String) :
    Except Fault (List String) :=
  match fs.pathExists path with
  | .ok true => do
    let headers ← settings.headerExtensions.mapError Fault.ofSettings
    let policy ← (Policy.ofValues headers []).mapError fun _ => .elementNotText
    (Units.list fs Units.maxNesting policy path).mapError fun
      | .file error => .file error
      | .notText => .elementNotText
      | .nestedTooDeep => .nestedTooDeep
  | _ => .error (.noSuchPath path)

/-- Everything that has to be in order before the first unit is analysed: the engine and the
units. -/
def prepare (r : AnalyzeRequest) (s : Surroundings) : Except Fault (Engine × List String) := do
  let settings ← (r.settings s.fs).mapError .load
  let units ← r.paths.mapM (unitsOf s.fs settings)
  let engine ← Engine.start s.tools.availability settings
  pure (engine, units.flatten)

/-- Put the summary where it belongs. -/
def deliver (r : AnalyzeRequest) (summary : String) (run : Engine.Run) :
    Effects × Except Fault Unit :=
  match r.output.filter fun s => !s.isEmpty with
  | none => (⟨run.fs, run.events, summary⟩, .ok ())
  | some path =>
    match run.fs.write (Path.ofString path).text (bytesOf summary) with
    | .ok fs => (⟨fs, run.events, ""⟩, .ok ())
    | .error error => (⟨run.fs, run.events, ""⟩, .error (.file error))

/-- The summary of some results in the format that the settings ask for. -/
def summaryOf (settings : Settings) (results : List AnalysisResult) : Except Fault String := do
  summarize (← settings.outputFormat.mapError Fault.ofSettings) results

/-- The exit status of some results: whether all units are in order. -/
def status (results : List AnalysisResult) : Nat := if results.all AnalysisResult.ok then 0 else 1

/-- Show the summary, unless the request is a quiet one. -/
def finish (r : AnalyzeRequest) (settings : Settings) (results : List AnalysisResult)
    (run : Engine.Run) : Effects × Except Fault Nat :=
  if r.quiet then (⟨run.fs, run.events, ""⟩, .ok (status results))
  else
    match summaryOf settings results with
    | .error fault => (⟨run.fs, run.events, ""⟩, .error fault)
    | .ok summary =>
      let (effects, done) := deliver r summary run
      (effects, done.map fun _ => status results)

/-- The exit status after an interruption. -/
def interruptStatus : Nat := 130

/-- Analyse what a request asks for; the result is the exit status. -/
def analyze (r : AnalyzeRequest) (s : Surroundings) : Effects × Except Fault Nat :=
  match prepare r s with
  | .error fault => (⟨s.fs, [], ""⟩, .error fault)
  | .ok (engine, units) =>
    if s.interrupted then (⟨s.fs, [], "\nAnalysis interrupted.\n"⟩, .ok interruptStatus)
    else
      match engine.analyzePaths s.tools s.terminal units ⟨s.fs, []⟩ with
      | (run, .error fault) => (⟨run.fs, run.events, ""⟩, .error fault)
      | (run, .ok results) => finish r engine.settings results run

/-! ## Making a configuration file -/

/-- The name of the configuration file that is made. -/
def configName : String := ".cycloscan.yaml"

/-- A configuration file that says what holds anyway. -/
def defaultConfig : String := Yaml.write (.map Settings.default.data)

/-- There is something at a path, and the system can tell. -/
def isThere (fs : FileSystem) (path : String) : Bool :=
  match fs.pathExists path with
  | .ok found => found
  | .error _ => false

/-- Make a configuration file in the current directory; the result is the exit status. -/
def init (force : Bool) (s : Surroundings) : Effects × Except Fault Nat :=
  if isThere s.fs configName && !force then
    (⟨s.fs, [], "Configuration file " ++ configName ++ " already exists.\n" ++
      "Use --force to overwrite.\n"⟩, .ok 1)
  else
    match s.fs.write configName (bytesOf defaultConfig) with
    | .error error => (⟨s.fs, [], ""⟩, .error (.file error))
    | .ok fs => (⟨fs, [], "Created configuration file: " ++ configName ++ "\n"⟩, .ok 0)

/-! ## Running -/

/-- How the program ends. -/
inductive Ending
  | exit (status : Nat)
  /-- With the report of a fault, which means an exit status of its own. -/
  | reported (fault : Fault)
  /-- With a fault that nothing in the program takes care of. -/
  | fallen (fault : Fault)

/-- The exit status after the report of a fault. -/
def faultStatus : Nat := 1

/-- The exit status after a command line that makes no sense. -/
def refusalStatus : Nat := 2

/-- What the program leaves behind. -/
structure Outcome where
  fs : FileSystem
  out : String
  err : String
  ending : Ending

/-- The least severity of a row that is shown. -/
def threshold (verbose : Bool) : Log.Level := if verbose then .debug else .warning

/-- The text of an event on the error stream. -/
def eventText (verbose : Bool) : Event → String
  | .log row =>
    if (threshold verbose).rank ≤ row.level.rank then row.text ++ "\n" else ""
  | .remark text => text
  | .compile _ => ""

/-- The text of all events on the error stream. -/
def eventsText (verbose : Bool) (events : List Event) : String :=
  String.join (events.map (eventText verbose))

/-- The outcome of a command. -/
def outcome (verbose debug : Bool) (effects : Effects) (result : Except Fault Nat) : Outcome :=
  let err := eventsText verbose effects.events
  match result with
  | .ok status => ⟨effects.fs, effects.out, err, .exit status⟩
  | .error fault =>
    match fault.report? with
    | none => ⟨effects.fs, effects.out, err, .fallen fault⟩
    | some report =>
      ⟨effects.fs, effects.out, err ++ "Error: " ++ report ++ "\n",
        if debug then .fallen fault else .reported fault⟩

/-- Carry out a request. -/
def perform (s : Surroundings) : Request → Outcome
  | .analyze r =>
    let (effects, result) := analyze r s
    outcome r.verbose s.debug effects result
  | .init force =>
    let (effects, result) := init force s
    outcome false s.debug effects result

/-- Run the program on the words of a command line. -/
def run (s : Surroundings) (words : List String) : Outcome :=
  match Request.read words with
  | .display text => ⟨s.fs, text, "", .exit 0⟩
  | .refuse text => ⟨s.fs, "", text, .exit refusalStatus⟩
  | .perform request => perform s request

end Program

end Cyclometry
