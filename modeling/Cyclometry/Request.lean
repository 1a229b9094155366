import Cyclometry.Arguments.Help
import Cyclometry.Arguments.Reading

/-!
# Requests

What a user can ask the program for, and how it is written on a command line.  A command line
either asks for a text to be shown, or is refused, or is a request to analyse sources or to
make a configuration file.
-/

namespace Cyclometry

open Arguments

/-- What the options of the analysis are about. -/
inductive AnalyzeKey
  | config
  | frontend
  | compilerArg
  | report
  | format
  | output
  | quiet
  | noDiagnostics
  | noColor
  | verbose
  deriving DecidableEq, Repr

/-- What the options for making a configuration file are about. -/
inductive InitKey
  | force
  deriving DecidableEq, Repr

/-- A request to analyse sources.  An option that is not given, and one with an empty word or
without one, leaves the settings alone. -/
structure AnalyzeRequest where
  paths : List String := ["."]
  config : Option String := none
  frontend : Option String := none
  compilerArgs : List (Option String) := []
  report : Option String := none
  format : Option String := none
  output : Option String := none
  quiet : Bool := false
  noDiagnostics : Bool := false
  noColor : Bool := false
  verbose : Bool := false
  deriving DecidableEq, Repr

/-- Take over what an option says.  Of several options for the same thing the last one counts,
but all arguments for the compiler do. -/
def AnalyzeRequest.set (r : AnalyzeRequest) : AnalyzeKey × Option String → AnalyzeRequest
  | (.config, word) => { r with config := word }
  | (.frontend, word) => { r with frontend := word }
  | (.compilerArg, word) => { r with compilerArgs := r.compilerArgs ++ [word] }
  | (.report, word) => { r with report := word }
  | (.format, word) => { r with format := word }
  | (.output, word) => { r with output := word }
  | (.quiet, _) => { r with quiet := true }
  | (.noDiagnostics, _) => { r with noDiagnostics := true }
  | (.noColor, _) => { r with noColor := true }
  | (.verbose, _) => { r with verbose := true }

/-- The request of some paths and settings.  Without paths it is about the current
directory. -/
def AnalyzeRequest.ofReading (reading : Reading AnalyzeKey) : AnalyzeRequest :=
  let start : AnalyzeRequest :=
    match reading.operands with
    | some (path :: paths) => { paths := path :: paths }
    | _ => {}
  reading.settings.foldl AnalyzeRequest.set start

/-- What the program can be asked to do. -/
inductive Request
  | analyze (request : AnalyzeRequest)
  /-- Make a configuration file, even in the place of another one. -/
  | init (force : Bool)
  deriving DecidableEq, Repr

namespace Request

/-- The version of the program. -/
def version : String := "1.0.0"

/-- The name of the program. -/
def program : String := "cycloscan"

/-- An option that takes nothing. -/
def flag {κ : Type} (key : κ) (spellings : List String) (help : String) : Opt κ :=
  ⟨.set key, spellings, .nothing, help⟩

/-- An option that takes a word. -/
def taking {κ : Type} (key : κ) (spellings : List String) (takes : Takes) (help : String) :
    Opt κ :=
  ⟨.set key, spellings, takes, help⟩

/-- The command line of the analysis. -/
def analyzeForm : Form AnalyzeKey where
  program := program ++ " analyze"
  description := none
  options := [
    .showHelp,
    taking .config ["-c", "--config"] (.word "CONFIG") "Path to configuration file",
    taking .frontend ["--frontend"] (.oneOf ["treesitter", "clang"])
      "Source frontend (overrides config)",
    taking .compilerArg ["--clang-arg"] (.word "CLANG_ARGS")
      "Extra compiler argument for the clang frontend (repeatable)",
    taking .report ["-r", "--report"] (.word "REPORT")
      "Report file path; \x7bstem\x7d expands to the unit's file stem",
    taking .format ["-f", "--format"] (.oneOf ["text", "json"])
      "Summary format (overrides config)",
    taking .output ["-o", "--output"] (.word "OUTPUT")
      "Write the summary to a file instead of stdout",
    flag .quiet ["-q", "--quiet"] "Do not print a summary",
    flag .noDiagnostics ["--no-diagnostics"] "Do not print per-function remarks",
    flag .noColor ["--no-color"] "Disable colored remarks",
    flag .verbose ["-v", "--verbose"] "Verbose logging"]
  operands := .many "paths" "Source files or directories (default: current directory)"
  closing := none

/-- The command line for making a configuration file. -/
def initForm : Form InitKey where
  program := program ++ " init"
  description := none
  options := [.showHelp, flag .force ["-f", "--force"] "Overwrite existing config file"]
  operands := .none
  closing := none

/-- The commands with their help. -/
def commands : List (String × String) :=
  [("analyze", "Compute cyclomatic complexity"), ("init", "Create a configuration file")]

/-- Examples at the end of the help. -/
def examples : String :=
  "Examples:\n" ++
  "  cycloscan analyze main.c                       # Report to ./results.cy\n" ++
  "  cycloscan analyze src/ -r \"reports/\x7bstem\x7d.cy\"  # One report per unit\n" ++
  "  cycloscan analyze main.i                       # Preprocessed input\n" ++
  "  cycloscan analyze main.cpp --frontend clang    # Full translation unit\n" ++
  "  cycloscan init                                 # Create config file\n" ++
  "        "

/-- The command line of the program.  No option of it sets anything. -/
def form : Form Empty where
  program := program
  description := some "Per-function cyclomatic complexity for C and C++ sources."
  options := [
    .showHelp,
    ⟨.version, ["--version"], .nothing, "show program's version number and exit"⟩]
  operands := .command "command" "Available commands" commands
  closing := some examples

/-- What a command line amounts to. -/
inductive Answer
  /-- Show a text, and be done. -/
  | display (text : String)
  /-- The command line makes no sense, as the text says. -/
  | refuse (text : String)
  | perform (request : Request)

/-- The answer when reading a form stops. -/
def stopped {κ : Type} (f : Form κ) : Stop → Answer
  | .help => .display f.page
  | .version => .display (program ++ " " ++ version ++ "\n")
  | .problem p => .refuse (f.refusal p)

/-- Read the words of a command, and refuse them if some are left over. -/
def ofForm {κ : Type} (f : Form κ) (leftOver words : List String)
    (make : Reading κ → Request) : Answer :=
  match f.read words with
  | .error stop => stopped f stop
  | .ok reading =>
    match leftOver ++ reading.leftOver with
    | [] => .perform (make reading)
    | words => .refuse (form.refusal (.unrecognized words))

/-- Read a command line. -/
def read (words : List String) : Answer :=
  match form.read words with
  | .error stop => stopped form stop
  | .ok reading =>
    match reading.operands with
    | some ("analyze" :: words) =>
      ofForm analyzeForm reading.leftOver words fun r => .analyze (.ofReading r)
    | some ("init" :: words) =>
      ofForm initForm reading.leftOver words fun r => .init !r.settings.isEmpty
    | some (word :: _) =>
      .refuse (form.refusal (.notAChoice "command" word (commands.map (·.1))))
    | _ =>
      match reading.leftOver with
      | [] => .display form.page
      | words => .refuse (form.refusal (.unrecognized words))

end Request

end Cyclometry
