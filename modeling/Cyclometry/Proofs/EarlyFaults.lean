import Cyclometry.Proofs.IndependentUnits
import Cyclometry.Proofs.LoadedSettings

/-!
# Faults that come before the first unit

A request can fail early: its configuration cannot be loaded, one of its paths does not exist, or
there is no frontend for it.  Such a fault (`Fault.isEarly`) arises nowhere but in the preparation,
because the analysis of a unit turns a frontend's refusal into a result and a location that cannot
be resolved into an exclusion; all other faults of a unit are of a different kind.  That is said
once for each function on the way (`Late`), up to the delivery of the summary.

The preparation itself writes nothing.  So a command that ends in an early fault, and one that is
given a path that does not exist, leaves everything as it was (`Program.run_leaves_untouched`).
-/

namespace Cyclometry

/-! ## Early and late faults -/

/-- The fault says that a request cannot be carried out at all: there is no frontend, or the
frontend refuses, the configuration cannot be loaded, or a path does not exist. -/
def Fault.isEarly : Fault → Bool
  | frontend _ => true
  | load _ => true
  | noSuchPath _ => true
  | _ => false

/-- The computation fails with late faults only. -/
def Late {α : Type} (x : Except Fault α) : Prop := ∀ fault, x = .error fault → fault.isEarly = false

section Late

variable {α β : Type}

theorem late_ok (a : α) : Late (.ok a) := by
  intro fault h
  cases h

theorem late_error {fault : Fault} (h : fault.isEarly = false) :
    Late (.error fault : Except Fault α) := by
  intro other hother
  cases hother
  exact h

theorem Late.bind {x : Except Fault α} {f : α → Except Fault β} (hx : Late x)
    (hf : ∀ a, Late (f a)) : Late (x >>= f) := by
  cases x with
  | error fault => exact late_error (hx fault rfl)
  | ok a => exact hf a

/-- Whatever is wrong with a setting, it shows late. -/
theorem late_ofSettings (x : Except Settings.Fault α) : Late (x.mapError Fault.ofSettings) := by
  cases x with
  | error fault => cases fault <;> exact late_error rfl
  | ok a => exact late_ok a

end Late

theorem Fault.isEarly_ofWalk (fault : Walk.Fault) : (Fault.ofWalk fault).isEarly = false := by
  cases fault <;> rfl

/-! ## The analysis of the units -/

namespace Engine

theorem late_reportPathFor (template : Value) (unit : String) :
    Late (reportPathFor template unit) := by
  unfold reportPathFor
  split
  · exact late_ok _
  · split
    · exact late_ok _
    · split <;> exact late_error rfl
    · split <;> exact late_error rfl
    · split <;> exact late_error rfl
    · exact late_error rfl

theorem late_writeReport (template : Value) (result : AnalysisResult) (r : Run) :
    Late (writeReport template result r).2 := by
  rw [writeReport_snd]
  cases hpath : reportPathFor template result.unit with
  | error fault => exact late_error (late_reportPathFor template result.unit fault hpath)
  | ok asked =>
    cases asked with
    | none => exact late_ok _
    | some report =>
      dsimp only
      split
      · exact late_error rfl
      · exact late_ok _

theorem late_newDiagnostics (e : Engine) (terminal : Terminal) :
    Late (e.newDiagnostics terminal) := by
  refine (late_ofSettings _).bind fun enabled => ?_
  split
  · exact late_ok _
  · exact (late_ofSettings _).bind fun color => late_ok _

theorem late_analyzeUnit (e : Engine) (terminal : Terminal) (unit : ParsedUnit) (r : Run) :
    Late (e.analyzeUnit terminal unit r).2 := by
  rw [analyzeUnit]
  cases hdiagnostics : e.newDiagnostics terminal with
  | error fault => exact late_error (late_newDiagnostics e terminal fault hdiagnostics)
  | ok diagnostics =>
    dsimp only
    rcases (Walker.start e.policy (some diagnostics)).1.walk (some unit.root) .empty
      (Walker.start e.policy (some diagnostics)).2 with ⟨state, fault | _⟩
    · exact late_error (Fault.isEarly_ofWalk fault)
    · dsimp only
      cases e.settings.reportPath with
      | error fault => cases fault <;> exact late_error rfl
      | ok template => exact late_writeReport template _ _

/-- A unit that the frontend refuses has a result that says so. -/
theorem analyze_of_refused {e : Engine} {tools : Toolchain} {path : String} {source : Option Bytes}
    {r : Run} {error : FrontendError}
    (h : (e.frontend.parse tools r.fs path source).2 = .error (.refused error))
    (terminal : Terminal) :
    (e.analyze tools terminal path source r).2 =
      .ok { AnalysisResult.start path with error := some error.message } := by
  rw [analyze]
  rcases hparse : e.frontend.parse tools r.fs path source with ⟨events, parsed⟩
  rw [hparse] at h
  obtain rfl : parsed = .error (.refused error) := h
  rfl

theorem late_analyze (e : Engine) (tools : Toolchain) (terminal : Terminal) (path : String)
    (source : Option Bytes) (r : Run) : Late (e.analyze tools terminal path source r).2 := by
  rcases hparse : e.frontend.parse tools r.fs path source with ⟨events, (error | _ | _) | unit⟩
  · -- The one early fault that can arise here does not leave the unit.
    rw [analyze_of_refused (by rw [hparse])]
    exact late_ok _
  · rw [analyze, hparse]
    exact late_error rfl
  · rw [analyze, hparse]
    exact late_error rfl
  · rw [analyze, hparse]
    exact late_analyzeUnit e terminal unit _

theorem late_analyzePaths (e : Engine) (tools : Toolchain) (terminal : Terminal)
    (paths : List String) (r : Run) : Late (e.analyzePaths tools terminal paths r).2 := by
  induction paths generalizing r with
  | nil => exact late_ok []
  | cons path rest ih =>
    rw [analyzePaths]
    rcases hfirst : e.analyze tools terminal path none r with ⟨r₁, fault | result⟩
    · exact late_error (late_analyze e tools terminal path none r fault (by rw [hfirst]))
    · dsimp only
      rcases hrest : e.analyzePaths tools terminal rest r₁ with ⟨r₂, fault | results⟩
      · exact late_error (ih r₁ fault (by rw [hrest]))
      · exact late_ok _

end Engine

/-! ## The summary -/

namespace Program

theorem late_summarize (format : Value) (results : List AnalysisResult) :
    Late (summarize format results) := by
  unfold summarize
  split
  · split
    · split
      · exact late_ok _
      · exact late_error rfl
    · exact late_error rfl
  · exact late_error rfl
  · exact late_error rfl

theorem late_deliver (r : AnalyzeRequest) (summary : String) (run : Engine.Run) :
    Late (deliver r summary run).2 := by
  rw [deliver]
  split
  · exact late_ok _
  · split
    · exact late_ok _
    · exact late_error rfl

theorem late_finish (r : AnalyzeRequest) (settings : Settings) (results : List AnalysisResult)
    (run : Engine.Run) : Late (finish r settings results run).2 := by
  rw [finish]
  split
  · exact late_ok _
  · cases hsummary : summaryOf settings results with
    | error fault =>
      have hlate : Late (summaryOf settings results) :=
        (late_ofSettings _).bind fun format => late_summarize format results
      exact late_error (hlate fault hsummary)
    | ok summary =>
      dsimp only
      rcases hdeliver : deliver r summary run with ⟨effects, fault | done⟩
      · exact late_error (late_deliver r summary run fault (by rw [hdeliver]))
      · exact late_ok _

/-! ## The preparation -/

/-- Once the preparation is through, a request fails with late faults only. -/
theorem late_analyze {r : AnalyzeRequest} {s : Surroundings} {prepared : Engine × List String}
    (h : prepare r s = .ok prepared) : Late (analyze r s).2 := by
  obtain ⟨e, units⟩ := prepared
  rw [analyze, h]
  dsimp only
  split
  · exact late_ok _
  · rcases hunits : e.analyzePaths s.tools s.terminal units ⟨s.fs, []⟩ with ⟨run, fault | results⟩
    · exact late_error (Engine.late_analyzePaths e s.tools s.terminal units ⟨s.fs, []⟩ fault
        (by rw [hunits]))
    · exact late_finish r e.settings results run

theorem prepare_of_isEarly {r : AnalyzeRequest} {s : Surroundings} {fault : Fault}
    (h : (analyze r s).2 = .error fault) (hearly : fault.isEarly = true) :
    prepare r s = .error fault := by
  cases hprepare : prepare r s with
  | ok prepared =>
    rw [late_analyze hprepare fault h] at hearly
    cases hearly
  | error other =>
    simp only [analyze, hprepare] at h
    rw [Except.error.inj h]

end Program

/-- The path leads to a file or a directory. -/
def FileSystem.Leads (fs : FileSystem) (path : String) : Prop :=
  ∃ names entry, fs.locate path = .ok (.existing names entry)

theorem FileSystem.leads_iff {fs : FileSystem} {path : String} :
    fs.Leads path ↔ fs.pathExists path = .ok true := by
  constructor
  · rintro ⟨names, entry, hlocate⟩
    rw [pathExists, status, hlocate]
    rfl
  · intro h
    rw [pathExists, status] at h
    split at h
    · exact ⟨_, _, ‹_›⟩
    all_goals cases h

namespace Program

theorem leads_of_unitsOf {fs : FileSystem} {settings : Settings} {path : String}
    {units : List String} (h : unitsOf fs settings path = .ok units) : fs.Leads path := by
  rw [unitsOf] at h
  split at h
  · exact FileSystem.leads_iff.mpr ‹_›
  · cases h

theorem unitsOf_of_not_leads {fs : FileSystem} {path : String} (h : ¬ fs.Leads path)
    (settings : Settings) : unitsOf fs settings path = .error (.noSuchPath path) := by
  rw [unitsOf]
  split
  · exact absurd (FileSystem.leads_iff.mpr ‹_›) h
  · rfl

/-- The preparation does not get past a path that does not exist. -/
theorem exists_prepare_error {r : AnalyzeRequest} {s : Surroundings} {path : String}
    (hpath : path ∈ r.paths) (hmissing : ¬ s.fs.Leads path) :
    ∃ fault, prepare r s = .error fault := by
  cases hprepare : prepare r s with
  | error fault => exact ⟨fault, rfl⟩
  | ok prepared =>
    -- All paths are looked at before there is a frontend, so the missing one has been listed too.
    exfalso
    rw [prepare] at hprepare
    obtain ⟨settings, -, hprepare⟩ := exists_of_bind_eq_ok hprepare
    obtain ⟨units, hunits, -⟩ := exists_of_bind_eq_ok hprepare
    obtain ⟨listed, hlisted⟩ := exists_of_mapM_eq_ok hunits path hpath
    exact hmissing (leads_of_unitsOf hlisted)

theorem prepare_of_first_missing {r : AnalyzeRequest} {s : Surroundings} {settings : Settings}
    {before after : List String} {path : String} (hsettings : r.settings s.fs = .ok settings)
    (hpaths : r.paths = before ++ path :: after)
    (hbefore : ∀ p ∈ before, ∃ units, unitsOf s.fs settings p = .ok units)
    (hmissing : ¬ s.fs.Leads path) : prepare r s = .error (.noSuchPath path) := by
  have hunits : r.paths.mapM (unitsOf s.fs settings) = .error (.noSuchPath path) := by
    rw [hpaths]
    exact mapM_eq_error hbefore (unitsOf_of_not_leads hmissing settings)
  rw [prepare, hsettings]
  change (r.paths.mapM (unitsOf s.fs settings) >>= _) = _
  rw [hunits]
  rfl

/-! ## The command -/

/-- The fault that the program ends with. -/
def Ending.fault? : Ending → Option Fault
  | exit _ => none
  | reported fault => some fault
  | fallen fault => some fault

/-- What the error stream shows of a fault. -/
def faultText (fault : Fault) : String :=
  (fault.report?.map fun report => "Error: " ++ report ++ "\n").getD ""

theorem fault?_outcome_iff {verbose debug : Bool} {effects : Effects} {result : Except Fault Nat}
    {fault : Fault} :
    (outcome verbose debug effects result).ending.fault? = some fault ↔ result = .error fault := by
  cases result with
  | ok status => simp [outcome, Ending.fault?]
  | error other =>
    cases hreport : other.report? with
    | none => simp [outcome, hreport, Ending.fault?]
    | some report => cases debug <;> simp [outcome, hreport, Ending.fault?]

/-- A command that fails in the preparation leaves everything as it was, and shows the fault. -/
theorem run_of_prepare_error {words : List String} {r : AnalyzeRequest} {s : Surroundings}
    {fault : Fault} (hread : Request.read words = .perform (.analyze r))
    (h : prepare r s = .error fault) :
    (run s words).fs = s.fs ∧ (run s words).out = "" ∧ (run s words).err = faultText fault ∧
      (run s words).ending.fault? = some fault ∧ (analyze r s).1.events = [] := by
  have hrun : run s words = perform s (.analyze r) := by rw [run, hread]
  have hevents : (analyze r s).1.events = [] := by rw [analyze, h]
  rw [hrun, perform_of_prepare_error h, faultText]
  cases fault.report? with
  | none => exact ⟨rfl, rfl, rfl, rfl, hevents⟩
  | some report => cases s.debug <;> exact ⟨rfl, rfl, rfl, rfl, hevents⟩

/-- **A command that cannot be carried out leaves everything as it was.**

* If one of its paths does not exist, wherever it stands among the others, or if the command ends in
  an early fault, then the file system is the one from before, the standard output is empty, nothing
  has happened, no remark among it, and the error stream has the report of the fault and nothing
  else.
* The path that does not exist is named, if the settings can be loaded and no path in front of it
  fails.
* No early fault comes out of the analysis of units, with any frontend, parsers, paths and sources:
  a unit that the frontend refuses has a result that says so. -/
theorem run_leaves_untouched {words : List String} {r : AnalyzeRequest}
    (hread : Request.read words = .perform (.analyze r)) (s : Surroundings) :
    let outcome := run s words
    ((∃ path ∈ r.paths, ¬ s.fs.Leads path) ∨
        (∃ fault, outcome.ending.fault? = some fault ∧ fault.isEarly = true) →
      outcome.fs = s.fs ∧ outcome.out = "" ∧ (analyze r s).1.events = [] ∧
      ∃ fault, outcome.ending.fault? = some fault ∧ outcome.err = faultText fault) ∧
    (∀ settings before path after, r.settings s.fs = .ok settings →
      r.paths = before ++ path :: after →
      (∀ p ∈ before, ∃ units, unitsOf s.fs settings p = .ok units) → ¬ s.fs.Leads path →
      outcome.ending.fault? = some (.noSuchPath path) ∧
      outcome.err = "Error: No such file or directory: " ++ path ++ "\n") ∧
    (∀ (e : Engine) tools terminal path source start,
      let analyzed := (e.analyze tools terminal path source start).2
      (∀ fault, analyzed = .error fault → fault.isEarly = false) ∧
      ∀ error, (e.frontend.parse tools start.fs path source).2 = .error (.refused error) →
        analyzed = .ok { AnalysisResult.start path with error := some error.message }) ∧
    (∀ (e : Engine) tools terminal paths start fault,
      (e.analyzePaths tools terminal paths start).2 = .error fault → fault.isEarly = false) := by
  intro outcome
  have hrun : outcome = perform s (.analyze r) := by
    change run s words = _
    rw [run, hread]
  refine ⟨fun h => ?_, ?_, ?_, ?_⟩
  · -- Either way the preparation has failed.
    obtain ⟨fault, hprepare⟩ : ∃ fault, prepare r s = .error fault := by
      rcases h with ⟨path, hpath, hmissing⟩ | ⟨fault, hfault, hearly⟩
      · exact exists_prepare_error hpath hmissing
      · rw [hrun, perform, fault?_outcome_iff] at hfault
        exact ⟨fault, prepare_of_isEarly hfault hearly⟩
    obtain ⟨hfs, hout, herr, hending, hevents⟩ := run_of_prepare_error hread hprepare
    exact ⟨hfs, hout, hevents, fault, hending, herr⟩
  · intro settings before path after hsettings hpaths hbefore hmissing
    obtain ⟨-, -, herr, hending, -⟩ := run_of_prepare_error hread
      (prepare_of_first_missing hsettings hpaths hbefore hmissing)
    refine ⟨hending, herr.trans ?_⟩
    simp only [faultText, Fault.report?, Option.map_some, Option.getD_some, ← String.append_assoc]
    rfl
  · intro e tools terminal path source start
    exact ⟨Engine.late_analyze e tools terminal path source start,
      fun error h => Engine.analyze_of_refused h terminal⟩
  · intro e tools terminal paths start
    exact Engine.late_analyzePaths e tools terminal paths start

/-- Two sources of one letter each, and no compiler. -/
def letterSurroundings : Surroundings where
  fs := Engine.stemFiles
  tools := Engine.letterTools
  terminal := ⟨false⟩
  debug := false
  interrupted := false

/-- The request that a command line amounts to, if it is one. -/
def requestOf? (words : List String) : Option Request :=
  match Request.read words with
  | .perform request => some request
  | _ => none

theorem read_of_requestOf? {words : List String} {request : Request}
    (h : requestOf? words = some request) : Request.read words = .perform request := by
  rw [requestOf?] at h
  split at h
  · rw [← Option.some.inj h]
    assumption
  · cases h

/-- A path that does not exist between two that do, and a frontend that is not available: both
commands leave the files as they were.  A command with neither writes a report. -/
theorem run_leaves_untouched_letters :
    let outcome := run letterSurroundings
    let missing := outcome ["analyze", "a.c", "gone.c", "b.c", "-v"]
    let unavailable := outcome ["analyze", "a.c", "--frontend", "clang"]
    (missing.fs = Engine.stemFiles ∧ missing.out = "" ∧
      missing.ending.fault? = some (.noSuchPath "gone.c") ∧
      missing.err = "Error: No such file or directory: " ++ "gone.c" ++ "\n") ∧
    (unavailable.fs = Engine.stemFiles ∧ unavailable.out = "" ∧
      unavailable.ending.fault? = some (.frontend .noLibrary)) ∧
    ((outcome ["analyze", "a.c", "-q"]).fs.read "results.cy").toOption =
      some (bytesOf "Function: f, Cyclomatic Complexity: 1\n") := by
  intro outcome missing unavailable
  let request : AnalyzeRequest := { paths := ["a.c", "gone.c", "b.c"], verbose := true }
  have hgone : ¬ Engine.stemFiles.Leads "gone.c" := by
    rw [FileSystem.leads_iff, ← toOption_eq_some_iff]
    decide +kernel
  have hmissing : Request.read ["analyze", "a.c", "gone.c", "b.c", "-v"] =
      .perform (.analyze request) := read_of_requestOf? (by decide +kernel)
  have hunavailable : Request.read ["analyze", "a.c", "--frontend", "clang"] =
      .perform (.analyze { paths := ["a.c"], frontend := some "clang" }) :=
    read_of_requestOf? (by decide +kernel)
  refine ⟨?_, ?_, by decide +kernel⟩
  · obtain ⟨huntouched, hnamed, -⟩ := run_leaves_untouched hmissing letterSurroundings
    have hfirst : (request.settings Engine.stemFiles).toOption.any (fun settings =>
        (unitsOf Engine.stemFiles settings "a.c").toOption.isSome) = true := by decide +kernel
    obtain ⟨settings, hsettings, hunits⟩ := (Option.any_eq_true _ _).mp hfirst
    obtain ⟨units, hunits⟩ := Option.isSome_iff_exists.mp hunits
    obtain ⟨hfs, hout, -⟩ := huntouched (.inl ⟨"gone.c", by simp [request], hgone⟩)
    have hnamed := hnamed settings ["a.c"] "gone.c" ["b.c"]
      (toOption_eq_some_iff.mp hsettings) rfl
      (by simpa using ⟨units, toOption_eq_some_iff.mp hunits⟩) hgone
    exact ⟨hfs, hout, hnamed⟩
  · have hfault : unavailable.ending.fault? = some (.frontend .noLibrary) := by decide +kernel
    obtain ⟨hfs, hout, -⟩ :=
      (run_leaves_untouched hunavailable letterSurroundings).1 (.inr ⟨_, hfault, rfl⟩)
    exact ⟨hfs, hout, hfault⟩

end Program

end Cyclometry
