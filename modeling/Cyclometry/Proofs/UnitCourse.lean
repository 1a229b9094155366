import Cyclometry.Analysis
import Cyclometry.Proofs.FileContents

/-!
# The course of one unit

What the analysis of a unit can come to is said once (`Engine.Course`): the run stops, the unit is
refused, or it is walked and its report is not asked for, not written, or written.  Only the last of
these changes the file system, by one file.

The result of a unit depends on the file system in few ways (`analyze_snd_congr`): through what the
frontend makes of the unit, and through whether the path of the report can be written to.
-/

namespace Cyclometry

/-- The result of a unit whose walk has come to an end, without a report. -/
def AnalysisResult.ofWalk (path : String) (state : Walk.State) : AnalysisResult :=
  { AnalysisResult.start path with
    tally := state.tally
    functions := state.outcome.functions
    excluded := state.outcome.excluded
    anomalies := state.outcome.anomalies
    diagnostics := ((state.diagnostics.map Diagnostics.issued).getD []).map .issued }

/-! ## Reports -/

namespace FileSystem

/-- A path is refused for a NUL character only by the check that comes first. -/
theorem writeTarget_eq_nulCharacter_iff {fs : FileSystem} {path : String} :
    fs.writeTarget path = .error .nulCharacter ↔ checkPath path = .error .nulCharacter := by
  rw [writeTarget, locate]
  cases checkPath path with
  | error error => simp
  | ok _ =>
    by_cases hslash : path.endsWith "/" = true
    · simp [hslash]
    · cases follow maxLinks (fs.startOf path) (Path.pieces path) fs with
      | error cause => simp [hslash]
      | ok target => rcases target with ⟨names, _ | _ | _⟩ | _ <;> simp [hslash, Entry.content]

end FileSystem

namespace Report

/-- All that writing a report can come to. -/
theorem write_cases (fs : FileSystem) (t : Tally) (path : String) :
    (∃ names row, fs.writeTarget path = .ok names ∧
      write fs t path = .ok (fs.place names (.file (bytesOf (text t))), true, row)) ∨
    (∃ row, (fs.writeTarget path).toOption = none ∧
      FileSystem.checkPath path ≠ .error .nulCharacter ∧ write fs t path = .ok (fs, false, row)) ∨
    ((fs.writeTarget path).toOption = none ∧
      FileSystem.checkPath path = .error .nulCharacter ∧
      write fs t path = .error .nulCharacter) := by
  have hnul : fs.writeTarget path = .error .nulCharacter ↔
      FileSystem.checkPath path = .error .nulCharacter :=
    FileSystem.writeTarget_eq_nulCharacter_iff
  rw [write, FileSystem.write]
  cases htarget : fs.writeTarget path with
  | ok names => exact .inl ⟨names, _, rfl, rfl⟩
  | error error =>
    rw [htarget] at hnul
    cases error with
    | nulCharacter => exact .inr (.inr ⟨rfl, hnul.mp rfl, rfl⟩)
    | refused cause path => exact .inr (.inl ⟨_, rfl, fun h => (nomatch hnul.mpr h), rfl⟩)

end Report

namespace Engine

variable (e : Engine) (tools : Toolchain) (terminal : Terminal)

/-- The path of the report of a unit, if it gets one. -/
def reportOf (path : String) : Except Fault (Option String) :=
  match e.settings.reportPath with
  | .error fault => .error (.ofSettings fault)
  | .ok template => reportPathFor template path

/-- The unit at a path has a tree, and its walk comes to an end. -/
def Finds (fs : FileSystem) (path : String) (source : Option Bytes) (state : Walk.State) : Prop :=
  ∃ unit diagnostics, (e.frontend.parse tools fs path source).2 = .ok unit ∧
    e.newDiagnostics terminal = .ok diagnostics ∧
    let start := Walker.start e.policy (some diagnostics)
    start.1.walk (some unit.root) .empty start.2 = (state, .ok ())

/-- What the analysis of a unit can come to: the file system behind it, and the result. -/
inductive Course (fs : FileSystem) (path : String) (source : Option Bytes) :
    FileSystem → Except Fault AnalysisResult → Prop
  | stopped (fault : Fault) : Course fs path source fs (.error fault)
  | refused {error : FrontendError}
      (hparse : (e.frontend.parse tools fs path source).2 = .error (.refused error)) :
      Course fs path source fs
        (.ok { AnalysisResult.start path with error := some error.message })
  | unreported {state : Walk.State} (hfinds : e.Finds tools terminal fs path source state)
      (hreport : e.reportOf path = .ok none) :
      Course fs path source fs (.ok (.ofWalk path state))
  | unwritten {state : Walk.State} {report : String}
      (hfinds : e.Finds tools terminal fs path source state)
      (hreport : e.reportOf path = .ok (some report))
      (htarget : (fs.writeTarget report).toOption = none) :
      Course fs path source fs
        (.ok { AnalysisResult.ofWalk path state with reportPath := some report })
  | written {state : Walk.State} {report : String} {names : List String}
      (hfinds : e.Finds tools terminal fs path source state)
      (hreport : e.reportOf path = .ok (some report))
      (htarget : fs.writeTarget report = .ok names) :
      Course fs path source (fs.place names (.file (bytesOf (Report.text state.tally))))
        (.ok { AnalysisResult.ofWalk path state with
          reportPath := some report, reportWritten := true })

end Engine

/-- A tree is that of the unit that was asked for. -/
theorem Frontend.path_of_parse {tools : Toolchain} {fs : FileSystem} {frontend : Frontend}
    {path : String} {source : Option Bytes} {unit : ParsedUnit}
    (h : (frontend.parse tools fs path source).2 = .ok unit) : unit.path = path := by
  cases frontend with
  | grammar asked =>
    rw [parse, parseGrammar] at h
    split at h
    · cases h
    · split at h
      · cases h
      · split at h
        · cases h
        · obtain rfl := Except.ok.inj h
          rfl
  | compiler args =>
    rw [parse, parseCompiler] at h
    dsimp only at h
    split at h
    · cases h
    · obtain rfl := Except.ok.inj h
      rfl

namespace Engine

variable {e : Engine} {tools : Toolchain} {terminal : Terminal} {path : String}
  {source : Option Bytes}

theorem course_writeReport {r : Run} {state : Walk.State} {template : Value}
    (htemplate : e.settings.reportPath = .ok template)
    (hfinds : e.Finds tools terminal r.fs path source state) :
    e.Course tools terminal r.fs path source
      (writeReport template (.ofWalk path state) r).1.fs
      (writeReport template (.ofWalk path state) r).2 := by
  have hreport : e.reportOf path = reportPathFor template path := by rw [reportOf, htemplate]
  have hunit : (AnalysisResult.ofWalk path state).unit = path := rfl
  rw [writeReport, hunit]
  cases hpath : reportPathFor template path with
  | error fault => exact .stopped fault
  | ok asked =>
    rw [hpath] at hreport
    cases asked with
    | none => exact .unreported hfinds hreport
    | some report =>
      dsimp only
      rcases Report.write_cases r.fs (AnalysisResult.ofWalk path state).tally report with
        ⟨names, row, htarget, hwrite⟩ | ⟨row, htarget, -, hwrite⟩ | ⟨-, -, hwrite⟩
      · rw [hwrite]
        exact .written hfinds hreport htarget
      · rw [hwrite]
        exact .unwritten hfinds hreport htarget
      · rw [hwrite]
        exact .stopped _

/-- **The course of one unit**: nothing else can happen. -/
theorem course_analyze (e : Engine) (tools : Toolchain) (terminal : Terminal) (path : String)
    (source : Option Bytes) (r : Run) :
    e.Course tools terminal r.fs path source (e.analyze tools terminal path source r).1.fs
      (e.analyze tools terminal path source r).2 := by
  rw [analyze]
  cases hparse : e.frontend.parse tools r.fs path source with
  | mk events parsed =>
    have hparsed : (e.frontend.parse tools r.fs path source).2 = parsed := by rw [hparse]
    cases parsed with
    | error fault =>
      cases fault with
      | refused error => exact .refused hparsed
      | numeralTooLong => exact .stopped _
      | nulCharacter => exact .stopped _
    | ok unit =>
      obtain rfl := Frontend.path_of_parse hparsed
      dsimp only
      rw [analyzeUnit]
      cases hdiagnostics : e.newDiagnostics terminal with
      | error fault => exact .stopped fault
      | ok diagnostics =>
        dsimp only
        cases hwalk : (Walker.start e.policy (some diagnostics)).1.walk (some unit.root) .empty
            (Walker.start e.policy (some diagnostics)).2 with
        | mk state outcome =>
          cases outcome with
          | error fault => exact .stopped _
          | ok _ =>
            dsimp only
            cases htemplate : e.settings.reportPath with
            | error fault => exact .stopped _
            | ok template =>
              have hfinds : e.Finds tools terminal r.fs unit.path source state :=
                ⟨unit, diagnostics, hparsed, hdiagnostics, hwalk⟩
              exact course_writeReport (r := (r.add events).add state.events) htemplate hfinds

/-! ## What a result depends on -/

theorem writeReport_snd (template : Value) (result : AnalysisResult) (r : Run) :
    (writeReport template result r).2 =
      match reportPathFor template result.unit with
      | .error fault => .error fault
      | .ok none => .ok result
      | .ok (some report) =>
        match FileSystem.checkPath report with
        | .error .nulCharacter => .error (.file .nulCharacter)
        | _ => .ok { result with
            reportPath := some report
            reportWritten := (r.fs.writeTarget report).toOption.isSome } := by
  rw [writeReport]
  cases reportPathFor template result.unit with
  | error fault => rfl
  | ok asked =>
    cases asked with
    | none => rfl
    | some report =>
      dsimp only
      rcases Report.write_cases r.fs result.tally report with
        ⟨names, row, htarget, hwrite⟩ | ⟨row, htarget, hnul, hwrite⟩ | ⟨htarget, hnul, hwrite⟩
      · have hnul : FileSystem.checkPath report ≠ .error .nulCharacter := fun h =>
          nomatch htarget.symm.trans (FileSystem.writeTarget_eq_nulCharacter_iff.mpr h)
        rw [hwrite, htarget]
        dsimp only
        split
        · exact absurd ‹_› hnul
        · rfl
      · rw [hwrite, htarget]
        dsimp only
        split
        · exact absurd ‹_› hnul
        · rfl
      · rw [hwrite, hnul]

/-- **What a result depends on**: what the frontend makes of the unit, and which paths can be
written to. -/
theorem analyze_snd_congr {r r' : Run}
    (hparse : e.frontend.parse tools r'.fs path source = e.frontend.parse tools r.fs path source)
    (htarget : ∀ report,
      (r'.fs.writeTarget report).toOption = (r.fs.writeTarget report).toOption) :
    (e.analyze tools terminal path source r').2 = (e.analyze tools terminal path source r).2 := by
  rw [analyze, analyze, hparse]
  rcases e.frontend.parse tools r.fs path source with ⟨events, (_ | _ | _) | unit⟩
  · rfl
  · rfl
  · rfl
  · dsimp only
    rw [analyzeUnit, analyzeUnit]
    cases e.newDiagnostics terminal with
    | error fault => rfl
    | ok diagnostics =>
      dsimp only
      rcases (Walker.start e.policy (some diagnostics)).1.walk (some unit.root) .empty
        (Walker.start e.policy (some diagnostics)).2 with ⟨state, fault | _⟩
      · rfl
      · dsimp only
        cases e.settings.reportPath with
        | error fault => rfl
        | ok template =>
          dsimp only
          rw [writeReport_snd, writeReport_snd]
          simp only [Run.add, htarget]

end Engine

end Cyclometry
