import Mathlib.Data.List.Forall2
import Cyclometry.Proofs.IndependentUnits

/-!
# The files that a run leaves behind

A run changes files only by the reports it writes, and each report takes the whole place of what was
at its names before.  So the content of a file after a run can be read off the results: it is the
report of the last unit that was written there, or else what it was at the start
(`analyzePaths_files`).

One unit writes at most one file (`analyze_files`).  Where a path of a report leads to does not
change during the run, because no directory does, so it may be asked of the file system of the
start (`writtenTo?_congr`).
-/

namespace Cyclometry

namespace AnalysisResult

/-- The names that the report of a unit was written to. -/
def writtenTo? (fs : FileSystem) (result : AnalysisResult) : Option (List String) :=
  if result.reportWritten then
    result.reportPath.bind fun path => (fs.writeTarget path).toOption
  else none

/-- The last of some results whose report was written to some names. -/
def lastWrittenTo? (fs : FileSystem) (names : List String) (results : List AnalysisResult) :
    Option AnalysisResult :=
  results.reverse.find? fun result => result.writtenTo? fs = some names

theorem writtenTo?_congr {fs fs' : FileSystem} (h : fs.Grown fs') (result : AnalysisResult) :
    result.writtenTo? fs' = result.writtenTo? fs := by
  simp only [writtenTo?, h.writeTarget_eq]

theorem lastWrittenTo?_cons (fs : FileSystem) (names : List String) (result : AnalysisResult)
    (results : List AnalysisResult) :
    lastWrittenTo? fs names (result :: results) =
      (lastWrittenTo? fs names results).or
        (if result.writtenTo? fs = some names then some result else none) := by
  rw [lastWrittenTo?, List.reverse_cons, List.find?_append, List.find?_singleton]
  simp only [lastWrittenTo?, decide_eq_true_eq]

/-- The file with the report of a unit. -/
def reportFile (result : AnalysisResult) : Finding := .file (bytesOf (Report.text result.tally))

end AnalysisResult

namespace Engine

variable {e : Engine} {tools : Toolchain} {terminal : Terminal} {path : String}
  {source : Option Bytes} {r r' : Run} {result : AnalysisResult}

/-- One unit changes nothing but the file that its report is written to. -/
theorem analyze_files (h : e.analyze tools terminal path source r = (r', .ok result)) :
    r.fs.Grown r'.fs ∧ ∀ names, r'.fs.finding names =
      if result.writtenTo? r.fs = some names then result.reportFile else r.fs.finding names := by
  have hcourse := e.course_analyze tools terminal path source r
  rw [h] at hcourse
  generalize r'.fs = fs' at hcourse ⊢
  cases hcourse with
  | refused | unreported | unwritten => exact ⟨.refl r.fs, fun names => rfl⟩
  | @written state report target hfinds hreport htarget =>
    refine ⟨(FileSystem.Grown.refl r.fs).place htarget _, fun names => ?_⟩
    rw [FileSystem.finding_place (FileSystem.of_writeTarget htarget).2]
    have hto : AnalysisResult.writtenTo? r.fs { AnalysisResult.ofWalk path state with
        reportPath := some report, reportWritten := true } = some target := by
      simp [AnalysisResult.writtenTo?, htarget, Except.toOption]
    simp only [hto, Option.some.injEq, eq_comm (a := names)]
    rfl

/-- What a run that returns consists of. -/
theorem analyzePaths_cons_eq_ok {rest : List String} {results : List AnalysisResult}
    (h : e.analyzePaths tools terminal (path :: rest) r = (r', .ok results)) :
    ∃ r₁ result others, e.analyze tools terminal path none r = (r₁, .ok result) ∧
      e.analyzePaths tools terminal rest r₁ = (r', .ok others) ∧ results = result :: others := by
  rw [analyzePaths] at h
  rcases hfirst : e.analyze tools terminal path none r with ⟨r₁, fault | result⟩
  · rw [hfirst] at h
    cases h
  · rw [hfirst] at h
    dsimp only at h
    rcases hrest : e.analyzePaths tools terminal rest r₁ with ⟨r₂, fault | others⟩
    · rw [hrest] at h
      cases h
    · rw [hrest] at h
      cases h
      exact ⟨r₁, result, others, rfl, hrest, rfl⟩

/-- After a run, the last report that was written to some names is there. -/
theorem finding_analyzePaths {paths : List String} {results : List AnalysisResult}
    (h : e.analyzePaths tools terminal paths r = (r', .ok results)) :
    r.fs.Grown r'.fs ∧ ∀ names, r'.fs.finding names =
      match AnalysisResult.lastWrittenTo? r.fs names results with
      | some result => result.reportFile
      | none => r.fs.finding names := by
  induction paths generalizing r results with
  | nil =>
    cases h
    exact ⟨.refl _, fun names => rfl⟩
  | cons path rest ih =>
    obtain ⟨r₁, result, others, hfirst, hrest, rfl⟩ := analyzePaths_cons_eq_ok h
    obtain ⟨hgrown, hfiles⟩ := analyze_files hfirst
    obtain ⟨hgrown', hfiles'⟩ := ih hrest
    refine ⟨hgrown.trans hgrown', fun names => ?_⟩
    have hlast : AnalysisResult.lastWrittenTo? r₁.fs names others =
        AnalysisResult.lastWrittenTo? r.fs names others := by
      simp only [AnalysisResult.lastWrittenTo?, AnalysisResult.writtenTo?_congr hgrown]
    rw [hfiles', hlast, hfiles, AnalysisResult.lastWrittenTo?_cons]
    cases AnalysisResult.lastWrittenTo? r.fs names others with
    | some last => rfl
    | none =>
      rw [Option.none_or]
      split_ifs <;> rfl

/-! ## Units with a report -/

theorem reportOf_text {template : String} (htemplate : e.settings.reportPath = .ok (.text template))
    (hne : template ≠ "") (path : String) :
    e.reportOf path = .ok (some (Report.pathFor template path)) := by
  have htruthy : (Value.text template).truthy = true := by
    simpa [Value.truthy] using hne
  rw [reportOf, htemplate]
  simp only [reportPathFor, htruthy]
  rfl

/-- A unit that is not refused has the result of its walk, whatever becomes of its report, and a
unit without a written report changes no file. -/
theorem analyze_of_template {template : String}
    (htemplate : e.settings.reportPath = .ok (.text template)) (hne : template ≠ "")
    (h : e.analyze tools terminal path source r = (r', .ok result)) :
    (∃ error, (e.frontend.parse tools r.fs path source).2 = .error (.refused error) ∧
      result = { AnalysisResult.start path with error := some error.message } ∧ r'.fs = r.fs) ∨
    (∃ state, e.Finds tools terminal r.fs path source state ∧
      let report := Report.pathFor template path
      result = { AnalysisResult.ofWalk path state with
        reportPath := some report
        reportWritten := (r.fs.writeTarget report).toOption.isSome } ∧
      ((r.fs.writeTarget report).toOption = none → r'.fs = r.fs)) := by
  have hcourse := e.course_analyze tools terminal path source r
  rw [h] at hcourse
  generalize r'.fs = fs' at hcourse ⊢
  have hreport := reportOf_text htemplate hne path
  cases hcourse with
  | refused hparse => exact .inl ⟨_, hparse, rfl, rfl⟩
  | unreported hfinds hnone =>
    rw [hreport] at hnone
    cases hnone
  | @unwritten state report hfinds hsome htarget =>
    rw [hreport] at hsome
    obtain rfl := Option.some.inj (Except.ok.inj hsome)
    refine .inr ⟨state, hfinds, ?_, fun _ => rfl⟩
    rw [htarget]
    rfl
  | @written state report names hfinds hsome htarget =>
    rw [hreport] at hsome
    obtain rfl := Option.some.inj (Except.ok.inj hsome)
    refine .inr ⟨state, hfinds, ?_, fun hnone => ?_⟩
    · rw [htarget]
      rfl
    · rw [htarget] at hnone
      cases hnone

/-- The results of a run are those of its units, in their order, and each unit that is not refused
has the report path of the template. -/
theorem forall₂_analyzePaths {template : String}
    (htemplate : e.settings.reportPath = .ok (.text template)) (hne : template ≠ "")
    {paths : List String} {results : List AnalysisResult}
    (h : e.analyzePaths tools terminal paths r = (r', .ok results)) :
    List.Forall₂ (fun path result => result.unit = path ∧
      result.reportPath = if result.error = none then some (Report.pathFor template path) else none)
      paths results := by
  induction paths generalizing r results with
  | nil =>
    cases h
    exact .nil
  | cons path rest ih =>
    obtain ⟨r₁, result, others, hfirst, hrest, rfl⟩ := analyzePaths_cons_eq_ok h
    refine .cons ?_ (ih hrest)
    rcases analyze_of_template htemplate hne hfirst with
      ⟨error, -, rfl, -⟩ | ⟨state, -, rfl, -⟩
    · exact ⟨rfl, rfl⟩
    · exact ⟨rfl, rfl⟩

/-- **The files that a run leaves behind.**  Let there be a template for the paths of reports, and
let a run return.  Then

* at all names there is the report of the last unit, in the order of the units, whose report was
  written there, and otherwise what was there at the start;
* the current directory is the same;
* the results are those of the units in their order, with the report paths of the template;
* at any time, a unit that is refused and a unit whose report cannot be written change nothing, and
  the result is what the walk has found, whatever becomes of the report. -/
theorem analyzePaths_files (e : Engine) (tools : Toolchain) (terminal : Terminal)
    {template : String} (htemplate : e.settings.reportPath = .ok (.text template))
    (hne : template ≠ "") {paths : List String} {r r' : Run} {results : List AnalysisResult}
    (hrun : e.analyzePaths tools terminal paths r = (r', .ok results)) :
    (∀ names, r'.fs.finding names =
      match AnalysisResult.lastWrittenTo? r.fs names results with
      | some result => .file (bytesOf (Report.text result.tally))
      | none => r.fs.finding names) ∧
    r'.fs.cwd = r.fs.cwd ∧
    List.Forall₂ (fun path result => result.unit = path ∧
      result.reportPath = if result.error = none then some (Report.pathFor template path) else none)
      paths results ∧
    ∀ (path : String) (s s' : Run) (result : AnalysisResult),
      e.analyze tools terminal path none s = (s', .ok result) →
      let report := Report.pathFor template path
      (∃ error, (e.frontend.parse tools s.fs path none).2 = .error (.refused error) ∧
        result = { AnalysisResult.start path with error := some error.message } ∧
        s'.fs = s.fs) ∨
      (∃ state, e.Finds tools terminal s.fs path none state ∧
        result = { AnalysisResult.ofWalk path state with
          reportPath := some report
          reportWritten := (s.fs.writeTarget report).toOption.isSome } ∧
        ((s.fs.writeTarget report).toOption = none → s'.fs = s.fs)) := by
  obtain ⟨hgrown, hfiles⟩ := finding_analyzePaths hrun
  exact ⟨hfiles, hgrown.cwd, forall₂_analyzePaths htemplate hne hrun,
    fun path s s' result h => analyze_of_template htemplate hne h⟩

/-- Of the five units of the sample, two are written to one file, in which nothing is left of its
longer old content, one is not written, and two are refused. -/
theorem analyzePaths_files_stemPaths :
    ∃ r' results, stemRun = (r', .ok results) ∧
      results.map (·.writtenTo? stemFiles) =
        [some ["a", "report"], none, none, none, some ["a", "report"]] ∧
      stemFiles.finding ["a", "report"] =
        .file (bytesOf "an old report, longer than the new one") ∧
      r'.fs.finding ["a", "report"] =
        .file (bytesOf "Function: f, Cyclomatic Complexity: 1\n") ∧
      ∀ names, names ≠ ["a", "report"] → r'.fs.finding names = stemFiles.finding names := by
  have hview : stemRun.2.toOption.map
      (fun results => (results.map (·.writtenTo? stemFiles),
        (AnalysisResult.lastWrittenTo? stemFiles ["a", "report"] results).map fun result =>
          Report.text result.tally)) =
      some ([some ["a", "report"], none, none, none, some ["a", "report"]],
        some "Function: f, Cyclomatic Complexity: 1\n") := by
    decide +kernel
  rcases hrun : stemRun with ⟨r', fault | results⟩
  · rw [hrun] at hview
    cases hview
  rw [hrun] at hview
  obtain ⟨htargets, hlast⟩ := Prod.mk.inj (Option.some.inj hview)
  obtain ⟨result, hresult, htext⟩ := Option.map_eq_some_iff.mp hlast
  have htemplate : stemEngine.settings.reportPath = .ok (.text "\x7bstem\x7d/report") := by rfl
  obtain ⟨hfiles, -⟩ :=
    analyzePaths_files stemEngine letterTools ⟨false⟩ htemplate (by decide) hrun
  refine ⟨r', results, rfl, htargets, by decide +kernel, ?_, fun names hnames => ?_⟩
  · rw [hfiles, hresult]
    dsimp only
    rw [htext]
  · have hnone : AnalysisResult.lastWrittenTo? stemFiles names results = none := by
      refine List.find?_eq_none.mpr fun result hmem hto => ?_
      have hmem : some names ∈ results.map (·.writtenTo? stemFiles) :=
        List.mem_map.mpr ⟨result, List.mem_reverse.mp hmem, of_decide_eq_true hto⟩
      rw [htargets] at hmem
      simp [hnames] at hmem
    rw [hfiles, hnone]

end Engine

end Cyclometry
