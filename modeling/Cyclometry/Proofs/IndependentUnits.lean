import Cyclometry.Proofs.UnitCourse

/-!
# Units of one run do not affect each other

The units of a run share nothing but the file system.  A report can only make a difference to a
later unit if it is written where a file is read for that unit, or on the way there
(`Engine.Spares`).  Otherwise the unit has the result that it has alone
(`analyzePaths_snd_eq_alone`).

The grammar-based parser reads the source alone.  The compiler also reads what the source includes,
and a report over such a file does make a difference (`analyzePaths_snd_includingTools`).

The invariant of the run is `Untouched`: the file system has only grown by files, and none of them
stands where a path that is still to be read leads through.
-/

namespace Cyclometry

/-- The work of the compiler depends on the files that it asks for. -/
theorem Compiler.Job.run_congr {fs fs' : FileSystem} (job : Job)
    (h : ∀ path ∈ job.asked fs, fs'.read path = fs.read path) : job.run fs' = job.run fs := by
  induction job with
  | finish result => rfl
  | ask path next ih =>
    obtain ⟨hfirst, hrest⟩ := List.forall_mem_cons.mp h
    rw [run, run, hfirst]
    exact ih (fs.read path) hrest

/-- The paths that a frontend reads for a unit: the source, or whatever the compiler asks for. -/
def Frontend.reads (frontend : Frontend) (tools : Toolchain) (fs : FileSystem) (path : String) :
    List String :=
  match frontend with
  | grammar _ => [(Path.ofString path).text]
  | compiler args => (tools.compiler (fs.absolute path) ⟨path, args, none⟩).asked fs

/-- What a frontend makes of a unit depends on the current directory and on the files that it
reads. -/
theorem Frontend.parse_congr (frontend : Frontend) (tools : Toolchain) {fs fs' : FileSystem}
    {path : String} (hcwd : fs'.cwd = fs.cwd)
    (hread : ∀ read ∈ frontend.reads tools fs path, fs'.read read = fs.read read) :
    frontend.parse tools fs' path none = frontend.parse tools fs path none := by
  have habsolute : fs'.absolute path = fs.absolute path := by
    simp only [FileSystem.absolute, FileSystem.namesOf, hcwd]
  cases frontend with
  | grammar asked =>
    have hsource : sourceOf fs' path none = sourceOf fs path none := by
      unfold sourceOf
      rw [hread _ List.mem_cons_self]
    simp only [parse, parseGrammar, hsource, habsolute]
  | compiler args =>
    have hrun := (tools.compiler (fs.absolute path) ⟨path, args, none⟩).run_congr hread
    simp only [parse, parseCompiler, habsolute, Option.map_none, hrun]

namespace Engine

/-- The result of a unit that is analysed alone. -/
def alone (e : Engine) (tools : Toolchain) (terminal : Terminal) (fs : FileSystem)
    (path : String) : Except Fault AnalysisResult :=
  (e.analyze tools terminal path none ⟨fs, []⟩).2

/-- The names that the path of the report of a unit leads to, if a report can be written there. -/
def reportTarget? (e : Engine) (fs : FileSystem) (unit : String) : Option (List String) :=
  match e.reportOf unit with
  | .ok (some report) => (fs.writeTarget report).toOption
  | _ => none

/-- The report of a unit is written to none of some paths, nor to a leading part of one. -/
def SparesPaths (e : Engine) (fs : FileSystem) (unit : String) (paths : List String) : Prop :=
  ∀ names ∈ e.reportTarget? fs unit, ∀ path ∈ paths, names ∉ fs.waypoints path

instance (e : Engine) (fs : FileSystem) (unit : String) (paths : List String) :
    Decidable (e.SparesPaths fs unit paths) :=
  inferInstanceAs (Decidable (∀ names ∈ e.reportTarget? fs unit, ∀ path ∈ paths,
    names ∉ fs.waypoints path))

/-- The report of a unit is written neither to a file that is read for a later one nor to a leading
part of its path. -/
def Spares (e : Engine) (tools : Toolchain) (fs : FileSystem) (unit later : String) : Prop :=
  e.SparesPaths fs unit (e.frontend.reads tools fs later)

instance (e : Engine) (tools : Toolchain) (fs : FileSystem) : DecidableRel (e.Spares tools fs) :=
  fun unit later => inferInstanceAs (Decidable
    (e.SparesPaths fs unit (e.frontend.reads tools fs later)))

/-- A file system has grown by files only, and what is read for some units can be read as
before. -/
structure Untouched (e : Engine) (tools : Toolchain) (fs fs' : FileSystem) (units : List String) :
    Prop where
  grown : fs.Grown fs'
  reads : ∀ unit ∈ units, ∀ path ∈ e.frontend.reads tools fs unit, ∀ names ∈ fs.waypoints path,
    fs'.finding names = fs.finding names

variable {e : Engine} (tools : Toolchain) (terminal : Terminal) {fs : FileSystem} {path : String}
  {rest : List String} {r : Run}

theorem analyze_snd_of_untouched (h : e.Untouched tools fs r.fs (path :: rest)) :
    (e.analyze tools terminal path none r).2 = e.alone tools terminal fs path := by
  have hread : ∀ read ∈ e.frontend.reads tools fs path, r.fs.read read = fs.read read :=
    fun read hmem =>
      FileSystem.read_eq_of_waypoints h.grown.cwd (h.reads path List.mem_cons_self read hmem)
  exact analyze_snd_congr (r := ⟨fs, []⟩)
    (e.frontend.parse_congr tools h.grown.cwd hread) h.grown.writeTarget_eq

/-- One unit leaves all that is read for later ones as it was. -/
theorem Untouched.step (h : e.Untouched tools fs r.fs (path :: rest))
    (hspares : ∀ later ∈ rest, e.Spares tools fs path later) :
    e.Untouched tools fs (e.analyze tools terminal path none r).1.fs rest := by
  have hrest : e.Untouched tools fs r.fs rest :=
    ⟨h.grown, fun unit hunit => h.reads unit (List.mem_cons_of_mem path hunit)⟩
  have hcourse := e.course_analyze tools terminal path none r
  generalize (e.analyze tools terminal path none r).1.fs = fs' at hcourse ⊢
  generalize (e.analyze tools terminal path none r).2 = outcome at hcourse
  cases hcourse with
  | stopped | refused | unreported | unwritten => exact hrest
  | @written state report names hfinds hreport htarget =>
    -- The report goes where its path led to at the start, which later paths do not lead through.
    have hnames : names ∈ e.reportTarget? fs path := by
      have hsame := h.grown.writeTarget_eq report
      rw [htarget] at hsame
      rw [reportTarget?, hreport]
      exact hsame.symm
    refine ⟨h.grown.place htarget _, fun later hlater read hread x hx => ?_⟩
    have hne : x ≠ names := fun heq => hspares later hlater names hnames read hread (heq ▸ hx)
    rw [FileSystem.finding_place (FileSystem.of_writeTarget htarget).2, if_neg hne]
    exact hrest.reads later hlater read hread x hx

/-- The units of a run have their results one by one.  The induction is on the units that are still
to come. -/
theorem analyzePaths_of_untouched {paths : List String} (h : e.Untouched tools fs r.fs paths)
    (hspares : paths.Pairwise (e.Spares tools fs))
    (hreturns : ∀ path ∈ paths, ∃ result, e.alone tools terminal fs path = .ok result) :
    ∃ results, (e.analyzePaths tools terminal paths r).2 = .ok results ∧
      results.map .ok = paths.map (e.alone tools terminal fs) := by
  induction paths generalizing r with
  | nil => exact ⟨[], rfl, rfl⟩
  | cons path rest ih =>
    obtain ⟨hfirst, hlater⟩ := List.pairwise_cons.mp hspares
    obtain ⟨result, hresult⟩ := hreturns path List.mem_cons_self
    obtain ⟨results, hresults, hmap⟩ := ih (h.step tools terminal hfirst) hlater
      fun p hp => hreturns p (List.mem_cons_of_mem path hp)
    have hhead : (e.analyze tools terminal path none r).2 = .ok result :=
      (analyze_snd_of_untouched tools terminal h).trans hresult
    refine ⟨result :: results, ?_, ?_⟩
    · rw [analyzePaths]
      rcases hrun : e.analyze tools terminal path none r with ⟨r₁, first⟩
      rw [hrun] at hhead hresults
      obtain rfl : first = .ok result := hhead
      dsimp only
      rcases hrun₁ : e.analyzePaths tools terminal rest r₁ with ⟨r₂, others⟩
      rw [hrun₁] at hresults
      obtain rfl : others = .ok results := hresults
      rfl
    · rw [List.map_cons, List.map_cons, hresult, hmap]

/-- **Units of one run do not affect each other.**  If no report is written over a file that is read
for a later unit, or over a part of the way there, and every unit has a result when it is analysed
alone in the file system of the start, then the run has exactly these results, in the order of the
units. -/
theorem analyzePaths_snd_eq_alone (e : Engine) (tools : Toolchain) (terminal : Terminal)
    (fs : FileSystem) (events : List Event) {paths : List String}
    (hspares : paths.Pairwise (e.Spares tools fs))
    (hreturns : ∀ path ∈ paths, ∃ result, e.alone tools terminal fs path = .ok result) :
    ∃ results, (e.analyzePaths tools terminal paths ⟨fs, events⟩).2 = .ok results ∧
      results.map .ok = paths.map (e.alone tools terminal fs) :=
  analyzePaths_of_untouched tools terminal ⟨.refl fs, fun _ _ _ _ _ _ => rfl⟩ hspares hreturns

/-- A directory for the reports of one of two sources, with an old report. -/
def stemFiles : FileSystem where
  top := .dir [
    ("a", .dir [("report", .file "an old report, longer than the new one".toUTF8.toList)]),
    ("a.c", .file "f".toUTF8.toList),
    ("b.c", .file "g".toUTF8.toList)]
  cwd := []

/-- Reports go to a directory for each stem. -/
def stemEngine : Engine where
  settings := .ofFields (Settings.named
    [("report", .map (Settings.named [("path", .text "\x7bstem\x7d/report")]))])
  frontend := .grammar none
  policy := .default

/-- A parser for sources of one letter: each is the name of a function. -/
def letterTools : Toolchain where
  grammar _ _ _ :=
    let node (rule : String) (field : Option String) := Grammar.Node.mk
      ⟨rule, true, field, 0, 1, 0, 0⟩
    ⟨false, node "translation_unit" none [node "function_definition" none [
      node "identifier" (some "declarator") [], node "compound_statement" (some "body") []]]⟩
  compiler _ _ := .finish none
  availability := .noLibrary

/-- One unit twice, whose report is written, one whose report has no directory to go to, one that is
no source, and one that is not there. -/
def stemPaths : List String := ["a.c", "b.c", "notes.txt", "gone.c", "a.c"]

/-- The run of these units. -/
def stemRun : Run × Except Fault (List AnalysisResult) :=
  stemEngine.analyzePaths letterTools ⟨false⟩ stemPaths ⟨stemFiles, []⟩

/-- The five results of a run are those of its units alone. -/
theorem analyzePaths_snd_eq_alone_stemPaths :
    let alone := stemEngine.alone letterTools ⟨false⟩ stemFiles
    stemPaths.Pairwise (stemEngine.Spares letterTools stemFiles) ∧
    (∀ path ∈ stemPaths, ∃ result, alone path = .ok result) ∧
    ∃ results, stemRun.2 = .ok results ∧
      results.map .ok = stemPaths.map alone ∧
      results.map (fun r => (r.unit, r.tally.entries, r.reportWritten, r.error.isSome)) = [
        ("a.c", [("f", 1)], true, false), ("b.c", [("g", 1)], false, false),
        ("notes.txt", [], false, true), ("gone.c", [], false, true),
        ("a.c", [("f", 1)], true, false)] := by
  intro alone
  have hspares : stemPaths.Pairwise (stemEngine.Spares letterTools stemFiles) := by decide +kernel
  have hsome : ∀ path ∈ stemPaths,
      (stemEngine.alone letterTools ⟨false⟩ stemFiles path).toOption.isSome = true := by
    decide +kernel
  have hreturns : ∀ path ∈ stemPaths, ∃ result, alone path = .ok result := by
    intro path hpath
    obtain ⟨result, hresult⟩ := Option.isSome_iff_exists.mp (hsome path hpath)
    exact ⟨result, toOption_eq_some_iff.mp hresult⟩
  obtain ⟨results, hrun, hmap⟩ :=
    analyzePaths_snd_eq_alone stemEngine letterTools ⟨false⟩ stemFiles [] hspares hreturns
  have hrun : stemRun.2 = .ok results := hrun
  refine ⟨hspares, hreturns, results, hrun, hmap, ?_⟩
  have hview : stemRun.2.toOption.map
      (List.map fun r => (r.unit, r.tally.entries, r.reportWritten, r.error.isSome)) = some [
        ("a.c", [("f", 1)], true, false), ("b.c", [("g", 1)], false, false),
        ("notes.txt", [], false, true), ("gone.c", [], false, true),
        ("a.c", [("f", 1)], true, false)] := by decide +kernel
  rw [hrun] at hview
  exact Option.some.inj hview

/-! ## Included files -/

/-- A source and the file that it includes. -/
def includingFiles : FileSystem where
  top := .dir [("b.c", .file "#include \"impl.c\"".toUTF8.toList),
    ("impl.c", .file "f".toUTF8.toList)]
  cwd := []

/-- Reports go to the included file. -/
def includingEngine : Engine where
  settings := .ofFields (Settings.named
    [("report", .map (Settings.named [("path", .text "impl.c")]))])
  frontend := .compiler []
  policy := .default

/-- A compiler that reads a source and the included file, and finds one function if there is its
name in that file. -/
def includingTools : Toolchain where
  grammar := letterTools.grammar
  compiler _ call :=
    let cursor (kind spelling : String) := Compiler.Cursor.mk
      ⟨some kind, spelling, true, some "impl.c", 1, 1, none⟩
    .ask call.path fun _ => .ask "impl.c" fun content => .finish <|
      if content.toOption = some "f".toUTF8.toList then
        some ⟨[], cursor "TRANSLATION_UNIT" "b.c"
          [cursor "FUNCTION_DECL" "f" [cursor "COMPOUND_STMT" "" []]]⟩
      else some ⟨[(3, "unknown type name")], cursor "TRANSLATION_UNIT" "b.c" []⟩
  availability := .available

/-- The report of a unit is not written to the source of the next one, which is the same, nor to a
part of the way there.  It is written to the file that the source includes, so the second result is
not the one of the unit alone. -/
theorem analyzePaths_snd_includingTools :
    let alone := includingEngine.alone includingTools ⟨false⟩ includingFiles
    let run :=
      includingEngine.analyzePaths includingTools ⟨false⟩ ["b.c", "b.c"] ⟨includingFiles, []⟩
    includingEngine.SparesPaths includingFiles "b.c" [(Path.ofString "b.c").text] ∧
    ∃ result first second, alone "b.c" = .ok result ∧ run.2 = .ok [first, second] ∧
      first = result ∧ second ≠ result ∧
      result.tally.entries = [("f", 1)] ∧ second.tally.entries = [] := by
  intro alone run
  have hspares : includingEngine.SparesPaths includingFiles "b.c" [(Path.ofString "b.c").text] := by
    decide +kernel
  have halone : (alone "b.c").toOption.map (·.tally.entries) = some [("f", 1)] := by decide +kernel
  have hrun : run.2.toOption.map (List.map (·.tally.entries)) = some [[("f", 1)], []] := by
    decide +kernel
  have hfirst : run.2.toOption.bind List.head? = (alone "b.c").toOption := by decide +kernel
  obtain ⟨result, hresult, hentries⟩ := Option.map_eq_some_iff.mp halone
  obtain ⟨results, hresults, hview⟩ := Option.map_eq_some_iff.mp hrun
  obtain ⟨first, tail, rfl, -, htail⟩ := List.map_eq_cons_iff.mp hview
  obtain ⟨second, rest, rfl, hsecond, hrest⟩ := List.map_eq_cons_iff.mp htail
  obtain rfl : rest = [] := List.map_eq_nil_iff.mp hrest
  rw [hresults, hresult] at hfirst
  refine ⟨hspares, result, first, second, toOption_eq_some_iff.mp hresult,
    toOption_eq_some_iff.mp hresults, Option.some.inj hfirst, ?_, hentries, hsecond⟩
  rintro rfl
  rw [hentries] at hsecond
  cases hsecond

end Engine

end Cyclometry
