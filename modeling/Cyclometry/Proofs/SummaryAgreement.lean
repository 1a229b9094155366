import Cyclometry.Program
import Cyclometry.Proofs.StoppingUnits
import Cyclometry.Proofs.SummaryRoundTrip

/-!
# The two summaries and the exit status agree

The plain text, the JSON text and the exit status each tell in their own way whether a unit is in
order.  The plain text takes an empty error or report path for none, and counts no function beside
an error; the JSON text shows an empty text as such and counts all functions.  They agree on the
results of a run because these are `Coherent`: an error comes alone and has a message, and a report
has a path.

The path of a report is not empty because the language of a unit is told by the suffix of its name,
and a name with a suffix has a stem (`Path.stem_ne_empty`).
-/

namespace Cyclometry

/-! ## Texts that are not empty -/

theorem Path.stem_ne_empty {p : Path} (h : p.suffix ≠ "") : p.stem ≠ "" := by
  rw [suffix, splitName] at h
  rw [stem, splitName]
  split at h
  · exact absurd rfl h
  · rename_i hparts
    rw [if_neg hparts]
    intro hempty
    simp only [Bool.or_eq_true, not_or, List.isEmpty_iff] at hparts
    refine hparts.2 ?_
    have hlist := congrArg String.toList hempty
    rwa [String.toList_ofList] at hlist

theorem Language.suffix_ne_empty {path : String} (h : (ofPath? path).isSome = true) :
    (Path.ofString path).suffix ≠ "" := by
  intro hempty
  rw [ofPath?, hempty] at h
  exact absurd h (by decide)

theorem Report.expandStem_ne_nil {stem template : List Char} (hstem : stem ≠ [])
    (htemplate : template ≠ []) : expandStem stem template ≠ [] := by
  fun_cases expandStem stem template with
  | case1 => exact absurd rfl htemplate
  | case2 rest => exact fun h => hstem (List.append_eq_nil_iff.mp h).1
  | case3 c rest => exact List.cons_ne_nil _ _

theorem Report.pathFor_ne_empty {template path : String} (htemplate : template ≠ "")
    (hstem : (Path.ofString path).stem ≠ "") : pathFor template path ≠ "" := by
  have hchars {s : String} (hs : s ≠ "") : s.toList ≠ [] :=
    fun h => hs (String.toList_eq_nil_iff.mp h)
  intro hempty
  have hlist := congrArg String.toList hempty
  rw [pathFor, String.toList_ofList] at hlist
  exact expandStem_ne_nil (hchars hstem) (hchars htemplate) hlist

theorem append_ne_empty {s : String} (hs : s ≠ "") (t : String) : s ++ t ≠ "" :=
  fun h => hs (String.append_eq_empty_iff.mp h).1

theorem FrontendError.message_ne_empty (error : FrontendError) : error.message ≠ "" := by
  cases error with
  | unsupported path => exact append_ne_empty (by decide) path
  | cannotRead path error =>
    exact append_ne_empty (append_ne_empty (append_ne_empty (by decide) path) _) error.message
  | noBindings => exact append_ne_empty (by decide) _
  | noLibrary => exact append_ne_empty (by decide) _
  | cannotParse path => exact append_ne_empty (append_ne_empty (by decide) path) _
  | unknown name => exact append_ne_empty (by decide) name

/-! ## Coherent results -/

/-- An error comes alone and has a message, and a report has a path. -/
structure AnalysisResult.Coherent (r : AnalysisResult) : Prop where
  error : ∀ error, r.error = some error →
    error ≠ "" ∧ r = { AnalysisResult.start r.unit with error := some error }
  report : ∀ path, r.reportPath = some path → path ≠ ""

namespace Engine

variable {e : Engine} {tools : Toolchain} {terminal : Terminal} {path : String}
  {source : Option Bytes} {r r' : Run}

theorem pathFor_of_reportOf {report : String} (h : e.reportOf path = .ok (some report)) :
    ∃ template, template ≠ "" ∧ report = Report.pathFor template path := by
  rw [reportOf] at h
  cases hsetting : e.settings.reportPath with
  | error fault =>
    rw [hsetting] at h
    cases h
  | ok v =>
    rw [hsetting] at h
    simp only [reportPathFor] at h
    split at h
    · cases h
    · rename_i htruthy
      cases v with
      | text template =>
        obtain rfl := Option.some.inj (Except.ok.inj h)
        refine ⟨template, ?_, rfl⟩
        rintro rfl
        exact htruthy rfl
      | list items =>
        dsimp only at h
        split at h <;> cases h
      | set members =>
        dsimp only at h
        split at h <;> cases h
      | map fields =>
        dsimp only at h
        split at h <;> cases h
      | _ => cases h

theorem report_ne_empty (he : e.frontend = .grammar none) {fs : FileSystem} {state : Walk.State}
    {report : String} (hfinds : e.Finds tools terminal fs path source state)
    (hreport : e.reportOf path = .ok (some report)) : report ≠ "" := by
  obtain ⟨unit, diagnostics, hparse, -⟩ := hfinds
  have hlanguage : (Language.ofPath? path).isSome = true := by
    rw [he, Frontend.parse, Frontend.parseGrammar] at hparse
    cases hpath : Language.ofPath? path with
    | some language => rfl
    | none =>
      have hnone : Frontend.languageName? none path = none := by
        rw [Frontend.languageName?, hpath]
        rfl
      rw [hnone] at hparse
      cases hparse
  obtain ⟨template, htemplate, rfl⟩ := pathFor_of_reportOf hreport
  exact Report.pathFor_ne_empty htemplate
    (Path.stem_ne_empty (Language.suffix_ne_empty hlanguage))

theorem coherent_analyze (he : e.frontend = .grammar none) {result : AnalysisResult}
    (h : e.analyze tools terminal path source r = (r', .ok result)) : result.Coherent := by
  have hcourse := course_analyze e tools terminal path source r
  rw [h] at hcourse
  generalize r'.fs = fs' at hcourse
  cases hcourse with
  | @refused error hparse =>
    refine ⟨?_, ?_⟩
    · rintro _ ⟨⟩
      exact ⟨error.message_ne_empty, rfl⟩
    · rintro _ ⟨⟩
  | unreported hfinds hreport =>
    refine ⟨?_, ?_⟩
    · rintro _ ⟨⟩
    · rintro _ ⟨⟩
  | unwritten hfinds hreport htarget =>
    refine ⟨?_, ?_⟩
    · rintro _ ⟨⟩
    · rintro _ ⟨⟩
      exact report_ne_empty he hfinds hreport
  | written hfinds hreport htarget =>
    refine ⟨?_, ?_⟩
    · rintro _ ⟨⟩
    · rintro _ ⟨⟩
      exact report_ne_empty he hfinds hreport

/-- Every result of a run is coherent, and there is one for each path. -/
theorem coherent_analyzePaths (he : e.frontend = .grammar none) {paths : List String}
    {results : List AnalysisResult}
    (h : e.analyzePaths tools terminal paths r = (r', .ok results)) :
    results.length = paths.length ∧ ∀ result ∈ results, result.Coherent := by
  induction paths generalizing r results with
  | nil =>
    cases h
    exact ⟨rfl, fun _ hmem => absurd hmem List.not_mem_nil⟩
  | cons path rest ih =>
    obtain ⟨r₁, result, others, hfirst, hrest, rfl⟩ := analyzePaths_cons_eq_ok h
    obtain ⟨hlength, hothers⟩ := ih hrest
    refine ⟨congrArg (· + 1) hlength, List.forall_mem_cons.mpr ⟨?_, hothers⟩⟩
    exact coherent_analyze he hfirst

end Engine

/-! ## Lines -/

namespace Summary

/-- Two characters that tell the lines below the first one of a unit apart. -/
def mark (line : String) : List Char := (line.toList.drop 2).take 2

/-- A line that shows an error. -/
def IsErrorLine (line : String) : Prop := ∃ error, line = "  Error: " ++ error

/-- A line that shows a report which was not written. -/
def IsUnwrittenLine (line : String) : Prop :=
  ∃ path, line = "  Report: " ++ path ++ " (NOT written)"

theorem IsErrorLine.mark_eq {line : String} (h : IsErrorLine line) : mark line = ['E', 'r'] := by
  obtain ⟨error, rfl⟩ := h
  rw [mark, String.toList_append]
  rfl

theorem IsUnwrittenLine.mark_eq {line : String} (h : IsUnwrittenLine line) :
    mark line = ['R', 'e'] := by
  obtain ⟨path, rfl⟩ := h
  rw [mark, String.toList_append, String.toList_append]
  rfl

/-- The line shows that nothing is wrong with a unit. -/
def IsQuiet (line : String) : Prop := ¬ IsErrorLine line ∧ ¬ IsUnwrittenLine line

theorem isQuiet_of_mark {line : String} (herror : mark line ≠ ['E', 'r'])
    (hreport : mark line ≠ ['R', 'e']) : IsQuiet line :=
  ⟨fun h => herror h.mark_eq, fun h => hreport h.mark_eq⟩

theorem isQuiet_header (unit : String) : IsQuiet ("== " ++ unit ++ " ==") := by
  apply isQuiet_of_mark
  all_goals
    rw [mark, String.toList_append, String.toList_append]
    intro heq
    cases (List.cons.inj heq).1

/-- The line of a function goes on with a blank, a sign or a digit. -/
theorem isQuiet_functionLine (f : FunctionResult) : IsQuiet (functionLine f) := by
  have hpadded : ∃ c cs, (Text.padLeft 4 (Decimal.ofInt f.complexity)).toList = c :: cs ∧
      c ≠ 'E' ∧ c ≠ 'R' := by
    rw [Text.padLeft, Text.spaces, String.toList_append, String.toList_ofList]
    cases 4 - (Decimal.ofInt f.complexity).length with
    | succ n => exact ⟨' ', _, rfl, by decide⟩
    | zero =>
      obtain ⟨c, cs, hc, htext | htext⟩ := Json.exists_digit_ofInt f.complexity
      · refine ⟨c, cs, htext, ?_, ?_⟩
        all_goals
          rintro rfl
          cases hc
      · exact ⟨'-', c :: cs, htext, by decide⟩
  obtain ⟨c, cs, hpadded, hE, hR⟩ := hpadded
  have hmark : (mark (functionLine f)).head? = some c := by
    simp only [mark, functionLine, String.toList_append, hpadded]
    rfl
  apply isQuiet_of_mark
  · intro heq
    rw [heq] at hmark
    exact hE (Option.some.inj hmark).symm
  · intro heq
    rw [heq] at hmark
    exact hR (Option.some.inj hmark).symm

theorem isQuiet_count (n : Int) : IsQuiet ("  Excluded declarations: " ++ Decimal.ofInt n) ∧
    IsQuiet ("  Empty bodies: " ++ Decimal.ofInt n) := by
  constructor
  all_goals
    apply isQuiet_of_mark
    all_goals
      rw [mark, String.toList_append]
      intro heq
      cases heq

theorem isQuiet_empty : IsQuiet "" := isQuiet_of_mark (by decide) (by decide)

theorem isQuiet_written (path : String) : IsQuiet ("  Report: " ++ path ++ " (written)") := by
  constructor
  · intro h
    have hmark := h.mark_eq
    rw [mark, String.toList_append, String.toList_append] at hmark
    cases hmark
  · rintro ⟨other, h⟩
    -- The ninth character from the end is a bracket in one and a blank in the other.
    have hends := congrArg (fun s => (s.toList.reverse.drop 8).head?) h
    simp only [String.toList_append, List.reverse_append] at hends
    cases hends

theorem nonempty_of_ne {s : Option String} (h : ∀ t, s = some t → t ≠ "") : nonempty s = s := by
  cases s with
  | none => rfl
  | some t =>
    have ht : (!t.isEmpty) = true := by simpa using h t rfl
    rw [nonempty, Option.filter_some, if_pos ht]

/-- Without an error, only the line of the report can show that something is wrong. -/
theorem forall_isQuiet_iff {r : AnalysisResult} (herror : nonempty r.error = none) :
    (∀ line ∈ unitLines r, IsQuiet line) ↔
      ∀ path, nonempty r.reportPath = some path → r.reportWritten = true := by
  have hfunctions : ∀ f ∈ r.functions.mergeSort before, IsQuiet (functionLine f) :=
    fun f _ => isQuiet_functionLine f
  have hexcluded : ∀ line ∈ if r.excluded = 0 then []
      else ["  Excluded declarations: " ++ Decimal.ofInt r.excluded], IsQuiet line := by
    split
    · exact fun _ h => absurd h List.not_mem_nil
    · exact List.forall_mem_singleton.mpr (isQuiet_count r.excluded).1
  have hanomalies : ∀ line ∈ if r.anomalies = 0 then []
      else ["  Empty bodies: " ++ Decimal.ofInt r.anomalies], IsQuiet line := by
    split
    · exact fun _ h => absurd h List.not_mem_nil
    · exact List.forall_mem_singleton.mpr (isQuiet_count r.anomalies).2
  rw [unitLines, herror]
  simp only [List.forall_mem_cons, List.forall_mem_append, List.forall_mem_map,
    eq_true (isQuiet_header r.unit), eq_true hfunctions, eq_true hexcluded, eq_true hanomalies,
    eq_true isQuiet_empty, true_and, and_true]
  cases nonempty r.reportPath with
  | none => simp
  | some path =>
    cases r.reportWritten with
    | true => simp [isQuiet_written path]
    | false =>
      have hunwritten : ¬ IsQuiet ("  Report: " ++ path ++ " (NOT written)") :=
        fun h => h.2 ⟨path, rfl⟩
      simp [hunwritten]

/-- **The lines of a unit show whether it is in order.** -/
theorem ok_iff_isQuiet {r : AnalysisResult} (h : r.Coherent) :
    r.ok = true ↔ ∀ line ∈ unitLines r, IsQuiet line := by
  have herror := nonempty_of_ne fun t ht => (h.error t ht).1
  have hreport := nonempty_of_ne h.report
  rw [AnalysisResult.ok]
  cases hresult : r.error with
  | some error =>
    rw [hresult] at herror
    constructor
    · intro hok
      cases hok
    · intro hquiet
      have hline : "  Error: " ++ error ∈ unitLines r := by
        rw [unitLines, hresult, herror]
        exact List.mem_cons_of_mem _ List.mem_cons_self
      exact absurd ⟨error, rfl⟩ (hquiet _ hline).1
  | none =>
    rw [hresult] at herror
    rw [forall_isQuiet_iff (hresult ▸ herror), hreport]
    cases r.reportPath with
    | none => simp
    | some path => simp

/-- The object of a unit shows that it is in order. -/
def IsSound (unit : Value) : Prop :=
  unit.field? "error" = some .null ∧
    (unit.field? "report_path" = some .null ∨ unit.field? "report_written" = some (.bool true))

/-- **The object of a unit shows whether it is in order.** -/
theorem ok_iff_isSound (r : AnalysisResult) : r.ok = true ↔ IsSound (resultValue r) := by
  have herror : (resultValue r).field? "error" = some (optional r.error) := rfl
  have hreport : (resultValue r).field? "report_path" = some (optional r.reportPath) := rfl
  have hwritten : (resultValue r).field? "report_written" = some (.bool r.reportWritten) := rfl
  have hnull {s : Option String} : optional s = .null ↔ s = none := by
    cases s <;> simp [optional]
  rw [IsSound, herror, hreport, hwritten, AnalysisResult.ok]
  simp [hnull]

/-! ## Totals -/

theorem total_shownFunctions {results : List AnalysisResult} (h : ∀ r ∈ results, r.Coherent) :
    total shownFunctions results = (results.map fun r => r.functions.length).sum := by
  rw [total_eq_sum]
  refine congrArg List.sum (List.map_congr_left fun r hr => ?_)
  rw [shownFunctions]
  split
  · rename_i hsome
    obtain ⟨error, herror⟩ := Option.isSome_iff_exists.mp hsome
    obtain ⟨hresult, -⟩ := Option.filter_eq_some_iff.mp herror
    rw [((h r hr).error error hresult).2]
    rfl
  · rfl

theorem joinTexts_append_newline {lines : List String} (h : lines ≠ []) :
    Text.joinTexts "\n" lines ++ "\n" = String.join (lines.map (· ++ "\n")) := by
  induction lines with
  | nil => exact absurd rfl h
  | cons line lines ih =>
    cases lines with
    | nil => simp [Text.joinTexts, String.join]
    | cons next lines =>
      have hjoin : Text.joinTexts "\n" (line :: next :: lines) =
          line ++ "\n" ++ Text.joinTexts "\n" (next :: lines) := rfl
      rw [hjoin, String.append_assoc, ih (List.cons_ne_nil _ _)]
      exact String.join_cons.symm

/-- The plain text has each line with a line feed behind it, the totals last. -/
theorem plainText_eq {results : List AnalysisResult} (h : ∀ r ∈ results, r.Coherent) :
    plainText results = String.join ((results.flatMap unitLines ++
      ["Translation units: " ++ Decimal.ofNat results.length,
        "Functions analyzed: " ++
          Decimal.ofNat (results.map fun r => r.functions.length).sum]).map (· ++ "\n")) := by
  rw [plainText, total_shownFunctions h, joinTexts_append_newline]
  simp

end Summary

/-! ## The exit status -/

namespace Program

theorem status_eq_zero_iff (results : List AnalysisResult) :
    status results = 0 ↔ ∀ r ∈ results, r.ok = true := by
  rw [status, ← List.all_eq_true]
  split <;> simp_all

/-- A request that is carried out returns the status of the results of its units. -/
theorem status_of_analyze {request : AnalyzeRequest} {s : Surroundings} {e : Engine}
    {paths : List String} (hprepare : prepare request s = .ok (e, paths))
    (hcalm : s.interrupted = false) {effects : Effects} {n : Nat}
    (h : analyze request s = (effects, .ok n)) :
    ∃ run results, e.analyzePaths s.tools s.terminal paths ⟨s.fs, []⟩ = (run, .ok results) ∧
      n = status results := by
  rw [analyze, hprepare] at h
  dsimp only at h
  rw [hcalm, if_neg Bool.false_ne_true] at h
  rcases hrun : e.analyzePaths s.tools s.terminal paths ⟨s.fs, []⟩ with ⟨run, fault | results⟩
  · rw [hrun] at h
    cases h
  · rw [hrun] at h
    refine ⟨run, results, rfl, ?_⟩
    dsimp only [finish] at h
    split at h
    · cases h
      rfl
    · split at h
      · cases h
      · rename_i summary _
        rcases hdone : deliver request summary run with ⟨after, fault | done⟩
        · rw [hdone] at h
          cases h
        · rw [hdone] at h
          cases h
          rfl

end Program

namespace Engine

open Summary

/-- **The summaries and the exit status agree.**  Let a run of the frontend that tells the language
by the path return.  A result with an error has nothing else.  Both summaries, if they can be
written, give the number of paths and that of all recorded functions.  The exit status is zero
exactly if no line of the plain text shows an error or a report that was not written, and exactly if
each object of the JSON text shows neither; and this is the status with which a request for these
units ends. -/
theorem summaries_agree {e : Engine} (he : e.frontend = .grammar none) (tools : Toolchain)
    (terminal : Terminal) {paths : List String} {r r' : Run} {results : List AnalysisResult}
    (h : e.analyzePaths tools terminal paths r = (r', .ok results)) :
    (∀ result ∈ results, ∀ error, result.error = some error →
      result.functions = [] ∧ result.tally = .empty ∧ result.excluded = 0 ∧
        result.anomalies = 0 ∧ result.reportPath = none) ∧
    (∀ format text, Format.ofName? format = some .text →
      summarize (.text format) results = .ok text →
      text = String.join ((results.flatMap unitLines ++
        ["Translation units: " ++ Decimal.ofNat paths.length,
          "Functions analyzed: " ++
            Decimal.ofNat (results.map fun r => r.functions.length).sum]).map (· ++ "\n"))) ∧
    (∀ format text, Format.ofName? format = some .json →
      summarize (.text format) results = .ok text →
      ∃ v, Json.read text.toList = .ok v ∧
        ((v.field? "summary").bind fun s => s.field? "units") = some (.int paths.length) ∧
        ((v.field? "summary").bind fun s => s.field? "functions") =
          some (.int ((results.map fun r => r.functions.length).sum : Nat)) ∧
        (v.fieldItems "units").length = paths.length ∧
        (Program.status results = 0 ↔ ∀ unit ∈ v.fieldItems "units", IsSound unit)) ∧
    (Program.status results = 0 ↔ ∀ result ∈ results, ∀ line ∈ unitLines result, IsQuiet line) ∧
    (Program.status results = 0 ↔ ∀ unit ∈ (value results).fieldItems "units", IsSound unit) ∧
    ∀ request s, Program.prepare request s = .ok (e, paths) → s.interrupted = false →
      s.tools = tools → s.terminal = terminal → r = ⟨s.fs, []⟩ →
      ∀ effects n, Program.analyze request s = (effects, .ok n) → n = Program.status results := by
  obtain ⟨hlength, hcoherent⟩ := coherent_analyzePaths he h
  have hlines : Program.status results = 0 ↔
      ∀ result ∈ results, ∀ line ∈ unitLines result, IsQuiet line := by
    rw [Program.status_eq_zero_iff]
    exact forall₂_congr fun result hresult => ok_iff_isQuiet (hcoherent result hresult)
  have hobjects : Program.status results = 0 ↔
      ∀ unit ∈ (value results).fieldItems "units", IsSound unit := by
    have hunits : (value results).fieldItems "units" = results.map resultValue := rfl
    rw [Program.status_eq_zero_iff, hunits, List.forall_mem_map]
    exact forall₂_congr fun result _ => ok_iff_isSound result
  refine ⟨?_, ?_, ?_, hlines, hobjects, ?_⟩
  · intro result hresult error herror
    rw [((hcoherent result hresult).error error herror).2]
    exact ⟨rfl, rfl, rfl, rfl, rfl⟩
  · intro format text hformat hsummary
    simp only [summarize, hformat] at hsummary
    split at hsummary
    · obtain rfl := Except.ok.inj hsummary
      rw [← hlength]
      exact plainText_eq hcoherent
    · cases hsummary
  · intro format text hformat hsummary
    obtain ⟨hwritable, rfl⟩ := summarize_json_eq_ok hformat hsummary
    refine ⟨value results, Json.read_write (plain_value hwritable), ?_, ?_, ?_, hobjects⟩
    · rw [← hlength]
      rfl
    · rw [← total_eq_sum]
      rfl
    · rw [← hlength]
      exact List.length_map _
  · rintro request s hprepare hcalm rfl rfl rfl effects n hanalyze
    obtain ⟨run, others, hrun, rfl⟩ := Program.status_of_analyze hprepare hcalm hanalyze
    rw [hrun] at h
    cases h
    rfl

/-- The language that a grammar-based parser is asked for. -/
def languageAsked? : Frontend → Option (Option String)
  | .grammar asked => some asked
  | .compiler _ => none

/-- A request for the two sources of the sample, with a report for each stem. -/
def stemRequest : AnalyzeRequest :=
  { paths := ["a.c", "b.c"], report := some "\x7bstem\x7d/report" }

/-- The surroundings of the request: there is a place for one of the two reports. -/
def stemSurroundings : Surroundings := ⟨stemFiles, letterTools, ⟨false⟩, false, false⟩

/-- Two of the five units of the sample have an error, and one has a report that is not written.  A
request for the two sources alone ends with the status that says so. -/
theorem summaries_agree_stemPaths :
    (∃ r' results, stemRun = (r', .ok results) ∧
      results.map (fun r => r.error.isSome) = [false, false, true, true, false] ∧
      (∀ result ∈ results, ∀ error, result.error = some error → result.functions = []) ∧
      (∃ text, summarize (.text "text") results = .ok text ∧
        text = String.join ((results.flatMap unitLines ++
          ["Translation units: 5", "Functions analyzed: 3"]).map (· ++ "\n"))) ∧
      ¬ ∀ unit ∈ (value results).fieldItems "units", IsSound unit) ∧
    ∃ e run results effects, Program.prepare stemRequest stemSurroundings =
        .ok (e, ["a.c", "b.c"]) ∧
      e.analyzePaths letterTools ⟨false⟩ ["a.c", "b.c"] ⟨stemFiles, []⟩ = (run, .ok results) ∧
      Program.analyze stemRequest stemSurroundings = (effects, .ok 1) ∧
      ¬ ∀ result ∈ results, ∀ line ∈ unitLines result, IsQuiet line := by
  constructor
  · have hview : stemRun.2.toOption.map (fun results => (results.map (fun r => r.error.isSome),
        results.map (fun r => r.functions.length), Program.status results,
        isWritable .text results)) =
        some ([false, false, true, true, false], [1, 1, 0, 0, 1], 1, true) := by
      decide +kernel
    rcases hrun : stemRun with ⟨r', fault | results⟩
    · rw [hrun] at hview
      cases hview
    rw [hrun] at hview
    simp only [Except.toOption, Option.map_some, Option.some.injEq, Prod.mk.injEq] at hview
    obtain ⟨herrors, hfunctions, hstatus, hwritable⟩ := hview
    obtain ⟨hblank, htext, -, -, hobjects, -⟩ :=
      summaries_agree rfl letterTools ⟨false⟩ (r := ⟨stemFiles, []⟩) hrun
    have hformat : Format.ofName? "text" = some .text := rfl
    have hsummary : summarize (.text "text") results = .ok (plainText results) := by
      simp only [summarize, hformat]
      rw [if_pos hwritable]
      rfl
    refine ⟨r', results, rfl, herrors, fun result hresult error herror =>
      (hblank result hresult error herror).1, ⟨_, hsummary, ?_⟩, ?_⟩
    · rw [htext "text" _ hformat hsummary, hfunctions]
      rfl
    · rw [← hobjects, hstatus]
      decide
  · have hprepared : (Program.prepare stemRequest stemSurroundings).toOption.map
        (fun p => (p.2, languageAsked? p.1.frontend)) = some (["a.c", "b.c"], some none) := by
      decide +kernel
    have hstatus : (Program.analyze stemRequest stemSurroundings).2 = .ok 1 := by
      decide +kernel
    rcases hprepare : Program.prepare stemRequest stemSurroundings with fault | ⟨e, paths⟩
    · rw [hprepare] at hprepared
      cases hprepared
    rw [hprepare] at hprepared
    simp only [Except.toOption, Option.map_some, Option.some.injEq, Prod.mk.injEq] at hprepared
    obtain ⟨rfl, hasked⟩ := hprepared
    have he : e.frontend = .grammar none := by
      cases hfrontend : e.frontend with
      | grammar asked =>
        rw [hfrontend] at hasked
        rw [Option.some.inj hasked]
      | compiler args =>
        rw [hfrontend] at hasked
        cases hasked
    rcases hanalyze : Program.analyze stemRequest stemSurroundings with ⟨effects, ending⟩
    rw [hanalyze] at hstatus
    obtain rfl : ending = .ok 1 := hstatus
    obtain ⟨run, results, hrun, -⟩ := Program.status_of_analyze hprepare rfl hanalyze
    obtain ⟨-, -, -, hlines, -, hreturns⟩ := summaries_agree he letterTools ⟨false⟩ hrun
    have hone := hreturns _ _ hprepare rfl rfl rfl rfl _ _ hanalyze
    refine ⟨e, run, results, effects, rfl, hrun, rfl, ?_⟩
    rw [← hlines, ← hone]
    decide

end Engine

end Cyclometry
