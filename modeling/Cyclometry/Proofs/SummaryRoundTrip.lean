import Mathlib.Algebra.BigOperators.Group.List.Basic
import Cyclometry.Analysis
import Cyclometry.Proofs.JsonRoundTrip
import Cyclometry.Proofs.RecordHistory

/-!
# The JSON summary is read back

A summary as JSON is read back as the data that was written (`summarize_read`), and the results can
be told from the data (`ofValue?_value`): all of them in their order, each with all that a summary
shows.  It shows a diagnostic as one text, and not whether a function stands in a system header
(`AnalysisResult.published`).
-/

namespace Cyclometry

/-- What a summary shows of a result. -/
def AnalysisResult.published (r : AnalysisResult) : AnalysisResult := { r with
  functions := r.functions.map fun f => { f with location := { f.location with system := false } }
  diagnostics := r.diagnostics.map fun remark => .other remark.text }

namespace Summary

/-! ## Telling the results from the data -/

section Decoding

variable {α : Type}

/-- A field of an object, of a kind. -/
def fieldOf? (kind : Value → Option α) (v : Value) (name : String) : Option α :=
  (v.field? name).bind kind

/-- A list of items of a kind. -/
def listOf? (kind : Value → Option α) : Value → Option (List α)
  | .list items => items.mapM kind
  | _ => none

/-- A text, or null. -/
def optionalOf? : Value → Option (Option String)
  | .null => some none
  | .text s => some (some s)
  | _ => none

/-- A name and its complexity. -/
def entryOf? (field : Value × Value) : Option (String × Int) := do
  let name ← field.1.text?
  let complexity ← field.2.int?
  pure (name, complexity)

/-- Complexities by name, if the names increase. -/
def tallyOf? : Value → Option Tally
  | .map fields => do
    let entries ← fields.mapM entryOf?
    if h : entries.Pairwise fun a b => a.1 < b.1 then some ⟨entries, h⟩ else none
  | _ => none

/-- A function. -/
def functionOf? (v : Value) : Option FunctionResult := do
  let name ← fieldOf? Value.text? v "name"
  let complexity ← fieldOf? Value.int? v "complexity"
  let path ← fieldOf? Value.text? v "file_path"
  let line ← fieldOf? Value.int? v "line"
  let column ← fieldOf? Value.int? v "column"
  pure ⟨name, complexity, ⟨path, line, column, false⟩⟩

/-- The result of a unit. -/
def resultOf? (v : Value) : Option AnalysisResult := do
  let unit ← fieldOf? Value.text? v "unit"
  let tally ← fieldOf? tallyOf? v "complexities"
  let functions ← fieldOf? (listOf? functionOf?) v "functions"
  let reportPath ← fieldOf? optionalOf? v "report_path"
  let reportWritten ← fieldOf? Value.bool? v "report_written"
  let excluded ← fieldOf? Value.int? v "excluded"
  let anomalies ← fieldOf? Value.int? v "anomalies"
  let error ← fieldOf? optionalOf? v "error"
  let texts ← fieldOf? (listOf? Value.text?) v "diagnostics"
  pure ⟨unit, tally, functions, reportPath, reportWritten, excluded, anomalies, error,
    texts.map .other⟩

/-- The results of all units. -/
def ofValue? (v : Value) : Option (List AnalysisResult) := fieldOf? (listOf? resultOf?) v "units"

theorem optionalOf?_optional (s : Option String) : optionalOf? (optional s) = some s := by
  cases s with
  | none => rfl
  | some s => rfl

theorem tallyOf?_tallyValue (t : Tally) : tallyOf? (tallyValue t) = some t := by
  have hentries : (t.entries.map fun entry =>
      (Value.text entry.1, Value.int entry.2)).mapM entryOf? = some t.entries := by
    rw [mapM_map_eq_some entryOf? _ id (fun _ => rfl), List.map_id]
  rw [Tally.tallyValue_eq, tallyOf?, hentries]
  exact dif_pos t.increasing

theorem functionOf?_functionValue (f : FunctionResult) :
    functionOf? (functionValue f) =
      some { f with location := { f.location with system := false } } := rfl

theorem resultOf?_resultValue (r : AnalysisResult) :
    resultOf? (resultValue r) = some r.published := by
  have htally : fieldOf? tallyOf? (resultValue r) "complexities" = some r.tally :=
    tallyOf?_tallyValue r.tally
  have hfunctions : fieldOf? (listOf? functionOf?) (resultValue r) "functions" =
      some r.published.functions :=
    mapM_map_eq_some functionOf? _ _ functionOf?_functionValue r.functions
  have hpath : fieldOf? optionalOf? (resultValue r) "report_path" = some r.reportPath :=
    optionalOf?_optional r.reportPath
  have herror : fieldOf? optionalOf? (resultValue r) "error" = some r.error :=
    optionalOf?_optional r.error
  have htexts : fieldOf? (listOf? Value.text?) (resultValue r) "diagnostics" =
      some (r.diagnostics.map Remark.text) :=
    mapM_map_eq_some Value.text? _ _ (fun _ => rfl) r.diagnostics
  rw [resultOf?, htally, hfunctions, hpath, herror, htexts, AnalysisResult.published]
  show some _ = some _
  rw [List.map_map]
  rfl

/-- **The results can be told from the data of a summary.** -/
theorem ofValue?_value (results : List AnalysisResult) :
    ofValue? (value results) = some (results.map AnalysisResult.published) :=
  mapM_map_eq_some resultOf? _ _ resultOf?_resultValue results

end Decoding

/-! ## Reading the text -/

open Json (Plain)

theorem plain_object {depth : Nat} {members : List (String × Value)}
    (hnames : (members.map Prod.fst).Nodup) (h : ∀ member ∈ members, Plain depth member.2) :
    Plain (depth + 1) (object members) := Plain.map hnames h

theorem plain_optional {depth : Nat} (s : Option String) : Plain depth (optional s) := by
  cases s with
  | none => exact .null
  | some s => exact .text s

theorem plain_functionValue {f : FunctionResult} {depth : Nat}
    (h : (Decimal.isShort f.complexity && f.location.isShort) = true) :
    Plain (depth + 1) (functionValue f) := by
  rw [Location.isShort, Bool.and_eq_true, Bool.and_eq_true] at h
  obtain ⟨hcomplexity, hline, hcolumn⟩ := h
  refine plain_object (by simp) ?_
  simp only [List.forall_mem_cons]
  exact ⟨.text _, .int hcomplexity, .text _, .int hline, .int hcolumn,
    fun _ h => absurd h List.not_mem_nil⟩

theorem plain_tallyValue {t : Tally} {depth : Nat}
    (h : (t.entries.all fun entry => Decimal.isShort entry.2) = true) :
    Plain (depth + 1) (tallyValue t) := by
  refine plain_object ?_ ?_
  · rw [List.map_map]
    exact t.nodup_names
  · rw [List.forall_mem_map]
    intro entry hentry
    exact .int (List.all_eq_true.mp h entry hentry)

theorem plain_resultValue {r : AnalysisResult} {depth : Nat} (h : r.isShort = true) :
    Plain (depth + 3) (resultValue r) := by
  simp only [AnalysisResult.isShort, Bool.and_eq_true] at h
  obtain ⟨⟨⟨⟨hfunctions, htally⟩, hexcluded⟩, hanomalies⟩, -⟩ := h
  refine plain_object (by simp) ?_
  simp only [List.forall_mem_cons]
  refine ⟨.text _, plain_tallyValue htally, .list ?_, plain_optional _, .bool _, .int hexcluded,
    .int hanomalies, plain_optional _, .list ?_, fun _ h => absurd h List.not_mem_nil⟩
  · rw [List.forall_mem_map]
    intro f hf
    exact plain_functionValue (List.all_eq_true.mp hfunctions f hf)
  · rw [List.forall_mem_map]
    intro remark _
    exact .text _

/-- The data of a summary has five levels. -/
theorem plain_value {results : List AnalysisResult} (h : isWritable .json results = true) :
    Plain 5 (value results) := by
  simp only [isWritable, Bool.and_eq_true] at h
  obtain ⟨⟨hresults, hunits⟩, hfunctions⟩ := h
  refine plain_object (by simp) ?_
  simp only [List.forall_mem_cons]
  refine ⟨plain_object (by simp) ?_, .list ?_, fun _ h => absurd h List.not_mem_nil⟩
  · simp only [List.forall_mem_cons]
    exact ⟨.int hunits, .int hfunctions, fun _ h => absurd h List.not_mem_nil⟩
  · rw [List.forall_mem_map]
    intro r hr
    exact plain_resultValue (List.all_eq_true.mp hresults r hr)

theorem total_eq_sum (count : AnalysisResult → Nat) (results : List AnalysisResult) :
    total count results = (results.map count).sum := by
  induction results with
  | nil => rfl
  | cons r results ih =>
    rw [List.map_cons, List.sum_cons, ← ih]
    rfl

theorem summarize_json_eq_ok {format : String} (hformat : Format.ofName? format = some .json)
    {results : List AnalysisResult} {text : String}
    (h : summarize (.text format) results = .ok text) :
    isWritable .json results = true ∧ text = jsonText results := by
  simp only [summarize, hformat] at h
  split at h
  · rename_i hwritable
    exact ⟨hwritable, (Except.ok.inj h).symm⟩
  · cases h

/-- **A summary as JSON is read back.**  Whatever the results are, if their summary can be written,
then its text is read as the data that it was written from, also as a configuration file.  The data
counts the units and the functions, and all that it shows of the results can be told from it: texts,
numbers, truth values, what is missing, and the order of all lists.  The complexities of each unit
go by name, in the order of code points. -/
theorem summarize_read {format : String} (hformat : Format.ofName? format = some .json)
    {results : List AnalysisResult} {text : String}
    (h : summarize (.text format) results = .ok text) (path : String) :
    let v : Value := value results
    Json.read text.toList = .ok v ∧
    Settings.readJson path text.toList = .ok v ∧
    (Settings.isJson path = true → Settings.valueOf path (bytesOf text) = .ok v) ∧
    ((v.field? "summary").bind fun s => s.field? "units") = some (.int results.length) ∧
    ((v.field? "summary").bind fun s => s.field? "functions") =
      some (.int ((results.map fun r => r.functions.length).sum : Nat)) ∧
    ofValue? v = some (results.map AnalysisResult.published) ∧
    ∀ unit ∈ v.fieldItems "units", ∃ entries : List (String × Int),
      unit.field? "complexities" = some (object (entries.map fun e => (e.1, .int e.2))) ∧
      entries.Pairwise fun a b => Tally.codePoints a.1 < Tally.codePoints b.1 := by
  intro v
  obtain ⟨hwritable, rfl⟩ := summarize_json_eq_ok hformat h
  have hplain : Plain 5 v := plain_value hwritable
  have hdepth : 5 ≤ Settings.maxJsonNesting := by decide
  refine ⟨Json.read_write hplain, Json.readJson_write hplain hdepth path,
    Json.valueOf_write hplain hdepth, rfl, ?_, ofValue?_value results, ?_⟩
  · rw [← total_eq_sum]
    rfl
  · intro unit hunit
    obtain ⟨r, -, rfl⟩ := List.mem_map.mp hunit
    exact ⟨r.tally.entries, rfl, r.tally.increasing.imp Tally.codePoints_lt⟩

/-- Two units: one with names of quotes, backslashes, control characters and letters of every plane,
and one that could not be parsed. -/
def escapedResults : List AnalysisResult :=
  [{ AnalysisResult.start "src/\"a\\b\".c" with
      tally := Tally.empty.recordAll [("op\"\\/\t", 3), ("\x01\x7f", -2), ("😀", 1), ("\uffff", 7)]
      functions := [⟨"😀", 1, ⟨"été\n.c", 12, 5, true⟩⟩]
      reportPath := some "résultats.cy"
      excluded := 2
      diagnostics := [.issued ⟨.warning, ⟨"été\n.c", 12, 5, true⟩, "ends in \\", 0⟩, .other ""] },
    { AnalysisResult.start "" with error := some "\ufeff\r\n" }]

theorem summarize_read_escapedResults :
    ∃ text, summarize (.text "JSON") escapedResults = .ok text ∧
      Json.read text.toList = .ok (value escapedResults) ∧
      Settings.valueOf "summary.json" (bytesOf text) = .ok (value escapedResults) ∧
      ofValue? (value escapedResults) = some (escapedResults.map AnalysisResult.published) := by
  have hwritable : isWritable .json escapedResults = true := by decide +kernel
  have hformat : Format.ofName? "JSON" = some .json := rfl
  have hsummary : summarize (.text "JSON") escapedResults = .ok (jsonText escapedResults) := by
    simp only [summarize, hformat]
    rw [if_pos hwritable]
    rfl
  obtain ⟨hread, -, hfile, -, -, hresults, -⟩ := summarize_read hformat hsummary "summary.json"
  exact ⟨_, hsummary, hread, hfile rfl, hresults⟩

end Summary

end Cyclometry
