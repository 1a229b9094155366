import Cyclometry.Proofs.JsonRoundTrip
import Cyclometry.Proofs.LoadedSettings

/-!
# Options over a configuration file over the defaults

The settings of a request have three layers.  Options that are given count, and everything else is
as in the file over the defaults (`AnalyzeRequest.rules_merged`, `AnalyzeRequest.leaves_merged`).
Below that, the file leaves the default at every path that it says nothing about, unless something
above the path is no mapping (`Settings.at?_mergeFields`).
-/

namespace Cyclometry

open Value (WellKeyed)

/-! ## A file over the defaults -/

/-- What a value has at a path of names. -/
def Value.at? (v : Value) (path : List String) : Option Value := v.lookup? (path.map .text)

namespace Settings

/-- **What is not set stays as it was**, if everything above it is a mapping or not set either. -/
theorem at?_mergeFields {fields : Fields} (hkeyed : WellKeyed (.map fields)) (base : Fields)
    {path : List String} (hunset : (Value.map fields).at? path = none)
    (habove : ∀ above, above <+: path → above ≠ path →
      ∀ v, (Value.map fields).at? above = some v → v.isMap = true) :
    (Value.map (mergeFields base fields)).at? path = (Value.map base).at? path := by
  obtain ⟨reached, hreached⟩ := Value.exists_reaches (.map fields) (path.map .text)
  obtain ⟨hboth, hnone⟩ := lookup?_mergeFields_of_none hkeyed base hunset hreached
  by_cases hmaps : BothMap base fields reached
  · exact hboth hmaps
  · -- The fields have a mapping as far as they lead, so the base has none there.
    obtain ⟨above, hfront, rfl⟩ := List.prefix_map_iff.mp hreached.inFront
    obtain ⟨v, hv⟩ := Option.isSome_iff_exists.mp hreached.found
    have hne : above ≠ path := by
      rintro rfl
      cases hunset.symm.trans hv
    obtain ⟨inner, rfl⟩ := Value.exists_map (habove above hfront hne v hv)
    obtain ⟨rest, rfl⟩ := hfront
    obtain ⟨name, rest, rfl⟩ : ∃ name more, rest = name :: more := by
      refine List.exists_cons_of_ne_nil fun hnil => hne ?_
      rw [hnil, List.append_nil]
    rw [Value.at?, hnone hmaps, Value.at?, List.map_append, Value.lookup?_append]
    cases hold : (Value.map base).lookup? (above.map .text) with
    | none => rfl
    | some old =>
      cases old with
      | map deeper => exact absurd ⟨deeper, inner, hold, hv⟩ hmaps
      | _ => rfl

theorem loadFile_eq {fs : FileSystem} {path : String} {bytes : Bytes}
    (h : fs.read (Path.ofString path).text = .ok bytes) :
    loadFile fs path = valueOf path bytes >>= fieldsOf path := by
  rcases loadFile_cases fs path with ⟨other, hread, hload⟩ | ⟨error, -, -, hread, -⟩
  · obtain rfl := Except.ok.inj (h.symm.trans hread)
    exact hload
  · cases h.symm.trans hread

theorem wellKeyed_loadFile {fs : FileSystem} {path : String} {fields : Fields}
    (h : loadFile fs path = .ok fields) : WellKeyed (.map fields) := by
  rcases loadFile_cases fs path with ⟨bytes, -, hload⟩ | ⟨-, fault, -, -, hload, -⟩
  · rw [hload] at h
    obtain ⟨v, hvalue, hfields⟩ := exists_of_bind_eq_ok h
    rcases valueOf_cases path bytes with ⟨w, hw, hkeyed, -⟩ | ⟨error, hw, -⟩ | ⟨fault, hw, -⟩
    · obtain rfl := Except.ok.inj (hvalue.symm.trans hw)
      cases v with
      | map inner =>
        obtain rfl := Except.ok.inj hfields
        exact hkeyed
      | _ => cases hfields
    · cases hvalue.symm.trans hw
    · cases hvalue.symm.trans hw
  · cases hload.symm.trans h

end Settings

/-! ## All layers -/

namespace AnalyzeRequest

/-- Every option that is given counts in some settings. -/
structure Rules (r : AnalyzeRequest) (t : Settings) : Prop where
  frontendName : ∀ name, r.frontend = some name → name ≠ "" → t.frontendName = .ok (.text name)
  compilerArgs : r.compilerArgs ≠ [] →
    t.frontendOptions.field? "clang_args" = some (.list (r.compilerArgs.map compilerArg))
  reportPath : ∀ path, r.report = some path → path ≠ "" → t.reportPath = .ok (.text path)
  diagnosticsEnabled : r.noDiagnostics = true → t.diagnosticsEnabled = .ok false
  diagnosticsColor : r.noColor = true → t.diagnosticsColor = .ok false
  outputFormat : ∀ name, r.format = some name → name ≠ "" → t.outputFormat = .ok (.text name)

/-- Every setting whose option is not given is the same in two settings, if the sections that other
options are about are mappings in the first ones. -/
structure Leaves (r : AnalyzeRequest) (s t : Settings) : Prop where
  frontendName : given r.frontend = none →
    (r.compilerArgs ≠ [] → s.frontendOptions.isMap = true) → t.frontendName = s.frontendName
  compilerArgs : r.compilerArgs = [] →
    (given r.frontend ≠ none → s.frontendOptions.isMap = true) →
    t.frontendOptions.field? "clang_args" = s.frontendOptions.field? "clang_args"
  otherOptions : (given r.frontend ≠ none ∨ r.compilerArgs ≠ [] → s.frontendOptions.isMap = true) →
    ∀ name, name ≠ "name" → name ≠ "clang_args" →
      t.frontendOptions.field? name = s.frontendOptions.field? name
  frontendOptions : given r.frontend = none → r.compilerArgs = [] →
    t.frontendOptions = s.frontendOptions
  headerExtensions : t.headerExtensions = s.headerExtensions
  systemIncludeDirs : t.systemIncludeDirs = s.systemIncludeDirs
  reportPath : given r.report = none → t.reportPath = s.reportPath
  diagnosticsEnabled : r.noDiagnostics = false →
    (r.noColor = true → (s.group "diagnostics").isMap = true) →
    t.diagnosticsEnabled = s.diagnosticsEnabled
  diagnosticsColor : r.noColor = false →
    (r.noDiagnostics = true → (s.group "diagnostics").isMap = true) →
    t.diagnosticsColor = s.diagnosticsColor
  outputFormat : given r.format = none → t.outputFormat = s.outputFormat

variable (r : AnalyzeRequest)

theorem given_eq_some {word : String} (h : word ≠ "") : given (some word) = some (.text word) := by
  have hword : (!word.isEmpty) = true := by simpa using h
  rw [given, Option.filter_some, if_pos hword]
  rfl

theorem givenArgs_eq_none_iff : r.givenArgs = none ↔ r.compilerArgs = [] := by
  rw [givenArgs]
  cases r.compilerArgs <;> simp

/-- The options for the parsers. -/
theorem get?_frontend (name : String) : Fields.get? (r.optionsFor "frontend") name =
    (if "name" = name then given r.frontend else none).or
      (if "clang_args" = name then r.givenArgs else none) := by
  rw [optionsFor, if_pos rfl, Fields.get?_append, get?_field, get?_field]

/-- The options for remarks. -/
theorem get?_diagnostics (name : String) : Fields.get? (r.optionsFor "diagnostics") name =
    (if "enabled" = name then switchedOff r.noDiagnostics else none).or
      (if "color" = name then switchedOff r.noColor else none) := by
  have hoptions : r.optionsFor "diagnostics" =
    field "enabled" (switchedOff r.noDiagnostics) ++ field "color" (switchedOff r.noColor) := rfl
  rw [hoptions, Fields.get?_append, get?_field, get?_field]

theorem rules_merged (s : Settings) : r.Rules (s.merged r.overrides) := by
  constructor
  · intro name hname hne
    have hoption : Fields.get? (r.optionsFor "frontend") "name" = some (.text name) := by
      rw [get?_frontend, hname, given_eq_some hne]
      rfl
    exact (Settings.get_of_given s r hoption _).2
  · intro hargs
    have hoption : Fields.get? (r.optionsFor "frontend") "clang_args" =
        some (.list (r.compilerArgs.map compilerArg)) := by
      have hlist : r.givenArgs = some (.list (r.compilerArgs.map compilerArg)) := by
        rw [givenArgs, if_neg (by simpa using hargs)]
      rw [get?_frontend, hlist]
      rfl
    exact (Settings.get_of_given s r hoption .null).1
  · intro path hpath hne
    have hoption : Fields.get? (r.optionsFor "report") "path" = some (.text path) := by
      rw [← given_eq_some hne, ← hpath]
      exact get?_field "path" "path" _
    exact (Settings.get_of_given s r hoption _).2
  · intro hoff
    have hoption : Fields.get? (r.optionsFor "diagnostics") "enabled" = some (.bool false) := by
      rw [get?_diagnostics, hoff]
      rfl
    rw [Settings.diagnosticsEnabled, (Settings.get_of_given s r hoption _).2]
    rfl
  · intro hoff
    have hoption : Fields.get? (r.optionsFor "diagnostics") "color" = some (.bool false) := by
      rw [get?_diagnostics, hoff]
      rfl
    rw [Settings.diagnosticsColor, (Settings.get_of_given s r hoption _).2]
    rfl
  · intro name hname hne
    have hoption : Fields.get? (r.optionsFor "output") "format" = some (.text name) := by
      rw [← given_eq_some hne, ← hname]
      exact get?_field "format" "format" _
    exact (Settings.get_of_given s r hoption _).2

theorem optionsFor_frontend (hname : given r.frontend = none) (hargs : r.compilerArgs = []) :
    r.optionsFor "frontend" = [] := by
  rw [optionsFor, if_pos rfl, hname, r.givenArgs_eq_none_iff.mpr hargs]
  rfl

theorem optionsFor_diagnostics (henabled : r.noDiagnostics = false) (hcolor : r.noColor = false) :
    r.optionsFor "diagnostics" = [] := by
  have hoptions : r.optionsFor "diagnostics" =
    field "enabled" (switchedOff r.noDiagnostics) ++ field "color" (switchedOff r.noColor) := rfl
  rw [hoptions, henabled, hcolor]
  rfl

theorem leaves_merged (s : Settings) : r.Leaves s (s.merged r.overrides) := by
  have hexclusion : (s.merged r.overrides).group "exclusion" = s.group "exclusion" :=
    Settings.group_of_no_options s r rfl
  constructor
  · intro hname hmap
    have hoption : Fields.get? (r.optionsFor "frontend") "name" = none := by
      rw [get?_frontend, hname]
      rfl
    refine (Settings.get_of_not_given s r hoption (fun hsome => hmap fun hargs => ?_) _).2
    exact hsome (r.optionsFor_frontend hname hargs)
  · intro hargs hmap
    have hoption : Fields.get? (r.optionsFor "frontend") "clang_args" = none := by
      rw [get?_frontend, r.givenArgs_eq_none_iff.mpr hargs]
      rfl
    refine (Settings.get_of_not_given s r hoption (fun hsome => hmap fun hname => ?_) .null).1
    exact hsome (r.optionsFor_frontend hname hargs)
  · intro hmap name hname hargs
    have hoption : Fields.get? (r.optionsFor "frontend") name = none := by
      rw [get?_frontend, if_neg hname.symm, if_neg hargs.symm]
      rfl
    refine (Settings.get_of_not_given s r hoption (fun hsome => hmap ?_) .null).1
    by_contra hnone
    rw [not_or, not_not, not_not] at hnone
    exact hsome (r.optionsFor_frontend hnone.1 hnone.2)
  · intro hname hargs
    exact Settings.group_of_no_options s r (r.optionsFor_frontend hname hargs)
  · rw [Settings.headerExtensions, Settings.headerExtensions, Settings.getList_eq,
      Settings.getList_eq, Settings.get_eq, Settings.get_eq, hexclusion]
  · rw [Settings.systemIncludeDirs, Settings.systemIncludeDirs, Settings.getList_eq,
      Settings.getList_eq, Settings.get_eq, Settings.get_eq, hexclusion]
  · intro hpath
    have hnone : r.optionsFor "report" = field "path" (given r.report) := rfl
    rw [hpath] at hnone
    rw [Settings.reportPath, Settings.reportPath, Settings.get_eq, Settings.get_eq,
      Settings.group_of_no_options s r hnone]
  · intro henabled hmap
    have hoption : Fields.get? (r.optionsFor "diagnostics") "enabled" = none := by
      rw [get?_diagnostics, henabled]
      rfl
    rw [Settings.diagnosticsEnabled, Settings.diagnosticsEnabled,
      (Settings.get_of_not_given s r hoption (fun hsome => hmap ?_) _).2]
    by_contra hcolor
    exact hsome (r.optionsFor_diagnostics henabled (Bool.not_eq_true _ ▸ hcolor))
  · intro hcolor hmap
    have hoption : Fields.get? (r.optionsFor "diagnostics") "color" = none := by
      rw [get?_diagnostics, hcolor]
      rfl
    rw [Settings.diagnosticsColor, Settings.diagnosticsColor,
      (Settings.get_of_not_given s r hoption (fun hsome => hmap ?_) _).2]
    by_contra henabled
    exact hsome (r.optionsFor_diagnostics (Bool.not_eq_true _ ▸ henabled) hcolor)
  · intro hformat
    have hnone : r.optionsFor "output" = field "format" (given r.format) := rfl
    rw [hformat] at hnone
    rw [Settings.outputFormat, Settings.outputFormat, Settings.get_eq, Settings.get_eq,
      Settings.group_of_no_options s r hnone]

/-- The fields that some settings are made of: those of the configuration file, or none. -/
theorem fields_of_load {fs : FileSystem} {path : Option String} {s : Settings}
    (h : Settings.load fs path = .ok s) :
    ∃ fields, s = .ofFields fields ∧ WellKeyed (.map fields) ∧
      (∀ file, path = some file → file ≠ "" → Settings.loadFile fs file = .ok fields) ∧
      ((∀ file, path = some file → file = "") → fields = []) := by
  by_cases hfile : ∃ file, path = some file ∧ file ≠ ""
  · obtain ⟨file, rfl, hne⟩ := hfile
    rw [Settings.load_some hne] at h
    cases hfields : Settings.loadFile fs file with
    | error fault =>
      rw [hfields] at h
      cases h
    | ok fields =>
      rw [hfields] at h
      refine ⟨fields, (Except.ok.inj h).symm, Settings.wellKeyed_loadFile hfields, ?_, ?_⟩
      · rintro other ⟨⟩ -
        exact hfields
      · intro hempty
        exact absurd (hempty file rfl) hne
  · have hempty : ∀ file, path = some file → file = "" := by
      intro file hpath
      by_contra hne
      exact hfile ⟨file, hpath, hne⟩
    have hdefault : Settings.load fs path = .ok (.ofFields []) := by
      rcases path with _ | file
      · rfl
      · rw [hempty file rfl]
        rfl
    refine ⟨[], Except.ok.inj (h.symm.trans hdefault), WellKeyed.empty, ?_, fun _ => rfl⟩
    intro file hpath hne
    exact absurd (hempty file hpath) hne

/-- **Options over a configuration file over the defaults.**  If the configuration file of a request
can be loaded, the request has settings.  Every option that is given counts in them, and everything
else is as in the file over the defaults, as long as the sections that the options are about are
mappings there.  In these in turn, what the file does not set has its default at every path, unless
something above it in the file is no mapping. -/
theorem settings_layers {r : AnalyzeRequest} {fs : FileSystem} {path : Option String}
    (hpath : r.configPath fs = .ok path) {s : Settings} (hload : Settings.load fs path = .ok s) :
    ∃ t fields, r.settings fs = .ok t ∧ r.Rules t ∧ r.Leaves s t ∧
      s = .ofFields fields ∧
      (∀ file, path = some file → file ≠ "" → Settings.loadFile fs file = .ok fields) ∧
      ((∀ file, path = some file → file = "") → fields = []) ∧
      ∀ names, (Value.map fields).at? names = none →
        (∀ above, above <+: names → above ≠ names →
          ∀ v, (Value.map fields).at? above = some v → v.isMap = true) →
        (Value.map s.data).at? names = (Value.map Settings.default.data).at? names := by
  obtain ⟨fields, rfl, hkeyed, hfile, hnone⟩ := fields_of_load hload
  refine ⟨_, fields, settings_eq hpath hload, r.rules_merged _, r.leaves_merged _, rfl, hfile,
    hnone, ?_⟩
  intro names hunset habove
  exact Settings.at?_mergeFields hkeyed Settings.default.data hunset habove

/-- A configuration with a section that is no mapping, one that is set in part, and one that is not
among the defaults. -/
def layeredConfig : List (String × Value) :=
  [("diagnostics", .int 5),
    ("frontend", .map (Settings.named [("clang_args", .list [.text "-I"])])),
    ("extra", .map (Settings.named [("deep", .map (Settings.named []))]))]

/-- The file with it. -/
def layeredFiles : FileSystem where
  top := .dir [("conf.json", .file (bytesOf (Json.write (.map (Settings.named layeredConfig)))))]
  cwd := []

theorem loadFile_layeredFiles :
    Settings.loadFile layeredFiles "conf.json" = .ok (Settings.named layeredConfig) := by
  have htext : (Path.ofString "conf.json").text = "conf.json" := by decide +kernel
  have hpieces : Path.pieces "conf.json" = ["conf.json"] := by decide +kernel
  have hcheck : FileSystem.checkPath "conf.json" = .ok () :=
    toOption_eq_some_iff.mp (by decide +kernel)
  have hstart : layeredFiles.startOf "conf.json" = [] := by
    simp [FileSystem.startOf, FileSystem.startFrom, layeredFiles]
  have hread : layeredFiles.read (Path.ofString "conf.json").text =
      .ok (bytesOf (Json.write (.map (Settings.named layeredConfig)))) := by
    rw [htext, FileSystem.read, FileSystem.locate, hcheck, hpieces, hstart]
    rfl
  have hplain : Json.Plain 3 (.map (Settings.named layeredConfig)) := by
    refine .map (by simp [layeredConfig]) ?_
    simp only [layeredConfig, List.forall_mem_cons]
    refine ⟨.int (by decide +kernel), .map (by simp) ?_, .map (by simp) ?_,
      fun _ h => absurd h List.not_mem_nil⟩
    · refine List.forall_mem_singleton.mpr (.list ?_)
      exact List.forall_mem_singleton.mpr (.text _)
    · refine List.forall_mem_singleton.mpr (.map (by simp) ?_)
      exact fun _ h => absurd h List.not_mem_nil
  rw [Settings.loadFile_eq hread, Json.valueOf_write hplain (by decide) (by decide +kernel)]
  rfl

/-- A request with options for both of its sections and an empty one. -/
def layeredRequest : AnalyzeRequest :=
  { paths := ["."], config := some "conf.json", frontend := some "clang", report := some "",
    noColor := true }

/-- The options count in both sections, and what they do not set stays. -/
theorem settings_layers_layeredRequest :
    ∃ s t, Settings.load layeredFiles (some "conf.json") = .ok s ∧
      layeredRequest.settings layeredFiles = .ok t ∧
      t.frontendName = .ok (.text "clang") ∧
      t.frontendOptions.field? "clang_args" = some (.list [.text "-I"]) ∧
      s.diagnosticsColor = .error .notAMapping ∧ t.diagnosticsColor = .ok false ∧
      t.reportPath = .ok (.text "results.cy") ∧
      (Value.map s.data).at? ["exclusion", "header_extensions"] =
        some (Settings.texts Policy.defaultHeaders) := by
  have hload : Settings.load layeredFiles (some "conf.json") =
      .ok (.ofFields (Settings.named layeredConfig)) := by
    rw [Settings.load_some (by decide), loadFile_layeredFiles]
    rfl
  have hpath : layeredRequest.configPath layeredFiles = .ok (some "conf.json") := rfl
  obtain ⟨t, fields, hsettings, hrules, hleaves, hs, hfile, -, hunset⟩ :=
    settings_layers hpath hload
  obtain rfl : fields = Settings.named layeredConfig := by
    have hsame := hfile "conf.json" rfl (by decide)
    exact Except.ok.inj (hsame.symm.trans loadFile_layeredFiles)
  refine ⟨_, t, hload, hsettings, hrules.frontendName "clang" rfl (by decide), ?_, rfl,
    hrules.diagnosticsColor rfl, ?_, ?_⟩
  · rw [hleaves.compilerArgs rfl fun _ => rfl]
    rfl
  · rw [hleaves.reportPath rfl]
    rfl
  · rw [hunset _ rfl ?_]
    · rfl
    · intro above hprefix _ v hv
      rcases List.prefix_cons_iff.mp hprefix with rfl | ⟨rest, rfl, -⟩
      · obtain rfl := Option.some.inj hv
        rfl
      · cases hv

end AnalyzeRequest

end Cyclometry
