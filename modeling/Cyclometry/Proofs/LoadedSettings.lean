import Cyclometry.Proofs.FileContents
import Cyclometry.Proofs.RequestOptions

/-!
# Settings from a configuration file

A file that can be loaded gives each setting the value that it has in the file, or else the default
(`Settings.accessors_ofFields`).  The merge of the two goes through one section at a time, so a
section that is no mapping takes the place of the defaults, and then none of its settings can be
read.  This and a list of names that has no elements are all that can go wrong
(`Settings.answers_iff`).

A file that cannot be loaded is reported as an error, with four exceptions
(`Settings.Unloadable`): it is not UTF-8, its JSON text is nested too deep or has a numeral that is
too long, or a scalar of its YAML text does not fit its tag.  These, and all faults of reading a
setting, end the program without a report (`Settings.load_fate`).
-/

namespace Cyclometry

namespace Settings

open Value (WellKeyed)

/-! ## Reading a setting -/

/-- What the fields of a file say about a setting of a section, where a default holds unless they
say something. -/
def settingIn (fields : Fields) (group name : String) (default : Value) : Except Fault Value :=
  match fields.get? group with
  | none => .ok default
  | some (.map inner) => .ok ((Fields.get? inner name).getD default)
  | some _ => .error .notAMapping

theorem get_ofFields {fields : Fields} (h : WellKeyed (.map fields)) {group name : String}
    {base : Fields} (hbase : Fields.get? default.data group = some (.map base)) {d : Value}
    (hd : base.get? name = some d) (hplain : d.isMap = false) (fallback : Value) :
    (ofFields fields).get group name fallback = settingIn fields group name d := by
  have hgroup : Fields.get? (mergeFields default.data fields) group =
      ((fields.get? group).map (mergeValue (some (.map base)))).or (some (.map base)) := by
    rw [Fields.get?, find?_mergeFields h.apart, ← Fields.get?, hbase, ← Fields.get?]
  rw [get, Settings.group, ofFields, merged, hgroup, settingIn]
  cases hfile : fields.get? group with
  | none => simp [hd]
  | some v =>
    cases v with
    | map inner =>
      have hname : Fields.get? (mergeFields base inner) name =
          ((Fields.get? inner name).map (mergeValue (some d))).or (some d) := by
        rw [Fields.get?, find?_mergeFields (h.find? hfile).apart, ← Fields.get?, hd, ← Fields.get?]
      simp only [Option.map_some, Option.some_or, mergeValue, Option.getD_some, hname]
      cases Fields.get? inner name with
      | none => rfl
      | some w =>
        have hold : ∀ old, some d = some old → old.isMap = false := by
          rintro old ⟨⟩
          exact hplain
        rw [Option.map_some, mergeValue_of_not_maps (.inr hold)]
        rfl
    | _ => simp [mergeValue]

/-- The elements of a setting that is to be a list. -/
def listIn : Except Fault Value → Except Fault (List Value)
  | .error fault => .error fault
  | .ok v =>
    match v.elements? with
    | some items => .ok items
    | none => .error .notAList

theorem getList_eq (s : Settings) (group name : String) :
    s.getList group name = listIn (s.get group name (.list [])) := by
  rw [getList]
  cases s.get group name (.list []) with
  | error fault => rfl
  | ok v => rfl

/-- **Each setting is what the file says, or else the default.** -/
theorem accessors_ofFields {fields : Fields} (h : WellKeyed (.map fields)) :
    let s := ofFields fields
    s.frontendName = settingIn fields "frontend" "name" (.text "treesitter") ∧
    s.headerExtensions =
      listIn (settingIn fields "exclusion" "header_extensions" (texts Policy.defaultHeaders)) ∧
    s.systemIncludeDirs =
      listIn (settingIn fields "exclusion" "system_include_dirs" (texts Policy.defaultSystemDirs)) ∧
    s.reportPath = settingIn fields "report" "path" (.text "results.cy") ∧
    s.diagnosticsEnabled =
      (settingIn fields "diagnostics" "enabled" (.bool true)).map Value.truthy ∧
    s.diagnosticsColor = (settingIn fields "diagnostics" "color" (.bool true)).map Value.truthy ∧
    s.outputFormat = settingIn fields "output" "format" (.text "text") := by
  intro s
  have hget {group name : String} {base : Fields}
      (hbase : Fields.get? default.data group = some (.map base)) {d : Value}
      (hd : base.get? name = some d) (hplain : d.isMap = false) (fallback : Value) :
      s.get group name fallback = settingIn fields group name d :=
    get_ofFields h hbase hd hplain fallback
  refine ⟨hget rfl rfl rfl _, ?_, ?_, hget rfl rfl rfl _, ?_, ?_, hget rfl rfl rfl _⟩
  · rw [headerExtensions, getList_eq, hget rfl rfl rfl]
  · rw [systemIncludeDirs, getList_eq, hget rfl rfl rfl]
  · rw [diagnosticsEnabled, hget rfl rfl rfl]
  · rw [diagnosticsColor, hget rfl rfl rfl]

/-- The sections that settings are read from. -/
def groups : List String := ["frontend", "exclusion", "report", "diagnostics", "output"]

/-- The settings that are lists. -/
def listNames : List String := ["header_extensions", "system_include_dirs"]

/-- Every section is a mapping, and what should be a list has elements. -/
structure Readable (fields : Fields) : Prop where
  groups : ∀ group ∈ groups, ∀ v ∈ fields.get? group, v.isMap = true
  lists : ∀ inner, fields.get? "exclusion" = some (.map inner) →
    ∀ name ∈ listNames, ∀ v ∈ Fields.get? inner name, v.elements?.isSome = true

/-- Every setting can be read.  The options of the parsers can be in any case. -/
structure Answers (s : Settings) : Prop where
  frontendName : ∃ v, s.frontendName = .ok v
  headerExtensions : ∃ vs, s.headerExtensions = .ok vs
  systemIncludeDirs : ∃ vs, s.systemIncludeDirs = .ok vs
  reportPath : ∃ v, s.reportPath = .ok v
  diagnosticsEnabled : ∃ b, s.diagnosticsEnabled = .ok b
  diagnosticsColor : ∃ b, s.diagnosticsColor = .ok b
  outputFormat : ∃ v, s.outputFormat = .ok v

theorem settingIn_ok_iff {fields : Fields} {group name : String} {d : Value} :
    (∃ v, settingIn fields group name d = .ok v) ↔ ∀ v ∈ fields.get? group, v.isMap = true := by
  rw [settingIn]
  cases fields.get? group with
  | none => exact ⟨fun _ v hv => (nomatch hv), fun _ => ⟨d, rfl⟩⟩
  | some v =>
    simp only [Option.mem_some_iff, forall_eq']
    cases v with
    | map inner => exact ⟨fun _ => rfl, fun _ => ⟨_, rfl⟩⟩
    | _ => exact ⟨fun ⟨_, h⟩ => (nomatch h), fun h => (nomatch h)⟩

theorem listIn_settingIn_ok_iff {fields : Fields} {group name : String} {d : Value}
    (hd : d.elements?.isSome = true) :
    (∃ vs, listIn (settingIn fields group name d) = .ok vs) ↔
      (∀ v ∈ fields.get? group, v.isMap = true) ∧
      ∀ inner, fields.get? group = some (.map inner) →
        ∀ v ∈ Fields.get? inner name, v.elements?.isSome = true := by
  have hlist {v : Value} : (∃ vs, listIn (.ok v) = .ok vs) ↔ v.elements?.isSome = true := by
    cases helements : v.elements? with
    | none => simp [listIn, helements]
    | some items => simp [listIn, helements]
  rw [settingIn]
  cases hgroup : fields.get? group with
  | none => simp [hlist, hd]
  | some v =>
    cases v with
    | map inner =>
      simp only [hlist, Option.mem_some_iff, forall_eq', Value.isMap, Option.some.injEq,
        Value.map.injEq]
      cases hname : Fields.get? inner name with
      | none => simp [hd]
      | some w => simp
    | _ =>
      simp only [Option.mem_some_iff, forall_eq', Value.isMap]
      refine iff_of_false ?_ fun h => Bool.false_ne_true h.1
      rintro ⟨_, h⟩
      cases h

/-- **All settings of a file can be read** exactly if every section of it is a mapping and the lists
are such. -/
theorem answers_iff {fields : Fields} (h : WellKeyed (.map fields)) :
    (ofFields fields).Answers ↔ Readable fields := by
  obtain ⟨hfrontend, hheaders, hdirs, hreport, henabled, hcolor, hformat⟩ := accessors_ofFields h
  constructor
  · rintro ⟨h₁, h₂, h₃, h₄, h₅, -, h₇⟩
    rw [hfrontend, settingIn_ok_iff] at h₁
    rw [hheaders, listIn_settingIn_ok_iff rfl] at h₂
    rw [hdirs, listIn_settingIn_ok_iff rfl] at h₃
    rw [hreport, settingIn_ok_iff] at h₄
    rw [henabled, exists_map_eq_ok_iff, settingIn_ok_iff] at h₅
    rw [hformat, settingIn_ok_iff] at h₇
    constructor
    · simp only [groups, List.forall_mem_cons]
      exact ⟨h₁, h₂.1, h₄, h₅, h₇, fun _ hmem => absurd hmem List.not_mem_nil⟩
    · intro inner hinner
      simp only [listNames, List.forall_mem_cons]
      exact ⟨h₂.2 inner hinner, h₃.2 inner hinner, fun _ hmem => absurd hmem List.not_mem_nil⟩
  · rintro ⟨hgroups, hlists⟩
    simp only [groups, listNames, List.forall_mem_cons] at hgroups hlists
    obtain ⟨h₁, h₂, h₄, h₅, h₇, -⟩ := hgroups
    constructor
    · rw [hfrontend, settingIn_ok_iff]
      exact h₁
    · rw [hheaders, listIn_settingIn_ok_iff rfl]
      exact ⟨h₂, fun inner hinner => (hlists inner hinner).1⟩
    · rw [hdirs, listIn_settingIn_ok_iff rfl]
      exact ⟨h₂, fun inner hinner => (hlists inner hinner).2.1⟩
    · rw [hreport, settingIn_ok_iff]
      exact h₄
    · rw [henabled, exists_map_eq_ok_iff, settingIn_ok_iff]
      exact h₅
    · rw [hcolor, exists_map_eq_ok_iff, settingIn_ok_iff]
      exact h₅
    · rw [hformat, settingIn_ok_iff]
      exact h₇

/-! ## Loading a file -/

/-- A configuration file has a JSON text, by its name. -/
def isJson (path : String) : Bool := Text.lower (Path.ofString path).suffix == ".json"

/-- The value in the content of a configuration file. -/
def valueOf (path : String) (bytes : Bytes) : Except LoadFault Value :=
  match Utf8.decode? bytes with
  | none => .error .notUtf8
  | some cs =>
    if isJson path then readJson path (unifyNewlines cs) else readYaml path (unifyNewlines cs)

/-- The fields of a value that has to be a mapping. -/
def fieldsOf (path : String) : Value → Except LoadFault Fields
  | .map fields => .ok fields
  | _ => .error (.config (.notAMapping path))

/-- Where the reader of a JSON text stops. -/
def stopOf : Json.Fault → Nat
  | .malformed _ position => position
  | .numeralTooLong position => position

/-- A JSON text is nested too deep, in front of the place at which it is refused if it is. -/
def TooDeep (source : List Char) : Prop :=
  ∃ place, deepPlace? maxJsonNesting false 0 source = some place ∧
    ∀ fault, Json.read source = .error fault → place < stopOf fault

/-- Why the content of a configuration file cannot be loaded without being reported as such. -/
inductive Unloadable (path : String) (bytes : Bytes) : LoadFault → Prop
  | notUtf8 (hdecode : Utf8.decode? bytes = none) : Unloadable path bytes .notUtf8
  | nestedTooDeep {cs : List Char} (hdecode : Utf8.decode? bytes = some cs)
      (hjson : isJson path = true) (hdeep : TooDeep (unifyNewlines cs)) :
      Unloadable path bytes .nestedTooDeep
  | numeralTooLong {cs : List Char} {position : Nat} (hdecode : Utf8.decode? bytes = some cs)
      (hjson : isJson path = true) (hdeep : ¬ TooDeep (unifyNewlines cs))
      (hread : Json.read (unifyNewlines cs) = .error (.numeralTooLong position)) :
      Unloadable path bytes .numeralTooLong
  | scalar {cs : List Char} {fault : Yaml.Fault} (hdecode : Utf8.decode? bytes = some cs)
      (hyaml : isJson path = false) (hread : Yaml.read (unifyNewlines cs) = .error fault)
      (hfault : fault ≠ .malformed) : Unloadable path bytes (.scalar fault)

/-- All that reading a JSON file can come to. -/
theorem readJson_cases (path : String) (source : List Char) :
    (∃ v, readJson path source = .ok v ∧ WellKeyed v ∧ ¬ TooDeep source ∧
      Json.read source = .ok v) ∨
    (readJson path source = .error .nestedTooDeep ∧ TooDeep source) ∨
    (¬ TooDeep source ∧ ∃ cause position, Json.read source = .error (.malformed cause position) ∧
      readJson path source = .error (.config (.json path (cause.message position source)))) ∨
    (¬ TooDeep source ∧ ∃ position, Json.read source = .error (.numeralTooLong position) ∧
      readJson path source = .error .numeralTooLong) := by
  -- The text is too deep exactly if the reader says so: with a fault, if it stops further on.
  have hfault {fault : Json.Fault} (hread : Json.read source = .error fault) :
      TooDeep source ↔ ((deepPlace? maxJsonNesting false 0 source).map
        fun place => decide (place < stopOf fault)).getD false = true := by
    rw [TooDeep]
    cases deepPlace? maxJsonNesting false 0 source with
    | none => simp
    | some place => simp [hread]
  unfold readJson
  cases hread : Json.read source with
  | ok v =>
    have hdeep : TooDeep source ↔ (deepPlace? maxJsonNesting false 0 source).isSome = true := by
      rw [TooDeep, Option.isSome_iff_exists]
      simp [hread]
    dsimp only
    by_cases h : (deepPlace? maxJsonNesting false 0 source).isSome = true
    · rw [if_pos h]
      exact .inr (.inl ⟨rfl, hdeep.mpr h⟩)
    · rw [if_neg h]
      exact .inl ⟨v, rfl, Json.wellKeyed_read hread, fun hd => h (hdeep.mp hd), rfl⟩
  | error fault =>
    have hdeep := hfault hread
    cases fault with
    | malformed cause position =>
      dsimp only [stopOf] at hdeep ⊢
      split_ifs with h
      · exact .inr (.inl ⟨rfl, hdeep.mpr h⟩)
      · exact .inr (.inr (.inl ⟨fun hd => h (hdeep.mp hd), cause, position, rfl, rfl⟩))
    | numeralTooLong position =>
      dsimp only [stopOf] at hdeep ⊢
      split_ifs with h
      · exact .inr (.inl ⟨rfl, hdeep.mpr h⟩)
      · exact .inr (.inr (.inr ⟨fun hd => h (hdeep.mp hd), position, rfl, rfl⟩))

/-- All that reading a YAML file can come to. -/
theorem readYaml_cases (path : String) (source : List Char) :
    (∃ v, readYaml path source = .ok v ∧ WellKeyed v ∧ ∃ w, Yaml.read source = .ok w) ∨
    (Yaml.read source = .error .malformed ∧
      readYaml path source = .error (.config (.yaml path))) ∨
    (∃ fault, fault ≠ .malformed ∧ Yaml.read source = .error fault ∧
      readYaml path source = .error (.scalar fault)) := by
  rw [readYaml]
  cases hread : Yaml.read source with
  | ok v =>
    refine .inl ⟨_, rfl, ?_, v, rfl⟩
    split_ifs
    · exact Yaml.wellKeyed_read hread
    · exact WellKeyed.empty
  | error fault =>
    by_cases h : fault = .malformed
    · subst h
      exact .inr (.inl ⟨rfl, rfl⟩)
    · refine .inr (.inr ⟨fault, h, rfl, ?_⟩)
      cases fault <;> first | rfl | exact absurd rfl h

section Contents

variable {path : String} {bytes : Bytes} {cs : List Char} {fault : LoadFault}

theorem unloadable_iff_of_not_utf8 (hdecode : Utf8.decode? bytes = none) :
    Unloadable path bytes fault ↔ fault = .notUtf8 := by
  constructor
  · rintro (- | h | h | h)
    · rfl
    all_goals
      rw [hdecode] at h
      cases h
  · rintro rfl
    exact .notUtf8 hdecode

theorem unloadable_iff_of_json (hdecode : Utf8.decode? bytes = some cs)
    (hjson : isJson path = true) : Unloadable path bytes fault ↔
      fault = .nestedTooDeep ∧ TooDeep (unifyNewlines cs) ∨
      fault = .numeralTooLong ∧ ¬ TooDeep (unifyNewlines cs) ∧
        ∃ position, Json.read (unifyNewlines cs) = .error (.numeralTooLong position) := by
  constructor
  · rintro (h | ⟨h, -, hdeep⟩ | ⟨h, -, hdeep, hread⟩ | ⟨-, hyaml, -, -⟩)
    · rw [hdecode] at h
      cases h
    · obtain rfl := Option.some.inj (hdecode.symm.trans h)
      exact .inl ⟨rfl, hdeep⟩
    · obtain rfl := Option.some.inj (hdecode.symm.trans h)
      exact .inr ⟨rfl, hdeep, _, hread⟩
    · rw [hjson] at hyaml
      cases hyaml
  · rintro (⟨rfl, hdeep⟩ | ⟨rfl, hdeep, position, hread⟩)
    · exact .nestedTooDeep hdecode hjson hdeep
    · exact .numeralTooLong hdecode hjson hdeep hread

theorem unloadable_iff_of_yaml (hdecode : Utf8.decode? bytes = some cs)
    (hyaml : isJson path = false) : Unloadable path bytes fault ↔
      ∃ cause, fault = .scalar cause ∧ cause ≠ .malformed ∧
        Yaml.read (unifyNewlines cs) = .error cause := by
  constructor
  · rintro (h | ⟨-, hjson, -⟩ | ⟨-, hjson, -, -⟩ | ⟨h, -, hread, hfault⟩)
    · rw [hdecode] at h
      cases h
    · rw [hyaml] at hjson
      cases hjson
    · rw [hyaml] at hjson
      cases hjson
    · obtain rfl := Option.some.inj (hdecode.symm.trans h)
      exact ⟨_, rfl, hfault, hread⟩
  · rintro ⟨cause, rfl, hfault, hread⟩
    exact .scalar hdecode hyaml hread hfault

/-- All that the content of a configuration file can come to. -/
theorem valueOf_cases (path : String) (bytes : Bytes) :
    (∃ v, valueOf path bytes = .ok v ∧ WellKeyed v ∧ ∀ fault, ¬ Unloadable path bytes fault) ∨
    (∃ error, valueOf path bytes = .error (.config error) ∧
      ∀ fault, ¬ Unloadable path bytes fault) ∨
    (∃ fault, valueOf path bytes = .error fault ∧ (Fault.load fault).report? = none ∧
      ∀ other, Unloadable path bytes other ↔ other = fault) := by
  unfold valueOf
  cases hdecode : Utf8.decode? bytes with
  | none => exact .inr (.inr ⟨.notUtf8, rfl, rfl, fun other => unloadable_iff_of_not_utf8 hdecode⟩)
  | some cs =>
    dsimp only
    cases hjson : isJson path with
    | true =>
      rw [if_pos rfl]
      simp only [unloadable_iff_of_json hdecode hjson]
      rcases readJson_cases path (unifyNewlines cs) with ⟨v, hv, hkeyed, hdeep, hread⟩ |
        ⟨hv, hdeep⟩ | ⟨hdeep, cause, position, hread, hv⟩ | ⟨hdeep, position, hread, hv⟩
      · exact .inl ⟨v, hv, hkeyed, fun fault => by simp [hdeep, hread]⟩
      · exact .inr (.inr ⟨_, hv, rfl, fun other => by simp [hdeep]⟩)
      · exact .inr (.inl ⟨_, hv, fun fault => by simp [hdeep, hread]⟩)
      · exact .inr (.inr ⟨_, hv, rfl, fun other => by simp [hdeep, hread]⟩)
    | false =>
      rw [if_neg Bool.false_ne_true]
      simp only [unloadable_iff_of_yaml hdecode hjson]
      rcases readYaml_cases path (unifyNewlines cs) with ⟨v, hv, hkeyed, w, hread⟩ | ⟨hread, hv⟩ |
        ⟨cause, hcause, hread, hv⟩
      · exact .inl ⟨v, hv, hkeyed, fun fault => by simp [hread]⟩
      · exact .inr (.inl ⟨_, hv, fun fault => by simp [hread]⟩)
      · refine .inr (.inr ⟨_, hv, rfl, fun other => ?_⟩)
        rw [hread]
        constructor
        · rintro ⟨found, rfl, -, hfound⟩
          rw [Except.error.inj hfound]
        · rintro rfl
          exact ⟨cause, rfl, hcause, rfl⟩

end Contents

/-- A file that can be read is loaded by its content, and any other one is reported. -/
theorem loadFile_cases (fs : FileSystem) (path : String) :
    (∃ bytes, fs.read (Path.ofString path).text = .ok bytes ∧
      loadFile fs path = valueOf path bytes >>= fieldsOf path) ∨
    ∃ error fault report, fs.read (Path.ofString path).text = .error error ∧
      loadFile fs path = .error fault ∧ (Fault.load fault).report? = some report := by
  unfold loadFile FileSystem.pathExists FileSystem.status FileSystem.read
  dsimp only
  rcases fs.locate (Path.ofString path).text with
    (⟨cause, file⟩ | _) | (⟨names, data | entries | target⟩ | ⟨dir, name⟩)
  · cases cause <;> exact .inr ⟨_, _, _, rfl, rfl, rfl⟩
  · exact .inr ⟨_, _, _, rfl, rfl, rfl⟩
  · refine .inl ⟨data, rfl, ?_⟩
    simp only [valueOf, isJson, Except.map, Option.isSome_some, Except.mapError, Entry.content]
    change (match Utf8.decode? data with
      | none => _
      | some cs => _) = _
    cases Utf8.decode? data with
    | none => rfl
    | some cs =>
      dsimp only
      -- The value has to be a mapping, whichever reader it comes from.
      by_cases hjson : (Text.lower (Path.ofString path).suffix == ".json") = true
      · simp only [hjson, if_true]
        generalize readJson path (unifyNewlines cs) = v
        rcases v with fault | value
        · rfl
        · cases value <;> rfl
      · simp only [hjson]
        generalize readYaml path (unifyNewlines cs) = v
        rcases v with fault | value
        · rfl
        · cases value <;> rfl
  · exact .inr ⟨_, _, _, rfl, rfl, rfl⟩
  · exact .inr ⟨_, _, _, rfl, rfl, rfl⟩
  · exact .inr ⟨_, _, _, rfl, rfl, rfl⟩

end Settings

/-! ## Faults in the program -/

/-- The options of a request say nothing about what is excluded. -/
theorem AnalyzeRequest.headerExtensions_merged (r : AnalyzeRequest) (settings : Settings) :
    (settings.merged r.overrides).headerExtensions = settings.headerExtensions := by
  have hnone : r.optionsFor "exclusion" = [] := rfl
  rw [Settings.headerExtensions, Settings.headerExtensions, Settings.getList_eq,
    Settings.getList_eq, Settings.get_eq, Settings.get_eq,
    Settings.group_of_no_options settings r hnone]

namespace Program

/-- What cannot be carried out leaves the file system as it is.  It is reported, if the fault is one
of those. -/
theorem perform_of_prepare_error {r : AnalyzeRequest} {s : Surroundings} {fault : Fault}
    (h : prepare r s = .error fault) :
    perform s (.analyze r) =
      match fault.report? with
      | some report => ⟨s.fs, "", "Error: " ++ report ++ "\n",
          if s.debug then .fallen fault else .reported fault⟩
      | none => ⟨s.fs, "", "", .fallen fault⟩ := by
  have hnone : eventsText r.verbose [] = "" := rfl
  simp only [perform, analyze, h, outcome, hnone]
  cases fault.report? with
  | none => rfl
  | some report => simp

theorem prepare_of_load_error {r : AnalyzeRequest} {s : Surroundings} {path : Option String}
    (hpath : r.configPath s.fs = .ok path) {fault : Settings.LoadFault}
    (hload : Settings.load s.fs path = .error fault) : prepare r s = .error (.load fault) := by
  have hsettings : r.settings s.fs = .error fault := by
    rw [AnalyzeRequest.settings, hpath]
    change (Settings.load s.fs path >>= _) = _
    rw [hload]
    rfl
  rw [prepare, hsettings]
  rfl

theorem prepare_of_headers_error {r : AnalyzeRequest} {s : Surroundings} {path : Option String}
    (hpath : r.configPath s.fs = .ok path) {settings : Settings}
    (hload : Settings.load s.fs path = .ok settings) {fault : Settings.Fault}
    (hheaders : settings.headerExtensions = .error fault) {unit : String} {rest : List String}
    (hpaths : r.paths = unit :: rest) (hexists : s.fs.pathExists unit = .ok true) :
    prepare r s = .error (.ofSettings fault) := by
  have hsettings := AnalyzeRequest.settings_eq hpath hload
  have hunits : unitsOf s.fs (settings.merged r.overrides) unit =
      .error (.ofSettings fault) := by
    rw [unitsOf, hexists]
    dsimp only
    rw [r.headerExtensions_merged, hheaders]
    rfl
  have hall : r.paths.mapM (unitsOf s.fs (settings.merged r.overrides)) =
      .error (.ofSettings fault) := by
    rw [hpaths, List.mapM_cons, hunits]
    rfl
  rw [prepare, hsettings]
  change (r.paths.mapM (unitsOf s.fs (settings.merged r.overrides)) >>= _) = _
  rw [hall]
  rfl

end Program

namespace Settings

open Value (WellKeyed)

theorem load_some {file : String} (hfile : file ≠ "") (fs : FileSystem) :
    load fs (some file) = (loadFile fs file).map ofFields := by
  unfold load
  split
  · rename_i h
    cases h
  · rename_i h
    exact absurd (Option.some.inj h) hfile
  · rename_i other _ h
    rw [Option.some.inj h]

theorem loadFile_missing {fs : FileSystem} {path : String}
    (h : fs.pathExists (Path.ofString path).text = .ok false) :
    loadFile fs path = .error (.notFound path) := by
  unfold loadFile
  simp only [h]
  rfl

/-- All that loading a configuration file can come to. -/
theorem load_cases {file : String} (hfile : file ≠ "") (fs : FileSystem) :
    (∃ fields bytes, load fs (some file) = .ok (ofFields fields) ∧ WellKeyed (.map fields) ∧
      fs.read (Path.ofString file).text = .ok bytes ∧ valueOf file bytes = .ok (.map fields) ∧
      ∀ fault, ¬ Unloadable file bytes fault) ∨
    (∃ fault report, load fs (some file) = .error fault ∧
      (Fault.load fault).report? = some report ∧
      ∀ bytes, fs.read (Path.ofString file).text = .ok bytes →
        ∀ fault, ¬ Unloadable file bytes fault) ∨
    (∃ bytes fault, fs.read (Path.ofString file).text = .ok bytes ∧
      load fs (some file) = .error fault ∧ (Fault.load fault).report? = none ∧
      ∀ other, Unloadable file bytes other ↔ other = fault) := by
  rw [load_some hfile]
  rcases loadFile_cases fs file with
    ⟨bytes, hread, hload⟩ | ⟨error, fault, report, hread, hload, hreport⟩
  · rw [hload, hread]
    rcases valueOf_cases file bytes with ⟨v, hvalue, hkeyed, hfree⟩ | ⟨error, hvalue, hfree⟩ |
      ⟨fault, hvalue, hreport, hunloadable⟩
    · rw [hvalue]
      cases v with
      | map fields => exact .inl ⟨fields, bytes, rfl, hkeyed, rfl, hvalue, hfree⟩
      | _ =>
        refine .inr (.inl ⟨_, _, rfl, rfl, fun other hother => ?_⟩)
        obtain rfl := Except.ok.inj hother
        exact hfree
    · rw [hvalue]
      refine .inr (.inl ⟨_, _, rfl, rfl, fun other hother => ?_⟩)
      obtain rfl := Except.ok.inj hother
      exact hfree
    · rw [hvalue]
      exact .inr (.inr ⟨bytes, fault, rfl, rfl, hreport, hunloadable⟩)
  · rw [hload]
    refine .inr (.inl ⟨fault, report, rfl, hreport, fun bytes hbytes => ?_⟩)
    exact nomatch hread.symm.trans hbytes

/-- **The fate of a configuration file.**

* A file is loaded, or reported as an error, or it is unloadable; then, and only then, there is a
  fault that is not reported.
* Settings that are loaded are those of the fields in the file over the defaults.  All of them can
  be read exactly if every section in the file is a mapping, and what should be a list there has
  elements.
* If a file cannot be loaded, the program ends at once and leaves all files as they are.  It says
  why if the fault is one that is reported, and otherwise falls without a word.  No fault of
  reading a setting is reported; if the endings of header names cannot be read, the program falls
  at its first path. -/
theorem load_fate (fs : FileSystem) (path : Option String) :
    ((∃ fields, load fs path = .ok (ofFields fields) ∧
        (∀ file, path = some file → file ≠ "" → ∃ bytes,
          fs.read (Path.ofString file).text = .ok bytes ∧ valueOf file bytes = .ok (.map fields)) ∧
        ((ofFields fields).Answers ↔ Readable fields)) ∨
      (∃ fault report, load fs path = .error fault ∧ (Fault.load fault).report? = some report) ∨
      ∃ file bytes fault, path = some file ∧ file ≠ "" ∧
        fs.read (Path.ofString file).text = .ok bytes ∧ Unloadable file bytes fault ∧
        load fs path = .error fault ∧ (Fault.load fault).report? = none) ∧
    (∀ file bytes fault, path = some file → file ≠ "" →
      fs.read (Path.ofString file).text = .ok bytes → Unloadable file bytes fault →
      load fs path = .error fault ∧ (Fault.load fault).report? = none) ∧
    (∀ fault, (Fault.ofSettings fault).report? = none) ∧
    ∀ (s : Surroundings) (r : AnalyzeRequest), s.fs = fs → r.configPath fs = .ok path →
      (∀ fault, load fs path = .error fault → Program.perform s (.analyze r) =
        match (Fault.load fault).report? with
        | some report => ⟨fs, "", "Error: " ++ report ++ "\n",
            if s.debug then .fallen (.load fault) else .reported (.load fault)⟩
        | none => ⟨fs, "", "", .fallen (.load fault)⟩) ∧
      (∀ settings fault unit rest, load fs path = .ok settings →
        settings.headerExtensions = .error fault → r.paths = unit :: rest →
        fs.pathExists unit = .ok true →
        Program.perform s (.analyze r) = ⟨fs, "", "", .fallen (.ofSettings fault)⟩) := by
  have hsilent (fault : Settings.Fault) : (Fault.ofSettings fault).report? = none := by
    cases fault <;> rfl
  refine ⟨?_, ?_, hsilent, ?_⟩
  · by_cases hfile : ∃ file, path = some file ∧ file ≠ ""
    · obtain ⟨file, rfl, hne⟩ := hfile
      rcases load_cases hne fs with ⟨fields, bytes, hload, hkeyed, hread, hvalue, -⟩ |
        ⟨fault, report, hload, hreport, -⟩ | ⟨bytes, fault, hread, hload, hreport, hunloadable⟩
      · refine .inl ⟨fields, hload, fun other hother _ => ?_, answers_iff hkeyed⟩
        obtain rfl := Option.some.inj hother
        exact ⟨bytes, hread, hvalue⟩
      · exact .inr (.inl ⟨fault, report, hload, hreport⟩)
      · exact .inr (.inr ⟨file, bytes, fault, rfl, hne, hread, (hunloadable fault).mpr rfl, hload,
          hreport⟩)
    · -- Without a file the defaults hold, which are those of no fields.
      have hload : load fs path = .ok (ofFields []) := by
        rcases path with _ | file
        · rfl
        · obtain rfl : file = "" := by
            by_contra hne
            exact hfile ⟨file, rfl, hne⟩
          rfl
      exact .inl ⟨[], hload, fun file hpath hne => absurd ⟨file, hpath, hne⟩ hfile,
        answers_iff WellKeyed.empty⟩
  · rintro file bytes fault rfl hne hread hbad
    rcases load_cases hne fs with ⟨-, other, -, -, hother, -, hfree⟩ | ⟨-, -, -, -, hfree⟩ |
      ⟨other, found, hother, hload, hreport, hunloadable⟩
    · obtain rfl := Except.ok.inj (hread.symm.trans hother)
      exact absurd hbad (hfree fault)
    · exact absurd hbad (hfree bytes hread fault)
    · obtain rfl := Except.ok.inj (hread.symm.trans hother)
      obtain rfl := (hunloadable fault).mp hbad
      exact ⟨hload, hreport⟩
  · rintro s r rfl hpath
    refine ⟨fun fault hload => ?_, fun settings fault unit rest hload hheaders hpaths hexists => ?_⟩
    · exact Program.perform_of_prepare_error (Program.prepare_of_load_error hpath hload)
    · rw [Program.perform_of_prepare_error
        (Program.prepare_of_headers_error hpath hload hheaders hpaths hexists), hsilent]

/-- A source, a configuration file that is no text, and one with an empty section. -/
def configFiles : FileSystem where
  top := .dir [
    ("a.c", .file []),
    ("raw.yaml", .file [0xff]),
    ("empty.yaml", .file "exclusion:\n".toUTF8.toList)]
  cwd := []

/-- The program is started there.  No source is parsed. -/
def configSurroundings : Surroundings where
  fs := configFiles
  tools := ⟨fun _ _ _ => ⟨false, .mk ⟨"translation_unit", true, none, 0, 0, 0, 0⟩ []⟩,
    fun _ _ => .finish none, .noLibrary⟩
  terminal := ⟨false⟩
  debug := false
  interrupted := false

/-- A request with a configuration file. -/
def configRequest (file : String) : AnalyzeRequest := { paths := ["a.c"], config := some file }

/-- A missing file is reported, one that is no text lets the program fall, and so does an empty
section in a file that is loaded. -/
theorem load_fate_configFiles :
    let run file := Program.perform configSurroundings (.analyze (configRequest file))
    run "gone.yaml" = ⟨configFiles, "", "Error: Config file not found: gone.yaml\n",
      .reported (.load (.notFound "gone.yaml"))⟩ ∧
    run "raw.yaml" = ⟨configFiles, "", "", .fallen (.load .notUtf8)⟩ ∧
    (∃ fields, load configFiles (some "empty.yaml") = .ok (ofFields fields) ∧ ¬ Readable fields) ∧
    ∃ fault, run "empty.yaml" = ⟨configFiles, "", "", .fallen (.ofSettings fault)⟩ := by
  intro run
  obtain ⟨-, -, -, hgone⟩ := load_fate configFiles (some "gone.yaml")
  obtain ⟨-, hunloadable, -, hraw⟩ := load_fate configFiles (some "raw.yaml")
  obtain ⟨hempty, -, -, hfallen⟩ := load_fate configFiles (some "empty.yaml")
  have hloads : (load configFiles (some "empty.yaml")).toOption.any
      (fun settings => settings.headerExtensions.toOption.isNone) = true := by
    decide +kernel
  obtain ⟨fields, hload, hanswers, fault, hheaders⟩ : ∃ fields,
      load configFiles (some "empty.yaml") = .ok (ofFields fields) ∧
      ((ofFields fields).Answers ↔ Readable fields) ∧
      ∃ fault, (ofFields fields).headerExtensions = .error fault := by
    rcases hempty with ⟨fields, hload, -, hanswers⟩ | ⟨_, _, hload, -⟩ |
      ⟨_, _, _, -, -, -, -, hload, -⟩
    · refine ⟨fields, hload, hanswers, ?_⟩
      rw [hload] at hloads
      cases hheaders : (ofFields fields).headerExtensions with
      | error fault => exact ⟨fault, rfl⟩
      | ok vs => simp [Except.toOption, hheaders] at hloads
    · rw [hload] at hloads
      cases hloads
    · rw [hload] at hloads
      cases hloads
  refine ⟨?_, ?_, ?_, ?_⟩
  · have hexists : configFiles.pathExists (Path.ofString "gone.yaml").text = .ok false :=
      toOption_eq_some_iff.mp (by decide +kernel)
    have hload : load configFiles (some "gone.yaml") = .error (.notFound "gone.yaml") := by
      rw [load_some (by decide), loadFile_missing hexists]
      rfl
    exact (hgone configSurroundings (configRequest "gone.yaml") rfl rfl).1 _ hload
  · have hread : configFiles.read (Path.ofString "raw.yaml").text = .ok [0xff] :=
      toOption_eq_some_iff.mp (by decide +kernel)
    obtain ⟨hload, -⟩ := hunloadable "raw.yaml" [0xff] .notUtf8 rfl (by decide) hread
      (.notUtf8 (by decide +kernel))
    exact (hraw configSurroundings (configRequest "raw.yaml") rfl rfl).1 _ hload
  · exact ⟨fields, hload, fun hreadable => by
      obtain ⟨vs, hvs⟩ := (hanswers.mpr hreadable).headerExtensions
      rw [hheaders] at hvs
      cases hvs⟩
  · exact ⟨fault, (hfallen configSurroundings (configRequest "empty.yaml") rfl rfl).2 _ fault
      "a.c" [] hload hheaders rfl (toOption_eq_some_iff.mp (by decide +kernel))⟩

end Settings

end Cyclometry
