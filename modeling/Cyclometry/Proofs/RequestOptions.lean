import Mathlib.Tactic.SplitIfs
import Cyclometry.Program
import Cyclometry.Proofs.MergedFields

/-!
# Options over settings

The options of a request are merged over its settings as one mapping for each section that they are
about (`AnalyzeRequest.get?_overrides`).  None of them is a mapping itself, so there is always room
for that (`AnalyzeRequest.settings_eq`).  An option that is given counts, whatever stands in its
section, and all other settings stay as they are, as long as the sections that options are about are
mappings (`Settings.get_of_given`, `Settings.get_of_not_given`).
-/

namespace Cyclometry

open Value (WellKeyed)

theorem Fields.get?_append (fields more : Fields) (name : String) :
    Fields.get? (fields ++ more) name = (fields.get? name).or (more.get? name) := by
  rw [get?, find?, List.find?_append, Option.map_or]
  rfl

/-! ## What the options say -/

namespace AnalyzeRequest

/-- The arguments for the compiler, if there are any. -/
def givenArgs (r : AnalyzeRequest) : Option Value :=
  if r.compilerArgs.isEmpty then none else some (.list (r.compilerArgs.map compilerArg))

/-- What a switch says if it is on. -/
def switchedOff (on : Bool) : Option Value := if on then some (.bool false) else none

/-- What the options say about a section. -/
def optionsFor (r : AnalyzeRequest) (name : String) : Fields :=
  if name = "frontend" then
    field "name" (given r.frontend) ++ field "clang_args" r.givenArgs
  else if name = "report" then field "path" (given r.report)
  else if name = "diagnostics" then
    field "enabled" (switchedOff r.noDiagnostics) ++ field "color" (switchedOff r.noColor)
  else if name = "output" then field "format" (given r.format)
  else []

theorem get?_field (name other : String) (v : Option Value) :
    Fields.get? (field name v) other = if name = other then v else none := by
  cases v with
  | none => simp [field, Fields.get?, Fields.find?]
  | some v =>
    by_cases h : name = other
    · simp [field, Fields.get?, Fields.find?, Value.sameKey_text_iff, h]
    · simp [field, Fields.get?, Fields.find?, Value.sameKey_text_iff, h]

theorem get?_group (name other : String) (fields : Fields) :
    Fields.get? (group name fields) other =
      if name = other ∧ fields.isEmpty = false then some (.map fields) else none := by
  cases hempty : fields.isEmpty with
  | true => simp [group, hempty, Fields.get?, Fields.find?]
  | false =>
    by_cases h : name = other
    · simp [group, hempty, Fields.get?, Fields.find?, Value.sameKey_text_iff, h]
    · simp [group, hempty, Fields.get?, Fields.find?, Value.sameKey_text_iff, h]

/-- The sections that options can be about. -/
def sections : List String := ["frontend", "report", "diagnostics", "output"]

theorem overrides_eq (r : AnalyzeRequest) :
    r.overrides = sections.flatMap fun name => group name (r.optionsFor name) := by
  simp only [sections, List.flatMap_cons, List.flatMap_nil, List.append_nil, ← List.append_assoc]
  rfl

theorem get?_flatMap_group (names : List String) (fields : String → Fields) (other : String) :
    Fields.get? (names.flatMap fun name => group name (fields name)) other =
      if other ∈ names ∧ (fields other).isEmpty = false then some (.map (fields other))
      else none := by
  induction names with
  | nil => rfl
  | cons name names ih =>
    rw [List.flatMap_cons, Fields.get?_append, ih, get?_group]
    by_cases h : name = other
    · subst h
      by_cases hempty : (fields name).isEmpty = false <;> simp [hempty]
    · have hne : other ≠ name := fun heq => h heq.symm
      simp [h, hne]

/-- The options are merged as one mapping for each section that they are about. -/
theorem get?_overrides (r : AnalyzeRequest) (name : String) :
    Fields.get? r.overrides name =
      if (r.optionsFor name).isEmpty = false then some (.map (r.optionsFor name)) else none := by
  rw [overrides_eq, get?_flatMap_group]
  by_cases h : name ∈ sections
  · simp [h]
  · have hnone : r.optionsFor name = [] := by
      simp only [sections, List.mem_cons, not_or] at h
      rw [optionsFor, if_neg h.1, if_neg h.2.1, if_neg h.2.2.1, if_neg h.2.2.2.1]
    simp [h, hnone]

theorem mem_overrides {r : AnalyzeRequest} {f : Value × Value} (h : f ∈ r.overrides) :
    ∃ name ∈ sections, f = (.text name, .map (r.optionsFor name)) := by
  rw [overrides_eq] at h
  obtain ⟨name, hname, hf⟩ := List.mem_flatMap.mp h
  rw [group] at hf
  split at hf
  · cases hf
  · exact ⟨name, hname, List.mem_singleton.mp hf⟩

theorem keys_group (name : String) (fields : Fields) :
    ((group name fields).map Prod.fst).Sublist [.text name] := by
  unfold group
  split
  · exact List.nil_sublist _
  · exact List.Sublist.refl _

theorem keys_overrides (r : AnalyzeRequest) :
    (r.overrides.map Prod.fst).Sublist (sections.map .text) := by
  simp only [overrides, List.map_append]
  exact (((keys_group _ _).append (keys_group _ _)).append (keys_group _ _)).append (keys_group _ _)

theorem apart_overrides (r : AnalyzeRequest) : Apart Value.sameKey r.overrides := by
  have hgroups : (sections.map Value.text).Pairwise fun a b => a.sameKey b = false := by
    simp [sections, Value.sameKey]
  exact List.pairwise_map.mp (hgroups.sublist r.keys_overrides)

theorem apart_field (name : String) (v : Option Value) : Apart Value.sameKey (field name v) := by
  cases v with
  | none => exact List.Pairwise.nil
  | some v => exact List.pairwise_singleton _ _

theorem apart_fields {name other : String} (hne : name ≠ other) (v w : Option Value) :
    Apart Value.sameKey (field name v ++ field other w) := by
  refine List.pairwise_append.mpr ⟨apart_field name v, apart_field other w, ?_⟩
  intro a ha b hb
  obtain ⟨x, -, rfl⟩ := Option.map_eq_some_iff.mp (Option.mem_toList.mp ha)
  obtain ⟨y, -, rfl⟩ := Option.map_eq_some_iff.mp (Option.mem_toList.mp hb)
  rw [← Bool.not_eq_true, Value.sameKey_text_iff, Value.text.injEq]
  exact hne

theorem apart_optionsFor (r : AnalyzeRequest) (name : String) :
    Apart Value.sameKey (r.optionsFor name) := by
  unfold optionsFor
  split_ifs
  · exact apart_fields (by decide) _ _
  · exact apart_field _ _
  · exact apart_fields (by decide) _ _
  · exact apart_field _ _
  · exact List.Pairwise.nil

/-- The options have keys, and none is a mapping. -/
theorem plain_of_mem_optionsFor {r : AnalyzeRequest} {name : String} {f : Value × Value}
    (h : f ∈ r.optionsFor name) : f.1.isKey = true ∧ f.2.isMap = false := by
  have hgiven {word : Option String} {v : Value} (hv : given word = some v) : v.isMap = false := by
    obtain ⟨text, -, rfl⟩ := Option.map_eq_some_iff.mp hv
    rfl
  have hargs {v : Value} (hv : r.givenArgs = some v) : v.isMap = false := by
    obtain rfl := Option.some.inj (Option.ite_none_left_eq_some.mp hv).2
    rfl
  have hswitch {on : Bool} {v : Value} (hv : switchedOff on = some v) : v.isMap = false := by
    obtain rfl := Option.some.inj (Option.ite_none_right_eq_some.mp hv).2
    rfl
  have hfield {key : String} {v : Option Value} (hv : ∀ w, v = some w → w.isMap = false)
      (hf : f ∈ field key v) : f.1.isKey = true ∧ f.2.isMap = false := by
    obtain ⟨w, hw, rfl⟩ := Option.map_eq_some_iff.mp (Option.mem_toList.mp hf)
    exact ⟨rfl, hv w hw⟩
  unfold optionsFor at h
  split_ifs at h
  · rcases List.mem_append.mp h with h | h
    · exact hfield (fun _ => hgiven) h
    · exact hfield (fun _ => hargs) h
  · exact hfield (fun _ => hgiven) h
  · rcases List.mem_append.mp h with h | h
    · exact hfield (fun _ => hswitch) h
    · exact hfield (fun _ => hswitch) h
  · exact hfield (fun _ => hgiven) h
  · exact absurd h List.not_mem_nil

theorem wellKeyed_overrides (r : AnalyzeRequest) : WellKeyed (.map r.overrides) := by
  refine .map (fun f hf => ?_) r.apart_overrides fun f hf => ?_
  · obtain ⟨name, -, rfl⟩ := mem_overrides hf
    rfl
  · obtain ⟨name, -, rfl⟩ := mem_overrides hf
    exact .map (fun _ h => (plain_of_mem_optionsFor h).1) (r.apart_optionsFor name)
      fun _ h => .plain (plain_of_mem_optionsFor h).2

theorem isShallow_overrides (r : AnalyzeRequest) : Settings.isShallow r.overrides = true := by
  refine List.all_eq_true.mpr fun f hf => ?_
  obtain ⟨name, -, rfl⟩ := mem_overrides hf
  refine List.all_eq_true.mpr fun option hoption => ?_
  rw [(plain_of_mem_optionsFor hoption).2]
  rfl

/-- **There is always room for the options.** -/
theorem settings_eq {r : AnalyzeRequest} {fs : FileSystem} {path : Option String}
    (hpath : r.configPath fs = .ok path) {s : Settings} (hload : Settings.load fs path = .ok s) :
    r.settings fs = .ok (s.merged r.overrides) := by
  rw [settings, hpath]
  show (Settings.load fs path >>= _) = _
  rw [hload]
  show (s.overriddenBy r.overrides).mapError _ = _
  rw [Settings.overriddenBy_eq_merged r.wellKeyed_overrides (.inr r.isShallow_overrides)]
  rfl

end AnalyzeRequest

/-! ## Options over settings -/

namespace Settings

variable (s : Settings) (r : AnalyzeRequest)

theorem get_eq (title name : String) (default : Value) :
    s.get title name default =
      if (s.group title).isMap then .ok (((s.group title).field? name).getD default)
      else .error .notAMapping := by
  rw [get]
  cases s.group title <;> rfl

/-- A section that no option is about stays as it is. -/
theorem group_of_no_options {title : String} (h : r.optionsFor title = []) :
    (s.merged r.overrides).group title = s.group title := by
  rw [group, merged, Fields.get?, find?_mergeFields r.apart_overrides, ← Fields.get?,
    ← Fields.get?, r.get?_overrides, h]
  rfl

/-- A section that options are about is a mapping: the options, over whatever the section has in
it. -/
theorem field?_of_options {title : String} (h : r.optionsFor title ≠ []) (name : String) :
    ((s.merged r.overrides).group title).isMap = true ∧
    ((s.merged r.overrides).group title).field? name =
      (Fields.get? (r.optionsFor title) name).or ((s.group title).field? name) := by
  have hsome : (r.optionsFor title).isEmpty = false := by
    simpa using h
  rw [group, merged, Fields.get?, find?_mergeFields r.apart_overrides, ← Fields.get?,
    ← Fields.get?, r.get?_overrides, if_pos hsome, group, Option.map_some, Option.some_or]
  cases Fields.get? s.data title with
  | none => simp [mergeValue, Value.isMap, Value.field?, Fields.get?, Fields.find?]
  | some old =>
    cases old with
    | map base =>
      refine ⟨by simp [mergeValue, Value.isMap], ?_⟩
      simp only [Option.getD_some, mergeValue, Value.field?, Fields.get?,
        find?_mergeFields (r.apart_optionsFor title)]
      cases hoption : Fields.find? (r.optionsFor title) (.text name) with
      | none => rfl
      | some v =>
        obtain ⟨_, -, hmem⟩ := Fields.mem_of_find? hoption
        have hplain : v.isMap = false := (AnalyzeRequest.plain_of_mem_optionsFor hmem).2
        rw [Option.map_some, mergeValue_of_not_maps (.inl hplain)]
    | _ => simp [mergeValue, Value.isMap, Value.field?]

/-- **An option that is given counts**, whatever its section is. -/
theorem get_of_given {title name : String} {v : Value}
    (h : Fields.get? (r.optionsFor title) name = some v) (default : Value) :
    ((s.merged r.overrides).group title).field? name = some v ∧
    (s.merged r.overrides).get title name default = .ok v := by
  have hsome : r.optionsFor title ≠ [] := by
    intro hnil
    rw [hnil] at h
    cases h
  obtain ⟨hmap, hfield⟩ := field?_of_options s r hsome name
  rw [h, Option.some_or] at hfield
  rw [get_eq, if_pos hmap, hfield]
  exact ⟨rfl, rfl⟩

/-- **A setting without an option stays as it is**, unless its section was no mapping and other
options are about it. -/
theorem get_of_not_given {title name : String}
    (h : Fields.get? (r.optionsFor title) name = none)
    (hmap : r.optionsFor title ≠ [] → (s.group title).isMap = true) (default : Value) :
    ((s.merged r.overrides).group title).field? name = (s.group title).field? name ∧
    (s.merged r.overrides).get title name default = s.get title name default := by
  by_cases hsome : r.optionsFor title = []
  · rw [get_eq, get_eq, group_of_no_options s r hsome]
    exact ⟨rfl, rfl⟩
  · obtain ⟨hmap', hfield⟩ := field?_of_options s r hsome name
    rw [h, Option.none_or] at hfield
    rw [get_eq, get_eq, if_pos hmap', if_pos (hmap hsome), hfield]
    exact ⟨rfl, rfl⟩

end Settings

end Cyclometry
