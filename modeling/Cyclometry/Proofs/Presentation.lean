import Cyclometry.Proofs.CursorKinds
import Cyclometry.Proofs.GraphicModes
import Cyclometry.Proofs.IndependentUnits
import Cyclometry.Proofs.LayeredSettings
import Cyclometry.Proofs.RecordedFunctions
import Cyclometry.Proofs.ResultChannels
import Cyclometry.Proofs.UnitCourse

/-!
# Showing results does not change them

Whether remarks are written to a sink, whether that is done in colour, and in which format a run is
summed up, is of no concern to what is measured.  The proof compares two walks of one tree that
differ in their sinks.  `State.mute` is what is left of a state without its sink and without the
remarks that were written to it, and a visit of a muted state is the visit, muted (`visit_mute`).
So the muted states of the two walks stay the same (`visitAll_alike`), and all results are made of
them.

One thing does show: a remark with a location that is too long to be written ends the walk if there
is a sink for it (`Walk.Overlong`).  `Engine.analyze_shown` says what is true of all units, and that
this is the only exception.
-/

namespace Cyclometry

/-! ## What is left without a sink -/

namespace Event

/-- The events that are no remarks. -/
def silent (events : List Event) : List Event := events.filter fun event => event.remark?.isNone

theorem silent_append (events more : List Event) :
    silent (events ++ more) = silent events ++ silent more := List.filter_append ..

theorem silent_log (rows : List Log.Row) : silent (rows.map log) = rows.map log := by
  refine List.filter_eq_self.mpr fun event hevent => ?_
  obtain ⟨row, -, rfl⟩ := List.mem_map.mp hevent
  rfl

theorem silent_remark (texts : List String) : silent (texts.map remark) = [] := by
  refine List.filter_eq_nil_iff.mpr fun event hevent => ?_
  obtain ⟨text, -, rfl⟩ := List.mem_map.mp hevent
  exact Bool.false_ne_true

theorem filterMap_remark?_log (rows : List Log.Row) : (rows.map log).filterMap remark? = [] := by
  refine List.filterMap_eq_nil_iff.mpr fun event hevent => ?_
  obtain ⟨row, -, rfl⟩ := List.mem_map.mp hevent
  rfl

theorem filterMap_remark?_remark (texts : List String) :
    (texts.map remark).filterMap remark? = texts := by
  rw [List.filterMap_map]
  exact List.filterMap_some

end Event

/-- The diagnostics without their sink. -/
def Diagnostics.mute (d : Diagnostics) : Diagnostics := { d with sink := none }

namespace Walk

namespace State

/-- The state without its sink, and without what was written to it. -/
def mute (s : State) : State :=
  { s with diagnostics := s.diagnostics.map Diagnostics.mute, events := Event.silent s.events }

theorem mute_note (s : State) (row : Log.Row) : (s.note row).mute = s.mute.note row := by
  simp only [mute, note, Event.silent_append]
  rfl

theorem mute_countExcluded (s : State) : s.countExcluded.mute = s.mute.countExcluded := rfl

theorem mute_countDeclaration (s : State) : s.countDeclaration.mute = s.mute.countDeclaration := rfl

theorem mute_countAnomaly (s : State) : s.countAnomaly.mute = s.mute.countAnomaly := rfl

theorem mute_record (s : State) (f : FunctionResult) : (s.record f).mute = s.mute.record f := by
  simp only [mute, record, Event.silent_append, Event.silent_log]

end State

variable {policy : Policy} {remarkId : Nat}

/-- Without a sink a remark is issued all the same, and nothing keeps it from being so. -/
theorem remark_mute {s : State} (hreg : ∀ d ∈ s.diagnostics, Registered remarkId d)
    (f : FunctionResult) :
    s.mute.remark remarkId f = ((s.remark remarkId f).1.mute, .ok ()) := by
  cases hd : s.diagnostics with
  | none =>
    have hmuted : s.mute.diagnostics = none := by rw [State.mute, hd, Option.map_none]
    rw [remark_none hd, remark_none hmuted]
  | some d =>
    have hmuted : s.mute.diagnostics = some d.mute := by rw [State.mute, hd, Option.map_some]
    have hregd : Registered remarkId d.mute := hreg d hd
    have hshows : d.mute.shows f.location = true := rfl
    have hwritten : d.mute.written (remarkOf remarkId f) = none := rfl
    rw [remark_eq (hreg d hd) hd, remark_eq hregd hmuted, if_pos hshows, hwritten]
    -- The diagnostic is added whether or not the sink can show it.
    split
    · simp only [State.mute, Event.silent_append, Event.silent_remark, Option.toList_none,
        List.map_nil, List.append_nil]
      rfl
    · simp only [State.mute, Option.toList_none, List.map_nil, List.append_nil]
      rfl

/-- Recording and remarking without a sink.  With one, the remark fails if it is too long. -/
theorem record_remark_mute {s : State} (hreg : ∀ d ∈ s.diagnostics, Registered remarkId d)
    (f : FunctionResult) :
    (s.mute.record f).remark remarkId f = (((s.record f).remark remarkId f).1.mute, .ok ()) ∧
    ((s.record f).remark remarkId f).2 =
      if s.sink.isSome = true ∧ f.location.isShort = false then .error .numeralTooLong
      else .ok () := by
  obtain ⟨-, -, -, hresult⟩ := remark_frame (s := s.record f) hreg f
  have hsink : (s.record f).sink = s.sink := rfl
  rw [← State.mute_record, remark_mute (s := s.record f) hreg, hresult, hsink]
  refine ⟨rfl, ?_⟩
  by_cases hlong : s.sink.isSome = true ∧ f.location.isShort = false
  · rw [if_pos hlong, if_neg]
    intro h
    rw [h hlong.1] at hlong
    cases hlong.2
  · rw [if_neg hlong, if_pos]
    intro hs
    exact Bool.of_not_eq_false fun h => hlong ⟨hs, h⟩

/-- A declaration to be recorded has a location that is too long to be written. -/
def Overlong (policy : Policy) (fs : List (Declaration Node)) : Prop :=
  policy.headersComplete = true ∧ ∃ r ∈ fs.filterMap policy.recorded?, r.location.isShort = false

instance (policy : Policy) (fs : List (Declaration Node)) : Decidable (Overlong policy fs) :=
  inferInstanceAs (Decidable (_ ∧ _))

theorem overlong_singleton {f : Declaration Node} : Overlong policy [f] ↔
    policy.headersComplete = true ∧ ∃ r ∈ policy.recorded? f, r.location.isShort = false := by
  simp [Overlong]

theorem Overlong.mono {fs gs : List (Declaration Node)} (h : Overlong policy fs) (hsub : fs ⊆ gs) :
    Overlong policy gs := by
  obtain ⟨hcomplete, r, hr, hlong⟩ := h
  obtain ⟨f, hf, hrf⟩ := List.mem_filterMap.mp hr
  exact ⟨hcomplete, r, List.mem_filterMap.mpr ⟨f, hsub hf, hrf⟩, hlong⟩

/-- **A visit without a sink** leads to the same state, muted, and ends as the visit with the sink
does, unless that one has something to write that is too long. -/
theorem visit_mute (policy : Policy) {s : State}
    (hreg : ∀ d ∈ s.diagnostics, Registered remarkId d) (f : Declaration Node) :
    (visit policy remarkId f s.mute).1 = (visit policy remarkId f s).1.mute ∧
    (visit policy remarkId f s).2 =
      if s.sink.isSome = true ∧ Overlong policy [f] then .error .numeralTooLong
      else (visit policy remarkId f s.mute).2 := by
  rw [visit, visit]
  -- Nothing looks at the sink before something is recorded.
  rcases policy.judge_cases f.location with ⟨l, hl, hjudge⟩ | ⟨hl, exclusion, hjudge⟩
  · rw [hjudge]
    cases hcomplete : policy.headersComplete with
    | false => simp [overlong_singleton, hcomplete]
    | true =>
      simp only [if_true]
      cases hdef : f.isDefinition with
      | false =>
        simp [overlong_singleton, Policy.recorded?, hdef, State.mute_note,
          State.mute_countDeclaration]
      | true =>
        cases hbody : f.body with
        | none =>
          simp [overlong_singleton, Policy.recorded?, hbody, State.mute_note,
            State.mute_countAnomaly]
        | some body =>
          have hrecorded : policy.recorded? f = some (resultOf f body l) := by
            simp [Policy.recorded?, hl, hdef, hbody]
          have hresult : (⟨f.name, Complexity.ofBody (some body), l⟩ : FunctionResult) =
              resultOf f body l := by rw [Complexity.ofBody_some, resultOf]
          obtain ⟨hmuted, hremark⟩ := record_remark_mute hreg (resultOf f body l)
          simp only [Bool.not_true, Bool.false_eq_true, if_false, hresult, hmuted, hremark,
            overlong_singleton, hcomplete, hrecorded, true_and, Option.mem_some_iff,
            exists_eq_left']
  · rw [hjudge]
    simp [overlong_singleton, Policy.recorded?, hl, State.mute_note, State.mute_countExcluded]

theorem visit_frame (policy : Policy) {s : State}
    (hreg : ∀ d ∈ s.diagnostics, Registered remarkId d) (f : Declaration Node) :
    (∀ d ∈ (visit policy remarkId f s).1.diagnostics, Registered remarkId d) ∧
    (visit policy remarkId f s).1.sink = s.sink := by
  rcases visit_cases policy remarkId f s with ⟨-, hv⟩ | ⟨-, e, hv⟩ | ⟨l, -, -, hv⟩ |
    ⟨l, -, -, -, hv⟩ | ⟨l, body, -, -, -, hv⟩
  · rw [hv]
    exact ⟨hreg, rfl⟩
  · rw [hv]
    exact ⟨hreg, rfl⟩
  · rw [hv]
    exact ⟨hreg, rfl⟩
  · rw [hv]
    exact ⟨hreg, rfl⟩
  · obtain ⟨-, hkeep, hsink, -⟩ :=
      remark_frame (s := s.record (resultOf f body l)) hreg (resultOf f body l)
    rw [hv]
    exact ⟨hkeep, hsink⟩

/-- **Two walks that differ in their sinks** stay alike: if both have one, if neither has one, or
if nothing is too long to be written.  The induction is on the declarations still to come. -/
theorem visitAll_alike (policy : Policy) {s s' : State}
    (hreg : ∀ d ∈ s.diagnostics, Registered remarkId d)
    (hreg' : ∀ d ∈ s'.diagnostics, Registered remarkId d) (hmute : s.mute = s'.mute)
    {fs : List (Declaration Node)}
    (hsinks : s.sink.isSome = s'.sink.isSome ∨ ¬ Overlong policy fs) :
    (visitAll policy remarkId fs s).1.mute = (visitAll policy remarkId fs s').1.mute ∧
    (visitAll policy remarkId fs s).2 = (visitAll policy remarkId fs s').2 := by
  induction fs generalizing s s' with
  | nil => exact ⟨hmute, rfl⟩
  | cons f fs ih =>
    obtain ⟨hstate, hresult⟩ := visit_mute policy hreg f
    obtain ⟨hstate', hresult'⟩ := visit_mute policy hreg' f
    have hmute₁ : (visit policy remarkId f s).1.mute = (visit policy remarkId f s').1.mute := by
      rw [← hstate, hmute, hstate']
    -- Both visits end alike: what could tell them apart is ruled out by the sinks or by `f`.
    have hresult₁ : (visit policy remarkId f s).2 = (visit policy remarkId f s').2 := by
      rw [hresult, hresult', hmute]
      rcases hsinks with hsinks | hshort
      · rw [hsinks]
      · have hf : ¬ Overlong policy [f] := fun h => hshort (h.mono (by simp))
        rw [if_neg fun h => hf h.2, if_neg fun h => hf h.2]
    rcases hv : visit policy remarkId f s with ⟨s₁, fault | _⟩
    · have hv' : visit policy remarkId f s' =
          ((visit policy remarkId f s').1, .error fault) :=
        Prod.ext rfl (by rw [← hresult₁, hv])
      rw [visitAll_cons_error policy remarkId hv, visitAll_cons_error policy remarkId hv']
      rw [hv] at hmute₁
      exact ⟨hmute₁, rfl⟩
    · have hv' : visit policy remarkId f s' = ((visit policy remarkId f s').1, .ok ()) :=
        Prod.ext rfl (by rw [← hresult₁, hv])
      obtain ⟨hkeep, hsink⟩ := visit_frame policy hreg f
      obtain ⟨hkeep', hsink'⟩ := visit_frame policy hreg' f
      rw [hv] at hkeep hsink hmute₁
      rw [visitAll_cons_ok policy remarkId hv, visitAll_cons_ok policy remarkId hv']
      refine ih hkeep hkeep' hmute₁ ?_
      rw [hsink, hsink']
      exact hsinks.imp_right fun h hfs => h (hfs.mono (List.subset_cons_self f fs))

/-! ## What the sink receives -/

/-- The lines that were written to the sink. -/
def State.lines (s : State) : List String := s.events.filterMap Event.remark?

/-- The line for a recorded function, if there is a sink. -/
def lineFor? (sink : Option Sink) (remarkId : Nat) (f : FunctionResult) : Option String :=
  (Diagnostics.start sink).written (remarkOf remarkId f)

/-- The functions of the outcome are these, and the sink has received their lines. -/
structure State.Tells (remarkId : Nat) (sink : Option Sink) (functions : List FunctionResult)
    (s : State) : Prop where
  functions_eq : s.outcome.functions = functions
  lines_eq : s.lines = functions.filterMap (lineFor? sink remarkId)
  registered : ∃ d, s.diagnostics = some d ∧ d.sink = sink ∧ Registered remarkId d

section Tells

variable {sink : Option Sink} {functions : List FunctionResult} {s s' : State}

theorem State.Tells.note (h : s.Tells remarkId sink functions) (row : Log.Row) :
    (s.note row).Tells remarkId sink functions := by
  refine ⟨h.functions_eq, ?_, h.registered⟩
  rw [State.lines, State.note, List.filterMap_append, ← h.lines_eq]
  exact List.append_nil _

/-- What is recorded and remarked on has its line. -/
theorem State.Tells.record_remark (h : s.Tells remarkId sink functions) {f : FunctionResult}
    (hremark : (s.record f).remark remarkId f = (s', .ok ())) :
    s'.Tells remarkId sink (functions ++ [f]) := by
  obtain ⟨d, hd, rfl, hreg⟩ := h.registered
  rw [remark_eq (s := s.record f) hreg hd] at hremark
  split at hremark
  · obtain rfl : _ = s' := congrArg Prod.fst hremark
    refine ⟨congrArg (· ++ [f]) h.functions_eq, ?_, _, rfl, rfl, hreg⟩
    have hline : (d.written (remarkOf remarkId f)).toList =
        [f].filterMap (lineFor? d.sink remarkId) := by
      have hwritten : d.written (remarkOf remarkId f) = lineFor? d.sink remarkId f := rfl
      rw [hwritten, List.filterMap_cons, List.filterMap_nil]
      cases lineFor? d.sink remarkId f with
      | none => rfl
      | some line => rfl
    rw [State.lines, State.record, List.filterMap_append, Event.filterMap_remark?_remark,
      List.filterMap_append, Event.filterMap_remark?_log, List.append_nil, hline,
      List.filterMap_append, ← h.lines_eq, State.lines]
  · cases congrArg Prod.snd hremark

/-- A visit that does not end the walk writes the line of what it records, and nothing else. -/
theorem State.Tells.visit (h : s.Tells remarkId sink functions) {f : Declaration Node}
    (hvisit : Walk.visit policy remarkId f s = (s', .ok ())) :
    s'.Tells remarkId sink (functions ++ (policy.recorded? f).toList) := by
  rcases visit_cases policy remarkId f s with ⟨-, hv⟩ | ⟨hf, e, hv⟩ | ⟨l, hf, hdef, hv⟩ |
    ⟨l, hf, hdef, hbody, hv⟩ | ⟨l, body, hf, hdef, hbody, hv⟩
  · cases hv.symm.trans hvisit
  · obtain rfl : _ = s' := congrArg Prod.fst (hv.symm.trans hvisit)
    have hnone : policy.recorded? f = none := by simp [Policy.recorded?, hf]
    rw [hnone, Option.toList_none, List.append_nil]
    obtain ⟨hfunctions, hlines, hreg⟩ := h.note (e.row f.name)
    exact ⟨hfunctions, hlines, hreg⟩
  · obtain rfl : _ = s' := congrArg Prod.fst (hv.symm.trans hvisit)
    have hnone : policy.recorded? f = none := by simp [Policy.recorded?, hdef]
    rw [hnone, Option.toList_none, List.append_nil]
    have hcounted : s.countDeclaration.Tells remarkId sink functions := ⟨h.1, h.2, h.3⟩
    exact hcounted.note _
  · obtain rfl : _ = s' := congrArg Prod.fst (hv.symm.trans hvisit)
    have hnone : policy.recorded? f = none := by simp [Policy.recorded?, hbody]
    rw [hnone, Option.toList_none, List.append_nil]
    obtain ⟨hfunctions, hlines, hreg⟩ :=
      h.note ⟨.debug, .calculator, "Empty function body encountered"⟩
    have hcounted : (s.note ⟨.debug, .calculator,
        "Empty function body encountered"⟩).countAnomaly.Tells remarkId sink functions :=
      ⟨hfunctions, hlines, hreg⟩
    exact hcounted.note _
  · have hsome : policy.recorded? f = some (resultOf f body l) := by
      simp [Policy.recorded?, hf, hdef, hbody]
    rw [hsome, Option.toList_some]
    exact h.record_remark (hv.symm.trans hvisit)

/-- **What the sink receives**: a walk that comes to an end has written the lines of all
declarations to be recorded, in order. -/
theorem State.Tells.visitAll (h : s.Tells remarkId sink functions) {fs : List (Declaration Node)}
    (hvisit : Walk.visitAll policy remarkId fs s = (s', .ok ())) :
    s'.Tells remarkId sink (functions ++ fs.filterMap policy.recorded?) := by
  induction fs generalizing s functions with
  | nil =>
    obtain rfl : s = s' := congrArg Prod.fst hvisit
    rw [List.filterMap_nil, List.append_nil]
    exact h
  | cons f fs ih =>
    have hfound : (policy.recorded? f).toList ++ fs.filterMap policy.recorded? =
        (f :: fs).filterMap policy.recorded? := by
      cases hf : policy.recorded? f with
      | none => rw [List.filterMap_cons_none hf, Option.toList_none, List.nil_append]
      | some r => rw [List.filterMap_cons_some hf, Option.toList_some, List.singleton_append]
    rcases hv : Walk.visit policy remarkId f s with ⟨s₁, fault | _⟩
    · rw [visitAll_cons_error policy remarkId hv] at hvisit
      cases congrArg Prod.snd hvisit
    · rw [visitAll_cons_ok policy remarkId hv] at hvisit
      rw [← hfound, ← List.append_assoc]
      exact ih (h.visit hv) hvisit

end Tells

end Walk

/-! ## Complete trees -/

namespace Frontend

variable {tools : Toolchain} {fs : FileSystem} {frontend : Frontend} {path : String}
  {source : Option Bytes}

/-- The trees of both frontends are complete. -/
theorem complete_of_parse {unit : ParsedUnit}
    (h : (frontend.parse tools fs path source).2 = .ok unit) : unit.root.Complete := by
  cases frontend with
  | grammar asked =>
    rw [parse, parseGrammar] at h
    split at h
    · cases h
    · split at h
      · cases h
      · split at h
        · cases h
        · obtain rfl := Except.ok.inj h
          exact Grammar.Source.complete_node _ _
  | compiler args =>
    rw [parse, parseCompiler] at h
    dsimp only at h
    split at h
    · cases h
    · obtain rfl := Except.ok.inj h
      exact Compiler.Cursor.complete_node _

/-- Parsing writes nothing to the sink of the diagnostics. -/
theorem remarks_parse (tools : Toolchain) (fs : FileSystem) (frontend : Frontend) (path : String)
    (source : Option Bytes) :
    (frontend.parse tools fs path source).1.filterMap Event.remark? = [] := by
  cases frontend with
  | grammar asked =>
    rw [parse, parseGrammar]
    split
    · rfl
    · split
      · rfl
      · split
        · rfl
        · dsimp only
          split
          · rfl
          · rfl
  | compiler args =>
    rw [parse, parseCompiler]
    dsimp only
    split
    · rfl
    · rw [List.filterMap_cons_none rfl, List.filterMap_map]
      exact List.filterMap_eq_nil_iff.mpr fun _ _ => rfl

end Frontend

/-! ## Settings that differ in how results are shown -/

namespace Settings

/-- The settings differ at most in what they say about showing results. -/
structure SameMeasure (s t : Settings) : Prop where
  others : ∀ name, name ≠ "diagnostics" → name ≠ "output" →
    Fields.get? s.data name = Fields.get? t.data name
  diagnostics : (s.group "diagnostics").isMap = (t.group "diagnostics").isMap

variable {s t : Settings}

theorem SameMeasure.group_eq (h : s.SameMeasure t) {title : String} (hd : title ≠ "diagnostics")
    (ho : title ≠ "output") : t.group title = s.group title := by
  rw [group, group, h.others title hd ho]

theorem SameMeasure.get_eq (h : s.SameMeasure t) {title : String} (hd : title ≠ "diagnostics")
    (ho : title ≠ "output") (name : String) (default : Value) :
    t.get title name default = s.get title name default := by
  rw [get, get, h.group_eq hd ho]

theorem SameMeasure.reportPath_eq (h : s.SameMeasure t) : t.reportPath = s.reportPath :=
  h.get_eq (by decide) (by decide) "path" .null

/-- Both settings about remarks can be read, or neither. -/
theorem diagnostics_cases (s : Settings) :
    ((s.group "diagnostics").isMap = true ∧
      ∃ enabled color, s.diagnosticsEnabled = .ok enabled ∧ s.diagnosticsColor = .ok color) ∨
    ((s.group "diagnostics").isMap = false ∧ s.diagnosticsEnabled = .error .notAMapping) := by
  rw [diagnosticsEnabled, diagnosticsColor, get_eq, get_eq]
  cases (s.group "diagnostics").isMap with
  | true => exact .inl ⟨rfl, _, _, rfl, rfl⟩
  | false => exact .inr ⟨rfl, rfl⟩

theorem exists_diagnosticsColor (s : Settings) {enabled : Bool}
    (h : s.diagnosticsEnabled = .ok enabled) : ∃ color, s.diagnosticsColor = .ok color := by
  rcases s.diagnostics_cases with ⟨-, -, color, -, hcolor⟩ | ⟨-, herror⟩
  · exact ⟨color, hcolor⟩
  · cases h.symm.trans herror

end Settings

namespace Engine

/-- **An engine is built alike** from settings that differ in how results are shown. -/
theorem start_of_sameMeasure {s t : Settings} (h : s.SameMeasure t)
    (availability : Compiler.Availability) :
    start availability t = (start availability s).map fun e => { e with settings := t } := by
  have hname : t.frontendName = s.frontendName := h.get_eq (by decide) (by decide) _ _
  have hoptions : t.frontendOptions = s.frontendOptions := h.group_eq (by decide) (by decide)
  have hheaders : t.headerExtensions = s.headerExtensions := by
    rw [Settings.headerExtensions, Settings.getList, h.get_eq (by decide) (by decide)]
    rfl
  have hdirs : t.systemIncludeDirs = s.systemIncludeDirs := by
    rw [Settings.systemIncludeDirs, Settings.getList, h.get_eq (by decide) (by decide)]
    rfl
  show start availability t = (fun e => { e with settings := t }) <$> start availability s
  simp only [start, hname, hoptions, hheaders, hdirs, map_bind, map_pure]

/-- Where the remarks on a unit go. -/
def sinkOf (terminal : Terminal) (enabled color : Bool) : Option Sink :=
  if enabled then some (if color && terminal.showsColor then .colored else .plain) else none

theorem newDiagnostics_of_ok {e : Engine} {enabled color : Bool}
    (henabled : e.settings.diagnosticsEnabled = .ok enabled)
    (hcolor : e.settings.diagnosticsColor = .ok color) (terminal : Terminal) :
    e.newDiagnostics terminal = .ok (.start (sinkOf terminal enabled color)) := by
  rw [newDiagnostics, henabled, hcolor]
  cases enabled with
  | true => rfl
  | false => rfl

theorem newDiagnostics_of_error {e : Engine} {fault : Settings.Fault}
    (h : e.settings.diagnosticsEnabled = .error fault) (terminal : Terminal) :
    e.newDiagnostics terminal = .error (.ofSettings fault) := by
  rw [newDiagnostics, h]
  rfl

/-! ## Walking into a sink -/

/-- The walk of a unit with new diagnostics. -/
def walkInto (policy : Policy) (sink : Option Sink) (unit : ParsedUnit) :
    Walk.State × Except Walk.Fault Unit :=
  let start := Walker.start policy (some (.start sink))
  start.1.walk (some unit.root) .empty start.2

/-- The state that a walk of a unit begins with. -/
def stateFor (sink : Option Sink) : Walk.State :=
  ⟨.empty, .empty, some ⟨sink, [(.remark, Walk.remarkTemplate)], []⟩, []⟩

theorem registered_stateFor (sink : Option Sink) :
    ∀ d ∈ (stateFor sink).diagnostics, Walk.Registered 0 d := by
  rintro d ⟨⟩
  rfl

variable {policy : Policy} {unit : ParsedUnit}

theorem walkInto_eq (hroot : unit.root.Complete) (policy : Policy) (sink : Option Sink) :
    walkInto policy sink unit =
      Walk.visitAll policy 0 unit.root.declarations (stateFor sink) :=
  Walker.walk_eq_visitAll ⟨policy, 0⟩ hroot .empty (stateFor sink).diagnostics

theorem walkInto_alike (hroot : unit.root.Complete) {sink sink' : Option Sink}
    (hsinks : sink.isSome = sink'.isSome ∨ ¬ Walk.Overlong policy unit.root.declarations) :
    (walkInto policy sink unit).1.mute = (walkInto policy sink' unit).1.mute ∧
    (walkInto policy sink unit).2 = (walkInto policy sink' unit).2 := by
  rw [walkInto_eq hroot, walkInto_eq hroot]
  exact Walk.visitAll_alike policy (registered_stateFor sink) (registered_stateFor sink') rfl hsinks

theorem tells_walkInto (hroot : unit.root.Complete) {sink : Option Sink} {state : Walk.State}
    (h : walkInto policy sink unit = (state, .ok ())) :
    state.Tells 0 sink (unit.root.declarations.filterMap policy.recorded?) := by
  have hstart : (stateFor sink).Tells 0 sink [] := ⟨rfl, rfl, _, rfl, rfl, rfl⟩
  rw [walkInto_eq hroot] at h
  exact hstart.visitAll h

/-- A location that is too long ends the walk if there is a sink, and only then. -/
theorem walkInto_of_overlong (hroot : unit.root.Complete)
    (h : Walk.Overlong policy unit.root.declarations) (sink : Option Sink) :
    (walkInto policy sink unit).2 =
      if sink.isSome = true then .error .numeralTooLong else .ok () := by
  obtain ⟨hcomplete, f, hf, hlong⟩ := h
  obtain ⟨seen, -, -, hok, herror⟩ :=
    Walker.walk_accounts hcomplete hroot .empty (some (.start sink))
  by_cases hsink : sink.isSome = true
  · rw [if_pos hsink]
    refine herror fun hshown => ?_
    rw [hshown hsink f hf] at hlong
    cases hlong
  · rw [if_neg hsink]
    exact (hok fun hs => absurd hs hsink).2

/-! ## Results of two runs -/

/-- The lines that were written to the sinks of all diagnostics. -/
def Run.remarks (r : Run) : List String := r.events.filterMap Event.remark?

/-- The runs differ at most in the remarks that were written. -/
structure Run.Alike (r r' : Run) : Prop where
  fs : r.fs = r'.fs
  events : Event.silent r.events = Event.silent r'.events

theorem Run.Alike.add {r r' : Run} (h : r.Alike r') {more more' : List Event}
    (hmore : Event.silent more = Event.silent more') : (r.add more).Alike (r'.add more') := by
  refine ⟨h.fs, ?_⟩
  rw [Run.add, Run.add, Event.silent_append, Event.silent_append, h.events, hmore]

/-- What is made of a unit that has been walked. -/
def conclude (e : Engine) (unit : ParsedUnit) (walked : Walk.State × Except Walk.Fault Unit)
    (r : Run) : Run × Except Fault AnalysisResult :=
  match walked with
  | (state, .error fault) => (r.add state.events, .error (.ofWalk fault))
  | (state, .ok ()) =>
    match e.settings.reportPath with
    | .error fault => (r.add state.events, .error (.ofSettings fault))
    | .ok template => writeReport template (.ofWalk unit.path state) (r.add state.events)

theorem analyzeUnit_eq {e : Engine} {terminal : Terminal} {sink : Option Sink}
    (h : e.newDiagnostics terminal = .ok (.start sink)) (unit : ParsedUnit) (r : Run) :
    e.analyzeUnit terminal unit r = e.conclude unit (walkInto e.policy sink unit) r := by
  rw [analyzeUnit, h]
  rfl

theorem writeReport_alike {r r' : Run} (h : r.Alike r') (template : Value)
    (result : AnalysisResult) :
    (writeReport template result r).2 = (writeReport template result r').2 ∧
    (writeReport template result r).1.Alike (writeReport template result r').1 := by
  rw [writeReport, writeReport, h.fs]
  cases reportPathFor template result.unit with
  | error fault => exact ⟨rfl, h⟩
  | ok asked =>
    cases asked with
    | none => exact ⟨rfl, h⟩
    | some path =>
      dsimp only
      cases Report.write r'.fs result.tally path with
      | error error => exact ⟨rfl, h⟩
      | ok written => exact ⟨rfl, rfl, (h.add rfl).events⟩

theorem ofWalk_of_mute {state state' : Walk.State} (h : state.mute = state'.mute) (path : String) :
    AnalysisResult.ofWalk path state = AnalysisResult.ofWalk path state' := by
  have hmute (state : Walk.State) :
      AnalysisResult.ofWalk path state.mute = AnalysisResult.ofWalk path state := by
    obtain ⟨outcome, tally, diagnostics, events⟩ := state
    cases diagnostics with
    | none => rfl
    | some d => rfl
  rw [← hmute state, h, hmute]

/-- All that is made of a unit is made of its muted state. -/
theorem conclude_alike {e e' : Engine}
    (hreport : e'.settings.reportPath = e.settings.reportPath) (unit : ParsedUnit)
    {walked walked' : Walk.State × Except Walk.Fault Unit}
    (hmute : walked.1.mute = walked'.1.mute) (hresult : walked.2 = walked'.2) {r r' : Run}
    (hr : r.Alike r') :
    (e.conclude unit walked r).2 = (e'.conclude unit walked' r').2 ∧
    (e.conclude unit walked r).1.Alike (e'.conclude unit walked' r').1 := by
  obtain ⟨state, outcome⟩ := walked
  obtain ⟨state', outcome'⟩ := walked'
  obtain rfl : outcome = outcome' := hresult
  have hevents : Event.silent state.events = Event.silent state'.events :=
    congrArg Walk.State.events hmute
  have hadded := hr.add hevents
  cases outcome with
  | error fault => exact ⟨rfl, hadded⟩
  | ok _ =>
    simp only [conclude, hreport]
    cases e.settings.reportPath with
    | error fault => exact ⟨rfl, hadded⟩
    | ok template =>
      dsimp only
      rw [ofWalk_of_mute hmute]
      exact writeReport_alike hadded template _

theorem remarks_add (r : Run) (more : List Event) :
    (r.add more).remarks = r.remarks ++ more.filterMap Event.remark? := List.filterMap_append ..

theorem remarks_writeReport (template : Value) (result : AnalysisResult) (r : Run) :
    (writeReport template result r).1.remarks = r.remarks := by
  rw [writeReport]
  cases reportPathFor template result.unit with
  | error fault => rfl
  | ok asked =>
    cases asked with
    | none => rfl
    | some path =>
      dsimp only
      cases Report.write r.fs result.tally path with
      | error error => rfl
      | ok written => exact (remarks_add r [.log written.2.2]).trans (List.append_nil _)

theorem functions_writeReport {template : Value} {result written : AnalysisResult} {r : Run}
    (h : (writeReport template result r).2 = .ok written) :
    written.functions = result.functions := by
  rw [writeReport_snd] at h
  split at h
  · cases h
  · obtain rfl := Except.ok.inj h
    rfl
  · split at h
    · cases h
    · obtain rfl := Except.ok.inj h
      rfl

/-- What a unit leaves in the sink is what its walk has written. -/
theorem remarks_conclude (e : Engine) (unit : ParsedUnit)
    (walked : Walk.State × Except Walk.Fault Unit) (r : Run) :
    (e.conclude unit walked r).1.remarks = r.remarks ++ walked.1.lines := by
  obtain ⟨state, outcome⟩ := walked
  cases outcome with
  | error fault => exact remarks_add r state.events
  | ok _ =>
    simp only [conclude]
    cases e.settings.reportPath with
    | error fault => exact remarks_add r state.events
    | ok template => exact (remarks_writeReport template _ _).trans (remarks_add r state.events)

theorem walked_of_conclude {e : Engine} {unit : ParsedUnit}
    {walked : Walk.State × Except Walk.Fault Unit} {r : Run} {result : AnalysisResult}
    (h : (e.conclude unit walked r).2 = .ok result) :
    walked = (walked.1, .ok ()) ∧ result.functions = walked.1.outcome.functions := by
  obtain ⟨state, outcome⟩ := walked
  cases outcome with
  | error fault => cases h
  | ok _ =>
    simp only [conclude] at h
    cases hpath : e.settings.reportPath with
    | error fault =>
      rw [hpath] at h
      cases h
    | ok template =>
      rw [hpath] at h
      exact ⟨rfl, functions_writeReport h⟩

theorem reportPathFor_ne_numeralTooLong (template : Value) (unit : String) :
    reportPathFor template unit ≠ .error .numeralTooLong := by
  unfold reportPathFor
  split
  · simp
  · split
    · simp
    · split <;> simp
    · split <;> simp
    · split <;> simp
    · simp

/-- Only a walk finds a location too long. -/
theorem conclude_ne_numeralTooLong (e : Engine) (unit : ParsedUnit) (state : Walk.State) (r : Run) :
    (e.conclude unit (state, .ok ()) r).2 ≠ .error .numeralTooLong := by
  simp only [conclude]
  cases e.settings.reportPath with
  | error fault => cases fault <;> simp [Fault.ofSettings]
  | ok template =>
    dsimp only
    rw [writeReport_snd]
    cases hpath : reportPathFor template (AnalysisResult.ofWalk unit.path state).unit with
    | error fault =>
      intro h
      rw [Except.error.inj h] at hpath
      exact reportPathFor_ne_numeralTooLong template _ hpath
    | ok asked =>
      cases asked with
      | none => simp
      | some report =>
        dsimp only
        split <;> simp

/-- A declaration of the unit at a path is to be recorded, and its location is too long to be
written. -/
def Overlong (e : Engine) (tools : Toolchain) (fs : FileSystem) (path : String)
    (source : Option Bytes) : Prop :=
  ∃ unit, (e.frontend.parse tools fs path source).2 = .ok unit ∧
    Walk.Overlong e.policy unit.root.declarations

theorem analyze_of_parse {e : Engine} {tools : Toolchain} {path : String} {source : Option Bytes}
    {r : Run} {events : List Event}
    (h : e.frontend.parse tools r.fs path source = (events, .ok unit)) (terminal : Terminal) :
    e.analyze tools terminal path source r = e.analyzeUnit terminal unit (r.add events) := by
  rw [analyze, h]

section Units

variable {e : Engine} {t : Settings} {tools : Toolchain} {path : String} {source : Option Bytes}
  {r : Run}

/-- **What is measured does not depend on how it is shown**, unless a location is too long to be
written and only one of the two runs has a sink. -/
theorem analyze_alike (h : e.settings.SameMeasure t) (terminal terminal' : Terminal)
    (hshown : e.settings.diagnosticsEnabled = t.diagnosticsEnabled ∨
      ¬ e.Overlong tools r.fs path source) :
    let e' : Engine := { e with settings := t }
    (e.analyze tools terminal path source r).2 = (e'.analyze tools terminal' path source r).2 ∧
    (e.analyze tools terminal path source r).1.Alike
      (e'.analyze tools terminal' path source r).1 := by
  intro e'
  -- The parser does not look at the settings, so both runs have the same tree or none.
  rcases hparse : e.frontend.parse tools r.fs path source with ⟨events, fault | unit⟩
  · rw [analyze, analyze, hparse]
    cases fault with
    | refused error => exact ⟨rfl, rfl, rfl⟩
    | numeralTooLong => exact ⟨rfl, rfl, rfl⟩
    | nulCharacter => exact ⟨rfl, rfl, rfl⟩
  · have hparsed : (e.frontend.parse tools r.fs path source).2 = .ok unit := by rw [hparse]
    rw [analyze_of_parse hparse, analyze_of_parse (e := e') hparse]
    rcases e.settings.diagnostics_cases with ⟨hmap, enabled, color, henabled, hcolor⟩ |
      ⟨hmap, herror⟩
    · rcases t.diagnostics_cases with ⟨-, enabled', color', henabled', hcolor'⟩ | ⟨hmap', -⟩
      · rw [analyzeUnit_eq (newDiagnostics_of_ok henabled hcolor terminal),
          analyzeUnit_eq (e := e') (newDiagnostics_of_ok henabled' hcolor' terminal')]
        have hsinks : (sinkOf terminal enabled color).isSome =
            (sinkOf terminal' enabled' color').isSome ∨
            ¬ Walk.Overlong e.policy unit.root.declarations := by
          refine hshown.imp (fun heq => ?_) fun hshort hlong => hshort ⟨unit, hparsed, hlong⟩
          rw [henabled, henabled'] at heq
          obtain rfl := Except.ok.inj heq
          cases enabled with
          | true => rfl
          | false => rfl
        obtain ⟨hmute, hresult⟩ :=
          walkInto_alike (Frontend.complete_of_parse hparsed) hsinks
        exact conclude_alike h.reportPath_eq unit hmute hresult ⟨rfl, rfl⟩
      · rw [h.diagnostics, hmap'] at hmap
        cases hmap
    · rcases t.diagnostics_cases with ⟨hmap', -⟩ | ⟨-, herror'⟩
      · rw [h.diagnostics, hmap'] at hmap
        cases hmap
      · rw [analyzeUnit, analyzeUnit, newDiagnostics_of_error herror terminal,
          newDiagnostics_of_error (e := e') herror' terminal']
        exact ⟨rfl, rfl, rfl⟩

/-- A location that is too long stops the run at its unit if remarks are written, and only then. -/
theorem analyze_of_overlong (hlong : e.Overlong tools r.fs path source) (terminal : Terminal)
    {enabled : Bool} (henabled : e.settings.diagnosticsEnabled = .ok enabled) :
    (enabled = true → (e.analyze tools terminal path source r).2 = .error .numeralTooLong ∧
      (e.analyze tools terminal path source r).1.fs = r.fs) ∧
    (enabled = false → (e.analyze tools terminal path source r).2 ≠ .error .numeralTooLong) := by
  obtain ⟨unit, hparsed, hlong⟩ := hlong
  rcases hparse : e.frontend.parse tools r.fs path source with ⟨events, parsed⟩
  obtain rfl : parsed = .ok unit := by rw [← hparsed, hparse]
  obtain ⟨color, hcolor⟩ := e.settings.exists_diagnosticsColor henabled
  have hwalk := walkInto_of_overlong (Frontend.complete_of_parse hparsed) hlong
    (sinkOf terminal enabled color)
  rw [analyze_of_parse hparse, analyzeUnit_eq (newDiagnostics_of_ok henabled hcolor terminal)]
  rcases hwalked : walkInto e.policy (sinkOf terminal enabled color) unit with ⟨state, outcome⟩
  rw [hwalked] at hwalk
  constructor
  · rintro rfl
    obtain rfl : outcome = .error .numeralTooLong := hwalk
    exact ⟨rfl, rfl⟩
  · rintro rfl
    obtain rfl : outcome = .ok () := hwalk
    exact conclude_ne_numeralTooLong e unit state _

/-- A result comes from a unit that is refused, or from a walk that has come to an end. -/
theorem analyze_ok_cases {terminal : Terminal} {result : AnalysisResult}
    (h : (e.analyze tools terminal path source r).2 = .ok result) :
    (∃ error, (e.frontend.parse tools r.fs path source).2 = .error (.refused error) ∧
      result.functions = [] ∧ (e.analyze tools terminal path source r).1.remarks = r.remarks) ∨
    ∃ unit enabled color, (e.frontend.parse tools r.fs path source).2 = .ok unit ∧
      e.settings.diagnosticsEnabled = .ok enabled ∧ e.settings.diagnosticsColor = .ok color ∧
      result.functions = unit.root.declarations.filterMap e.policy.recorded? ∧
      (e.analyze tools terminal path source r).1.remarks = r.remarks ++
        result.functions.filterMap (Walk.lineFor? (sinkOf terminal enabled color) 0) := by
  have hquiet := e.frontend.remarks_parse tools r.fs path source
  rcases hparse : e.frontend.parse tools r.fs path source with ⟨events, fault | unit⟩
  · rw [hparse] at hquiet
    rw [analyze, hparse] at h ⊢
    cases fault with
    | refused error =>
      obtain rfl := Except.ok.inj h
      refine .inl ⟨error, rfl, rfl, ?_⟩
      dsimp only
      rw [remarks_add, remarks_add, hquiet, List.append_nil]
      exact List.append_nil _
    | numeralTooLong => cases h
    | nulCharacter => cases h
  · have hparsed : (e.frontend.parse tools r.fs path source).2 = .ok unit := by rw [hparse]
    rw [hparse] at hquiet
    rw [analyze_of_parse hparse] at h ⊢
    rcases e.settings.diagnostics_cases with ⟨-, enabled, color, henabled, hcolor⟩ | ⟨-, herror⟩
    · rw [analyzeUnit_eq (newDiagnostics_of_ok henabled hcolor terminal)] at h ⊢
      obtain ⟨hwalked, hfunctions⟩ := walked_of_conclude h
      obtain ⟨hfound, hlines, -⟩ := tells_walkInto (Frontend.complete_of_parse hparsed) hwalked
      refine .inr ⟨unit, enabled, color, rfl, henabled, hcolor, hfunctions.trans hfound, ?_⟩
      rw [remarks_conclude, remarks_add, hquiet, List.append_nil, hlines, hfunctions, hfound]
    · rw [analyzeUnit, newDiagnostics_of_error herror terminal] at h
      cases h

theorem functions_analyze {terminal : Terminal} {result : AnalysisResult}
    (h : (e.analyze tools terminal path source r).2 = .ok result)
    (hunit : (e.frontend.parse tools r.fs path source).2 = .ok unit) :
    result.functions = unit.root.declarations.filterMap e.policy.recorded? := by
  rcases analyze_ok_cases h with ⟨error, herror, -, -⟩ | ⟨other, -, -, hother, -, -, hfound, -⟩
  · cases herror.symm.trans hunit
  · obtain rfl := Except.ok.inj (hother.symm.trans hunit)
    exact hfound

/-- **What a unit with a result leaves in the sink**: a line for each of its functions. -/
theorem remarks_analyze {terminal : Terminal} {result : AnalysisResult}
    (h : (e.analyze tools terminal path source r).2 = .ok result) {enabled color : Bool}
    (henabled : e.settings.diagnosticsEnabled = .ok enabled)
    (hcolor : e.settings.diagnosticsColor = .ok color) :
    (e.analyze tools terminal path source r).1.remarks = r.remarks ++
      result.functions.filterMap (Walk.lineFor? (sinkOf terminal enabled color) 0) := by
  rcases analyze_ok_cases h with ⟨-, -, hnone, hremarks⟩ |
    ⟨-, enabled', color', -, henabled', hcolor', -, hremarks⟩
  · rw [hremarks, hnone]
    exact (List.append_nil _).symm
  · obtain rfl := Except.ok.inj (henabled.symm.trans henabled')
    obtain rfl := Except.ok.inj (hcolor.symm.trans hcolor')
    exact hremarks

end Units

/-- The line of a recorded function, in colour or plain. -/
def remarkLine (colored : Bool) (f : FunctionResult) : String :=
  (if colored then (Walk.remarkOf 0 f).coloredText else (Walk.remarkOf 0 f).text) ++ "\n"

theorem lineFor?_sinkOf (terminal : Terminal) (enabled color : Bool) (f : FunctionResult) :
    Walk.lineFor? (sinkOf terminal enabled color) 0 f =
      if enabled then some (remarkLine (color && terminal.showsColor) f) else none := by
  rw [sinkOf, remarkLine]
  cases enabled with
  | false => rfl
  | true =>
    cases color && terminal.showsColor with
    | false => rfl
    | true => rfl

/-- **Showing results does not change them.**  Two settings differ at most in what they say about
remarks and about the summary.  Then they build the same engine, and for every unit, whatever the
two terminals are like:

* The result is the same in all its parts, and so are the file system behind it and the log, unless
  remarks are written in one of the runs only and a location is too long for that.
* Such a location stops the run in which remarks are written, with all files as they were, and never
  the other one.
* If there is a result, its functions are the declarations to be recorded, in the order of the tree.
  Without remarks the sink receives nothing.  With them it receives one line for each function, in
  colour if that is asked for and the terminal can show it.
* Without its graphic modes the text in colour is the plain text, if no path has an escape
  character. -/
theorem analyze_shown {e : Engine} {t : Settings} (h : e.settings.SameMeasure t) :
    let e' : Engine := { e with settings := t }
    (∀ availability, start availability t =
      (start availability e.settings).map fun built => { built with settings := t }) ∧
    ∀ (tools : Toolchain) (terminal terminal' : Terminal) (path : String) (source : Option Bytes)
      (r : Run),
      let run := e.analyze tools terminal path source r
      let run' := e'.analyze tools terminal' path source r
      (e.settings.diagnosticsEnabled = t.diagnosticsEnabled ∨ ¬ e.Overlong tools r.fs path source →
        run.2 = run'.2 ∧ run.1.fs = run'.1.fs ∧
          Event.silent run.1.events = Event.silent run'.1.events) ∧
      (e.Overlong tools r.fs path source →
        (e.settings.diagnosticsEnabled = .ok true →
          run.2 = .error .numeralTooLong ∧ run.1.fs = r.fs) ∧
        (e.settings.diagnosticsEnabled = .ok false → run.2 ≠ .error .numeralTooLong)) ∧
      ∀ result, run.2 = .ok result →
        (∀ unit, (e.frontend.parse tools r.fs path source).2 = .ok unit →
          result.functions = unit.root.declarations.filterMap e.policy.recorded?) ∧
        (e.settings.diagnosticsEnabled = .ok false → run.1.remarks = r.remarks) ∧
        (e.settings.diagnosticsEnabled = .ok true → ∃ color,
          e.settings.diagnosticsColor = .ok color ∧ run.1.remarks = r.remarks ++
            result.functions.map (remarkLine (color && terminal.showsColor))) ∧
        ((∀ f ∈ result.functions, Diagnostic.escape ∉ f.location.path.toList) →
          Diagnostic.withoutModes (String.join (result.functions.map (remarkLine true))) =
            String.join (result.functions.map (remarkLine false))) := by
  intro e'
  refine ⟨start_of_sameMeasure h, fun tools terminal terminal' path source r => ?_⟩
  intro run run'
  refine ⟨fun hshown => ?_, fun hlong => ?_, fun result hresult => ?_⟩
  · obtain ⟨hsame, hfs, hevents⟩ := analyze_alike h terminal terminal' hshown
    exact ⟨hsame, hfs, hevents⟩
  · exact ⟨fun henabled => (analyze_of_overlong hlong terminal henabled).1 rfl,
      fun henabled => (analyze_of_overlong hlong terminal henabled).2 rfl⟩
  · refine ⟨fun unit hunit => ?_, fun henabled => ?_, fun henabled => ?_,
      fun hclean => Diagnostic.withoutModes_join_coloredText hclean 0⟩
    · exact functions_analyze hresult hunit
    · obtain ⟨color, hcolor⟩ := e.settings.exists_diagnosticsColor henabled
      have hlines := remarks_analyze hresult henabled hcolor
      simp only [lineFor?_sinkOf, Bool.false_eq_true, if_false] at hlines
      rw [hlines, List.filterMap_eq_nil_iff.mpr fun _ _ => rfl, List.append_nil]
    · obtain ⟨color, hcolor⟩ := e.settings.exists_diagnosticsColor henabled
      have hlines := remarks_analyze hresult henabled hcolor
      simp only [lineFor?_sinkOf, if_true] at hlines
      refine ⟨color, hcolor, hlines.trans ?_⟩
      rw [List.filterMap_eq_map']

/-- The default settings, but no remarks are written. -/
def quietSettings : Settings :=
  Settings.default.merged (Settings.named
    [("diagnostics", .map (Settings.named [("enabled", .bool false)]))])

/-- Two functions, the second one in some line. -/
def lineTree (line : Int) : Compiler.Cursor :=
  let cursor (kind name : String) (line : Int) := Compiler.Cursor.mk
    ⟨some kind, name, true, some "a.c", line, 5, some false⟩
  cursor "TRANSLATION_UNIT" "a.c" 1 [
    cursor "FUNCTION_DECL" "f" 1 [cursor "COMPOUND_STMT" "" 1 []],
    cursor "FUNCTION_DECL" "g" line [
      cursor "COMPOUND_STMT" "" line [cursor "IF_STMT" "" line []]]]

/-- A compiler that finds the two functions in every unit. -/
def lineTools (line : Int) : Toolchain :=
  { letterTools with compiler := fun _ _ => .finish (some ⟨[], lineTree line⟩) }

/-- The engine of the default settings for the compiler. -/
def compilerEngine : Engine := ⟨.default, .compiler [], .default⟩

theorem sameMeasure_quietSettings : Settings.default.SameMeasure quietSettings := by
  refine ⟨fun name hname _ => ?_, rfl⟩
  have hdata : quietSettings.data = Fields.set Settings.default.data (.text "diagnostics")
      (.map (Settings.named [("enabled", .bool false), ("color", .bool true)])) := rfl
  have hother : ¬ (Value.text "diagnostics").sameKey (.text name) = true := by
    rw [Value.sameKey_text_iff]
    exact fun heq => hname (Value.text.inj heq).symm
  rw [hdata, Fields.get?, Fields.get?, Fields.find?_set, if_neg hother]

/-- A unit with and without remarks has one result, and the lines in colour are about its two
functions.  With a line of too many digits the second function stops the run with remarks only. -/
theorem analyze_shown_lineTools :
    let r : Run := ⟨⟨.dir [], []⟩, []⟩
    let run (line : Int) := compilerEngine.analyze (lineTools line) ⟨true⟩ "a.c" none r
    let quiet (line : Int) := Engine.analyze { compilerEngine with settings := quietSettings }
      (lineTools line) ⟨false⟩ "a.c" none r
    let long : Int := Nat.pow 10 Decimal.maxDigits
    (∃ result, (run 7).2 = .ok result ∧ (quiet 7).2 = .ok result ∧
      (run 7).1.fs = (quiet 7).1.fs ∧ (quiet 7).1.remarks = [] ∧
      (run 7).1.remarks = result.functions.map (remarkLine true) ∧
      Diagnostic.withoutModes (String.join (run 7).1.remarks) =
        "a.c:1:5: remark: Cyclomatic Complexity: 1\na.c:7:5: remark: Cyclomatic Complexity: 2\n") ∧
    (run long).2 = .error .numeralTooLong ∧ (quiet long).2 ≠ .error .numeralTooLong := by
  intro r run quiet long
  obtain ⟨-, hshown⟩ := analyze_shown (e := compilerEngine) sameMeasure_quietSettings
  obtain ⟨-, hquiet⟩ := analyze_shown (e := { compilerEngine with settings := quietSettings })
    ⟨fun _ _ _ => rfl, rfl⟩
  have henabled : compilerEngine.settings.diagnosticsEnabled = .ok true := rfl
  have hdisabled : quietSettings.diagnosticsEnabled = .ok false := rfl
  have hparse (line : Int) : (compilerEngine.frontend.parse (lineTools line) r.fs "a.c" none).2 =
      .ok ⟨"a.c", "c", (lineTree line).node⟩ := rfl
  have hshort : ¬ compilerEngine.Overlong (lineTools 7) r.fs "a.c" none := by
    rintro ⟨unit, hunit, hlong⟩
    obtain rfl := Except.ok.inj ((hparse 7).symm.trans hunit)
    revert hlong
    decide +kernel
  have hlong : compilerEngine.Overlong (lineTools long) r.fs "a.c" none :=
    ⟨_, hparse long, by decide +kernel⟩
  constructor
  · obtain ⟨hsame, -, hresults⟩ := hshown (lineTools 7) ⟨true⟩ ⟨false⟩ "a.c" none r
    obtain ⟨-, -, hquiets⟩ := hquiet (lineTools 7) ⟨false⟩ ⟨false⟩ "a.c" none r
    obtain ⟨heq, hfs, -⟩ := hsame (.inr hshort)
    have hsome : (run 7).2.toOption.isSome = true := by decide +kernel
    obtain ⟨result, hresult⟩ := Option.isSome_iff_exists.mp hsome
    rw [toOption_eq_some_iff] at hresult
    obtain ⟨hfunctions, -, hlines, hclean⟩ := hresults result hresult
    obtain ⟨-, hnone, -⟩ := hquiets result (heq.symm.trans hresult)
    have hfound : result.functions = [⟨"f", 1, ⟨"a.c", 1, 5, false⟩⟩,
        ⟨"g", 2, ⟨"a.c", 7, 5, false⟩⟩] :=
      (hfunctions _ (hparse 7)).trans (by decide +kernel)
    obtain ⟨color, hcolor, hremarks⟩ := hlines henabled
    obtain rfl : true = color := Except.ok.inj hcolor
    have hremarks : (run 7).1.remarks = result.functions.map (remarkLine true) := hremarks
    refine ⟨result, hresult, heq.symm.trans hresult, hfs, hnone hdisabled, hremarks, ?_⟩
    rw [hremarks, hclean (by rw [hfound]; decide +kernel), hfound]
    decide +kernel
  · obtain ⟨-, hstops, -⟩ := hshown (lineTools long) ⟨true⟩ ⟨false⟩ "a.c" none r
    obtain ⟨-, hreturns, -⟩ := hquiet (lineTools long) ⟨false⟩ ⟨false⟩ "a.c" none r
    exact ⟨((hstops hlong).1 henabled).1, (hreturns hlong).2 hdisabled⟩

end Engine

end Cyclometry
