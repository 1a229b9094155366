import Mathlib.Data.List.Infix
import Cyclometry.Proofs.TallyView
import Cyclometry.Proofs.Visit

/-!
# The three channels of a walk

A recorded function goes into the list of functions, into the tally, and as a remark into the
diagnostics.  The list is the one that tells all: `State.Agrees` says that the tally is the one
that the walk began with, overwritten by the functions of the list in order, that the
diagnostics have grown by one remark for each of them, and that every function of the list has
either brought a new name or a row of the log that its name was recorded again.  Each visit
keeps this (`Agrees.visit`), so every walk does, also one that a fault ends
(`walk_agrees`), and so does every walk of a walker that makes several
(`Walker.passes_agree`).
-/

namespace Cyclometry

/-- The row says that a name was recorded again. -/
def Log.Row.tellsRepeat (row : Log.Row) : Bool :=
  row.level == .debug && row.source == .results &&
    decide ("recorded again".toList <:+: row.message.toList)

namespace Event

theorem filterMap_row?_log (rows : List Log.Row) : (rows.map log).filterMap row? = rows := by
  rw [List.filterMap_map]
  exact List.filterMap_some

/-- What is written to the sink is no row of the log. -/
theorem filterMap_row?_remark (texts : List String) : (texts.map remark).filterMap row? = [] := by
  induction texts with
  | nil => rfl
  | cons text texts ih => rw [List.map_cons, List.filterMap_cons_none rfl, ih]

end Event

theorem Tally.tellsRepeat_of_mem_recordLog {t : Tally} {name : String} {complexity : Int}
    {row : Log.Row} (h : row ∈ t.recordLog name complexity) : row.tellsRepeat = true := by
  rw [recordLog] at h
  cases hget : t.get? name with
  | none =>
    rw [hget] at h
    cases h
  | some earlier =>
    rw [hget] at h
    obtain rfl := List.mem_singleton.mp h
    have hwords : " recorded again; ".toList =
        ' ' :: ("recorded again".toList ++ [';', ' ']) := by decide
    have hinfix : "recorded again".toList <:+: ("Function name " ++ Text.quoted name ++
        " recorded again; " ++ Decimal.ofInt complexity ++ " replaces " ++
        Decimal.ofInt earlier).toList := by
      refine ⟨"Function name ".toList ++ (Text.quoted name).toList ++ [' '],
        [';', ' '] ++ (Decimal.ofInt complexity).toList ++ " replaces ".toList ++
          (Decimal.ofInt earlier).toList, ?_⟩
      simp only [String.toList_append, hwords, List.append_assoc, List.cons_append,
        List.nil_append]
    simp only [Log.Row.tellsRepeat, decide_eq_true hinfix]
    rfl

/-- Add several diagnostics. -/
def Diagnostics.addAll (d : Diagnostics) (more : List Diagnostic) : Diagnostics :=
  { d with issued := d.issued ++ more }

theorem Diagnostics.add_addAll (d : Diagnostics) (more : List Diagnostic) (last : Diagnostic) :
    (d.addAll more).add last = d.addAll (more ++ [last]) := by
  rw [add, addAll, addAll, List.append_assoc]

namespace Walk

/-- How often the log says that a name was recorded again. -/
def State.repeats (s : State) : Nat :=
  (s.events.filterMap Event.row?).countP Log.Row.tellsRepeat

/-- The entries that recorded functions make in a tally. -/
def entriesOf (functions : List FunctionResult) : List (String × Int) :=
  functions.map fun f => (f.name, f.complexity)

/-- The tally, the diagnostics and the log agree with the list of functions, where the walk
began with a tally and with diagnostics. -/
structure State.Agrees (remarkId : Nat) (tally : Tally) (diagnostics : Diagnostics) (s : State) :
    Prop where
  tally_eq : s.tally = tally.recordAll (entriesOf s.outcome.functions)
  diagnostics_eq : s.diagnostics =
    some (diagnostics.addAll (s.outcome.functions.map (remarkOf remarkId)))
  repeats_eq : s.repeats + s.tally.size = tally.size + s.outcome.functions.length

namespace State

variable {remarkId : Nat} {tally : Tally} {diagnostics : Diagnostics} {s : State}

theorem repeats_note {row : Log.Row} (h : row.tellsRepeat = false) :
    (s.note row).repeats = s.repeats := by
  rw [repeats, note, List.filterMap_append, List.countP_append]
  simp [Event.row?, h, repeats]

theorem agrees_start : Agrees remarkId tally diagnostics ⟨.empty, tally, some diagnostics, []⟩ :=
  ⟨rfl, by simp [Outcome.empty, Diagnostics.addAll], by simp [repeats, Outcome.empty]⟩

theorem Agrees.registered (h : Agrees remarkId tally diagnostics s)
    (hreg : Registered remarkId diagnostics) :
    ∃ d, s.diagnostics = some d ∧ Registered remarkId d := ⟨_, h.diagnostics_eq, hreg⟩

theorem Agrees.note (h : Agrees remarkId tally diagnostics s) {row : Log.Row}
    (hrow : row.tellsRepeat = false) : Agrees remarkId tally diagnostics (s.note row) where
  tally_eq := h.tally_eq
  diagnostics_eq := h.diagnostics_eq
  repeats_eq := by
    rw [repeats_note hrow]
    exact h.repeats_eq

theorem Agrees.countExcluded (h : Agrees remarkId tally diagnostics s) :
    Agrees remarkId tally diagnostics s.countExcluded := ⟨h.1, h.2, h.3⟩

theorem Agrees.countDeclaration (h : Agrees remarkId tally diagnostics s) :
    Agrees remarkId tally diagnostics s.countDeclaration := ⟨h.1, h.2, h.3⟩

theorem Agrees.countAnomaly (h : Agrees remarkId tally diagnostics s) :
    Agrees remarkId tally diagnostics s.countAnomaly := ⟨h.1, h.2, h.3⟩

/-- Recording logs a row or adds a name, and never both. -/
theorem repeats_record (f : FunctionResult) :
    (s.record f).repeats + (s.record f).tally.size = s.repeats + s.tally.size + 1 := by
  have hall : (s.tally.recordLog f.name f.complexity).countP Log.Row.tellsRepeat =
      (s.tally.recordLog f.name f.complexity).length :=
    List.countP_eq_length.mpr fun row hrow => Tally.tellsRepeat_of_mem_recordLog hrow
  rw [repeats, record, List.filterMap_append, Event.filterMap_row?_log, List.countP_append, hall,
    Tally.length_recordLog, Tally.size_record]
  cases s.tally.contains f.name with
  | true => simp [repeats]; omega
  | false => simp [repeats]; omega

/-- Recording and remarking keep the channels in step, also when the remark cannot be written. -/
theorem Agrees.record_remark (h : Agrees remarkId tally diagnostics s)
    (hreg : Registered remarkId diagnostics) (f : FunctionResult) :
    Agrees remarkId tally diagnostics ((s.record f).remark remarkId f).1 := by
  have htally : (s.record f).tally =
      tally.recordAll (entriesOf (s.outcome.functions ++ [f])) := by
    rw [entriesOf, List.map_append, List.map_singleton, Tally.recordAll_concat, ← entriesOf,
      ← h.tally_eq]
    rfl
  have hissued : (diagnostics.addAll (s.outcome.functions.map (remarkOf remarkId))).add
      (remarkOf remarkId f) =
      diagnostics.addAll ((s.outcome.functions ++ [f]).map (remarkOf remarkId)) := by
    rw [Diagnostics.add_addAll, List.map_append, List.map_singleton]
  have hrepeats : (s.record f).repeats + (s.record f).tally.size =
      tally.size + (s.outcome.functions ++ [f]).length := by
    rw [repeats_record, h.repeats_eq, List.length_append, List.length_singleton, Nat.add_assoc]
  rw [remark_eq (s := s.record f) (d := diagnostics.addAll _) hreg h.diagnostics_eq, hissued]
  -- The diagnostic is added before it is written, so both ways out leave the same diagnostics.
  split
  · refine ⟨htally, rfl, ?_⟩
    rw [repeats, List.filterMap_append, Event.filterMap_row?_remark, List.append_nil]
    exact hrepeats
  · exact ⟨htally, rfl, hrepeats⟩

/-- **A visit keeps the channels in step**, whatever it makes of its declaration. -/
theorem Agrees.visit (h : Agrees remarkId tally diagnostics s)
    (hreg : Registered remarkId diagnostics) (policy : Policy) (f : Declaration Node) :
    Agrees remarkId tally diagnostics (visit policy remarkId f s).1 := by
  rcases visit_cases policy remarkId f s with ⟨-, hv⟩ | ⟨-, e, hv⟩ | ⟨l, -, -, hv⟩ |
    ⟨l, -, -, -, hv⟩ | ⟨l, body, -, -, -, hv⟩
  · rw [hv]
    exact h
  · rw [hv]
    exact (h.note rfl).countExcluded
  · rw [hv]
    exact h.countDeclaration.note rfl
  · rw [hv]
    exact (h.note rfl).countAnomaly.note rfl
  · rw [hv]
    exact h.record_remark hreg (resultOf f body l)

end State

/-- What every visit keeps, a walk keeps, whether or not it comes to an end. -/
theorem visitPending_keeps {P : State → Prop} {policy : Policy} {remarkId : Nat}
    (hvisit : ∀ f s, P s → P (visit policy remarkId f s).1) (pending : List (Option Node))
    {s : State} (hs : P s) : P (visitPending policy remarkId pending s).1 := by
  fun_induction visitPending policy remarkId pending s with
  | case1 s => exact hs
  | case2 rest s => exact hs
  | case3 s n rest hnone ih => exact ih hs
  | case4 s n rest f hsome s' fault hv =>
    have h := hvisit f s hs
    rw [hv] at h
    exact h
  | case5 s n rest f hsome s' hv ih =>
    have h := hvisit f s hs
    rw [hv] at h
    exact ih h

end Walk

/-! ## Several walks -/

/-- One of several walks: what it began with, and what it led to. -/
structure Walker.Pass where
  tally : Tally
  diagnostics : Option Diagnostics
  state : Walk.State
  result : Except Walk.Fault Unit

namespace Walker

/-- Walk several units one after the other.  The diagnostics are handed on, and so is the tally if
it is shared; otherwise every walk begins with an empty one.  A walk that a fault ends does not
keep the next one from happening. -/
def passes (w : Walker) (shared : Bool) :
    List (Option Node) → Tally → Option Diagnostics → List Pass
  | [], _, _ => []
  | root :: rest, tally, diagnostics =>
    let begun := if shared then tally else .empty
    let walked := w.walk root begun diagnostics
    ⟨begun, diagnostics, walked.1, walked.2⟩ ::
      w.passes shared rest walked.1.tally walked.1.diagnostics

theorem walk_agrees (w : Walker) {diagnostics : Diagnostics}
    (hreg : Walk.Registered w.remarkId diagnostics) (root : Option Node) (tally : Tally) :
    (w.walk root tally (some diagnostics)).1.Agrees w.remarkId tally diagnostics :=
  Walk.visitPending_keeps (fun f _ h => h.visit hreg w.policy f) [root] Walk.State.agrees_start

/-- In every pass the channels agree, and the next one begins with the template registered. -/
theorem passes_agree (w : Walker) (shared : Bool) (roots : List (Option Node)) (tally : Tally)
    {diagnostics : Diagnostics} (hreg : Walk.Registered w.remarkId diagnostics) {pass : Pass}
    (hpass : pass ∈ w.passes shared roots tally (some diagnostics)) :
    ∃ begun, pass.diagnostics = some begun ∧
      pass.state.Agrees w.remarkId pass.tally begun := by
  induction roots generalizing tally diagnostics with
  | nil => cases hpass
  | cons root rest ih =>
    rw [passes] at hpass
    have hagrees := w.walk_agrees hreg root (if shared then tally else .empty)
    rcases List.mem_cons.mp hpass with rfl | hrest
    · exact ⟨diagnostics, rfl, hagrees⟩
    · -- Remarks leave the templates alone, so the next walk begins as this one did.
      obtain ⟨next, hnext, hreg'⟩ := hagrees.registered hreg
      rw [hnext] at hrest
      exact ih _ hreg' hrest

/-- **The channels of every walk agree.**  One walker with diagnostics makes several walks, with a
tally that they share or with a new one for each.  After each of them, the tally is the one that
it began with, overwritten in order by the functions that it found: the last one of a name wins,
and all other names keep their value.  The diagnostics have grown by one remark for each
function, in the same order.  The log says as often that a name was recorded again as there are
functions that did not bring a new name. -/
theorem passes_channels (policy : Policy) (diagnostics : Diagnostics) (shared : Bool)
    (tally : Tally) (roots : List (Option Node)) :
    let start := Walker.start policy (some diagnostics)
    ∀ pass ∈ start.1.passes shared roots tally start.2,
      let functions := pass.state.outcome.functions
      pass.state.tally = pass.tally.recordAll (functions.map fun f => (f.name, f.complexity)) ∧
      (∀ name, pass.state.tally.get? name =
        ((functions.reverse.find? fun f => f.name == name).map (·.complexity)).or
          (pass.tally.get? name)) ∧
      (∃ before after, pass.diagnostics = some before ∧ pass.state.diagnostics = some after ∧
        after.issued = before.issued ++ functions.map fun f =>
          ⟨.remark, f.location, "Cyclomatic Complexity: " ++ Decimal.ofInt f.complexity,
            start.1.remarkId⟩) ∧
      ((pass.state.events.filterMap Event.row?).countP Log.Row.tellsRepeat : Int) =
        functions.length - ((pass.state.tally.size : Int) - pass.tally.size) := by
  intro start pass hpass functions
  obtain ⟨registered, hstart, -⟩ := start_issued policy diagnostics
  have hreg : Walk.Registered start.1.remarkId registered :=
    start_registers policy (some diagnostics) registered hstart
  rw [hstart] at hpass
  obtain ⟨before, hbefore, hagrees⟩ := passes_agree start.1 shared roots tally hreg hpass
  refine ⟨hagrees.tally_eq, fun name => ?_, ⟨before, _, hbefore, hagrees.diagnostics_eq, rfl⟩, ?_⟩
  · rw [hagrees.tally_eq, Tally.get?_recordAll, Tally.lastOf, Walk.entriesOf, ← List.map_reverse,
      Tally.valueIn, List.find?_map, Option.map_map]
    rfl
  · have hrepeats := hagrees.repeats_eq
    have hlength : functions.length = pass.state.outcome.functions.length := rfl
    rw [Walk.State.repeats] at hrepeats
    omega

/-- Two functions of one name, of which the second one has a decision. -/
def sameNames : Node :=
  let function (line : Int) (body : Node) : Node :=
    .mk .other (some ⟨"f", .ok ⟨"main.c", line, 1, false⟩, true, some body⟩) [some body]
  .mk .other none [
    some (function 1 (.mk .other none [])),
    some (function 2 (.mk .other none [some (.mk .ifElse none [])]))]

/-- A second walk of the two functions with the same tally: the tally has one name before and
after it, the last value stays, and both functions were recorded again. -/
theorem passes_channels_sameNames :
    let start := Walker.start (Policy.ofLists [".h"] ["/usr/include"]) (some (.start none))
    ∃ pass ∈ start.1.passes true [some sameNames, some sameNames] .empty start.2,
      pass.tally.size = 1 ∧ pass.state.tally.size = 1 ∧
      pass.state.outcome.functions.length = 2 ∧
      pass.state.tally.get? "f" = some 2 ∧
      (∃ before after, pass.diagnostics = some before ∧ pass.state.diagnostics = some after ∧
        after.issued = before.issued ++
          [⟨.remark, ⟨"main.c", 1, 1, false⟩, "Cyclomatic Complexity: 1", 0⟩,
            ⟨.remark, ⟨"main.c", 2, 1, false⟩, "Cyclomatic Complexity: 2", 0⟩]) ∧
      ((pass.state.events.filterMap Event.row?).countP Log.Row.tellsRepeat : Int) = 2 := by
  intro start
  have hchannels := passes_channels (Policy.ofLists [".h"] ["/usr/include"]) (.start none) true
    .empty [some sameNames, some sameNames]
  simp only [passes] at hchannels ⊢
  obtain ⟨-, hget, ⟨before, after, hbefore, hafter, hissued⟩, hrepeats⟩ :=
    hchannels _ (List.mem_cons_of_mem _ (List.mem_cons_self ..))
  refine ⟨_, List.mem_cons_of_mem _ (List.mem_cons_self ..), ?_, ?_, ?_, (hget "f").trans ?_,
    ⟨before, after, hbefore, hafter, hissued.trans ?_⟩, hrepeats.trans ?_⟩
  · decide +kernel
  · decide +kernel
  · decide +kernel
  · decide +kernel
  · congr 1
    decide +kernel
  · decide +kernel

end Walker

end Cyclometry
