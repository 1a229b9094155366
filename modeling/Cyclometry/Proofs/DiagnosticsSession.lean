import Mathlib.Data.List.Nodup
import Cyclometry.Proofs.Visit

/-!
# Sessions with the diagnostics

Templates are registered and diagnostics are reported in any order, and some of the reports fail.
A `Session` is the state that such calls lead through: the diagnostics, and the text that their sink
has received.  All that a report can come to is said once (`report_cases`).

The invariant of a session is `Sound`: no template is registered twice, and the sink has received
the line of every diagnostic that it can show, in order.  Templates are only ever added behind the
others (`templates_run`), so a number keeps its meaning.  Together they say what a session is like
after any calls (`run_session`).

There is one way to fail in the middle: the diagnostic is added, and then its location has a number
that is too long to be written.
-/

namespace Cyclometry

namespace Diagnostics

/-- A call of the diagnostics. -/
inductive Call
  | register (severity : Severity) (template : String)
  | report (location : Location) (id : Int) (args : List Value)

/-- The diagnostics, and the text that their sink has received. -/
structure Session where
  diagnostics : Diagnostics
  text : String

namespace Session

/-- Why a report fails. -/
inductive Failure
  /-- There is no diagnostic to add. -/
  | refused (fault : Diagnostics.Fault)
  /-- The diagnostic is added, but cannot be written to the sink. -/
  | unwritten
  deriving DecidableEq, Repr

/-- Nothing registered, reported or written yet. -/
def start (sink : Option Sink) : Session := ⟨.start sink, ""⟩

/-- Register a template. -/
def register (s : Session) (severity : Severity) (template : String) : Nat × Session :=
  ((s.diagnostics.register severity template).1,
    { s with diagnostics := (s.diagnostics.register severity template).2 })

/-- The session with a diagnostic added, but not written. -/
def add (s : Session) (diagnostic : Diagnostic) : Session :=
  { s with diagnostics := s.diagnostics.add diagnostic }

/-- The session with a diagnostic added, and written if there is a sink. -/
def issue (s : Session) (diagnostic : Diagnostic) : Session :=
  ⟨s.diagnostics.add diagnostic, s.text ++ (s.diagnostics.written diagnostic).getD ""⟩

/-- Report a diagnostic.  It is added before it is written. -/
def report (s : Session) (location : Location) (id : Int) (args : List Value) :
    Session × Except Failure Diagnostic :=
  match s.diagnostics.report location id args with
  | .error fault => (s, .error (.refused fault))
  | .ok (diagnostic, _) =>
    if s.diagnostics.shows location then (s.issue diagnostic, .ok diagnostic)
    else (s.add diagnostic, .error .unwritten)

/-- The session after a call, whatever it comes to. -/
def call (s : Session) : Call → Session
  | .register severity template => (s.register severity template).2
  | .report location id args => (s.report location id args).1

/-- The session after several calls. -/
def run (s : Session) (calls : List Call) : Session := calls.foldl call s

end Session

/-! ## Numbers of templates -/

theorem template?_natCast (d : Diagnostics) (id : Nat) : d.template? id = d.templates[id]? := by
  rw [template?, if_pos (Int.natCast_nonneg id), Int.toNat_natCast]

/-- The numbers that denote a template are those below the number of templates, and as many below
zero. -/
theorem template?_eq_none_iff {d : Diagnostics} {id : Int} :
    d.template? id = none ↔ ¬ (-(d.templates.length : Int) ≤ id ∧ id < d.templates.length) := by
  rw [template?]
  by_cases hid : 0 ≤ id
  · rw [if_pos hid, List.getElem?_eq_none_iff]
    omega
  · rw [if_neg hid]
    by_cases hlow : id.natAbs ≤ d.templates.length
    · rw [if_pos hlow, List.getElem?_eq_none_iff]
      omega
    · rw [if_neg hlow]
      simp only [true_iff]
      omega

/-- Registering adds a template behind the others, if it is new. -/
theorem templates_register (d : Diagnostics) (severity : Severity) (template : String) :
    (d.register severity template).2.templates =
      if (severity, template) ∈ d.templates then d.templates
      else d.templates ++ [(severity, template)] := by
  rw [register]
  cases hfind : d.templates.findIdx? (· == (severity, template)) with
  | none =>
    have hnew : (severity, template) ∉ d.templates := by
      intro hmem
      have hfalse := List.findIdx?_eq_none_iff.mp hfind _ hmem
      simp at hfalse
    rw [if_neg hnew]
  | some id =>
    obtain ⟨hlt, heq, -⟩ := List.findIdx?_eq_some_iff_getElem.mp hfind
    have hmem : (severity, template) ∈ d.templates := beq_iff_eq.mp heq ▸ List.getElem_mem hlt
    rw [if_pos hmem]

theorem templates_prefix_register (d : Diagnostics) (severity : Severity) (template : String) :
    d.templates <+: (d.register severity template).2.templates := by
  rw [templates_register]
  split
  · exact List.prefix_rfl
  · exact List.prefix_append _ _

theorem nodup_register {d : Diagnostics} (h : d.templates.Nodup) (severity : Severity)
    (template : String) : (d.register severity template).2.templates.Nodup := by
  rw [templates_register]
  split
  · exact h
  · rename_i hnew
    exact List.nodup_append.mpr ⟨h, List.nodup_singleton _, fun x hx y hy heq =>
      hnew (List.mem_singleton.mp hy ▸ heq ▸ hx)⟩

/-! ## One call -/

namespace Session

variable {s : Session}

/-- **All that a report can come to**, and when it does.  Unless the number denotes no template or
the message cannot be made, the diagnostic is added, and it is written if it can be. -/
theorem report_cases (s : Session) (location : Location) (id : Int) (args : List Value) :
    (¬ (-(s.diagnostics.templates.length : Int) ≤ id ∧ id < s.diagnostics.templates.length) ∧
      s.report location id args = (s, .error (.refused (.unknownId id)))) ∨
    (-(s.diagnostics.templates.length : Int) ≤ id ∧ id < s.diagnostics.templates.length) ∧
    ∃ severity template, s.diagnostics.template? id = some (severity, template) ∧
      ((∃ fault, Template.message template args = .error fault ∧
        s.report location id args = (s, .error (.refused (.template fault)))) ∨
      ∃ message, Template.message template args = .ok message ∧
        s.report location id args =
          if s.diagnostics.shows location then
            (s.issue ⟨severity, location, message, id⟩, .ok ⟨severity, location, message, id⟩)
          else (s.add ⟨severity, location, message, id⟩, .error .unwritten)) := by
  rw [report, Diagnostics.report, reportWithin, make]
  cases htemplate : s.diagnostics.template? id with
  | none => exact .inl ⟨template?_eq_none_iff.mp htemplate, rfl⟩
  | some key =>
    obtain ⟨severity, template⟩ := key
    have hrange := Decidable.not_not.mp
      (mt template?_eq_none_iff.mpr (htemplate ▸ Option.some_ne_none (severity, template)))
    refine .inr ⟨hrange, severity, template, rfl, ?_⟩
    dsimp only
    rw [← Template.message]
    cases hmessage : Template.message template args with
    | error fault => exact .inl ⟨fault, rfl, rfl⟩
    | ok message => exact .inr ⟨message, rfl, rfl⟩

/-- A report leaves everything as it is, adds a diagnostic without writing it, or does both. -/
theorem report_fst (s : Session) (location : Location) (id : Int) (args : List Value) :
    (s.report location id args).1 = s ∨ ∃ diagnostic : Diagnostic, diagnostic.location = location ∧
      (s.report location id args).1 =
        if s.diagnostics.shows location then s.issue diagnostic else s.add diagnostic := by
  rcases s.report_cases location id args with
    ⟨-, h⟩ | ⟨-, severity, template, -, ⟨fault, -, h⟩ | ⟨message, -, h⟩⟩
  · exact .inl (by rw [h])
  · exact .inl (by rw [h])
  · refine .inr ⟨⟨severity, location, message, id⟩, rfl, ?_⟩
    rw [h]
    split
    · rfl
    · rfl

/-! ## Several calls -/

/-- What a call keeps, several calls keep. -/
theorem run_keeps {P : Session → Prop} (hcall : ∀ s c, P s → P (s.call c)) (calls : List Call)
    (hs : P s) : P (s.run calls) := by
  induction calls generalizing s with
  | nil => exact hs
  | cons c calls ih => exact ih (hcall s c hs)

/-- Templates are only ever added behind the others. -/
theorem templates_run (s : Session) (calls : List Call) :
    s.diagnostics.templates <+: (s.run calls).diagnostics.templates := by
  refine run_keeps (P := fun t => s.diagnostics.templates <+: t.diagnostics.templates) ?_ calls
    List.prefix_rfl
  intro t c ht
  cases c with
  | register severity template =>
    exact ht.trans (t.diagnostics.templates_prefix_register severity template)
  | report location id args =>
    rcases t.report_fst location id args with h | ⟨diagnostic, -, h⟩
    · rw [call, h]
      exact ht
    · rw [call, h]
      split
      · exact ht
      · exact ht

/-- A number that a template has keeps its meaning. -/
theorem template?_run {id : Nat} {key : Severity × String}
    (h : s.diagnostics.templates[id]? = some key) (calls : List Call) :
    (s.run calls).diagnostics.template? id = some key := by
  obtain ⟨hlt, heq⟩ := List.getElem?_eq_some_iff.mp h
  rw [template?_natCast, ← heq]
  exact List.prefix_iff_getElem?.mp (s.templates_run calls) id hlt

/-- The lines of the diagnostics that the sink can show. -/
def shownLines (d : Diagnostics) : List String :=
  (d.issued.filter fun diagnostic => d.shows diagnostic.location).filterMap d.written

/-- No template is registered twice, and the sink has received the lines that it can show. -/
structure Sound (sink : Option Sink) (s : Session) : Prop where
  sink_eq : s.diagnostics.sink = sink
  nodup : s.diagnostics.templates.Nodup
  text_eq : s.text = String.join (shownLines s.diagnostics)

variable {sink : Option Sink}

theorem sound_start (sink : Option Sink) : Sound sink (start sink) :=
  ⟨rfl, List.nodup_nil, rfl⟩

theorem shownLines_add (d : Diagnostics) (diagnostic : Diagnostic) :
    shownLines (d.add diagnostic) = shownLines d ++
      if d.shows diagnostic.location then (d.written diagnostic).toList else [] := by
  have hlines : shownLines (d.add diagnostic) =
      ((d.issued ++ [diagnostic]).filter fun diagnostic => d.shows diagnostic.location).filterMap
        d.written := rfl
  rw [hlines, List.filter_append, List.filterMap_append, shownLines]
  cases hshows : d.shows diagnostic.location with
  | false => simp [hshows]
  | true =>
    cases hwritten : d.written diagnostic with
    | none => simp [hshows, hwritten]
    | some line => simp [hshows, hwritten]

theorem Sound.issue (h : Sound sink s) {diagnostic : Diagnostic}
    (hshows : s.diagnostics.shows diagnostic.location = true) :
    Sound sink (s.issue diagnostic) where
  sink_eq := h.sink_eq
  nodup := h.nodup
  text_eq := by
    rw [Session.issue, shownLines_add, if_pos hshows, String.join_append, h.text_eq]
    cases s.diagnostics.written diagnostic with
    | none => rfl
    | some line => simp

theorem Sound.add (h : Sound sink s) {diagnostic : Diagnostic}
    (hshows : s.diagnostics.shows diagnostic.location = false) : Sound sink (s.add diagnostic) where
  sink_eq := h.sink_eq
  nodup := h.nodup
  text_eq := by
    rw [Session.add, shownLines_add, hshows, if_neg Bool.false_ne_true, List.append_nil]
    exact h.text_eq

/-- **A call keeps a session sound**, also one that fails. -/
theorem Sound.call (h : Sound sink s) (c : Call) : Sound sink (s.call c) := by
  cases c with
  | register severity template =>
    obtain ⟨hsink, hissued⟩ := s.diagnostics.register_frame severity template
    refine ⟨hsink.trans h.sink_eq, nodup_register h.nodup severity template, ?_⟩
    show s.text = String.join (shownLines (s.diagnostics.register severity template).2)
    have hlines : shownLines (s.diagnostics.register severity template).2 =
        shownLines s.diagnostics := by
      unfold shownLines shows written render
      rw [hsink, hissued]
    rw [hlines]
    exact h.text_eq
  | report location id args =>
    rcases s.report_fst location id args with hs | ⟨diagnostic, rfl, hs⟩
    · rw [Session.call, hs]
      exact h
    · rw [Session.call, hs]
      cases hshows : s.diagnostics.shows diagnostic.location with
      | true => exact h.issue hshows
      | false => exact h.add hshows

theorem sound_run (sink : Option Sink) (calls : List Call) : Sound sink ((start sink).run calls) :=
  run_keeps (fun _ c h => h.call c) calls (sound_start sink)

theorem Sound.shows_iff (h : Sound sink s) {location : Location} :
    s.diagnostics.shows location = true ↔ (sink.isSome → location.isShort) := by
  rw [shows, h.sink_eq]
  cases sink <;> simp

theorem Sound.written_getD (h : Sound sink s) (diagnostic : Diagnostic) :
    (s.diagnostics.written diagnostic).getD "" =
      if sink.isSome then s.diagnostics.render diagnostic ++ "\n" else "" := by
  rw [written, h.sink_eq]
  cases sink <;> rfl

/-- Two templates have the same number exactly if they are the same. -/
theorem Sound.register_eq_iff (h : Sound sink s) {id : Nat} {severity severity' : Severity}
    {template template' : String}
    (hid : s.diagnostics.templates[id]? = some (severity, template)) :
    (s.register severity' template').1 = id ↔ severity' = severity ∧ template' = template := by
  obtain ⟨hlt, heq⟩ := List.getElem?_eq_some_iff.mp hid
  -- Both numbers are places in the templates after the second call.
  have hold : (s.diagnostics.register severity' template').2.templates[id]? =
      some (severity, template) :=
    heq ▸ List.prefix_iff_getElem?.mp
      (s.diagnostics.templates_prefix_register severity' template') id hlt
  have hnew := s.diagnostics.register_registered severity' template'
  constructor
  · intro hsame
    have hkey : some (severity', template') = some (severity, template) := by
      rw [← hnew, ← hold, ← hsame]
      rfl
    exact Prod.mk.inj (Option.some.inj hkey)
  · rintro ⟨rfl, rfl⟩
    have hlt' := (List.getElem?_eq_some_iff.mp hnew).1
    exact (List.getElem?_inj hlt' (nodup_register h.nodup severity' template')).mp
      (hnew.trans hold.symm)

/-- With a sink, the lines are those of the diagnostics with short locations. -/
theorem shownLines_of_sink {d : Diagnostics} (h : d.sink.isSome = true) :
    shownLines d = (d.issued.filter fun diagnostic => diagnostic.location.isShort).map
      fun diagnostic => d.render diagnostic ++ "\n" := by
  obtain ⟨sink, hsink⟩ := Option.isSome_iff_exists.mp h
  have hshows (location : Location) : d.shows location = location.isShort := by
    rw [shows, hsink, Option.isNone_some, Bool.false_or]
  have hwritten : d.written = fun diagnostic => some (d.render diagnostic ++ "\n") := by
    funext diagnostic
    rw [written, hsink, Option.map_some]
  rw [shownLines, hwritten]
  simp only [hshows, List.filterMap_eq_map']

theorem shownLines_of_not_sink {d : Diagnostics} (h : d.sink = none) : shownLines d = [] := by
  rw [shownLines]
  refine List.filterMap_eq_nil_iff.mpr fun diagnostic _ => ?_
  rw [written, h, Option.map_none]

end Session

/-- Every diagnostic has one severity. -/
theorem count_none (d : Diagnostics) :
    d.count none = d.count (some .remark) + d.count (some .note) + d.count (some .warning) +
      d.count (some .error) := by
  simp only [count]
  induction d.issued with
  | nil => rfl
  | cons diagnostic rest ih =>
    rw [List.length_cons, ih]
    simp only [List.countP_cons]
    cases diagnostic.severity with
    | remark => simp; omega
    | note => simp; omega
    | warning => simp; omega
    | error => simp; omega

namespace Session

/-- **What a session is like after any calls**, successful or not.

* A number that is given out denotes its severity and template for the rest of the session, and
  another template gets the same number exactly if it is the same.
* A report whose number denotes no template, or whose message cannot be made, leaves the session as
  it is.  Any other one adds one diagnostic behind the others, with the severity of the number, the
  location and the message.
* Without a sink nothing is written.  With one, the text is the lines of the diagnostics in order,
  if their locations are short.  A report with a location that is too long fails, but its
  diagnostic is there, and its line is missing in the text.
* The number of diagnostics is the sum of the numbers of each severity. -/
theorem run_session (sink : Option Sink) (calls : List Call) :
    let s := (start sink).run calls
    let n : Int := s.diagnostics.templates.length
    (∀ severity template later severity' template',
      let first := s.register severity template
      let s' := first.2.run later
      s'.diagnostics.template? first.1 = some (severity, template) ∧
      ((s'.register severity' template').1 = first.1 ↔
        severity' = severity ∧ template' = template)) ∧
    (∀ location id args,
      (¬ (-n ≤ id ∧ id < n) ∧
        s.report location id args = (s, .error (.refused (.unknownId id)))) ∨
      (-n ≤ id ∧ id < n) ∧
      ∃ severity template, s.diagnostics.template? id = some (severity, template) ∧
        ((∃ fault, Template.message template args = .error fault ∧
          s.report location id args = (s, .error (.refused (.template fault)))) ∨
        ∃ message, Template.message template args = .ok message ∧
          let diagnostic : Diagnostic := ⟨severity, location, message, id⟩
          let after := { s.diagnostics with issued := s.diagnostics.issued ++ [diagnostic] }
          let line := if sink.isSome then s.diagnostics.render diagnostic ++ "\n" else ""
          s.report location id args =
            if sink.isSome → location.isShort then (⟨after, s.text ++ line⟩, .ok diagnostic)
            else (⟨after, s.text⟩, .error .unwritten))) ∧
    (sink = none → s.text = "") ∧
    (sink.isSome → s.text = String.join ((s.diagnostics.issued.filter (·.location.isShort)).map
      fun diagnostic => s.diagnostics.render diagnostic ++ "\n")) ∧
    (sink.isSome → (∀ diagnostic ∈ s.diagnostics.issued, diagnostic.location.isShort) →
      s.text = String.join (s.diagnostics.issued.map
        fun diagnostic => s.diagnostics.render diagnostic ++ "\n")) ∧
    s.diagnostics.count none = s.diagnostics.count (some .remark) +
      s.diagnostics.count (some .note) + s.diagnostics.count (some .warning) +
      s.diagnostics.count (some .error) := by
  intro s n
  have hsound : Sound sink s := sound_run sink calls
  have htext (hsink : sink.isSome = true) :
      s.text = String.join ((s.diagnostics.issued.filter (·.location.isShort)).map
        fun diagnostic => s.diagnostics.render diagnostic ++ "\n") := by
    rw [hsound.text_eq, shownLines_of_sink (by rw [hsound.sink_eq]; exact hsink)]
  refine ⟨?_, ?_, ?_, htext, ?_, s.diagnostics.count_none⟩
  · intro severity template later severity' template' first s'
    have hfirst : first.2.diagnostics.templates[first.1]? = some (severity, template) :=
      s.diagnostics.register_registered severity template
    have hlater := template?_run hfirst later
    have hsound' : Sound sink s' :=
      run_keeps (fun _ c h => h.call c) later (hsound.call (.register severity template))
    refine ⟨hlater, hsound'.register_eq_iff ?_⟩
    rw [template?_natCast] at hlater
    exact hlater
  · intro location id args
    rcases s.report_cases location id args with
      h | ⟨hrange, severity, template, htemplate, h | ⟨message, hmessage, h⟩⟩
    · exact .inl h
    · exact .inr ⟨hrange, severity, template, htemplate, .inl h⟩
    · refine .inr ⟨hrange, severity, template, htemplate, .inr ⟨message, hmessage, h.trans ?_⟩⟩
      by_cases hshort : sink.isSome → location.isShort
      · rw [if_pos (hsound.shows_iff.mpr hshort), if_pos hshort, issue, hsound.written_getD]
        rfl
      · rw [if_neg (mt hsound.shows_iff.mp hshort), if_neg hshort]
        rfl
  · intro hsink
    rw [hsound.text_eq, shownLines_of_not_sink (hsound.sink_eq.trans hsink)]
    rfl
  · intro hsink hall
    rw [htext hsink, List.filter_eq_self.mpr hall]

/-- Two templates of one text, a report of each, one with a number that denotes no template, and one
with too few arguments. -/
def mixedCalls : List Call :=
  let location : Location := ⟨"a.c", 1, 2, false⟩
  [.register .remark "n \x7b0\x7d", .register .warning "n \x7b0\x7d",
    .report location 0 [.int 7], .report location 2 [.int 8], .report location 1 [],
    .report location (-1) [.int 9]]

/-- A report in a line that is too long to be written. -/
def longReport : Call := .report ⟨"a.c", Nat.pow 10 Decimal.maxDigits, 1, false⟩ 0 [.int 7]

/-- The text after the calls, and the number of the first template in a later call.  After the
report that is too long there are three diagnostics, and the text is the same. -/
theorem run_session_mixedCalls :
    let s := (start (some .plain)).run mixedCalls
    let s' := (start (some .plain)).run (mixedCalls ++ [longReport])
    s.text = "a.c:1:2: remark: n 7\na.c:1:2: warning: n 9\n" ∧
    (s'.register .remark "n \x7b0\x7d").1 = 0 ∧
    s'.diagnostics.issued.length = 3 ∧ s'.text = s.text := by
  intro s s'
  obtain ⟨-, -, -, -, htext, -⟩ := run_session (some .plain) mixedCalls
  obtain ⟨hnumber, -⟩ := run_session (some .plain) []
  obtain ⟨-, -, -, htext', -, -⟩ := run_session (some .plain) (mixedCalls ++ [longReport])
  have hfirst : s.text = "a.c:1:2: remark: n 7\na.c:1:2: warning: n 9\n" :=
    (htext rfl (by decide +kernel)).trans (by decide +kernel)
  have hlater := hnumber .remark "n \x7b0\x7d" (mixedCalls.tail ++ [longReport]) .remark
    "n \x7b0\x7d"
  refine ⟨hfirst, hlater.2.mpr ⟨rfl, rfl⟩, by decide +kernel, ?_⟩
  rw [hfirst]
  exact (htext' rfl).trans (by decide +kernel)

end Session

end Diagnostics

/-! ## Walks -/

namespace Walk

open Diagnostics (Session)

/-- The session that a walk with diagnostics is in. -/
def State.session? (s : State) : Option Session :=
  s.diagnostics.map fun d => ⟨d, String.join (s.events.filterMap Event.remark?)⟩

/-- The fault of a walk that a failed report means. -/
def Fault.ofReport : Session.Failure → Fault
  | .refused fault => .diagnostics fault
  | .unwritten => .numeralTooLong

/-- **A remark is a report.**  The remarks of a walk take its session through the reports of the
recorded functions, as long as their complexities can be written. -/
theorem remark_session {s : State} {session : Session} (h : s.session? = some session)
    {remarkId : Nat} (hreg : Registered remarkId session.diagnostics) {f : FunctionResult}
    (hshort : Decimal.isShort f.complexity = true) :
    let reported := session.report f.location remarkId [.int f.complexity]
    (s.remark remarkId f).1.session? = some reported.1 ∧
      (s.remark remarkId f).2 = (reported.2.map fun _ => ()).mapError Fault.ofReport := by
  obtain ⟨d, hd, rfl⟩ := Option.map_eq_some_iff.mp h
  have hcheck : Template.Limits.present.check (.int f.complexity) = .ok () := by
    simp [Template.Limits.check, Template.checkText, Template.checkDigits, hshort]
  have hreport : d.report f.location remarkId [.int f.complexity] = _ := report_remark hreg hcheck
  rw [remark_eq hreg hd, Session.report, hreport]
  dsimp only
  cases d.shows f.location with
  | false => exact ⟨rfl, rfl⟩
  | true =>
    refine ⟨?_, rfl⟩
    simp only [if_true, State.session?, Option.map_some, Session.issue, List.filterMap_append,
      String.join_append]
    cases d.written (remarkOf remarkId f) with
    | none => rfl
    | some line => rfl

end Walk

end Cyclometry
