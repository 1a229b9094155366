import Cyclometry.Proofs.TemplateText
import Cyclometry.Proofs.Traversal

/-!
# What one visit does

A visit looks at one declaration.  `visit_cases` lists everything it can do, each possibility
with the condition under which it happens; all facts about walks are read off this list.  The
conditions speak of `Policy.eligible?`, which gives back exactly the locations of primary
sources, and not of the order in which a policy tests them.  The remark of a recorded function
is always issued, once its template is registered (`Walk.remark_eq`).
-/

namespace Cyclometry

/-! ## Eligible locations -/

namespace Policy

/-- The location lies in a primary source: in no system header, below no system include
directory, and in a file without the ending of a header. -/
def Eligible (p : Policy) (l : Location) : Prop :=
  l.system = false ∧ p.isSystemPath l.path = false ∧
    ∀ ending ∈ p.headers, ¬ ending.toList <:+ l.path.toList

instance (p : Policy) (l : Location) : Decidable (p.Eligible l) :=
  inferInstanceAs (Decidable (_ ∧ _ ∧ _))

/-- The location of a declaration, if it is known and eligible. -/
def eligible? (p : Policy) (location : Except LocationError Location) : Option Location :=
  match location with
  | .error _ => none
  | .ok l => if p.Eligible l then some l else none

theorem eligible?_eq_some_iff {p : Policy} {location : Except LocationError Location}
    {l : Location} : p.eligible? location = some l ↔ location = .ok l ∧ p.Eligible l := by
  cases location with
  | error e => simp [eligible?]
  | ok l' =>
    simp only [eligible?, Except.ok.injEq]
    constructor
    · intro h
      split at h
      · rename_i hl'
        obtain rfl := Option.some.inj h
        exact ⟨rfl, hl'⟩
      · cases h
    · rintro ⟨rfl, hl⟩
      rw [if_pos hl]

theorem isHeader_of_any {p : Policy} {path : String}
    (h : (p.headers.any fun ending => ending.toList.isSuffixOf path.toList) = true) :
    p.isHeader path = .ok true := by
  rw [isHeader, if_pos h]

theorem isHeader_of_not_any {p : Policy} {path : String}
    (h : (p.headers.any fun ending => ending.toList.isSuffixOf path.toList) = false) :
    p.isHeader path = if p.headersComplete then .ok false else .error ⟨⟩ := by
  rw [isHeader, h]
  rfl

/-- A location that is not eligible is judged to be excluded.  An eligible one is judged to be so
only if all endings are texts. -/
theorem judge_cases (p : Policy) (location : Except LocationError Location) :
    (∃ l, p.eligible? location = some l ∧
      p.judge location = if p.headersComplete then .ok (.ok l) else .error ⟨⟩) ∨
    (p.eligible? location = none ∧ ∃ exclusion, p.judge location = .ok (.error exclusion)) := by
  cases location with
  | error e => exact .inr ⟨rfl, _, rfl⟩
  | ok l =>
    rw [eligible?, judge]
    -- The endings are looked at only for a location outside of all system directories.
    cases hsystem : l.system || p.isSystemPath l.path with
    | true =>
      refine .inr ⟨if_neg fun h => ?_, .systemHeader l.path, rfl⟩
      rw [h.1, h.2.1] at hsystem
      cases hsystem
    | false =>
      obtain ⟨hs, hd⟩ := Bool.or_eq_false_iff.mp hsystem
      cases hheader : p.headers.any fun ending => ending.toList.isSuffixOf l.path.toList with
      | true =>
        obtain ⟨ending, hmem, hsuffix⟩ := List.any_eq_true.mp hheader
        rw [isHeader_of_any hheader]
        refine .inr ⟨if_neg fun h => ?_, .headerFile l.path, rfl⟩
        exact h.2.2 ending hmem (List.isSuffixOf_iff_suffix.mp hsuffix)
      | false =>
        have heligible : p.Eligible l := ⟨hs, hd, fun ending hmem hsuffix =>
          List.any_eq_false.mp hheader ending hmem (List.isSuffixOf_iff_suffix.mpr hsuffix)⟩
        rw [isHeader_of_not_any hheader]
        refine .inl ⟨l, if_pos heligible, ?_⟩
        cases p.headersComplete <;> rfl

end Policy

/-! ## The remark -/

namespace Walk

/-- The remark of a recorded function. -/
def remarkOf (remarkId : Nat) (f : FunctionResult) : Diagnostic :=
  ⟨.remark, f.location, "Cyclomatic Complexity: " ++ Decimal.ofInt f.complexity, remarkId⟩

/-- The number is the one of the registered template of remarks. -/
def Registered (remarkId : Nat) (d : Diagnostics) : Prop :=
  d.templates[remarkId]? = some (.remark, remarkTemplate)

theorem report_remark {remarkId : Nat} {d : Diagnostics} (h : Registered remarkId d)
    {limits : Template.Limits} {f : FunctionResult}
    (hcheck : limits.check (.int f.complexity) = .ok ()) :
    d.reportWithin limits f.location remarkId [.int f.complexity] =
      .ok (remarkOf remarkId f, d.add (remarkOf remarkId f)) := by
  have htemplate : d.template? remarkId = some (.remark, remarkTemplate) := by
    rw [Diagnostics.template?, if_pos (Int.natCast_nonneg _), Int.toNat_natCast]
    exact h
  rw [Diagnostics.reportWithin, Diagnostics.make, htemplate]
  simp only [message_remarkTemplate hcheck]
  rfl

/-- With its template registered, a remark is issued, and the walk goes on if it can be
written. -/
theorem remark_eq {remarkId : Nat} {d : Diagnostics} (h : Registered remarkId d) {s : State}
    (hs : s.diagnostics = some d) (f : FunctionResult) :
    s.remark remarkId f =
      if d.shows f.location then
        ({ s with
          diagnostics := some (d.add (remarkOf remarkId f))
          events := s.events ++ (d.written (remarkOf remarkId f)).toList.map .remark }, .ok ())
      else
        ({ s with diagnostics := some (d.add (remarkOf remarkId f)) }, .error .numeralTooLong) := by
  have hreport :=
    report_remark h (show Template.Limits.absent.check (.int f.complexity) = _ from rfl)
  rw [State.remark]
  simp only [hs, hreport]

theorem remark_none {remarkId : Nat} {s : State} (hs : s.diagnostics = none)
    (f : FunctionResult) : s.remark remarkId f = (s, .ok ()) := by
  rw [State.remark]
  simp only [hs]

/-! ## The cases of a visit -/

/-- What is recorded for a declaration with a body at a location.  The complexity is one more
than the number of decisions in the body. -/
def resultOf (f : Declaration Node) (body : Node) (l : Location) : FunctionResult :=
  ⟨f.name, (1 + body.decisionCount : Nat), l⟩

/-- **Everything that a visit can do**, and when it does it. -/
theorem visit_cases (policy : Policy) (remarkId : Nat) (f : Declaration Node) (s : State) :
    (policy.headersComplete = false ∧ visit policy remarkId f s = (s, .error .notText)) ∨
    (policy.eligible? f.location = none ∧ ∃ exclusion : Policy.Exclusion,
      visit policy remarkId f s = ((s.note (exclusion.row f.name)).countExcluded, .ok ())) ∨
    (∃ l, policy.eligible? f.location = some l ∧ f.isDefinition = false ∧
      visit policy remarkId f s = (s.countDeclaration.note
        ⟨.debug, .walker, "Skipping declaration without body: " ++ f.name⟩, .ok ())) ∨
    (∃ l, policy.eligible? f.location = some l ∧ f.isDefinition = true ∧ f.body = none ∧
      visit policy remarkId f s =
        (((s.note ⟨.debug, .calculator, "Empty function body encountered"⟩).countAnomaly).note
          ⟨.info, .walker, "Function " ++ f.name ++ " at " ++ l.text ++
            " has an empty body; not recorded"⟩, .ok ())) ∨
    (∃ l body, policy.eligible? f.location = some l ∧ f.isDefinition = true ∧
      f.body = some body ∧
      visit policy remarkId f s =
        (s.record (resultOf f body l)).remark remarkId (resultOf f body l)) := by
  rw [visit]
  rcases policy.judge_cases f.location with ⟨l, hl, hjudge⟩ | ⟨hl, exclusion, hjudge⟩
  · rw [hl, hjudge]
    cases hcomplete : policy.headersComplete with
    | false => exact .inl ⟨rfl, rfl⟩
    | true =>
      refine .inr (.inr ?_)
      cases hdef : f.isDefinition with
      | false => exact .inl ⟨l, rfl, rfl, rfl⟩
      | true =>
        refine .inr ?_
        cases hbody : f.body with
        | none => exact .inl ⟨l, rfl, rfl, rfl, rfl⟩
        | some body =>
          refine .inr ⟨l, body, rfl, rfl, rfl, ?_⟩
          simp only [if_true, Bool.not_true, Bool.false_eq_true, if_false,
            Complexity.ofBody_some, resultOf]
  · rw [hjudge]
    exact .inr (.inl ⟨hl, exclusion, rfl⟩)

end Walk

/-! ## Starting a walker -/

namespace Diagnostics

theorem register_registered (d : Diagnostics) (severity : Severity) (template : String) :
    (d.register severity template).2.templates[(d.register severity template).1]? =
      some (severity, template) := by
  rw [register]
  cases hfind : d.templates.findIdx? (· == (severity, template)) with
  | none => exact List.getElem?_concat_length
  | some id =>
    obtain ⟨hlt, heq, -⟩ := List.findIdx?_eq_some_iff_getElem.mp hfind
    rw [List.getElem?_eq_getElem hlt]
    exact congrArg some (beq_iff_eq.mp heq)

/-- Registering a template changes neither the sink nor what has been issued. -/
theorem register_frame (d : Diagnostics) (severity : Severity) (template : String) :
    (d.register severity template).2.sink = d.sink ∧
      (d.register severity template).2.issued = d.issued := by
  rw [register]
  cases d.templates.findIdx? (· == (severity, template)) with
  | none => exact ⟨rfl, rfl⟩
  | some id => exact ⟨rfl, rfl⟩

end Diagnostics

namespace Walker

variable (policy : Policy) (diagnostics : Option Diagnostics)

theorem start_policy : (start policy diagnostics).1.policy = policy := by
  cases diagnostics with
  | none => rfl
  | some d => rfl

theorem start_registers :
    ∀ d ∈ (start policy diagnostics).2,
      Walk.Registered (start policy diagnostics).1.remarkId d := by
  intro d hd
  cases diagnostics with
  | none => cases hd
  | some d' =>
    obtain rfl := Option.some.inj hd
    exact d'.register_registered .remark Walk.remarkTemplate

theorem start_sink :
    (start policy diagnostics).2.bind Diagnostics.sink = diagnostics.bind Diagnostics.sink := by
  cases diagnostics with
  | none => rfl
  | some d => exact (d.register_frame .remark Walk.remarkTemplate).1

theorem start_issued (d : Diagnostics) :
    ∃ d', (start policy (some d)).2 = some d' ∧ d'.issued = d.issued :=
  ⟨_, rfl, (d.register_frame .remark Walk.remarkTemplate).2⟩

end Walker

end Cyclometry
