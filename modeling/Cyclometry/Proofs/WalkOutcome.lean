import Cyclometry.Proofs.Visit

/-!
# The outcome of a walk

Every declaration of a tree meets one of four fates: it is excluded, it is no definition, it is a
definition without a body, or it is recorded.  `Outcome.Accounts` says that an outcome lists
the recorded ones in order and counts each of the others once.  A visit carries this from the
declarations so far to those and the visited one (`visit_accounts`), so a walk ends with it for
all declarations of the tree, however functions are nested (`Walker.walk_outcome`).

Only one thing ends a walk of a complete tree early: a remark has to be written to a sink, and
its location has a number that is too long to be written.
-/

namespace Cyclometry

/-! ## The fate of a declaration -/

namespace Policy

/-- What is recorded for a declaration: something if it is eligible, a definition, and has a
body. -/
def recorded? (p : Policy) (f : Declaration Node) : Option FunctionResult :=
  match p.eligible? f.location, f.isDefinition, f.body with
  | some l, true, some body => some (Walk.resultOf f body l)
  | _, _, _ => none

theorem recorded?_eq_some {p : Policy} {f : Declaration Node} {r : FunctionResult}
    (h : p.recorded? f = some r) :
    ∃ l body, p.eligible? f.location = some l ∧ f.isDefinition = true ∧ f.body = some body ∧
      r = Walk.resultOf f body l := by
  rw [recorded?] at h
  split at h
  · rename_i l body hl hdef hbody
    exact ⟨l, body, hl, hdef, hbody, (Option.some.inj h).symm⟩
  · cases h

/-- The declaration has no eligible location. -/
def excludes (p : Policy) (f : Declaration Node) : Bool := (p.eligible? f.location).isNone

/-- The declaration is eligible, but no definition. -/
def skips (p : Policy) (f : Declaration Node) : Bool := !p.excludes f && !f.isDefinition

/-- The declaration is eligible and a definition, but has no body. -/
def missesBody (p : Policy) (f : Declaration Node) : Bool :=
  !p.excludes f && f.isDefinition && f.body.isNone

end Policy

namespace Walk

/-- The outcome lists the recorded ones of some declarations and counts each other one once. -/
structure Outcome.Accounts (policy : Policy) (fs : List (Declaration Node)) (o : Outcome) :
    Prop where
  functions : o.functions = fs.filterMap policy.recorded?
  excluded : o.excluded = fs.countP policy.excludes
  declarations : o.declarations = fs.countP policy.skips
  anomalies : o.anomalies = fs.countP policy.missesBody

namespace Outcome

variable {policy : Policy} {fs : List (Declaration Node)} {o : Outcome} {f : Declaration Node}

theorem accounts_empty : Accounts policy [] empty := ⟨rfl, rfl, rfl, rfl⟩

theorem Accounts.exclude (h : Accounts policy fs o) (hf : policy.eligible? f.location = none) :
    Accounts policy (fs ++ [f]) { o with excluded := o.excluded + 1 } := by
  constructor
  · simp [h.functions, Policy.recorded?, hf]
  · simp [h.excluded, Policy.excludes, hf]
  · simp [h.declarations, Policy.skips, Policy.excludes, hf]
  · simp [h.anomalies, Policy.missesBody, Policy.excludes, hf]

theorem Accounts.skip (h : Accounts policy fs o) {l : Location}
    (hf : policy.eligible? f.location = some l) (hdef : f.isDefinition = false) :
    Accounts policy (fs ++ [f]) { o with declarations := o.declarations + 1 } := by
  constructor
  · simp [h.functions, Policy.recorded?, hf, hdef]
  · simp [h.excluded, Policy.excludes, hf]
  · simp [h.declarations, Policy.skips, Policy.excludes, hf, hdef]
  · simp [h.anomalies, Policy.missesBody, hdef]

theorem Accounts.missBody (h : Accounts policy fs o) {l : Location}
    (hf : policy.eligible? f.location = some l) (hdef : f.isDefinition = true)
    (hbody : f.body = none) :
    Accounts policy (fs ++ [f]) { o with anomalies := o.anomalies + 1 } := by
  constructor
  · simp [h.functions, Policy.recorded?, hf, hdef, hbody]
  · simp [h.excluded, Policy.excludes, hf]
  · simp [h.declarations, Policy.skips, hdef]
  · simp [h.anomalies, Policy.missesBody, Policy.excludes, hf, hdef, hbody]

theorem Accounts.record (h : Accounts policy fs o) {r : FunctionResult}
    (hf : policy.recorded? f = some r) :
    Accounts policy (fs ++ [f]) { o with functions := o.functions ++ [r] } := by
  obtain ⟨l, body, hl, hdef, hbody, -⟩ := Policy.recorded?_eq_some hf
  constructor
  · simp [h.functions, hf]
  · simp [h.excluded, Policy.excludes, hl]
  · simp [h.declarations, Policy.skips, hdef]
  · simp [h.anomalies, Policy.missesBody, hbody]

/-- Every declaration is accounted for exactly once. -/
theorem Accounts.total (h : Accounts policy fs o) :
    o.excluded + o.declarations + o.anomalies + o.functions.length = fs.length := by
  rw [h.functions, h.excluded, h.declarations, h.anomalies]
  clear h
  induction fs with
  | nil => rfl
  | cons f fs ih =>
    have hone : (if policy.excludes f then 1 else 0) + (if policy.skips f then 1 else 0) +
        (if policy.missesBody f then 1 else 0) + (policy.recorded? f).toList.length = 1 := by
      cases hf : policy.eligible? f.location with
      | none => simp [Policy.skips, Policy.missesBody, Policy.excludes, Policy.recorded?, hf]
      | some l =>
        cases hdef : f.isDefinition <;> cases hbody : f.body <;>
          simp [Policy.skips, Policy.missesBody, Policy.excludes, Policy.recorded?, hf, hdef, hbody]
    have hlength : ((f :: fs).filterMap policy.recorded?).length =
        (policy.recorded? f).toList.length + (fs.filterMap policy.recorded?).length := by
      cases hf : policy.recorded? f with
      | none => simp [List.filterMap_cons_none hf]
      | some r => simp [List.filterMap_cons_some hf, Nat.add_comm]
    rw [hlength]
    simp only [List.countP_cons, List.length_cons]
    omega

end Outcome

/-! ## Visits and walks -/

/-- The sink that remarks are written to. -/
def State.sink (s : State) : Option Sink := s.diagnostics.bind Diagnostics.sink

/-- A remark leaves the outcome, the sink and the template of the remark as they are.  It ends the
walk only if it has to be written and is too long. -/
theorem remark_frame {remarkId : Nat} {s : State}
    (hreg : ∀ d ∈ s.diagnostics, Registered remarkId d) (r : FunctionResult) :
    (s.remark remarkId r).1.outcome = s.outcome ∧
    (∀ d ∈ (s.remark remarkId r).1.diagnostics, Registered remarkId d) ∧
    (s.remark remarkId r).1.sink = s.sink ∧
    (s.remark remarkId r).2 =
      if s.sink.isSome → r.location.isShort then .ok () else .error .numeralTooLong := by
  cases hd : s.diagnostics with
  | none =>
    have hsink : s.sink = none := by rw [State.sink, hd, Option.bind_none]
    rw [remark_none hd]
    refine ⟨rfl, hreg, rfl, (if_pos fun hs => ?_).symm⟩
    rw [hsink] at hs
    cases hs
  | some d =>
    have hregd : Registered remarkId d := hreg d hd
    have hsink : s.sink = d.sink := by rw [State.sink, hd, Option.bind_some]
    have hkeep : ∀ d' ∈ some (d.add (remarkOf remarkId r)), Registered remarkId d' := by
      intro d' hmem
      obtain rfl := Option.some.inj hmem
      exact hregd
    rw [remark_eq hregd hd]
    cases hshows : d.shows r.location with
    | true =>
      refine ⟨rfl, hkeep, hsink.symm, (if_pos fun hs => ?_).symm⟩
      rw [Diagnostics.shows, ← hsink, Option.isNone_eq_false_iff.mpr hs, Bool.false_or] at hshows
      exact hshows
    | false =>
      refine ⟨rfl, hkeep, hsink.symm, (if_neg fun h => ?_).symm⟩
      rw [Diagnostics.shows, ← hsink, Bool.or_eq_false_iff] at hshows
      have hshort := h (Option.isNone_eq_false_iff.mp hshows.1)
      rw [hshort] at hshows
      cases hshows.2

variable {policy : Policy} (hp : policy.headersComplete = true) {remarkId : Nat}
include hp

/-- A visit accounts for its declaration and changes neither the sink nor the template of the
remark.  It ends the walk only if it has a remark to write that is too long. -/
theorem visit_accounts {s : State} (hreg : ∀ d ∈ s.diagnostics, Registered remarkId d)
    {done : List (Declaration Node)} (hdone : s.outcome.Accounts policy done)
    (f : Declaration Node) :
    (visit policy remarkId f s).1.outcome.Accounts policy (done ++ [f]) ∧
    (∀ d ∈ (visit policy remarkId f s).1.diagnostics, Registered remarkId d) ∧
    (visit policy remarkId f s).1.sink = s.sink ∧
    (visit policy remarkId f s).2 =
      if s.sink.isSome → ∀ r ∈ policy.recorded? f, r.location.isShort then .ok ()
      else .error .numeralTooLong := by
  rcases visit_cases policy remarkId f s with ⟨hp', -⟩ | ⟨hf, e, hv⟩ | ⟨l, hf, hdef, hv⟩ |
    ⟨l, hf, hdef, hbody, hv⟩ | ⟨l, body, hf, hdef, hbody, hv⟩
  · rw [hp] at hp'
    cases hp'
  · rw [hv]
    refine ⟨hdone.exclude hf, hreg, rfl, ?_⟩
    simp [Policy.recorded?, hf]
  · rw [hv]
    refine ⟨hdone.skip hf hdef, hreg, rfl, ?_⟩
    simp [Policy.recorded?, hf, hdef]
  · rw [hv]
    refine ⟨hdone.missBody hf hdef hbody, hreg, rfl, ?_⟩
    simp [Policy.recorded?, hf, hdef, hbody]
  · have hrecorded : policy.recorded? f = some (resultOf f body l) := by
      simp [Policy.recorded?, hf, hdef, hbody]
    obtain ⟨houtcome, hkeep, hsink, hresult⟩ :=
      remark_frame (s := s.record (resultOf f body l)) hreg (resultOf f body l)
    rw [hv, hrecorded, houtcome]
    refine ⟨hdone.record hrecorded, hkeep, hsink, hresult.trans ?_⟩
    simp only [Option.mem_some_iff, forall_eq']
    rfl

/-- The remarks of the declarations can be written: there is no sink, or each location is short
enough. -/
def Shown (policy : Policy) (sink : Option Sink) (fs : List (Declaration Node)) : Prop :=
  sink.isSome → ∀ r ∈ fs.filterMap policy.recorded?, r.location.isShort

omit hp in
theorem shown_cons {sink : Option Sink} {f : Declaration Node} {fs : List (Declaration Node)} :
    Shown policy sink (f :: fs) ↔
      (sink.isSome → ∀ r ∈ policy.recorded? f, r.location.isShort) ∧ Shown policy sink fs := by
  simp only [Shown, List.mem_filterMap, List.mem_cons, Option.mem_def]
  constructor
  · intro h
    exact ⟨fun hs r hr => h hs r ⟨f, .inl rfl, hr⟩,
      fun hs r ⟨g, hg, hr⟩ => h hs r ⟨g, .inr hg, hr⟩⟩
  · rintro ⟨hf, hfs⟩ hs r ⟨g, rfl | hg, hr⟩
    · exact hf hs r hr
    · exact hfs hs r ⟨g, hg, hr⟩

/-- Visiting several declarations accounts for the ones it comes to.  It comes to all of them,
unless one of their remarks is too long. -/
theorem visitAll_accounts (fs : List (Declaration Node)) {s : State}
    (hreg : ∀ d ∈ s.diagnostics, Registered remarkId d) {done : List (Declaration Node)}
    (hdone : s.outcome.Accounts policy done) :
    ∃ seen, seen <+: fs ∧
      (visitAll policy remarkId fs s).1.outcome.Accounts policy (done ++ seen) ∧
      (Shown policy s.sink fs → seen = fs ∧ (visitAll policy remarkId fs s).2 = .ok ()) ∧
      (¬ Shown policy s.sink fs →
        (visitAll policy remarkId fs s).2 = .error .numeralTooLong) := by
  induction fs generalizing s done with
  | nil =>
    refine ⟨[], List.prefix_rfl, ?_, fun _ => ⟨rfl, rfl⟩, fun h => ?_⟩
    · rw [List.append_nil]
      exact hdone
    · exact absurd (fun _ r hr => absurd hr List.not_mem_nil) h
  | cons f fs ih =>
    obtain ⟨haccounts, hreg', hsink, hresult⟩ := visit_accounts hp hreg hdone f
    by_cases hf : s.sink.isSome → ∀ r ∈ policy.recorded? f, r.location.isShort
    · obtain ⟨seen, hseen, hall, hok, herror⟩ := ih hreg' haccounts
      rw [List.append_assoc, List.singleton_append] at hall
      rw [hsink] at hok herror
      have hv : visit policy remarkId f s = ((visit policy remarkId f s).1, .ok ()) :=
        Prod.ext rfl (hresult.trans (if_pos hf))
      rw [visitAll_cons_ok policy remarkId hv]
      refine ⟨f :: seen, (List.prefix_cons_inj f).mpr hseen, hall, fun h => ?_, fun h => ?_⟩
      · obtain ⟨rfl, hresult'⟩ := hok (shown_cons.mp h).2
        exact ⟨rfl, hresult'⟩
      · exact herror fun hfs => h (shown_cons.mpr ⟨hf, hfs⟩)
    · -- The visit itself ends the walk, after it has accounted for its declaration.
      have hv : visit policy remarkId f s =
          ((visit policy remarkId f s).1, .error .numeralTooLong) :=
        Prod.ext rfl (hresult.trans (if_neg hf))
      rw [visitAll_cons_error policy remarkId hv]
      exact ⟨[f], (List.prefix_cons_inj f).mpr List.nil_prefix, haccounts,
        fun h => absurd (shown_cons.mp h).1 hf, fun _ => rfl⟩

end Walk

namespace Walker

/-- A walk of a complete tree accounts for the declarations it comes to.  It comes to all of
them, unless one of their remarks is too long. -/
theorem walk_accounts {policy : Policy} (hp : policy.headersComplete = true) {root : Node}
    (hroot : root.Complete) (tally : Tally) (diagnostics : Option Diagnostics) :
    let start := Walker.start policy diagnostics
    let walked := start.1.walk (some root) tally start.2
    let shown := Walk.Shown policy (diagnostics.bind Diagnostics.sink) root.declarations
    ∃ seen, seen <+: root.declarations ∧ walked.1.outcome.Accounts policy seen ∧
      (shown → seen = root.declarations ∧ walked.2 = .ok ()) ∧
      (¬ shown → walked.2 = .error .numeralTooLong) := by
  intro start walked shown
  have hwalked : walked = Walk.visitAll policy start.1.remarkId root.declarations
      ⟨.empty, tally, start.2, []⟩ := by
    rw [← start_policy policy diagnostics]
    exact walk_eq_visitAll start.1 hroot tally start.2
  have haccounts := Walk.visitAll_accounts hp root.declarations
    (s := ⟨.empty, tally, start.2, []⟩) (start_registers policy diagnostics)
    Walk.Outcome.accounts_empty
  have hsink : start.2.bind Diagnostics.sink = diagnostics.bind Diagnostics.sink :=
    start_sink policy diagnostics
  simp only [Walk.State.sink, hsink, List.nil_append] at haccounts
  rw [hwalked]
  exact haccounts

/-- **The outcome of a walk.**  A walk of a complete tree accounts for every declaration in it, at
whatever depth, and counts each one exactly once.  It does so for every policy, tally and
diagnostics, with one exception: a remark that has to be written to a sink and is too long ends
the walk, which has then accounted for the declarations up to that one. -/
theorem walk_outcome (headers dirs : List String) {root : Node} (hroot : root.Complete)
    (tally : Tally) (diagnostics : Option Diagnostics) :
    let policy := Policy.ofLists headers dirs
    let start := Walker.start policy diagnostics
    let walked := start.1.walk (some root) tally start.2
    let shown := Walk.Shown policy (diagnostics.bind Diagnostics.sink) root.declarations
    (shown → walked.2 = .ok () ∧ walked.1.outcome.Accounts policy root.declarations ∧
      walked.1.outcome.excluded + walked.1.outcome.declarations + walked.1.outcome.anomalies +
        walked.1.outcome.functions.length = root.declarations.length) ∧
    (¬ shown → walked.2 = .error .numeralTooLong ∧
      ∃ seen, seen <+: root.declarations ∧ walked.1.outcome.Accounts policy seen) := by
  intro policy start walked shown
  have hp : policy.headersComplete = true := rfl
  obtain ⟨seen, hseen, haccounts, hok, herror⟩ := walk_accounts hp hroot tally diagnostics
  constructor
  · intro h
    obtain ⟨rfl, hresult⟩ := hok h
    exact ⟨hresult, haccounts, haccounts.total⟩
  · intro h
    exact ⟨herror h, seen, hseen, haccounts⟩

/-- A function with a decision, a lambda inside of it, and three declarations beside it that
are not recorded.  The function stands in some line. -/
def nestedSample (line : Int) : Node :=
  let lambda : Node := .mk .other (some ⟨"operator()", .ok ⟨"main.c", 3, 9, false⟩, true,
    some (.mk .other none [])⟩) []
  let body : Node := .mk .other none [some (.mk .ifElse none [some lambda])]
  .mk .other none [
    some (.mk .other (some ⟨"outer", .ok ⟨"main.c", line, 5, false⟩, true, some body⟩) [some body]),
    some (.mk .other (some ⟨"lost", .error (.other "gone"), true, some body⟩) []),
    some (.mk .other (some ⟨"proto", .ok ⟨"main.c", 7, 5, false⟩, false, none⟩) []),
    some (.mk .other (some ⟨"empty", .ok ⟨"main.c", 8, 5, false⟩, true, none⟩) [])]

/-- The sample with a sink: the walk accounts for all five declarations if the line is short, and
stops if it is not. -/
theorem walk_outcome_nestedSample :
    let start := Walker.start (Policy.ofLists [".h"] ["/usr/include"]) (some (.start (some .plain)))
    let walked (line : Int) := start.1.walk (some (nestedSample line)) .empty start.2
    ((walked 1).2 = .ok () ∧ (walked 1).1.outcome =
      ⟨[⟨"outer", 2, ⟨"main.c", 1, 5, false⟩⟩, ⟨"operator()", 1, ⟨"main.c", 3, 9, false⟩⟩],
        1, 1, 1⟩) ∧
    (walked (Nat.pow 10 Decimal.maxDigits)).2 = .error .numeralTooLong := by
  intro start walked
  have hcomplete (line : Int) : (nestedSample line).Complete := by
    simp [Node.Complete, nestedSample, Node.preorder, Node.preorderAll, Node.children]
  have hwalk (line : Int) := walk_outcome [".h"] ["/usr/include"] (hcomplete line) .empty
    (some (.start (some .plain)))
  refine ⟨?_, ((hwalk _).2 fun h => ?_).1⟩
  · obtain ⟨hresult, haccounts, -⟩ := (hwalk 1).1 (by unfold Walk.Shown; decide +kernel)
    refine ⟨hresult, ?_⟩
    have hoc : (walked 1).1.outcome = ⟨_, _, _, _⟩ := rfl
    rw [hoc]
    congr 1
    · exact haccounts.functions.trans (by decide +kernel)
    · exact haccounts.excluded.trans (by decide +kernel)
    · exact haccounts.declarations.trans (by decide +kernel)
    · exact haccounts.anomalies.trans (by decide +kernel)
  · have hlong := h rfl ⟨"outer", 2, ⟨"main.c", Nat.pow 10 Decimal.maxDigits, 5, false⟩⟩
      (by decide +kernel)
    revert hlong
    decide +kernel

end Walker

end Cyclometry
