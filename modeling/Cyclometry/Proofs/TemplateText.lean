import Cyclometry.Walk

/-!
# Templates that end in a field

Text without braces stands for itself in a template.  A template that consists of such a text
and the field `{0}` therefore gives the text followed by its first argument
(`message_first_argument`), if that can be turned into text at all.  The remark of a recorded
function is of this form.
-/

namespace Cyclometry.Template

theorem pieces_append {t : List Char} (h : ∀ c ∈ t, isBrace c = false) (s : List Char) :
    pieces (t ++ s) = t.map (fun c => .literal [c]) ++ pieces s := by
  induction t with
  | nil => rfl
  | cons c t ih =>
    have hc : isBrace c = false := h c (List.mem_cons_self ..)
    have hopen : c ≠ '{' := by rintro rfl; simp [isBrace] at hc
    have hclose : c ≠ '}' := by rintro rfl; simp [isBrace] at hc
    rw [List.cons_append, pieces, ih fun c hc => h c (List.mem_cons_of_mem _ hc)]
    · rfl
    · exact fun rest => by simp [hopen]
    · exact fun rest => by simp [hclose]
    · exact hopen
    · exact hclose

variable (limits : Limits) (args : List Value)
  (expand : List Char → Numbering → Except Fault (List Char × Numbering))

theorem fillPieces_literals (t : List Char) (ps : List Piece) (numbering : Numbering) :
    fillPieces limits args expand (t.map (fun c => .literal [c]) ++ ps) numbering =
      (fillPieces limits args expand ps numbering).map fun filled => (t ++ filled.1, filled.2) := by
  induction t with
  | nil =>
    rw [List.map_nil, List.nil_append]
    cases fillPieces limits args expand ps numbering <;> rfl
  | cons c t ih =>
    rw [List.map_cons, List.cons_append, fillPieces, ih]
    cases fillPieces limits args expand ps numbering <;> rfl

/-- The pieces of the field `{0}`. -/
theorem pieces_first_field : pieces ['{', '0', '}'] = [.field ⟨['0'], none, []⟩] := by
  simp [pieces, readField, nameLength]

theorem lookup_first (v : Value) :
    lookup (v :: args) .undecided ['0'] = .ok (.value v, .manual) := by
  have hname : (['0'].takeWhile fun c => !beginsStep c) = ['0'] := by decide
  have hindex : index? ['0'] = .ok (some 0) := rfl
  have hargument : argument (v :: args) .undecided ['0'] = .ok (v, .manual) := by
    simp only [argument, List.isEmpty_cons, hindex]
    rfl
  have hsteps : steps [] = [] := by rw [steps]
  simp only [lookup, hname, hargument, List.length_cons, List.length_nil, List.drop_succ_cons,
    List.drop_zero, bind, Except.bind, hsteps]
  rfl

theorem fillPieces_first_field {v : Value} (hv : limits.check v = .ok ()) :
    fillPieces limits (v :: args) expand [.field ⟨['0'], none, []⟩] .undecided =
      .ok (v.plain.toList, .manual) := by
  simp only [fillPieces, lookup_first, bind, Except.bind, convert, List.contains_nil,
    Thing.format, Template.format, hv, pure, Except.pure]
  simp [Except.map]

/-- **A text and the first argument**: text without braces is kept, and the field is the plain
text of the argument. -/
theorem message_first_argument {t : String} (h : ∀ c ∈ t.toList, isBrace c = false) {v : Value}
    (hv : limits.check v = .ok ()) :
    messageWithin limits (t ++ "\x7b0\x7d") (v :: args) = .ok (t ++ v.plain) := by
  have hsplit : (t ++ "\x7b0\x7d").toList = t.toList ++ ['{', '0', '}'] := String.toList_append
  rw [messageWithin, hsplit, fill, pieces_append h, pieces_first_field, fillPieces_literals,
    fillPieces_first_field limits args _ hv]
  simp [Except.map]

end Cyclometry.Template

namespace Cyclometry.Walk

/-- The remark of a function shows its complexity. -/
theorem message_remarkTemplate {limits : Template.Limits} {complexity : Int}
    (h : limits.check (.int complexity) = .ok ()) :
    Template.messageWithin limits remarkTemplate [.int complexity] =
      .ok ("Cyclomatic Complexity: " ++ Decimal.ofInt complexity) := by
  have htemplate : remarkTemplate = "Cyclomatic Complexity: " ++ "\x7b0\x7d" := by decide
  have hplain : "Cyclomatic Complexity: ".toList.any Template.isBrace = false := by decide
  rw [htemplate, Template.message_first_argument limits []
    (fun c hc => Bool.eq_false_iff.mpr (List.any_eq_false.mp hplain c hc)) h]
  rfl

end Cyclometry.Walk
