import Mathlib.Data.List.Infix
import Cyclometry.Report

/-!
# Report paths of different units

The path of a report is a template with the stem of the unit in the place of every `{stem}`.  The
pieces of the template around these places do not depend on the unit, and the path is the pieces
with the stem between neighbours (`expandStem_eq`).  With two pieces or more, two stems of different
lengths give paths of different lengths, and stems of one length stand at the same positions, so
the path determines the stem (`eq_of_intercalate_eq`).  No property of the stem enters, such as
whether it holds a `{stem}` of its own.
-/

namespace Cyclometry.Report

/-- What a template has in the place of the stem. -/
def placeholder : List Char := "\x7bstem\x7d".toList

/-- The pieces of a template around its placeholders. -/
def around : List Char → List (List Char)
  | [] => [[]]
  | '{' :: 's' :: 't' :: 'e' :: 'm' :: '}' :: rest => [] :: around rest
  | c :: rest => (around rest).modifyHead (c :: ·)

theorem around_ne_nil (template : List Char) : around template ≠ [] := by
  fun_induction around template with
  | case1 => exact List.cons_ne_nil _ _
  | case2 rest ih => exact List.cons_ne_nil _ _
  | case3 c rest hne ih => simpa using ih

/-- The path is the pieces with the stem between neighbours. -/
theorem expandStem_eq (stem template : List Char) :
    expandStem stem template = stem.intercalate (around template) := by
  fun_induction around template with
  | case1 => rfl
  | case2 rest ih =>
    rw [expandStem, ih, List.intercalate_cons_of_ne_nil (around_ne_nil rest), List.nil_append]
  | case3 c rest hne ih =>
    obtain ⟨piece, pieces, hpieces⟩ := List.exists_cons_of_ne_nil (around_ne_nil rest)
    rw [expandStem.eq_3 stem c rest hne, ih, hpieces, List.modifyHead_cons]
    cases pieces with
    | nil => simp
    | cons next pieces => simp [List.intercalate_cons_cons]

/-- A template without a placeholder is one piece, and any other one is several. -/
theorem around_cases (template : List Char) :
    (placeholder <:+: template ∧ 2 ≤ (around template).length) ∨
      (¬ placeholder <:+: template ∧ around template = [template]) := by
  fun_induction around template with
  | case1 => exact .inr ⟨by decide, rfl⟩
  | case2 rest ih =>
    have hpieces := List.length_pos_iff.mpr (around_ne_nil rest)
    refine .inl ⟨⟨[], rest, rfl⟩, ?_⟩
    rw [List.length_cons]
    omega
  | case3 c rest hne ih =>
    have hhead : ¬ placeholder <+: c :: rest := by
      rintro ⟨behind, h⟩
      obtain ⟨rfl, rfl⟩ := List.cons.inj h
      exact hne behind rfl rfl
    rw [List.infix_cons_iff, or_iff_right hhead, List.length_modifyHead]
    refine ih.imp_right fun h => ⟨h.1, ?_⟩
    rw [h.2, List.modifyHead_cons]

theorem length_intercalate (stem : List Char) {pieces : List (List Char)} (h : pieces ≠ []) :
    (stem.intercalate pieces).length =
      pieces.flatten.length + (pieces.length - 1) * stem.length := by
  induction pieces with
  | nil => exact absurd rfl h
  | cons piece pieces ih =>
    cases pieces with
    | nil => simp
    | cons next pieces =>
      rw [List.intercalate_cons_cons, List.length_append, List.length_append, ih (by simp)]
      simp only [List.flatten_cons, List.length_append, List.length_cons, Nat.add_sub_cancel,
        Nat.add_mul]
      omega

/-- **Several pieces show what is between them**, however long it is and whatever it holds. -/
theorem eq_of_intercalate_eq {stem stem' : List Char} {pieces : List (List Char)}
    (hpieces : 2 ≤ pieces.length) (h : stem.intercalate pieces = stem'.intercalate pieces) :
    stem = stem' := by
  have hne : pieces ≠ [] := by
    rintro rfl
    cases hpieces
  have hlength : stem.length = stem'.length := by
    have hlengths := congrArg List.length h
    rw [length_intercalate stem hne, length_intercalate stem' hne] at hlengths
    exact Nat.eq_of_mul_eq_mul_left (by omega : 0 < pieces.length - 1) (by omega)
  rcases pieces with - | ⟨piece, - | ⟨next, rest⟩⟩
  · exact absurd rfl hne
  · simp at hpieces
  · rw [List.intercalate_cons_cons, List.intercalate_cons_cons, List.append_assoc,
      List.append_assoc, List.append_cancel_left_eq] at h
    exact (List.append_inj h hlength).1

/-- **Report paths tell stems apart.**  With a placeholder in the template, two units have the same
report path exactly if their file names have the same stem.  Without one, the template is the report
path of every unit. -/
theorem pathFor_eq_iff_stem_eq (template : String) :
    (placeholder <:+: template.toList → ∀ u v : String,
      pathFor template u = pathFor template v ↔ (Path.ofString u).stem = (Path.ofString v).stem) ∧
    (¬ placeholder <:+: template.toList → ∀ u : String, pathFor template u = template) := by
  constructor
  · intro hplace u v
    refine ⟨fun h => ?_, fun h => by rw [pathFor, pathFor, h]⟩
    rcases around_cases template.toList with ⟨-, hpieces⟩ | ⟨hnone, -⟩
    · have hchars := String.ofList_injective h
      rw [expandStem_eq, expandStem_eq] at hchars
      exact String.toList_inj.mp (eq_of_intercalate_eq hpieces hchars)
    · exact absurd hplace hnone
  · intro hnone u
    rcases around_cases template.toList with ⟨hplace, -⟩ | ⟨-, hpiece⟩
    · exact absurd hplace hnone
    · rw [pathFor, expandStem_eq, hpiece, List.intercalate_singleton, String.ofList_toList]

/-- Stray braces around two placeholders, and stems that hold a placeholder or the beginning of
one. -/
theorem pathFor_eq_iff_stem_eq_strayBraces :
    let template := "\x7b\x7bstem\x7d\x7bstem\x7d\x7d\x7bstem"
    placeholder <:+: template.toList ∧
    pathFor template "a/\x7bstem\x7d.c" = pathFor template "b/\x7bstem\x7d.cpp" ∧
    pathFor template "a/\x7bstem\x7d.c" ≠ pathFor template "a/\x7bstem.c" ∧
    pathFor "\x7bstem" "a.c" = "\x7bstem" := by
  intro template
  have hplace : placeholder <:+: template.toList := by decide
  have hstems := (pathFor_eq_iff_stem_eq template).1 hplace
  refine ⟨hplace, (hstems _ _).mpr (by decide), fun h => absurd ((hstems _ _).mp h) (by decide), ?_⟩
  exact (pathFor_eq_iff_stem_eq "\x7bstem").2 (by decide) "a.c"

end Cyclometry.Report
