import Mathlib.Data.List.Induction
import Mathlib.Logic.Relation
import Cyclometry.Proofs.PathTexts

/-!
# Normal forms of paths

What is redundant in a spelling can be taken out step by step: a piece between slashes that is empty
or a single dot, a component together with the `..` behind it, and a `..` behind a root
(`Path.Redundant`).  Whatever the order of the steps, they end in one normal path, in which `..`
stands at most in front of a relative path (`Path.normalForm_iff`).  This is the path that
`normalize` computes in one pass, so spellings that differ in what is redundant have one normal form
(`Path.Respelled.normalize_eq`).
-/

namespace Cyclometry.Path

/-- One step that takes something redundant out of the pieces of a spelling. -/
inductive Redundant (root : Root) : List String → List String → Prop
  /-- An empty piece, as between two slashes, and a single dot lead nowhere. -/
  | stay {piece : String} (before after : List String) (h : isComponent piece = false) :
      Redundant root (before ++ piece :: after) (before ++ after)
  /-- `..` takes back the component in front of it. -/
  | back {part : String} (before after : List String) (h : isComponent part = true)
      (hname : part ≠ "..") : Redundant root (before ++ part :: ".." :: after) (before ++ after)
  /-- There is nothing above a root. -/
  | top (after : List String) (h : root ≠ .relative) : Redundant root (".." :: after) after

/-- What can be reached by taking out redundant pieces. -/
def Reduces (root : Root) : List String → List String → Prop :=
  Relation.ReflTransGen (Redundant root)

/-- The parts of the path are components, and `..` is only among those in front of a relative
path. -/
structure IsNormal (p : Path) : Prop where
  clean : p.Clean
  ups : ∀ before after, p.parts = before ++ ".." :: after →
    p.root = .relative ∧ ∀ part ∈ before, part = ".."

/-- The path is normal, has the root mark of the spelling, and is what remains of its pieces. -/
structure NormalForm (s : String) (p : Path) : Prop where
  isNormal : p.IsNormal
  root : p.root = .ofChars s.toList
  reduces : Reduces p.root (pieces s) p.parts

/-- The spellings have one root mark, and differ in what is redundant only. -/
structure Respelled (s t : String) : Prop where
  root : Root.ofChars s.toList = .ofChars t.toList
  pieces : Relation.EqvGen (Redundant (.ofChars s.toList)) (pieces s) (pieces t)

/-! ## Steps keep the normal form -/

/-- Put pieces behind a normal form, one by one. -/
def pushAll (root : Root) (done pieces : List String) : List String :=
  (pieces.filter isComponent).foldl (pushNormal root) done

theorem normalize_ofString (s : String) :
    (ofString s).normalize = ⟨.ofChars s.toList, pushAll (.ofChars s.toList) [] (pieces s)⟩ := rfl

theorem pushAll_append (root : Root) (done pieces more : List String) :
    pushAll root done (pieces ++ more) = pushAll root (pushAll root done pieces) more := by
  rw [pushAll, List.filter_append, List.foldl_append]
  rfl

theorem pushAll_cons (root : Root) (done : List String) (piece : String) (pieces : List String) :
    pushAll root done (piece :: pieces) =
      pushAll root (if isComponent piece then pushNormal root done piece else done) pieces := by
  cases h : isComponent piece <;> simp [pushAll, h]

theorem pushNormal_name (root : Root) (done : List String) {part : String} (h : part ≠ "..") :
    pushNormal root done part = done ++ [part] := by
  simp [pushNormal, h]

theorem pushNormal_back (root : Root) (done : List String) {part : String} (h : part ≠ "..") :
    pushNormal root (done ++ [part]) ".." = done := by
  simp [pushNormal, h]

theorem pushNormal_top {root : Root} (h : root ≠ .relative) : pushNormal root [] ".." = [] := by
  simp [pushNormal, h]

theorem pushAll_of_redundant {root : Root} {xs ys : List String} (h : Redundant root xs ys) :
    pushAll root [] xs = pushAll root [] ys := by
  have hup : isComponent ".." = true := rfl
  cases h with
  | stay before after hstay =>
    rw [pushAll_append, pushAll_append, pushAll_cons, hstay]
    rfl
  | back before after hpart hname =>
    rw [pushAll_append, pushAll_append, pushAll_cons, hpart, if_pos rfl, pushAll_cons, hup,
      if_pos rfl, pushNormal_name root _ hname, pushNormal_back root _ hname]
  | top after hroot => rw [pushAll_cons, hup, if_pos rfl, pushNormal_top hroot]

theorem pushAll_of_reduces {root : Root} {xs ys : List String} (h : Reduces root xs ys) :
    pushAll root [] xs = pushAll root [] ys := by
  induction h with
  | refl => rfl
  | tail _ hstep ih => rw [ih, pushAll_of_redundant hstep]

/-- **Spellings that differ in what is redundant have one normal form.** -/
theorem Respelled.normalize_eq {s t : String} (h : Respelled s t) :
    (ofString s).normalize = (ofString t).normalize := by
  have hpush {xs ys : List String}
      (hsame : Relation.EqvGen (Redundant (.ofChars s.toList)) xs ys) :
      pushAll (.ofChars s.toList) [] xs = pushAll (.ofChars s.toList) [] ys := by
    induction hsame with
    | rel _ _ hstep => exact pushAll_of_redundant hstep
    | refl _ => rfl
    | symm _ _ _ ih => exact ih.symm
    | trans _ _ _ _ _ ih ih' => exact ih.trans ih'
  rw [normalize_ofString, normalize_ofString, hpush h.pieces, h.root]

/-! ## The normal form is reached -/

theorem isNormal_nil (root : Root) : IsNormal ⟨root, []⟩ := by
  constructor
  · intro part hpart
    exact absurd hpart List.not_mem_nil
  · intro before after h
    simp at h

theorem IsNormal.of_append {root : Root} {parts more : List String}
    (h : IsNormal ⟨root, parts ++ more⟩) : IsNormal ⟨root, parts⟩ := by
  constructor
  · intro part hpart
    exact h.clean part (List.mem_append_left more hpart)
  · rintro before after rfl
    exact h.ups before (after ++ more) (by simp)

/-- A rooted normal path has no `..` in it. -/
theorem IsNormal.ne_up {names : List String} (h : IsNormal ⟨.slash, names⟩) :
    ∀ name ∈ names, name ≠ ".." := by
  rintro name hname rfl
  obtain ⟨before, after, hparts⟩ := List.append_of_mem hname
  cases (h.ups before after hparts).1

theorem IsNormal.concat {root : Root} {parts : List String} {part : String}
    (h : IsNormal ⟨root, parts⟩) (hpart : isComponent part = true ∧ '/' ∉ part.toList)
    (hup : part = ".." → root = .relative ∧ ∀ other ∈ parts, other = "..") :
    IsNormal ⟨root, parts ++ [part]⟩ := by
  constructor
  · intro other hother
    rcases List.mem_append.mp hother with hother | hother
    · exact h.clean other hother
    · exact List.mem_singleton.mp hother ▸ hpart
  · intro before after heq
    rcases List.eq_nil_or_concat after with rfl | ⟨inner, last, rfl⟩
    · obtain ⟨rfl, hlast⟩ := List.append_inj' heq rfl
      exact hup (List.cons.inj hlast).1
    · rw [List.concat_eq_append, ← List.cons_append, ← List.append_assoc] at heq
      exact h.ups before inner (List.append_inj' heq rfl).1

/-- What one more component makes of a normal form: it comes behind, or it is `..` and takes the
last component back, or there is nothing to take back. -/
theorem pushNormal_cases {root : Root} {done : List String} (h : IsNormal ⟨root, done⟩)
    {part : String} (hpart : isComponent part = true ∧ '/' ∉ part.toList) :
    (pushNormal root done part = done ++ [part] ∧ IsNormal ⟨root, done ++ [part]⟩) ∨
    (∃ outer name, done = outer ++ [name] ∧ name ≠ ".." ∧ part = ".." ∧
      pushNormal root done part = outer) ∨
    (root ≠ .relative ∧ done = [] ∧ part = ".." ∧ pushNormal root done part = []) := by
  by_cases hup : part = ".."
  · subst hup
    rcases List.eq_nil_or_concat done with rfl | ⟨outer, name, rfl⟩
    · by_cases hroot : root = .relative
      · left
        refine ⟨by simp [pushNormal, hroot], h.concat hpart fun _ => ?_⟩
        exact ⟨hroot, fun other hother => absurd hother List.not_mem_nil⟩
      · exact .inr (.inr ⟨hroot, rfl, rfl, pushNormal_top hroot⟩)
    · rw [List.concat_eq_append] at h ⊢
      by_cases hname : name = ".."
      · subst hname
        left
        obtain ⟨hroot, houter⟩ := h.ups outer [] rfl
        refine ⟨by simp [pushNormal], h.concat hpart fun _ => ⟨hroot, fun other hother => ?_⟩⟩
        rcases List.mem_append.mp hother with hother | hother
        · exact houter other hother
        · exact List.mem_singleton.mp hother
      · exact .inr (.inl ⟨outer, name, rfl, hname, rfl, pushNormal_back root outer hname⟩)
  · left
    exact ⟨pushNormal_name root done hup, h.concat hpart fun heq => absurd heq hup⟩

/-- Putting pieces behind a normal form ends in a normal form that everything reduces to.  The
induction is on the pieces that are left. -/
theorem reduces_pushAll {root : Root} {done : List String} (h : IsNormal ⟨root, done⟩)
    {rest : List String} (hrest : ∀ piece ∈ rest, '/' ∉ piece.toList) :
    Reduces root (done ++ rest) (pushAll root done rest) ∧
      IsNormal ⟨root, pushAll root done rest⟩ := by
  induction rest generalizing done with
  | nil =>
    rw [List.append_nil]
    exact ⟨.refl, h⟩
  | cons piece rest ih =>
    obtain ⟨hslash, hmore⟩ := List.forall_mem_cons.mp hrest
    rw [pushAll_cons]
    cases hpiece : isComponent piece with
    | false =>
      obtain ⟨hreduces, hnormal⟩ := ih h hmore
      exact ⟨.head (.stay done rest hpiece) hreduces, hnormal⟩
    | true =>
      rw [if_pos rfl]
      rcases pushNormal_cases h ⟨hpiece, hslash⟩ with
        ⟨hpush, hnext⟩ | ⟨outer, name, rfl, hname, rfl, hpush⟩ | ⟨hroot, rfl, rfl, hpush⟩
      · have hshift : done ++ piece :: rest = (done ++ [piece]) ++ rest := by simp
        rw [hpush, hshift]
        exact ih hnext hmore
      · have hcomponent : isComponent name = true := (h.clean name (by simp)).1
        have hstep : Redundant root ((outer ++ [name]) ++ ".." :: rest) (outer ++ rest) := by
          rw [List.append_assoc]
          exact .back outer rest hcomponent hname
        obtain ⟨hreduces, hnormal⟩ := ih h.of_append hmore
        rw [hpush]
        exact ⟨.head hstep hreduces, hnormal⟩
      · obtain ⟨hreduces, hnormal⟩ := ih h hmore
        rw [hpush]
        exact ⟨.head (.top rest hroot) hreduces, hnormal⟩

/-- A normal form stays as it is. -/
theorem pushAll_of_isNormal {root : Root} {parts : List String} (h : IsNormal ⟨root, parts⟩) :
    pushAll root [] parts = parts := by
  induction parts using List.reverseRecOn with
  | nil => rfl
  | append_singleton parts part ih =>
    have hpart : isComponent part = true := (h.clean part (by simp)).1
    rw [pushAll_append, ih h.of_append, pushAll_cons, hpart, if_pos rfl]
    change pushNormal root parts part = parts ++ [part]
    by_cases hup : part = ".."
    · subst hup
      obtain ⟨hroot, hall⟩ := h.ups parts [] rfl
      rcases List.eq_nil_or_concat parts with rfl | ⟨outer, name, rfl⟩
      · simpa [pushNormal] using hroot
      · rw [List.concat_eq_append] at hall ⊢
        obtain rfl : name = ".." := hall name (by simp)
        simp [pushNormal]
    · exact pushNormal_name root parts hup

/-- **Every spelling has one normal form**: the path that `normalize` computes. -/
theorem normalForm_iff {s : String} {p : Path} :
    NormalForm s p ↔ p = (ofString s).normalize := by
  constructor
  · rintro ⟨hnormal, hroot, hreduces⟩
    rw [normalize_ofString, ← hroot, pushAll_of_reduces hreduces, pushAll_of_isNormal hnormal]
  · rintro rfl
    have hslash (piece : String) (h : piece ∈ pieces s) : '/' ∉ piece.toList :=
      slash_not_mem_of_mem_pieces h
    obtain ⟨hreduces, hnormal⟩ := reduces_pushAll (isNormal_nil (.ofChars s.toList)) hslash
    exact ⟨hnormal, rfl, hreduces⟩

theorem normalForm_normalize (s : String) : NormalForm s (ofString s).normalize :=
  normalForm_iff.mpr rfl

/-- The normal form of a spelling, written out, is what normalising the spelling gives. -/
theorem NormalForm.text_eq {s : String} {p : Path} (h : NormalForm s p) : p.text = normal s := by
  rw [normalForm_iff.mp h]
  rfl

end Cyclometry.Path
