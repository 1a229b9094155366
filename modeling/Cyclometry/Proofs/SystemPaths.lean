import Mathlib.Data.List.Forall2
import Cyclometry.Eligibility
import Cyclometry.Proofs.NormalPaths

/-!
# Paths below system include directories

Whether a path lies below a directory is a question of their normal forms (`Path.Covers`): the parts
of the directory are a proper part in front of those of the path, and a bare root is above
everything that is rooted.  The policy asks it of the texts: it puts a slash behind the normal form
of the directory, of which it has taken the slashes at the end, and compares the beginnings.  The
two agree (`Policy.isPrefixOf_normalDir_iff`), since the slash lets a text go on only where a
component ends.
-/

namespace Cyclometry

namespace Path

/-- The normal path `p` lies below the directory with the normal path `d`. -/
inductive Covers (d p : Path) : Prop
  | below (hparts : d.parts ≠ []) (hroot : d.root = p.root) (hfront : d.parts <+: p.parts)
      (hproper : d.parts ≠ p.parts)
  /-- Everything that is rooted lies below a bare root, whichever of the two marks they have. -/
  | top (hparts : d.parts = []) (hroot : d.root ≠ .relative) (hrooted : p.root ≠ .relative)

/-! ## Texts that begin alike -/

theorem joinTexts_append {xs ys : List String} (hxs : xs ≠ []) (hys : ys ≠ []) :
    Text.joinTexts "/" (xs ++ ys) = Text.joinTexts "/" xs ++ "/" ++ Text.joinTexts "/" ys := by
  induction xs with
  | nil => exact absurd rfl hxs
  | cons x xs ih =>
    cases xs with
    | nil =>
      obtain ⟨y, ys, rfl⟩ := List.exists_cons_of_ne_nil hys
      rfl
    | cons next xs =>
      have hcons (zs : List String) : Text.joinTexts "/" (x :: next :: zs) =
        x ++ "/" ++ Text.joinTexts "/" (next :: zs) := rfl
      rw [List.cons_append, List.cons_append, hcons, hcons, ← List.cons_append,
        ih (List.cons_ne_nil next xs)]
      simp only [String.append_assoc]

/-- A path with some parts has no slash at the end of its text. -/
theorem text_ne_concat_slash {p : Path} (h : p.Clean) (hne : p.parts ≠ []) (init : List Char) :
    p.text.toList ≠ init ++ ['/'] := by
  intro hend
  have htext : p.text = String.ofList init ++ "/" ++ "" := by
    rw [← String.toList_inj, hend]
    simp
  obtain ⟨stays, -, hpieces⟩ := pieces_text h
  obtain ⟨outer, last, hlast⟩ := List.eq_nil_or_concat p.parts |>.resolve_left hne
  rw [htext, pieces_append_slash, pieces_empty, hlast, List.concat_eq_append, ← List.append_assoc]
    at hpieces
  have hempty : [""] = [last] := (List.append_inj' hpieces rfl).2
  have hcomponent : isComponent last = true := (h last (by simp [hlast])).1
  exact (isComponent_iff.mp hcomponent).1 (List.cons.inj hempty).1.symm

theorem text_slash_prefix_iff {n m : Path} (hn : n.Clean) (hm : m.Clean) (hne : n.parts ≠ []) :
    n.text.toList ++ ['/'] <+: m.text.toList ↔
      n.root = m.root ∧ n.parts <+: m.parts ∧ n.parts ≠ m.parts := by
  constructor
  · rintro ⟨rest, hrest⟩
    have hroot : n.root = m.root := by
      rw [← ofChars_text hm, ← hrest, List.append_assoc, ofChars_text_append hn hne]
    have htext : m.text = n.text ++ "/" ++ String.ofList rest := by
      rw [← String.toList_inj, ← hrest]
      simp
    have hparts : n.parts ++ (pieces (String.ofList rest)).filter isComponent = m.parts := by
      rw [← filter_pieces_text hm, htext, pieces_append_slash, List.filter_append,
        filter_pieces_text hn]
    refine ⟨hroot, ⟨_, hparts⟩, fun heq => ?_⟩
    have hsame : n = m := by
      cases n
      cases m
      simp_all
    rw [hsame] at hrest
    have hlength := congrArg List.length hrest
    simp at hlength
  · rintro ⟨hroot, ⟨more, hparts⟩, hproper⟩
    have hmore : more ≠ [] := by
      rintro rfl
      exact hproper (by rw [← hparts, List.append_nil])
    have htext : m.text = n.text ++ "/" ++ Text.joinTexts "/" more := by
      have hjoin := joinTexts_append hne hmore
      rw [text_of_parts (by simp [← hparts, hne]), text_of_parts hne, ← hparts, hjoin, hroot]
      simp only [String.append_assoc]
    refine ⟨(Text.joinTexts "/" more).toList, ?_⟩
    rw [htext, String.toList_append, String.toList_append]
    rfl

/-- No normal path begins with a dot and a slash. -/
theorem not_dot_slash_front {m : Path} (hm : m.Clean) : ¬ ['.', '/'] <+: m.text.toList := by
  rintro ⟨rest, hrest⟩
  have hroot : m.root = .relative := by
    rw [← ofChars_text hm, ← hrest]
    rfl
  have hne : m.parts ≠ [] := by
    intro hnil
    have hdot : ".".toList = ['.'] := by decide
    rw [text, if_pos ⟨hroot, hnil⟩, hdot] at hrest
    simp at hrest
  have htext : Text.joinTexts "/" m.parts = "." ++ "/" ++ String.ofList rest := by
    have hdot : ("." ++ "/").toList = ['.', '/'] := by decide
    rw [text_of_parts hne, hroot, Root.text, String.empty_append] at hrest
    rw [← String.toList_inj, ← hrest, String.toList_append, hdot, String.toList_ofList]
  have hdot : "." ∈ m.parts := by
    have hpieces := pieces_joinTexts hne fun part hpart => (hm part hpart).2
    rw [htext, pieces_append_slash] at hpieces
    rw [← hpieces]
    refine List.mem_append_left _ ?_
    decide +kernel
  exact (isComponent_iff.mp (hm "." hdot).1).2 rfl

end Path

namespace Policy

open Cyclometry.Path (NormalForm Respelled)

/-- What a directory is compared by: its normal form with one slash at the end. -/
theorem toList_normalDir {d : String} {n : Path} (h : NormalForm d n) :
    (normalDir d).toList =
      if n.parts = [] ∧ n.root ≠ .relative then ['/'] else n.text.toList ++ ['/'] := by
  have hslash : "/".toList = ['/'] := by decide
  rw [normalDir, String.toList_append, String.toList_ofList, hslash, ← h.text_eq]
  split_ifs with hbare
  · obtain ⟨hparts, hroot⟩ := hbare
    rw [Path.text, if_neg fun hdot => hroot hdot.1, hparts]
    cases hmark : n.root with
    | relative => exact absurd hmark hroot
    | slash => decide
    | doubleSlash => decide
  · have hkeep : ∀ init, n.text.toList ≠ init ++ ['/'] := by
      by_cases hparts : n.parts = []
      · have hroot : n.root = .relative := by simpa [hparts] using hbare
        have hdot : ".".toList = ['.'] := by decide
        intro init hend
        rw [Path.text, if_pos ⟨hroot, hparts⟩, hdot] at hend
        have hlast := congrArg List.getLast? hend
        simp at hlast
      · exact Path.text_ne_concat_slash h.isNormal.clean hparts
    rcases List.eq_nil_or_concat n.text.toList with hnil | ⟨init, last, hlast⟩
    · rw [hnil]
      rfl
    · rw [List.concat_eq_append] at hlast
      have hne : last ≠ '/' := by
        rintro rfl
        exact hkeep init hlast
      simp [hlast, hne]

/-- **A path begins with the text of a directory exactly if it lies below it.** -/
theorem isPrefixOf_normalDir_iff {d path : String} {n m : Path} (hn : NormalForm d n)
    (hm : NormalForm path m) :
    (normalDir d).toList.isPrefixOf (Path.normal path).toList = true ↔ n.Covers m := by
  have hclean := hm.isNormal.clean
  rw [List.isPrefixOf_iff_prefix, toList_normalDir hn, ← hm.text_eq]
  by_cases hparts : n.parts = []
  · by_cases hroot : n.root = .relative
    · rw [if_neg fun hbare => hbare.2 hroot]
      have hdot : n.text.toList ++ ['/'] = ['.', '/'] := by
        rw [Path.text, if_pos ⟨hroot, hparts⟩]
        decide
      rw [hdot]
      refine iff_of_false (Path.not_dot_slash_front hclean) ?_
      rintro (⟨hne, -, -, -⟩ | ⟨-, hrooted, -⟩)
      · exact hne hparts
      · exact hrooted hroot
    · rw [if_pos ⟨hparts, hroot⟩, ← Path.Root.ofChars_ne_relative_iff, Path.ofChars_text hclean]
      constructor
      · exact .top hparts hroot
      · rintro (⟨hne, -, -, -⟩ | ⟨-, -, hrooted⟩)
        · exact absurd hparts hne
        · exact hrooted
  · rw [if_neg fun hbare => hparts hbare.1,
      Path.text_slash_prefix_iff hn.isNormal.clean hclean hparts]
    constructor
    · rintro ⟨hroot, hfront, hproper⟩
      exact .below hparts hroot hfront hproper
    · rintro (⟨-, hroot, hfront, hproper⟩ | ⟨hnil, -, -⟩)
      · exact ⟨hroot, hfront, hproper⟩
      · exact absurd hnil hparts

theorem isSystemPath_cons (headers : List String) (d : String) (dirs : List String)
    (path : String) :
    (ofLists headers (d :: dirs)).isSystemPath path =
      ((normalDir d).toList.isPrefixOf (Path.normal path).toList ||
        (ofLists headers dirs).isSystemPath path) := rfl

theorem isSystemPath_eq_true_iff {headers dirs : List String} {path : String} :
    (ofLists headers dirs).isSystemPath path = true ↔
      ∃ d ∈ dirs, ∃ n m, NormalForm d n ∧ NormalForm path m ∧ n.Covers m := by
  induction dirs with
  | nil => simp [ofLists, isSystemPath]
  | cons d dirs ih =>
    have hd := Path.normalForm_normalize d
    have hpath := Path.normalForm_normalize path
    rw [isSystemPath_cons, Bool.or_eq_true, ih, isPrefixOf_normalDir_iff hd hpath,
      List.exists_mem_cons_iff]
    refine or_congr_left ⟨fun h => ⟨_, _, hd, hpath, h⟩, ?_⟩
    rintro ⟨n, m, hn, hm, h⟩
    rwa [← Path.normalForm_iff.mp hn, ← Path.normalForm_iff.mp hm]

/-- A directory that the path does not lie below changes nothing. -/
theorem isSystemPath_cons_of_not_covers {d path : String} {n m : Path} (hn : NormalForm d n)
    (hm : NormalForm path m) (h : ¬ n.Covers m) (headers dirs : List String) :
    (ofLists headers (d :: dirs)).isSystemPath path = (ofLists headers dirs).isSystemPath path := by
  have hfalse := Bool.eq_false_iff.mpr (mt (isPrefixOf_normalDir_iff hn hm).mp h)
  rw [isSystemPath_cons, hfalse, Bool.false_or]

theorem isSystemPath_of_respelled {headers dirs dirs' : List String} {path path' : String}
    (hdirs : List.Forall₂ Respelled dirs dirs') (hpath : Respelled path path') :
    (ofLists headers dirs).isSystemPath path = (ofLists headers dirs').isSystemPath path' := by
  have hnormal {s t : String} (h : Respelled s t) : Path.normal s = Path.normal t :=
    congrArg Path.text h.normalize_eq
  induction hdirs with
  | nil => rfl
  | cons hdir _ ih =>
    rw [isSystemPath_cons, isSystemPath_cons, ih, normalDir, normalDir, hnormal hdir, hnormal hpath]

/-- **Which paths lie below system include directories.**  Every spelling has one normal form, and a
path counts as one of the system exactly if its normal form lies below that of some directory.  The
directory `.` has nothing below it, redundant spelling on either side makes no difference, and a
neighbour whose name begins with that of a directory does not lie below it. -/
theorem isSystemPath_iff (headers dirs : List String) (path : String) :
    (∀ s, ∃! n, NormalForm s n) ∧
    ((ofLists headers dirs).isSystemPath path = true ↔
      ∃ d ∈ dirs, ∃ n m, NormalForm d n ∧ NormalForm path m ∧ n.Covers m) ∧
    (∀ values, ∃ p, ofValues values (dirs.map .text) = .ok p ∧
      p.isSystemPath path = (ofLists headers dirs).isSystemPath path) ∧
    (∀ d, NormalForm d ⟨.relative, []⟩ →
      (ofLists headers (d :: dirs)).isSystemPath path = (ofLists headers dirs).isSystemPath path) ∧
    (∀ dirs' path', List.Forall₂ Respelled dirs dirs' → Respelled path path' →
      (ofLists headers dirs).isSystemPath path = (ofLists headers dirs').isSystemPath path') ∧
    (∀ d root root' outer name ending more, NormalForm d ⟨root, outer ++ [name]⟩ →
      NormalForm path ⟨root', outer ++ (name ++ ending) :: more⟩ → ending ≠ "" →
      (ofLists headers (d :: dirs)).isSystemPath path =
        (ofLists headers dirs).isSystemPath path) := by
  refine ⟨fun s => ?_, isSystemPath_eq_true_iff, fun values => ?_, fun d hd => ?_, ?_, ?_⟩
  · exact ⟨_, Path.normalForm_normalize s, fun n hn => Path.normalForm_iff.mp hn⟩
  · have htexts : (dirs.map Value.text).mapM Value.text? = some dirs := by
      induction dirs with
      | nil => rfl
      | cons d dirs ih => simp [List.mapM_cons, Value.text?, ih]
    have hvalues : ∃ texts complete, ofValues values (dirs.map .text) =
        .ok ⟨texts, dirs.map normalDir, complete⟩ := by
      rw [ofValues, htexts]
      exact ⟨_, _, rfl⟩
    obtain ⟨texts, complete, hpolicy⟩ := hvalues
    exact ⟨_, hpolicy, rfl⟩
  · refine isSystemPath_cons_of_not_covers hd (Path.normalForm_normalize path) ?_ headers dirs
    rintro (⟨hne, -, -, -⟩ | ⟨-, hroot, -⟩)
    · exact hne rfl
    · exact hroot rfl
  · intro dirs' path' hdirs hpath
    exact isSystemPath_of_respelled hdirs hpath
  · intro d root root' outer name ending more hd hpath hending
    refine isSystemPath_cons_of_not_covers hd hpath ?_ headers dirs
    rintro (⟨-, -, hfront, -⟩ | ⟨hnil, -, -⟩)
    · have hname : [name] <+: (name ++ ending) :: more :=
        (List.prefix_append_right_inj outer).mp hfront
      have hsame : name = name ++ ending := (List.cons_prefix_cons.mp hname).1
      have hlength := congrArg String.length hsame
      rw [String.length_append] at hlength
      exact hending (String.length_eq_zero_iff.mp (by omega))
    · simp at hnil

/-- A directory in a redundant spelling beside the current one: a file below it counts, one of its
neighbours does not, nor does a relative path. -/
theorem isSystemPath_iff_sdkDirs :
    (ofLists [] [".", "/opt//sdk/./include/"]).isSystemPath "/opt/sdk/lib/../include/impl.c" =
      true ∧
    (ofLists [] [".", "/opt//sdk/./include/"]).isSystemPath "/opt/sdk/includes/impl.c" = false ∧
    (ofLists [] [".", "/opt//sdk/./include/"]).isSystemPath "./impl.c" = false := by
  have hnormal (s : String) (p : Path) (h : (Path.ofString s).normalize = p) : NormalForm s p :=
    Path.normalForm_iff.mpr h.symm
  have hdot : NormalForm "." ⟨.relative, []⟩ := hnormal _ _ (by decide +kernel)
  have hdir : NormalForm "/opt//sdk/./include/" ⟨.slash, ["opt", "sdk"] ++ ["include"]⟩ :=
    hnormal _ _ (by decide +kernel)
  have hinside : NormalForm "/opt/sdk/lib/../include/impl.c"
      ⟨.slash, ["opt", "sdk", "include", "impl.c"]⟩ := hnormal _ _ (by decide +kernel)
  have hbeside : NormalForm "/opt/sdk/includes/impl.c"
      ⟨.slash, ["opt", "sdk"] ++ ("include" ++ "s") :: ["impl.c"]⟩ :=
    hnormal _ _ (by decide +kernel)
  refine ⟨?_, ?_, ?_⟩
  · refine (isSystemPath_iff [] _ _).2.1.mpr ⟨_, by simp, _, _, hdir, hinside, ?_⟩
    exact .below (by simp) rfl ⟨["impl.c"], rfl⟩ (by simp)
  · rw [(isSystemPath_iff [] _ _).2.2.2.1 _ hdot,
      (isSystemPath_iff [] [] _).2.2.2.2.2 _ _ _ _ _ _ _ hdir hbeside (by decide)]
    rfl
  · rw [(isSystemPath_iff [] _ _).2.2.2.1 _ hdot]
    decide +kernel

end Policy

end Cyclometry
