import Mathlib.Data.List.Lex
import Mathlib.Data.List.Sort
import Mathlib.Data.String.Basic
import Cyclometry.Units
import Cyclometry.Proofs.DirectoryTrees
import Cyclometry.Proofs.EarlyFaults

/-!
# The units below a directory

The search below a directory finds each file that is a unit (`Units.IsUnit`) once, and in the order
of their names, component by component (`Units.Lists`).  A list is determined by this
(`Units.Lists.unique`), so the units below a directory further down can be told from those of the
whole: they are the ones whose paths begin with its path, in the same order
(`Units.Lists.filter_below`).

There are two conditions (`Units.Bounded`).  The system refuses a path of `FileSystem.pathLimit`
bytes, and the search looks at the path of every directory and file, behind the path that it started
from.  And it looks into directories within directories only so often.  Either both are met, and
there is a list (`Units.exists_lists`), or the search ends with the fault of something that does not
meet them (`Units.exists_list_error`).
-/

namespace Cyclometry

namespace Units

open FileSystem (pathLimit)

/-! ## Order -/

theorem partsLe_iff {xs ys : List String} :
    partsLe xs ys = true ↔ xs = ys ∨ List.Lex (· < ·) xs ys := by
  induction xs generalizing ys with
  | nil => cases ys <;> simp [partsLe]
  | cons x xs ih =>
    cases ys with
    | nil => simp [partsLe]
    | cons y ys =>
      simp only [partsLe, Bool.or_eq_true, Bool.and_eq_true, decide_eq_true_eq, beq_iff_eq, ih,
        List.cons.injEq, List.cons_lex_cons_iff]
      tauto

theorem partsLe_total (xs ys : List String) : (partsLe xs ys || partsLe ys xs) = true := by
  induction xs generalizing ys with
  | nil => rfl
  | cons x xs ih =>
    cases ys with
    | nil => rfl
    | cons y ys =>
      rcases lt_trichotomy x y with hlt | rfl | hlt
      · simp [partsLe, hlt]
      · simpa [partsLe] using ih ys
      · simp [partsLe, hlt]

theorem partsLe_trans (xs ys zs : List String) (hxy : partsLe xs ys = true)
    (hyz : partsLe ys zs = true) : partsLe xs zs = true := by
  rw [partsLe_iff] at hxy hyz ⊢
  rcases hxy with rfl | hxy
  · exact hyz
  · rcases hyz with rfl | hyz
    · exact .inr hxy
    · exact .inr (List.lt_trans hxy hyz)

/-- Different component lists in order are in strict order. -/
theorem lex_of_partsLe {xs ys : List String} (h : partsLe xs ys = true) (hne : xs ≠ ys) :
    List.Lex (· < ·) xs ys :=
  (partsLe_iff.mp h).resolve_left hne

/-! ## What is a unit -/

/-- Some names lead to a unit: to a file, through no name that is left out, and the path has none of
the endings of headers but that of a language. -/
structure IsUnit (headers : List String) (root : Path) (tree : Entry) (names : List String) :
    Prop where
  isFile : ∃ data, tree.find? names = some (.file data)
  notIgnored : ∀ name ∈ names, name ∉ ignoredNames
  notHeader : ∀ ending ∈ headers, ¬ ending.toList <:+ (root.below names).text.toList
  hasLanguage : Language.ofPath? (root.below names).text ≠ none

/-- The list has the path of each unit, and they increase, component by component. -/
structure Lists (headers : List String) (root : Path) (tree : Entry) (us : List String) : Prop where
  mem_iff : ∀ u, u ∈ us ↔ ∃ names, IsUnit headers root tree names ∧ u = (root.below names).text
  increasing : us.Pairwise fun u v =>
    List.Lex (· < ·) (Path.ofString u).parts (Path.ofString v).parts

theorem Lists.nodup {headers : List String} {root : Path} {tree : Entry} {us : List String}
    (h : Lists headers root tree us) : us.Nodup := by
  refine h.increasing.imp fun hlt heq => ?_
  rw [heq] at hlt
  exact List.lt_irrefl _ hlt

/-- **There is one list of the units.** -/
theorem Lists.unique {headers : List String} {root : Path} {tree : Entry} {us vs : List String}
    (hus : Lists headers root tree us) (hvs : Lists headers root tree vs) : us = vs := by
  have : Std.Irrefl fun u v => List.Lex (· < ·) (Path.ofString u).parts (Path.ofString v).parts :=
    ⟨fun u => List.lt_irrefl _⟩
  have : Std.Antisymm fun u v => List.Lex (· < ·) (Path.ofString u).parts (Path.ofString v).parts :=
    ⟨fun u v huv hvu => absurd hvu (List.lt_asymm huv)⟩
  exact hus.increasing.eq_of_mem_iff hvs.increasing fun u => by rw [hus.mem_iff, hvs.mem_iff]

/-! ## The units further down -/

section

variable {headers : List String} {root : Path} {tree : Entry} {sub : List String} {inner : Entry}

theorem isUnit_append_iff (hsub : tree.find? sub = some inner)
    (hkept : ∀ name ∈ sub, name ∉ ignoredNames) {names : List String} :
    IsUnit headers root tree (sub ++ names) ↔ IsUnit headers (root.below sub) inner names := by
  have hfind : tree.find? (sub ++ names) = inner.find? names := by
    rw [Entry.find?_append, hsub, Option.bind_some]
  constructor
  · rintro ⟨hfile, hnames, hheader, hlanguage⟩
    rw [Path.below_append] at hheader hlanguage
    exact ⟨hfind ▸ hfile, fun name hname => hnames name (List.mem_append_right sub hname), hheader,
      hlanguage⟩
  · rintro ⟨hfile, hnames, hheader, hlanguage⟩
    rw [← Path.below_append] at hheader hlanguage
    refine ⟨hfind ▸ hfile, fun name hname => ?_, hheader, hlanguage⟩
    rcases List.mem_append.mp hname with hname | hname
    · exact hkept name hname
    · exact hnames name hname

/-- **The units below a directory further down are those whose paths begin with its path**, in the
same order. -/
theorem Lists.filter_below {us : List String} (h : Lists headers root tree us) (hroot : root.Clean)
    (htree : tree.Proper) (hsub : tree.find? sub = some inner)
    (hkept : ∀ name ∈ sub, name ∉ ignoredNames) :
    Lists headers (root.below sub) inner
      (us.filter fun u => decide ((root.below sub).parts <+: (Path.ofString u).parts)) := by
  have hparts {names : List String} (hunit : IsUnit headers root tree names) :
      (Path.ofString (root.below names).text).parts = root.parts ++ names := by
    obtain ⟨data, hfile⟩ := hunit.isFile
    rw [Path.ofString_text (hroot.below (htree.of_find? hfile).1)]
    rfl
  refine ⟨fun u => ?_, h.increasing.filter _⟩
  rw [List.mem_filter, h.mem_iff, decide_eq_true_iff]
  constructor
  · rintro ⟨⟨names, hunit, rfl⟩, hbelow⟩
    -- A path below the directory has the names of the directory in front of its own.
    rw [hparts hunit] at hbelow
    obtain ⟨rest, rfl⟩ := (List.prefix_append_right_inj root.parts).mp hbelow
    exact ⟨rest, (isUnit_append_iff hsub hkept).mp hunit, by rw [Path.below_append]⟩
  · rintro ⟨names, hunit, rfl⟩
    have hunit := (isUnit_append_iff hsub hkept).mpr hunit
    refine ⟨⟨sub ++ names, hunit, by rw [Path.below_append]⟩, ?_⟩
    rw [← Path.below_append, hparts hunit]
    exact (List.prefix_append_right_inj root.parts).mpr (List.prefix_append sub names)

end

/-! ## The search -/

/-- The path of a unit, nothing for any other file. -/
def unit? (headers : List String) (root : Path) (names : List String) : Option String :=
  let path := (root.below names).text
  if names.any ignoredNames.contains then none
  else if headers.any fun ending => ending.toList.isSuffixOf path.toList then none
  else if (Language.ofPath? path).isSome then some path else none

theorem unit?_eq_some_iff {headers : List String} {root : Path} {tree : Entry} {names : List String}
    (hfile : ∃ data, tree.find? names = some (.file data)) {u : String} :
    unit? headers root names = some u ↔
      IsUnit headers root tree names ∧ u = (root.below names).text := by
  have hignored : names.any ignoredNames.contains = true ↔
      ¬ ∀ name ∈ names, name ∉ ignoredNames := by
    simp
  have hheader : (headers.any fun ending =>
      ending.toList.isSuffixOf (root.below names).text.toList) = true ↔
      ¬ ∀ ending ∈ headers, ¬ ending.toList <:+ (root.below names).text.toList := by
    simp
  have hlanguage : (Language.ofPath? (root.below names).text).isSome = true ↔
      Language.ofPath? (root.below names).text ≠ none := Option.isSome_iff_ne_none
  rw [unit?]
  constructor
  · intro h
    split_ifs at h with h₁ h₂ h₃
    exact ⟨⟨hfile, not_not.mp fun hnot => h₁ (hignored.mpr hnot),
      not_not.mp fun hnot => h₂ (hheader.mpr hnot), hlanguage.mp h₃⟩, (Option.some.inj h).symm⟩
  · rintro ⟨⟨-, h₁, h₂, h₃⟩, rfl⟩
    rw [if_neg fun hany => hignored.mp hany h₁, if_neg fun hany => hheader.mp hany h₂,
      if_pos (hlanguage.mpr h₃)]

/-- What is kept of something below a directory: the path, if it is a unit. -/
def unitAt? (headers : List String) (root : Path) (tree : Entry) (names : List String) :
    Option String :=
  if (tree.find? names).any Entry.isFile then unit? headers root names else none

theorem any_isFile_iff {e : Option Entry} :
    e.any Entry.isFile = true ↔ ∃ data, e = some (.file data) := by
  rcases e with _ | ⟨_ | _ | _⟩ <;> simp [Entry.isFile]

theorem unitAt?_eq_some_iff {headers : List String} {root : Path} {tree : Entry}
    {names : List String} {u : String} :
    unitAt? headers root tree names = some u ↔
      IsUnit headers root tree names ∧ u = (root.below names).text := by
  rw [unitAt?]
  by_cases hfile : ∃ data, tree.find? names = some (.file data)
  · rw [if_pos (any_isFile_iff.mpr hfile), unit?_eq_some_iff hfile]
  · rw [if_neg fun hany => hfile (any_isFile_iff.mp hany)]
    constructor
    · intro h
      cases h
    · rintro ⟨hunit, -⟩
      exact absurd hunit.isFile hfile

/-- The names of everything below an entry, in order. -/
def sortedNames (tree : Entry) : List (List String) := tree.descendants.mergeSort partsLe

theorem mem_sortedNames_iff {tree : Entry} (h : tree.Proper) {names : List String} :
    names ∈ sortedNames tree ↔ names ≠ [] ∧ ∃ e, tree.find? names = some e := by
  rw [sortedNames, (List.mergeSort_perm _ _).mem_iff, Entry.mem_descendants_iff h]

theorem pairwise_sortedNames {tree : Entry} (h : tree.Proper) :
    (sortedNames tree).Pairwise (List.Lex (· < ·)) := by
  have hnodup : (sortedNames tree).Nodup :=
    (List.mergeSort_perm _ _).nodup_iff.mpr (Entry.nodup_descendants h)
  have hordered : (sortedNames tree).Pairwise fun xs ys => partsLe xs ys = true :=
    List.pairwise_mergeSort partsLe_trans partsLe_total _
  exact (hordered.and hnodup).imp fun hpair => lex_of_partsLe hpair.1 hpair.2

/-- The units among everything below a directory in order are a list of them. -/
theorem lists_filterMap (headers : List String) {root : Path} (hroot : root.Clean)
    {entries : List (String × Entry)} (h : (Entry.dir entries).Proper) :
    Lists headers root (.dir entries)
      ((sortedNames (.dir entries)).filterMap (unitAt? headers root (.dir entries))) := by
  constructor
  · intro u
    simp only [List.mem_filterMap, unitAt?_eq_some_iff]
    constructor
    · rintro ⟨names, -, hunit⟩
      exact ⟨names, hunit⟩
    · rintro ⟨names, hunit, rfl⟩
      obtain ⟨data, hfile⟩ := hunit.isFile
      refine ⟨names, (mem_sortedNames_iff h).mpr ⟨?_, _, hfile⟩, hunit, rfl⟩
      rintro rfl
      cases hfile
  · refine List.pairwise_filterMap.mpr ((pairwise_sortedNames h).imp ?_)
    intro xs ys hlt u hu v hv
    have hparts {names : List String} {w : String}
        (hw : unitAt? headers root (.dir entries) names = some w) :
        (Path.ofString w).parts = root.parts ++ names := by
      obtain ⟨hunit, rfl⟩ := unitAt?_eq_some_iff.mp hw
      obtain ⟨data, hfile⟩ := hunit.isFile
      rw [Path.ofString_text (hroot.below (h.of_find? hfile).1)]
      rfl
    -- All paths begin with the parts of the root, so the names below it decide.
    rw [hparts hu, hparts hv]
    exact List.Lex.append_left _ hlt root.parts

theorem isHeader_ofLists (headers dirs : List String) (path : String) :
    (Policy.ofLists headers dirs).isHeader path =
      .ok (headers.any fun ending => ending.toList.isSuffixOf path.toList) := by
  rw [Policy.isHeader, Policy.ofLists]
  cases headers.any fun ending => ending.toList.isSuffixOf path.toList <;> rfl

theorem keep_of_fileExists {fs : FileSystem} {root : Path} {names : List String} {isFile : Bool}
    (h : fs.fileExists (root.below names).text = .ok isFile) (headers dirs : List String) :
    keep fs (.ofLists headers dirs) root names =
      .ok (if isFile then unit? headers root names else none) := by
  have hpath : pathBelow root names = (root.below names).text := rfl
  rw [keep, hpath, h, unit?]
  simp only [Except.mapError, bind, Except.bind, pure, Except.pure, isHeader_ofLists]
  cases isFile with
  | false => rfl
  | true =>
    simp only [Bool.not_true, Bool.false_eq_true, if_false, if_true]
    by_cases hignored : names.any ignoredNames.contains = true
    · rw [if_pos hignored, if_pos hignored]
    · rw [if_neg hignored, if_neg hignored]
      cases headers.any fun ending => ending.toList.isSuffixOf (root.below names).text.toList with
      | true => simp only [if_true]
      | false => simp only [Bool.false_eq_true, if_false]

/-- Each directory that is looked into is short and not nested too deep, or it stops the search. -/
theorem enter_cases (room : Nat) (root : Path) (names : List String) :
    (names.length < room ∧ (bytesOf (root.below names).text).length < pathLimit ∧
      enter room root names = .ok ()) ∨
    (room ≤ names.length ∧ enter room root names = .error .nestedTooDeep) ∨
    (pathLimit ≤ (bytesOf (root.below names).text).length ∧
      enter room root names = .error (.file (.refused .nameTooLong (root.below names).text))) := by
  have hpath : pathBelow root names = (root.below names).text := rfl
  rw [enter, hpath]
  by_cases hdeep : room ≤ names.length
  · exact .inr (.inl ⟨hdeep, if_pos hdeep⟩)
  · rw [if_neg hdeep]
    by_cases hlong : pathLimit ≤ (bytesOf (root.below names).text).length
    · exact .inr (.inr ⟨hlong, if_pos hlong⟩)
    · exact .inl ⟨Nat.not_le.mp hdeep, Nat.not_le.mp hlong, if_neg hlong⟩

theorem list_of_dir {fs : FileSystem} {root : String} {entries : List (String × Entry)}
    (h : fs.status (Path.ofString root).text = .ok (some (.dir entries))) (room : Nat)
    (policy : Policy) :
    list fs room policy root =
      ((Entry.dir entries).folders.mapM (enter room (Path.ofString root))).bind fun _ =>
      ((sortedNames (.dir entries)).mapM (keep fs policy (Path.ofString root))).bind fun kept =>
        .ok (kept.filterMap id) := by
  cases hfolders : (Entry.dir entries).folders.mapM (enter room (Path.ofString root)) <;>
    simp only [list, sortedNames, h, hfolders, forM_eq_mapM, Except.mapError, Except.map, bind,
      Except.bind, pure, Except.pure]

/-- Nothing stops the search: all paths are short enough, and there is room for all directories. -/
structure Bounded (room : Nat) (root : Path) (tree : Entry) : Prop where
  short : ∀ names e, tree.find? names = some e →
    (bytesOf (root.below names).text).length < pathLimit
  shallow : ∀ names entries, tree.find? names = some (.dir entries) → names.length < room

/-- What stops the search. -/
inductive Stops (room : Nat) (root : Path) (tree : Entry) : Fault → Prop
  | long {names : List String} {e : Entry} (hfind : tree.find? names = some e)
      (hlong : pathLimit ≤ (bytesOf (root.below names).text).length) :
      Stops room root tree (.file (.refused .nameTooLong (root.below names).text))
  | deep {names : List String} {entries : List (String × Entry)}
      (hfind : tree.find? names = some (.dir entries)) (hdeep : room ≤ names.length) :
      Stops room root tree .nestedTooDeep

theorem Bounded.below {room : Nat} {root : Path} {tree inner : Entry} {sub : List String}
    (h : Bounded room root tree) (hsub : tree.find? sub = some inner) :
    Bounded room (root.below sub) inner := by
  have hfind (names : List String) : tree.find? (sub ++ names) = inner.find? names := by
    rw [Entry.find?_append, hsub, Option.bind_some]
  constructor
  · intro names e he
    rw [← Path.below_append]
    exact h.short (sub ++ names) e ((hfind names).trans he)
  · intro names entries he
    have hdepth := h.shallow (sub ++ names) entries ((hfind names).trans he)
    rw [List.length_append] at hdepth
    omega

/-- A tree without links. -/
def LinkFree (tree : Entry) : Prop := ∀ names target, tree.find? names ≠ some (.link target)

section

variable {fs : FileSystem} {root : String} {entries : List (String × Entry)}

theorem keep_of_short (hfs : fs.Proper)
    (hroot : fs.status (Path.ofString root).text = .ok (some (.dir entries)))
    (hlinks : LinkFree (.dir entries)) (headers dirs : List String) {names : List String}
    {e : Entry} (hfind : (Entry.dir entries).find? names = some e)
    (hshort : (bytesOf ((Path.ofString root).below names).text).length < pathLimit) :
    keep fs (.ofLists headers dirs) (Path.ofString root) names =
      .ok (unitAt? headers (Path.ofString root) (.dir entries) names) := by
  have hlink : ∀ target, e ≠ .link target := by
    rintro target rfl
    exact hlinks names target hfind
  have hstatus := FileSystem.status_below hfs (Path.clean_ofString root) hroot
    ((hfs.of_status hroot).of_find? hfind).1 hfind hlink hshort
  have hexists : fs.fileExists ((Path.ofString root).below names).text = .ok e.isFile := by
    rw [FileSystem.fileExists, hstatus]
    rfl
  rw [keep_of_fileExists hexists, unitAt?, hfind, Option.any_some]

theorem keep_of_long (hfs : fs.Proper)
    (hroot : fs.status (Path.ofString root).text = .ok (some (.dir entries))) (policy : Policy)
    {names : List String} {e : Entry} (hfind : (Entry.dir entries).find? names = some e)
    (hlong : pathLimit ≤ (bytesOf ((Path.ofString root).below names).text).length) :
    keep fs policy (Path.ofString root) names =
      .error (.file (.refused .nameTooLong ((Path.ofString root).below names).text)) := by
  have hnul := FileSystem.not_hasNul_below (Path.clean_ofString root) hroot
    ((hfs.of_status hroot).of_find? hfind).1
  have hpath : pathBelow (Path.ofString root) names = ((Path.ofString root).below names).text := rfl
  rw [keep, hpath, FileSystem.fileExists, FileSystem.status_of_long hnul hlong]
  rfl

/-- **If nothing stops the search, there is a list.** -/
theorem exists_lists (hfs : fs.Proper)
    (hroot : fs.status (Path.ofString root).text = .ok (some (.dir entries)))
    (hlinks : LinkFree (.dir entries)) {room : Nat}
    (h : Bounded room (Path.ofString root) (.dir entries)) (headers dirs : List String) :
    ∃ us, list fs room (.ofLists headers dirs) root = .ok us ∧
      Lists headers (Path.ofString root) (.dir entries) us := by
  have htree := hfs.of_status hroot
  refine ⟨_, ?_, lists_filterMap headers (Path.clean_ofString root) htree⟩
  have hfolders : (Entry.dir entries).folders.mapM (enter room (Path.ofString root)) =
      .ok ((Entry.dir entries).folders.map fun _ => ()) := by
    refine mapM_eq_ok fun names hmem => ?_
    obtain ⟨inner, hfind⟩ := (Entry.mem_folders_iff htree).mp hmem
    rcases enter_cases room (Path.ofString root) names with
      ⟨-, -, henter⟩ | ⟨hdeep, -⟩ | ⟨hlong, -⟩
    · exact henter
    · exact absurd hdeep (Nat.not_le.mpr (h.shallow names inner hfind))
    · exact absurd hlong (Nat.not_le.mpr (h.short names _ hfind))
  have hkept : (sortedNames (.dir entries)).mapM
      (keep fs (.ofLists headers dirs) (Path.ofString root)) = .ok ((sortedNames (.dir entries)).map
        (unitAt? headers (Path.ofString root) (.dir entries))) := by
    refine mapM_eq_ok fun names hmem => ?_
    obtain ⟨-, e, hfind⟩ := (mem_sortedNames_iff htree).mp hmem
    exact keep_of_short hfs hroot hlinks headers dirs hfind (h.short names e hfind)
  rw [list_of_dir hroot, hfolders, hkept]
  exact congrArg Except.ok List.filterMap_map

/-- A search that ends with a fault has come upon something that stops it. -/
theorem stops_of_list_error (hfs : fs.Proper)
    (hroot : fs.status (Path.ofString root).text = .ok (some (.dir entries)))
    (hlinks : LinkFree (.dir entries)) {room : Nat} {headers dirs : List String} {fault : Fault}
    (h : list fs room (.ofLists headers dirs) root = .error fault) :
    Stops room (Path.ofString root) (.dir entries) fault := by
  have htree := hfs.of_status hroot
  rw [list_of_dir hroot] at h
  cases hfolders : (Entry.dir entries).folders.mapM (enter room (Path.ofString root)) with
  | error other =>
    rw [hfolders] at h
    obtain rfl := Except.error.inj h
    obtain ⟨names, hmem, hfail⟩ := exists_of_mapM_eq_error hfolders
    obtain ⟨inner, hfind⟩ := (Entry.mem_folders_iff htree).mp hmem
    rcases enter_cases room (Path.ofString root) names with
      ⟨-, -, henter⟩ | ⟨hdeep, henter⟩ | ⟨hlong, henter⟩
    · cases henter.symm.trans hfail
    · obtain rfl := Except.error.inj (henter.symm.trans hfail)
      exact .deep hfind hdeep
    · obtain rfl := Except.error.inj (henter.symm.trans hfail)
      exact .long hfind hlong
  | ok _ =>
    cases hkept : (sortedNames (.dir entries)).mapM
        (keep fs (.ofLists headers dirs) (Path.ofString root)) with
    | error other =>
      rw [hfolders, hkept] at h
      obtain rfl := Except.error.inj h
      obtain ⟨names, hmem, hfail⟩ := exists_of_mapM_eq_error hkept
      obtain ⟨-, e, hfind⟩ := (mem_sortedNames_iff htree).mp hmem
      by_cases hlong : pathLimit ≤ (bytesOf ((Path.ofString root).below names).text).length
      · rw [keep_of_long hfs hroot _ hfind hlong] at hfail
        obtain rfl := Except.error.inj hfail
        exact .long hfind hlong
      · rw [keep_of_short hfs hroot hlinks headers dirs hfind (Nat.not_le.mp hlong)] at hfail
        cases hfail
    | ok kept =>
      rw [hfolders, hkept] at h
      cases h

/-- A search that finds its end has been everywhere, so there is nothing that stops it. -/
theorem bounded_of_list (hfs : fs.Proper)
    (hroot : fs.status (Path.ofString root).text = .ok (some (.dir entries))) {room : Nat}
    {policy : Policy} {us : List String} (h : list fs room policy root = .ok us) :
    Bounded room (Path.ofString root) (.dir entries) := by
  have htree := hfs.of_status hroot
  rw [list_of_dir hroot] at h
  obtain ⟨_, hfolders, hrest⟩ := exists_of_bind_eq_ok h
  obtain ⟨_, hkept, -⟩ := exists_of_bind_eq_ok hrest
  have henter (names : List String) (inner : List (String × Entry))
      (hfind : (Entry.dir entries).find? names = some (.dir inner)) : names.length < room ∧
      (bytesOf ((Path.ofString root).below names).text).length < pathLimit := by
    obtain ⟨_, hok⟩ := exists_of_mapM_eq_ok hfolders names
      ((Entry.mem_folders_iff htree).mpr ⟨inner, hfind⟩)
    rcases enter_cases room (Path.ofString root) names with
      ⟨hshallow, hshort, -⟩ | ⟨-, henter⟩ | ⟨-, henter⟩
    · exact ⟨hshallow, hshort⟩
    · cases henter.symm.trans hok
    · cases henter.symm.trans hok
  refine ⟨fun names e hfind => ?_, fun names inner hfind => (henter names inner hfind).1⟩
  by_cases hnames : names = []
  · subst hnames
    exact (henter [] entries rfl).2
  · obtain ⟨_, hok⟩ := exists_of_mapM_eq_ok hkept names
      ((mem_sortedNames_iff htree).mpr ⟨hnames, e, hfind⟩)
    refine Nat.not_le.mp fun hlong => ?_
    rw [keep_of_long hfs hroot _ hfind hlong] at hok
    cases hok

/-- **If something stops the search, it ends with the fault of that.** -/
theorem exists_list_error (hfs : fs.Proper)
    (hroot : fs.status (Path.ofString root).text = .ok (some (.dir entries)))
    (hlinks : LinkFree (.dir entries)) {room : Nat}
    (h : ¬ Bounded room (Path.ofString root) (.dir entries)) (headers dirs : List String) :
    ∃ fault, Stops room (Path.ofString root) (.dir entries) fault ∧
      list fs room (.ofLists headers dirs) root = .error fault := by
  cases hlist : list fs room (.ofLists headers dirs) root with
  | error fault => exact ⟨fault, stops_of_list_error hfs hroot hlinks hlist, rfl⟩
  | ok us => exact absurd (bounded_of_list hfs hroot hlist) h

theorem sourceOf_ne_unsupported (fs : FileSystem) (path : String) (source : Option Bytes)
    (other : String) :
    Frontend.sourceOf fs path source ≠ .error (.refused (.unsupported other)) := by
  unfold Frontend.sourceOf
  split
  · simp
  · split <;> simp

/-- What has the suffix of a language is not refused for its suffix. -/
theorem parse_ne_unsupported {path : String} (h : Language.ofPath? path ≠ none) (tools : Toolchain)
    (fs : FileSystem) (asked : Option String) (source : Option Bytes) (other : String) :
    (Frontend.parse tools fs (.grammar asked) path source).2 ≠
      .error (.refused (.unsupported other)) := by
  have hname : Frontend.languageName? asked path ≠ none := by
    rw [Frontend.languageName?]
    simp [h]
  obtain ⟨language, hlanguage⟩ := Option.ne_none_iff_exists'.mp hname
  intro hparse
  simp only [Frontend.parse, Frontend.parseGrammar, hlanguage] at hparse
  cases hsource : Frontend.sourceOf fs path source with
  | error fault =>
    rw [hsource] at hparse
    obtain rfl := Except.error.inj hparse
    exact sourceOf_ne_unsupported fs path source other hsource
  | ok bytes =>
    rw [hsource] at hparse
    cases hscan : LineMap.scan path bytes with
    | error tooLong =>
      simp only [hscan] at hparse
      cases hparse
    | ok scanned =>
      simp only [hscan] at hparse
      cases hparse

/-- **The search finds the units below a directory without links**, each once and in the order of
their names, if nothing stops it; otherwise it ends with the fault of what does, which is a path
that is too long or a directory that is nested too deep.  Each unit is a file, which the frontend
does not refuse for its suffix and which is no header by its name.  The units below a directory
further down are those of the whole whose paths begin with its path. -/
theorem list_finds_units (hfs : fs.Proper) (room : Nat) (headers dirs : List String)
    (hroot : fs.status (Path.ofString root).text = .ok (some (.dir entries)))
    (hlinks : LinkFree (.dir entries)) :
    (Bounded room (Path.ofString root) (.dir entries) →
      ∃ us, list fs room (.ofLists headers dirs) root = .ok us ∧
        us.Nodup ∧ Lists headers (Path.ofString root) (.dir entries) us ∧
        (∀ u ∈ us, (∃ data, fs.status u = .ok (some (.file data))) ∧
          (∀ tools asked source other, (Frontend.parse tools fs (.grammar asked) u source).2 ≠
            .error (.refused (.unsupported other))) ∧
          ∀ dirs', (Policy.ofLists headers dirs').isHeader u = .ok false) ∧
        ∀ sub inner s, (Entry.dir entries).find? sub = some (.dir inner) →
          (∀ name ∈ sub, name ∉ ignoredNames) → Path.ofString s = (Path.ofString root).below sub →
          list fs room (.ofLists headers dirs) s = .ok (us.filter fun u =>
            decide ((Path.ofString s).parts <+: (Path.ofString u).parts))) ∧
    (¬ Bounded room (Path.ofString root) (.dir entries) →
      ∃ fault, Stops room (Path.ofString root) (.dir entries) fault ∧
        list fs room (.ofLists headers dirs) root = .error fault) := by
  have htree : (Entry.dir entries).Proper := hfs.of_status hroot
  have hclean : (Path.ofString root).Clean := Path.clean_ofString root
  refine ⟨fun hbounded => ?_, fun h => exists_list_error hfs hroot hlinks h headers dirs⟩
  have hstatus {names : List String} {e : Entry}
      (hfind : (Entry.dir entries).find? names = some e) :
      fs.status ((Path.ofString root).below names).text = .ok (some e) := by
    refine FileSystem.status_below hfs hclean hroot (htree.of_find? hfind).1 hfind ?_
      (hbounded.short names e hfind)
    rintro target rfl
    exact hlinks names target hfind
  obtain ⟨us, hlist, hus⟩ := exists_lists hfs hroot hlinks hbounded headers dirs
  refine ⟨us, hlist, hus.nodup, hus, fun u hu => ?_, fun sub inner s hsub hkept hs => ?_⟩
  · obtain ⟨names, ⟨⟨data, hfile⟩, -, hheader, hlanguage⟩, rfl⟩ := (hus.mem_iff u).mp hu
    refine ⟨⟨data, hstatus hfile⟩, fun tools asked source other =>
      parse_ne_unsupported hlanguage tools fs asked source other, fun dirs' => ?_⟩
    rw [isHeader_ofLists]
    simpa using hheader
  · have hinner : fs.status (Path.ofString s).text = .ok (some (.dir inner)) := hs ▸ hstatus hsub
    have hfree : LinkFree (.dir inner) := by
      intro names target hfind
      refine hlinks (sub ++ names) target ?_
      rw [Entry.find?_append, hsub, Option.bind_some, hfind]
    obtain ⟨vs, hlist', hvs⟩ :=
      exists_lists hfs hinner hfree (hs ▸ hbounded.below hsub) headers dirs
    rw [hlist', hvs.unique (hs ▸ hus.filter_below hclean htree hsub hkept)]

end

/-! ## A directory with all kinds of names -/

/-- What is in the directory: names that begin alike, one that is left out, a header, and a file in
no language. -/
def mixedEntries : List (String × Entry) :=
  [("b.c", .file []), ("b", .dir [("y.c", .file []), ("n.txt", .file [])]),
    ("build", .dir [("z.c", .file [])]), ("p.h", .file [])]

/-- A file system with the directory. -/
def mixedFiles : FileSystem := ⟨.dir [("a", .dir mixedEntries)], []⟩

theorem proper_mixedFiles : mixedFiles.Proper := by
  have hinner : (Entry.dir [("y.c", .file []), ("n.txt", .file [])]).Proper :=
    .cons (by decide) (by decide) (.file _)
      (.cons (by decide) (by decide) (.file _) .empty)
  have hbuild : (Entry.dir [("z.c", .file [])]).Proper :=
    .cons (by decide) (by decide) (.file _) .empty
  have hentries : (Entry.dir mixedEntries).Proper :=
    .cons (by decide) (by decide) (.file _)
      (.cons (by decide) (by decide) hinner
        (.cons (by decide) (by decide) hbuild
          (.cons (by decide) (by decide) (.file _) .empty)))
  exact ⟨.cons (by decide) (by decide) hentries .empty, _, rfl⟩

theorem status_mixedFiles :
    mixedFiles.status (Path.ofString "./a/").text = .ok (some (.dir mixedEntries)) := by
  have htext : (Path.ofString "./a/").text = "a" := by decide
  have hpieces : Path.pieces "a" = ["a"] := by decide
  have hcheck : FileSystem.checkPath "a" = .ok () :=
    toOption_eq_some_iff.mp (by decide)
  have hstart : mixedFiles.startOf "a" = [] := by
    simp [FileSystem.startOf, FileSystem.startFrom, mixedFiles]
  rw [htext, FileSystem.status_eq_some_iff, hstart, hpieces]
  exact ⟨hcheck, ["a"], rfl⟩

/-- Component by component, a name comes before one that goes on with a dot. -/
theorem lists_mixedEntries :
    Lists [".h"] (Path.ofString "./a/") (.dir mixedEntries) ["a/b/y.c", "a/b.c"] := by
  have hproper : (Entry.dir mixedEntries).Proper := proper_mixedFiles.of_status status_mixedFiles
  have hroot : Path.ofString "./a/" = ⟨.relative, ["a"]⟩ := by decide
  have hfiles : (Entry.dir mixedEntries).descendants =
      [["b.c"], ["b"], ["b", "y.c"], ["b", "n.txt"], ["build"], ["build", "z.c"], ["p.h"]] := rfl
  have hfirst : IsUnit [".h"] ⟨.relative, ["a"]⟩ (.dir mixedEntries) ["b", "y.c"] :=
    ⟨⟨[], rfl⟩, by decide, by decide, by decide⟩
  have hsecond : IsUnit [".h"] ⟨.relative, ["a"]⟩ (.dir mixedEntries) ["b.c"] :=
    ⟨⟨[], rfl⟩, by decide, by decide, by decide⟩
  rw [hroot]
  constructor
  · intro u
    constructor
    · intro hu
      rcases List.mem_cons.mp hu with rfl | hu
      · exact ⟨_, hfirst, by decide⟩
      · exact ⟨_, hsecond, (List.mem_singleton.mp hu).trans (by decide)⟩
    · rintro ⟨names, ⟨⟨data, hfile⟩, hkept, hheader, hlanguage⟩, rfl⟩
      have hne : names ≠ [] := by
        rintro rfl
        cases hfile
      have hmem := (Entry.mem_descendants_iff hproper).mpr ⟨hne, _, hfile⟩
      rw [hfiles] at hmem
      simp only [List.mem_cons, List.not_mem_nil, or_false] at hmem
      rcases hmem with rfl | rfl | rfl | rfl | rfl | rfl | rfl
      · decide
      · cases hfile
      · decide
      · exact absurd hlanguage (by decide)
      · cases hfile
      · exact absurd hkept (by decide)
      · exact absurd hheader (by decide)
  · have hinner : (Path.ofString "a/b/y.c").parts = ["a", "b", "y.c"] := by decide
    have houter : (Path.ofString "a/b.c").parts = ["a", "b.c"] := by decide
    refine List.pairwise_pair.mpr ?_
    rw [hinner, houter]
    exact .cons (.rel (by decide))

/-- There is a list with room for both levels of directories, and none with room for one. -/
theorem list_finds_units_mixedFiles :
    mixedFiles.Proper ∧
    mixedFiles.status (Path.ofString "./a/").text = .ok (some (.dir mixedEntries)) ∧
    list mixedFiles 2 (.ofLists [".h"] []) "./a/" = .ok ["a/b/y.c", "a/b.c"] ∧
    list mixedFiles 2 (.ofLists [".h"] []) "a/b" = .ok ["a/b/y.c"] ∧
    list mixedFiles 1 (.ofLists [".h"] []) "./a/" = .error .nestedTooDeep := by
  have htree := proper_mixedFiles.of_status status_mixedFiles
  have hlisted : ∀ found ∈ (Entry.dir mixedEntries).listing,
      (bytesOf ((Path.ofString "./a/").below found.1).text).length < pathLimit ∧
      (found.2.isDir = true → found.1.length < 2) ∧ (found.2.isDir || found.2.isFile) = true := by
    decide
  have hlinks : LinkFree (.dir mixedEntries) := by
    intro names target hfind
    cases (hlisted _ ((Entry.mem_listing_iff htree).mpr hfind)).2.2
  have hshort : ∀ names e, (Entry.dir mixedEntries).find? names = some e →
      (bytesOf ((Path.ofString "./a/").below names).text).length < pathLimit := fun names e hfind =>
    (hlisted _ ((Entry.mem_listing_iff htree).mpr hfind)).1
  have hbounded : Bounded 2 (Path.ofString "./a/") (.dir mixedEntries) :=
    ⟨hshort, fun names inner hfind => (hlisted _ ((Entry.mem_listing_iff htree).mpr hfind)).2.1 rfl⟩
  have hdeep : ¬ Bounded 1 (Path.ofString "./a/") (.dir mixedEntries) := fun h =>
    absurd (h.shallow ["b"] _ rfl) (by decide)
  obtain ⟨us, hlist, -, hlists, -, hsub⟩ :=
    (list_finds_units proper_mixedFiles 2 [".h"] [] status_mixedFiles hlinks).1 hbounded
  obtain rfl := hlists.unique lists_mixedEntries
  refine ⟨proper_mixedFiles, status_mixedFiles, hlist, ?_, ?_⟩
  · rw [hsub ["b"] _ "a/b" rfl (by decide) (by decide)]
    exact congrArg Except.ok (by decide)
  · obtain ⟨fault, hstops, hfault⟩ :=
      (list_finds_units proper_mixedFiles 1 [".h"] [] status_mixedFiles hlinks).2 hdeep
    cases hstops with
    | long hfind hlong => exact absurd (hshort _ _ hfind) (Nat.not_lt.mpr hlong)
    | deep _ _ => exact hfault

/-! ## A path that is just short enough -/

/-- A directory with one unit, and nothing else. -/
def loneEntries : List (String × Entry) := [("bb.c", .file [])]

/-- A file system with the directory. -/
def loneFiles : FileSystem := ⟨.dir [("a", .dir loneEntries)], []⟩

/-- The directory by a roundabout way: into it and out of it again a number of times. -/
def roundabout : Nat → List String
  | 0 => ["a"]
  | n + 1 => "a" :: ".." :: roundabout n

theorem sum_roundabout (n : Nat) :
    ((roundabout n).map fun part => (bytesOf part).length + 1).sum = 5 * n + 2 := by
  have hname : (bytesOf "a").length = 1 := by decide
  have hup : (bytesOf "..").length = 2 := by decide
  induction n with
  | zero => simp [roundabout, hname]
  | succ n ih =>
    simp only [roundabout, List.map_cons, List.sum_cons, hname, hup, ih]
    omega

theorem clean_roundabout (n : Nat) : (Path.mk .relative (roundabout n)).Clean := by
  have hname : Path.isComponent "a" = true ∧ '/' ∉ "a".toList := by decide
  have hup : Path.isComponent ".." = true ∧ '/' ∉ "..".toList := by decide
  induction n with
  | zero => exact List.forall_mem_singleton.mpr hname
  | succ n ih => exact List.forall_mem_cons.mpr ⟨hname, List.forall_mem_cons.mpr ⟨hup, ih⟩⟩

theorem not_hasNul_of_mem_roundabout (n : Nat) : ∀ part ∈ roundabout n, ¬ Path.HasNul part := by
  have hname : ¬ Path.HasNul "a" := by simp [Path.HasNul]
  have hup : ¬ Path.HasNul ".." := by simp [Path.HasNul]
  induction n with
  | zero => exact List.forall_mem_singleton.mpr hname
  | succ n ih => exact List.forall_mem_cons.mpr ⟨hname, List.forall_mem_cons.mpr ⟨hup, ih⟩⟩

theorem follow_roundabout (links n : Nat) :
    FileSystem.follow links [] (roundabout n) loneFiles =
      .ok (.existing ["a"] (.dir loneEntries)) := by
  have htop : loneFiles.entry? [] = some (.dir [("a", .dir loneEntries)]) := rfl
  have hentry : loneFiles.entry? ["a"] = some (.dir loneEntries) := rfl
  have hdown (rest : List String) : FileSystem.follow links [] ("a" :: rest) loneFiles =
      FileSystem.follow links ["a"] rest loneFiles := by
    rw [FileSystem.follow_cons htop, if_neg (by decide), if_neg (by decide), if_neg (by decide),
      if_pos (by decide), List.nil_append]
  have hup (rest : List String) : FileSystem.follow links ["a"] (".." :: rest) loneFiles =
      FileSystem.follow links [] rest loneFiles := by
    rw [FileSystem.follow_cons hentry, if_neg (by decide), if_pos (by decide),
      List.dropLast_singleton]
  induction n with
  | zero => rw [roundabout, hdown, FileSystem.follow_nil hentry (by simp)]
  | succ n ih => rw [roundabout, hdown, hup, ih]

theorem length_roundabout (n : Nat) (more : List String) :
    (bytesOf ((Path.mk .relative (roundabout n)).below more).text).length =
      5 * n + 1 + (more.map fun name => (bytesOf name).length + 1).sum := by
  have hne : roundabout n ++ more ≠ [] := by cases n <;> simp [roundabout]
  have hroot : (bytesOf Path.Root.relative.text).length = 0 := by decide
  have hlength : (bytesOf ((Path.mk .relative (roundabout n)).below more).text).length + 1 =
      (bytesOf Path.Root.relative.text).length +
        ((roundabout n ++ more).map fun name => (bytesOf name).length + 1).sum :=
    Path.length_text hne
  rw [hroot, List.map_append, List.sum_append, sum_roundabout] at hlength
  omega

theorem status_roundabout {n : Nat} (h : 5 * n + 1 < pathLimit) :
    loneFiles.status (Path.mk .relative (roundabout n)).text = .ok (some (.dir loneEntries)) := by
  have hclean := clean_roundabout n
  have hself : (Path.mk .relative (roundabout n)).below [] = ⟨.relative, roundabout n⟩ := by
    rw [Path.below, List.append_nil]
  refine FileSystem.status_eq_some_iff.mpr
    ⟨FileSystem.checkPath_eq_ok_iff.mpr ⟨?_, ?_, ?_⟩, ["a"], ?_⟩
  · rw [Path.hasNul_text_iff hclean]
    rintro ⟨part, hpart, hnul⟩
    exact not_hasNul_of_mem_roundabout n part hpart hnul
  · rw [← hself, length_roundabout]
    exact h
  · exact Path.text_ne_empty hclean
  · obtain ⟨stays, hstays, hpieces⟩ := Path.pieces_text hclean
    have htop : loneFiles.entry? [] = some (.dir [("a", .dir loneEntries)]) := rfl
    rw [FileSystem.startOf_text loneFiles hclean, if_pos rfl, hpieces]
    exact (FileSystem.follow_stays htop hstays _).trans (follow_roundabout _ n)

/-- The file of the directory is a unit, whatever the path of the directory is. -/
theorem isUnit_loneEntries {root : Path} (h : root.Clean) :
    IsUnit [] root (.dir loneEntries) ["bb.c"] := by
  have hnames : ∀ name ∈ ["bb.c"], Entry.IsName name := by decide
  have hname : (root.below ["bb.c"]).name = "bb.c" := List.getLastD_concat
  refine ⟨⟨[], rfl⟩, by decide, by simp, ?_⟩
  rw [Language.ofPath?, Path.ofString_text (h.below hnames), Path.suffix, hname]
  decide

/-- A path of 4091 bytes. -/
def longestRoot : String := (Path.mk .relative (roundabout 818)).text

/-- **A path below a short one can be too long.**  There is a unit in the directory and no link, but
there is no list, however much room there is. -/
theorem list_longestRoot :
    loneFiles.Proper ∧
    loneFiles.status (Path.ofString longestRoot).text = .ok (some (.dir loneEntries)) ∧
    LinkFree (.dir loneEntries) ∧
    IsUnit [] (Path.ofString longestRoot) (.dir loneEntries) ["bb.c"] ∧
    ∀ room us, list loneFiles room (.ofLists [] []) longestRoot ≠ .ok us := by
  have hread : Path.ofString longestRoot = ⟨.relative, roundabout 818⟩ :=
    Path.ofString_text (clean_roundabout 818)
  have hentries : (Entry.dir loneEntries).Proper :=
    .cons (by decide) (by decide) (.file _) .empty
  have hproper : loneFiles.Proper := ⟨.cons (by decide) (by decide) hentries .empty, _, rfl⟩
  have hstatus : loneFiles.status (Path.ofString longestRoot).text =
      .ok (some (.dir loneEntries)) := by
    rw [hread]
    exact status_roundabout (by decide)
  have hlinks : LinkFree (.dir loneEntries) := by
    have hlisted : ∀ found ∈ (Entry.dir loneEntries).listing,
        (found.2.isDir || found.2.isFile) = true := by
      decide
    intro names target hfind
    cases hlisted _ ((Entry.mem_listing_iff hentries).mpr hfind)
  have hlong : pathLimit ≤ (bytesOf ((Path.ofString longestRoot).below ["bb.c"]).text).length := by
    rw [hread, length_roundabout]
    decide
  refine ⟨hproper, hstatus, hlinks, isUnit_loneEntries (Path.clean_ofString longestRoot),
    fun room us hus => ?_⟩
  have hstops : ¬ Bounded room (Path.ofString longestRoot) (.dir loneEntries) := fun h =>
    Nat.not_lt.mpr hlong (h.short ["bb.c"] _ rfl)
  obtain ⟨fault, -, hfault⟩ := exists_list_error hproper hstatus hlinks hstops [] []
  cases hfault.symm.trans hus

end Units

end Cyclometry
