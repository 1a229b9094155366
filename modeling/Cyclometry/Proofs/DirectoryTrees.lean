import Mathlib.Data.List.Nodup
import Cyclometry.Proofs.PathTexts
import Cyclometry.Proofs.StoppingUnits

/-!
# Directory trees

In a tree that a file system can have (`Entry.Proper`), the entries of a directory have different
names, and none of them is a dot or has a slash in it.  There, the listing of a tree and the search
in it agree: an entry is listed under some names exactly if they lead to it
(`Entry.mem_listing_iff`), and once (`Entry.nodup_listing`).

A path with the text of such names is followed name by name.  Names that have an entry lead to its
place (`FileSystem.follow_through`), since directories are all that they lead through.  Names
without one lead to nothing, if there is no link on the way; but if they come to a directory with a
name that is longer than any name can be, the system refuses to look for it
(`FileSystem.follow_missing`).  So whatever a tree has at some names is found at the path of its
root with the names behind it, if this path is short enough (`FileSystem.status_below`).
-/

namespace Cyclometry

namespace Entry

/-! ## Trees that can exist -/

/-- What the name of an entry can be. -/
@[mk_iff]
structure IsName (name : String) : Prop where
  component : Path.isComponent name = true
  notUp : name ≠ ".."
  noSlash : '/' ∉ name.toList
  noNul : Char.ofNat 0 ∉ name.toList
  short : (bytesOf name).length ≤ FileSystem.maxName

instance (name : String) : Decidable (IsName name) := decidable_of_iff' _ (isName_iff name)

/-- In each directory, the entries have names that can be, and different ones. -/
inductive Proper : Entry → Prop
  | file (data : Bytes) : Proper (.file data)
  | link (target : String) : Proper (.link target)
  | dir {entries : List (String × Entry)} (hnames : ∀ entry ∈ entries, IsName entry.1)
      (hdistinct : (entries.map (·.1)).Nodup) (hproper : ∀ entry ∈ entries, Proper entry.2) :
      Proper (.dir entries)

theorem Proper.empty : Proper (.dir []) :=
  .dir (fun _ hmem => absurd hmem List.not_mem_nil) List.nodup_nil
    (fun _ hmem => absurd hmem List.not_mem_nil)

theorem Proper.cons {name : String} {e : Entry} {entries : List (String × Entry)}
    (hname : IsName name) (hnew : name ∉ entries.map (·.1)) (he : Proper e)
    (h : Proper (.dir entries)) : Proper (.dir ((name, e) :: entries)) := by
  cases h with
  | dir hnames hdistinct hproper =>
    exact .dir (List.forall_mem_cons.mpr ⟨hname, hnames⟩) (List.nodup_cons.mpr ⟨hnew, hdistinct⟩)
      (List.forall_mem_cons.mpr ⟨he, hproper⟩)

theorem find?_cons (e : Entry) (name : String) (rest : List String) :
    e.find? (name :: rest) = (e.child? name).bind fun child => child.find? rest := by
  rw [find?]
  cases e.child? name <;> rfl

theorem exists_dir_of_child? {e child : Entry} {name : String} (h : e.child? name = some child) :
    ∃ entries, e = dir entries := by
  cases e with
  | dir entries => exact ⟨entries, rfl⟩
  | _ => cases h

/-- In a proper directory each name has one entry. -/
theorem Proper.child?_eq_some_iff {entries : List (String × Entry)} (h : Proper (.dir entries))
    {name : String} {e : Entry} :
    (Entry.dir entries).child? name = some e ↔ (name, e) ∈ entries := by
  cases h with
  | dir _ hdistinct _ =>
    rw [child?]
    constructor
    · intro hchild
      obtain ⟨entry, hfind, rfl⟩ := Option.map_eq_some_iff.mp hchild
      obtain rfl : entry.1 = name := by simpa using List.find?_some hfind
      exact List.mem_of_find?_eq_some hfind
    · intro hmem
      have hsome : (entries.find? fun entry => entry.1 == name).isSome = true :=
        List.find?_isSome.mpr ⟨(name, e), hmem, beq_self_eq_true name⟩
      obtain ⟨entry, hfind⟩ := Option.isSome_iff_exists.mp hsome
      have hname : entry.1 = name := by simpa using List.find?_some hfind
      have hsame : entry = (name, e) :=
        List.inj_on_of_nodup_map hdistinct (List.mem_of_find?_eq_some hfind) hmem hname
      rw [hfind, hsame]
      rfl

theorem Proper.of_mem {entries : List (String × Entry)} (h : Proper (.dir entries))
    {entry : String × Entry} (hmem : entry ∈ entries) : IsName entry.1 ∧ Proper entry.2 := by
  cases h with
  | dir hnames _ hproper => exact ⟨hnames entry hmem, hproper entry hmem⟩

/-- What names lead to in a proper tree is proper, and so are the names. -/
theorem Proper.of_find? {e e' : Entry} (h : e.Proper) {names : List String}
    (hfind : e.find? names = some e') : (∀ name ∈ names, IsName name) ∧ e'.Proper := by
  induction names generalizing e with
  | nil =>
    obtain rfl := Option.some.inj hfind
    exact ⟨fun _ hname => absurd hname List.not_mem_nil, h⟩
  | cons name rest ih =>
    rw [find?_cons] at hfind
    obtain ⟨child, hchild, hinner⟩ := Option.bind_eq_some_iff.mp hfind
    obtain ⟨entries, rfl⟩ := exists_dir_of_child? hchild
    obtain ⟨hname, hchild⟩ := h.of_mem (h.child?_eq_some_iff.mp hchild)
    obtain ⟨hrest, he'⟩ := ih hchild hinner
    exact ⟨List.forall_mem_cons.mpr ⟨hname, hrest⟩, he'⟩

/-! ## Listing a tree -/

theorem mem_listingIn_iff {entries : List (String × Entry)} {names : List String} {e' : Entry} :
    (names, e') ∈ listingIn entries ↔
      ∃ entry ∈ entries, ∃ rest, names = entry.1 :: rest ∧ (rest, e') ∈ entry.2.listing := by
  induction entries with
  | nil => simp [listingIn]
  | cons entry entries ih =>
    obtain ⟨name, e⟩ := entry
    have hfirst : (names, e') ∈ (e.listing.map fun found => (name :: found.1, found.2)) ↔
        ∃ rest, names = name :: rest ∧ (rest, e') ∈ e.listing := by
      constructor
      · intro hmem
        obtain ⟨found, hfound, heq⟩ := List.mem_map.mp hmem
        obtain ⟨rfl, rfl⟩ := Prod.mk.inj heq
        exact ⟨found.1, rfl, hfound⟩
      · rintro ⟨rest, rfl, hfound⟩
        exact List.mem_map.mpr ⟨(rest, e'), hfound, rfl⟩
    rw [listingIn, List.mem_append, hfirst, ih]
    simp

/-- **An entry is listed under the names that lead to it.** -/
theorem mem_listing_iff {e e' : Entry} (h : e.Proper) {names : List String} :
    (names, e') ∈ e.listing ↔ e.find? names = some e' := by
  induction names generalizing e with
  | nil => cases e <;> simp [listing, find?, mem_listingIn_iff, eq_comm]
  | cons name rest ih =>
    cases e with
    | dir entries =>
      simp only [listing, List.mem_cons, Prod.mk.injEq, reduceCtorEq, false_and, false_or,
        mem_listingIn_iff, find?_cons, Option.bind_eq_some_iff]
      constructor
      · rintro ⟨entry, hmem, rest', heq, hfound⟩
        obtain ⟨rfl, rfl⟩ := List.cons.inj heq
        exact ⟨entry.2, h.child?_eq_some_iff.mpr hmem, (ih (h.of_mem hmem).2).mp hfound⟩
      · rintro ⟨child, hchild, hfind⟩
        have hmem := h.child?_eq_some_iff.mp hchild
        exact ⟨(name, child), hmem, rest, rfl, (ih (h.of_mem hmem).2).mpr hfind⟩
    | _ => simp [listing, find?_cons, child?]

theorem mem_folders_iff {e : Entry} (h : e.Proper) {names : List String} :
    names ∈ e.folders ↔ ∃ entries, e.find? names = some (.dir entries) := by
  simp only [folders, List.mem_map, List.mem_filter, Prod.exists, mem_listing_iff h]
  constructor
  · rintro ⟨_, e', ⟨hfind, hdir⟩, rfl⟩
    cases e' with
    | dir entries => exact ⟨entries, hfind⟩
    | _ => cases hdir
  · rintro ⟨entries, hfind⟩
    exact ⟨names, .dir entries, ⟨hfind, rfl⟩, rfl⟩

theorem mem_descendants_iff {e : Entry} (h : e.Proper) {names : List String} :
    names ∈ e.descendants ↔ names ≠ [] ∧ ∃ e', e.find? names = some e' := by
  simp only [descendants, List.mem_filter, List.mem_map, Prod.exists, mem_listing_iff h]
  constructor
  · rintro ⟨⟨_, e', hfind, rfl⟩, hne⟩
    exact ⟨by simpa using hne, e', hfind⟩
  · rintro ⟨hne, e', hfind⟩
    exact ⟨⟨names, e', hfind, rfl⟩, by simpa using hne⟩

theorem nodup_listingIn {entries : List (String × Entry)} (hdistinct : (entries.map (·.1)).Nodup)
    (h : ∀ entry ∈ entries, (entry.2.listing.map (·.1)).Nodup) :
    ((listingIn entries).map (·.1)).Nodup := by
  induction entries with
  | nil => exact List.nodup_nil
  | cons entry entries ih =>
    obtain ⟨name, e⟩ := entry
    obtain ⟨hname, hdistinct⟩ := List.nodup_cons.mp hdistinct
    obtain ⟨hfirst, hrest⟩ := List.forall_mem_cons.mp h
    have hnames : (e.listing.map fun found => (name :: found.1, found.2)).map (·.1) =
        (e.listing.map (·.1)).map (name :: ·) := by
      rw [List.map_map, List.map_map]
      rfl
    rw [listingIn, List.map_append, hnames]
    refine List.nodup_append.mpr ⟨hfirst.map fun _ _ heq => (List.cons.inj heq).2,
      ih hdistinct hrest, fun xs hxs ys hys heq => ?_⟩
    -- The first name of each is that of its own entry.
    obtain ⟨xs, -, rfl⟩ := List.mem_map.mp hxs
    obtain ⟨⟨ys, e'⟩, hfound, rfl⟩ := List.mem_map.mp hys
    obtain ⟨entry, hentry, rest, heq', -⟩ := mem_listingIn_iff.mp hfound
    obtain ⟨hfirst, -⟩ := List.cons.inj (heq.trans heq')
    exact hname (List.mem_map.mpr ⟨entry, hentry, hfirst.symm⟩)

/-- Each entry is listed once. -/
theorem nodup_listing {e : Entry} (h : e.Proper) : (e.listing.map (·.1)).Nodup := by
  induction h with
  | file data => exact List.nodup_singleton _
  | link target => exact List.nodup_singleton _
  | dir _ hdistinct _ ih =>
    refine List.nodup_cons.mpr ⟨fun hmem => ?_, nodup_listingIn hdistinct ih⟩
    obtain ⟨⟨_, e'⟩, hfound, heq⟩ := List.mem_map.mp hmem
    obtain ⟨_, _, rest, rfl, -⟩ := mem_listingIn_iff.mp hfound
    cases heq

theorem nodup_descendants {e : Entry} (h : e.Proper) : e.descendants.Nodup :=
  (nodup_listing h).filter _

end Entry

/-! ## Following names -/

namespace FileSystem

theorem entry?_append (fs : FileSystem) (names more : List String) :
    fs.entry? (names ++ more) = (fs.entry? names).bind fun e => e.find? more :=
  fs.top.find?_append names more

theorem isStay_eq (part : String) : isStay part = !Path.isComponent part :=
  (Bool.not_not _).symm

section

variable {fs : FileSystem} {links : Nat} {names : List String}

theorem follow_stays {entries : List (String × Entry)} (h : fs.entry? names = some (.dir entries))
    {stays : List String} (hstays : ∀ stay ∈ stays, Path.isComponent stay = false)
    (rest : List String) : follow links names (stays ++ rest) fs = follow links names rest fs := by
  induction stays with
  | nil => rfl
  | cons stay stays ih =>
    obtain ⟨hstay, hstays⟩ := List.forall_mem_cons.mp hstays
    have hstay : isStay stay = true := by rw [isStay_eq, hstay, Bool.not_false]
    rw [List.cons_append, follow_cons h, if_pos hstay, ih hstays]

/-- A path that goes on behind something that exists is followed from there, with the links that are
left.  The induction is on the links, and within it on the components. -/
theorem follow_append {parts names' : List String} {e : Entry}
    (h : follow links names parts fs = .ok (.existing names' e)) :
    fs.entry? names' = some e ∧ ∃ left, ∀ more,
      follow links names (parts ++ more) fs = follow left names' more fs := by
  induction links using Nat.strongRecOn generalizing names parts with
  | ind links ihlinks =>
    have hjump {names parts : List String} {target : String}
        (hentry : fs.entry? names = some (.link target))
        (h : follow links names parts fs = .ok (.existing names' e)) :
        fs.entry? names' = some e ∧ ∃ left, ∀ more,
          follow links names (parts ++ more) fs = follow left names' more fs := by
      rw [follow_link hentry] at h
      cases links with
      | zero => cases h
      | succ links =>
        obtain ⟨he, left, hleft⟩ := ihlinks links (Nat.lt_succ_self links) h
        refine ⟨he, left, fun more => ?_⟩
        rw [follow_link hentry, ← hleft, List.append_assoc]
        rfl
    induction parts generalizing names with
    | nil =>
      cases hentry : fs.entry? names with
      | none =>
        rw [follow_none hentry] at h
        cases h
      | some found =>
        cases found with
        | link target => exact hjump hentry h
        | _ =>
          rw [follow_nil hentry (by simp)] at h
          cases h
          exact ⟨hentry, links, fun more => rfl⟩
    | cons part rest ih =>
      cases hentry : fs.entry? names with
      | none =>
        rw [follow_none hentry] at h
        cases h
      | some found =>
        cases found with
        | link target => exact hjump hentry h
        | file data =>
          rw [follow_file hentry] at h
          cases h
        | dir entries =>
          rw [follow_cons hentry] at h
          simp only [List.cons_append, follow_cons hentry]
          split_ifs at h ⊢ with hstay hup hlong hsome hend
          · exact ih h
          · exact ih h
          · exact ih h
          · cases h

/-- Each of some components leads to an entry of the directory that is reached. -/
def Plain (parts : List String) : Prop :=
  ∀ part ∈ parts, Path.isComponent part = true ∧ part ≠ ".."

/-- **Names lead to the place of the entry that they have**, through directories alone. -/
theorem follow_through {parts : List String} (hparts : Plain parts)
    (hshort : ∀ part ∈ parts, (bytesOf part).length ≤ maxName) {e : Entry}
    (h : fs.entry? (names ++ parts) = some e) (more : List String) :
    follow links names (parts ++ more) fs = follow links (names ++ parts) more fs := by
  induction parts generalizing names with
  | nil => rw [List.append_nil, List.nil_append]
  | cons part rest ih =>
    obtain ⟨⟨hcomponent, hup⟩, hrest⟩ := List.forall_mem_cons.mp hparts
    obtain ⟨hpart, hshort⟩ := List.forall_mem_cons.mp hshort
    have hstay : ¬ isStay part = true := by simp [isStay_eq, hcomponent]
    obtain ⟨outer, houter, hfind⟩ :=
      Option.bind_eq_some_iff.mp ((entry?_append fs _ _).symm.trans h)
    rw [Entry.find?_cons] at hfind
    obtain ⟨child, hchild, -⟩ := Option.bind_eq_some_iff.mp hfind
    obtain ⟨entries, rfl⟩ := Entry.exists_dir_of_child? hchild
    have hsome : ((Entry.dir entries).child? part).isSome = true := by
      rw [hchild]
      rfl
    have happend : names ++ part :: rest = names ++ [part] ++ rest := by simp
    rw [List.cons_append, follow_cons houter, if_neg hstay, if_neg (by simpa using hup),
      if_neg (Nat.not_lt.mpr hpart), if_pos hsome, happend]
    exact ih hrest hshort (happend ▸ h)

/-- There is no link at some names, or on the way to them. -/
def Clear (fs : FileSystem) (names : List String) : Prop :=
  ∀ outer, outer <+: names → ∀ target, fs.entry? outer ≠ some (.link target)

/-- Some names come to a directory with a name that is too long for an entry. -/
def Oversized (fs : FileSystem) (names parts : List String) : Prop :=
  ∃ before part, before ++ [part] <+: parts ∧
    (∃ entries, fs.entry? (names ++ before) = some (.dir entries)) ∧
    maxName < (bytesOf part).length

theorem oversized_cons_iff {part : String} {rest : List String} :
    fs.Oversized names (part :: rest) ↔
      ((∃ entries, fs.entry? names = some (.dir entries)) ∧ maxName < (bytesOf part).length) ∨
      fs.Oversized (names ++ [part]) rest := by
  constructor
  · rintro ⟨before, long, hfront, hdir, hlong⟩
    cases before with
    | nil =>
      obtain ⟨rfl, -⟩ := List.cons_prefix_cons.mp hfront
      rw [List.append_nil] at hdir
      exact .inl ⟨hdir, hlong⟩
    | cons first before =>
      rw [List.cons_append] at hfront
      obtain ⟨rfl, hrest⟩ := List.cons_prefix_cons.mp hfront
      exact .inr ⟨before, long, hrest, by rwa [List.append_assoc], hlong⟩
  · rintro (⟨hdir, hlong⟩ | ⟨before, long, hfront, hdir, hlong⟩)
    · exact ⟨[], part, ⟨rest, rfl⟩, by rwa [List.append_nil], hlong⟩
    · refine ⟨part :: before, long, List.cons_prefix_cons.mpr ⟨rfl, hfront⟩, ?_, hlong⟩
      rwa [List.append_assoc] at hdir

theorem not_oversized_of_nothing (h : fs.entry? names = none) (parts : List String) :
    ¬ fs.Oversized names parts := by
  rintro ⟨before, _, -, ⟨entries, hdir⟩, -⟩
  rw [entry?_append, h] at hdir
  cases hdir

theorem not_oversized_of_short {parts : List String}
    (h : ∀ part ∈ parts, (bytesOf part).length ≤ maxName) : ¬ fs.Oversized names parts := by
  rintro ⟨before, long, hfront, -, hlong⟩
  exact Nat.not_le.mpr hlong (h long (hfront.subset (by simp)))

/-- **Names without an entry lead to nothing**, if no link is on the way and none of them is too
long. -/
theorem follow_missing {parts : List String} (hparts : Plain parts) {e : Entry}
    (h : fs.entry? names = some e) (hclear : fs.Clear (names ++ parts))
    (hnone : fs.entry? (names ++ parts) = none) :
    (fs.Oversized names parts ∧ follow links names parts fs = .error .nameTooLong) ∨
    (¬ fs.Oversized names parts ∧
      ((∃ dir name, follow links names parts fs = .ok (.missing dir name)) ∨
        follow links names parts fs = .error .noEntry ∨
        follow links names parts fs = .error .notDirectory)) := by
  induction parts generalizing names e with
  | nil =>
    rw [List.append_nil, h] at hnone
    cases hnone
  | cons part rest ih =>
    obtain ⟨⟨hcomponent, hup⟩, hrest⟩ := List.forall_mem_cons.mp hparts
    have hstay : ¬ isStay part = true := by simp [isStay_eq, hcomponent]
    have happend : names ++ part :: rest = names ++ [part] ++ rest := by simp
    rw [oversized_cons_iff]
    cases e with
    | link target => exact absurd h (hclear names (List.prefix_append _ _) target)
    | file data =>
      -- There is nothing below a file, whatever the names are.
      have hbelow : fs.entry? (names ++ [part]) = none := by
        rw [entry?_append, h]
        rfl
      refine .inr ⟨?_, .inr (.inr ?_)⟩
      · rintro (⟨⟨entries, hdir⟩, -⟩ | hover)
        · cases h.symm.trans hdir
        · exact not_oversized_of_nothing hbelow rest hover
      · exact follow_file h part rest
    | dir entries =>
      rw [follow_cons h, if_neg hstay, if_neg (by simpa using hup)]
      have hchild : fs.entry? (names ++ [part]) = (Entry.dir entries).child? part := by
        rw [entry?_append, h, Option.bind_some, Entry.find?_cons]
        exact Option.bind_fun_some _
      by_cases hlong : maxName < (bytesOf part).length
      · exact .inl ⟨.inl ⟨⟨entries, h⟩, hlong⟩, if_pos hlong⟩
      · have hover : ((∃ entries, fs.entry? names = some (.dir entries)) ∧
            maxName < (bytesOf part).length) ∨ fs.Oversized (names ++ [part]) rest ↔
            fs.Oversized (names ++ [part]) rest := or_iff_right fun hshort => hlong hshort.2
        rw [if_neg hlong, hover]
        cases hpart : (Entry.dir entries).child? part with
        | some child =>
          rw [Option.isSome_some, if_pos rfl]
          exact ih hrest (hchild.trans hpart) (happend ▸ hclear) (happend ▸ hnone)
        | none =>
          -- The path ends at the missing name or goes on behind it; both show that nothing is
          -- there.
          refine .inr ⟨not_oversized_of_nothing (hchild.trans hpart) rest, ?_⟩
          rw [Option.isSome_none, if_neg Bool.false_ne_true]
          by_cases hend : rest.isEmpty = true
          · exact .inl ⟨names, part, if_pos hend⟩
          · exact .inr (.inl (if_neg hend))

end

end FileSystem

/-! ## The paths of names -/

theorem length_bytesOf_append (s t : String) :
    (bytesOf (s ++ t)).length = (bytesOf s).length + (bytesOf t).length := by
  rw [bytesOf, String.toList_append, Utf8.encode_append, List.length_append]
  rfl

namespace Path

/-- The path of what some names lead to from `p`. -/
def below (p : Path) (names : List String) : Path := { p with parts := p.parts ++ names }

theorem below_append (p : Path) (names more : List String) :
    p.below (names ++ more) = (p.below names).below more := by
  simp [below]

theorem Clean.below {p : Path} (h : p.Clean) {names : List String}
    (hnames : ∀ name ∈ names, Entry.IsName name) : (p.below names).Clean := by
  intro part hpart
  rcases List.mem_append.mp hpart with hpart | hname
  · exact h part hpart
  · exact ⟨(hnames part hname).component, (hnames part hname).noSlash⟩

theorem text_ne_empty {p : Path} (h : p.Clean) : p.text ≠ "" := by
  intro hempty
  have hread : ofString "" = p := hempty ▸ ofString_text h
  rw [← hread] at hempty
  exact absurd hempty (by decide)

/-- Each part but the first has a slash in front of it. -/
theorem length_joinTexts {parts : List String} (h : parts ≠ []) :
    (bytesOf (Text.joinTexts "/" parts)).length + 1 =
      (parts.map fun part => (bytesOf part).length + 1).sum := by
  induction parts with
  | nil => exact absurd rfl h
  | cons part rest ih =>
    cases rest with
    | nil => simp [Text.joinTexts]
    | cons next more =>
      have hslash : (bytesOf "/").length = 1 := by decide
      rw [Text.joinTexts, length_bytesOf_append, length_bytesOf_append, hslash, List.map_cons,
        List.sum_cons, ← ih (List.cons_ne_nil next more)]
      · omega
      · exact List.cons_ne_nil next more

theorem length_text {p : Path} (h : p.parts ≠ []) :
    (bytesOf p.text).length + 1 = (bytesOf p.root.text).length +
      (p.parts.map fun part => (bytesOf part).length + 1).sum := by
  rw [text_of_parts h, length_bytesOf_append, Nat.add_assoc, length_joinTexts h]

/-- A NUL character in the text of a path is one in a part of it. -/
theorem hasNul_text_iff {p : Path} (h : p.Clean) :
    HasNul p.text ↔ ∃ part ∈ p.parts, HasNul part := by
  obtain ⟨stays, hstays, hpieces⟩ := pieces_text h
  have hstay : ∀ stay ∈ stays, ¬ HasNul stay := by
    intro stay hmem hnul
    have hcases : stay = "" ∨ stay = "." :=
      or_iff_not_imp_left.mpr (by simpa [isComponent] using hstays stay hmem)
    rcases hcases with rfl | rfl
    · exact absurd hnul List.not_mem_nil
    · exact absurd (List.mem_singleton.mp hnul) (by decide)
  rw [HasNul, ← mem_pieces_iff (by decide), hpieces]
  constructor
  · rintro ⟨piece, hpiece, hnul⟩
    rcases List.mem_append.mp hpiece with hmem | hmem
    · exact absurd hnul (hstay piece hmem)
    · exact ⟨piece, hmem, hnul⟩
  · rintro ⟨part, hpart, hnul⟩
    exact ⟨part, List.mem_append_right stays hpart, hnul⟩

end Path

namespace FileSystem

/-- A file system with a proper tree, whose current directory exists. -/
structure Proper (fs : FileSystem) : Prop where
  top : fs.top.Proper
  cwd : ∃ entries, fs.entry? fs.cwd = some (.dir entries)

/-- The root mark of a path decides where it starts. -/
theorem startOf_eq (fs : FileSystem) (path : String) :
    fs.startOf path = if Path.Root.ofChars path.toList = .relative then fs.cwd else [] := by
  have hrooted : path.startsWith "/" = true ↔ Path.Root.ofChars path.toList ≠ .relative := by
    rw [String.startsWith_string_iff, Path.Root.ofChars_ne_relative_iff]
    rfl
  rw [startOf, startFrom]
  by_cases hroot : Path.Root.ofChars path.toList = .relative
  · rw [if_neg fun hstart => hrooted.mp hstart hroot, if_pos hroot]
  · rw [if_pos (hrooted.mpr hroot), if_neg hroot]

theorem startOf_text (fs : FileSystem) {p : Path} (h : p.Clean) :
    fs.startOf p.text = if p.root = .relative then fs.cwd else [] := by
  rw [startOf_eq, Path.ofChars_text h]

theorem checkPath_eq_ok_iff {path : String} :
    checkPath path = .ok () ↔
      ¬ Path.HasNul path ∧ (bytesOf path).length < pathLimit ∧ path ≠ "" := by
  unfold checkPath
  split_ifs with hnul hlong hempty
  · simpa [Path.HasNul] using fun h => absurd (List.contains_iff_mem.mp hnul) h
  · simpa using fun _ hshort => absurd hlong (Nat.not_le.mpr hshort)
  · simp [String.isEmpty_iff.mp hempty]
  · refine ⟨fun _ => ⟨fun h => hnul (List.contains_iff_mem.mpr h), Nat.not_le.mp hlong, ?_⟩,
      fun _ => rfl⟩
    rintro rfl
    exact hempty rfl

theorem status_eq_some_iff_locate {fs : FileSystem} {path : String} {e : Entry} :
    fs.status path = .ok (some e) ↔ ∃ names, fs.locate path = .ok (.existing names e) := by
  rw [status]
  rcases fs.locate path with (⟨cause, _⟩ | _) | ⟨names, e'⟩ | _
  · cases cause <;> simp
  · simp
  · simp
  · simp

theorem status_eq_some_iff {fs : FileSystem} {path : String} {e : Entry} :
    fs.status path = .ok (some e) ↔ checkPath path = .ok () ∧
      ∃ names, follow maxLinks (fs.startOf path) (Path.pieces path) fs =
        .ok (.existing names e) := by
  rw [status_eq_some_iff_locate, locate]
  cases hcheck : checkPath path with
  | error error => simp
  | ok _ => cases follow maxLinks (fs.startOf path) (Path.pieces path) fs <;> simp

namespace Proper

variable {fs : FileSystem} (h : fs.Proper)

include h

theorem exists_top : ∃ entries, fs.entry? [] = some (.dir entries) := by
  obtain ⟨entries, hentries⟩ := h.cwd
  cases hcwd : fs.cwd with
  | nil => exact ⟨entries, hcwd ▸ hentries⟩
  | cons name rest =>
    rw [hcwd, FileSystem.entry?, Entry.find?_cons] at hentries
    obtain ⟨child, hchild, -⟩ := Option.bind_eq_some_iff.mp hentries
    obtain ⟨outer, houter⟩ := Entry.exists_dir_of_child? hchild
    exact ⟨outer, congrArg some houter⟩

/-- Paths start from a directory. -/
theorem exists_startOf (path : String) :
    ∃ entries, fs.entry? (fs.startOf path) = some (.dir entries) := by
  rw [startOf_eq]
  split_ifs
  · exact h.cwd
  · exact h.exists_top

end Proper

theorem status_eq_none_iff {fs : FileSystem} {path : String} :
    fs.status path = .ok none ↔ fs.pathExists path = .ok false := by
  rcases hstatus : fs.status path with error | _ | e <;> simp [pathExists, hstatus, Except.map]

theorem exists_status_iff {fs : FileSystem} {path : String} :
    (∃ e, fs.status path = .ok (some e)) ↔ fs.pathExists path = .ok true := by
  rcases hstatus : fs.status path with error | _ | e <;> simp [pathExists, hstatus, Except.map]

theorem locate_of_long {fs : FileSystem} {path : String} (hnul : ¬ Path.HasNul path)
    (hlong : pathLimit ≤ (bytesOf path).length) :
    fs.locate path = .error (.refused .nameTooLong path) := by
  rw [locate, checkPath, if_neg fun hmem => hnul (List.contains_iff_mem.mp hmem), if_pos hlong]

theorem status_of_long {fs : FileSystem} {path : String} (hnul : ¬ Path.HasNul path)
    (hlong : pathLimit ≤ (bytesOf path).length) :
    fs.status path = .error (.refused .nameTooLong path) := by
  rw [status, locate_of_long hnul hlong]

/-- What stands behind a path that there is can be asked for. -/
theorem not_hasNul_below {fs : FileSystem} {p : Path} (hp : p.Clean) {e : Entry}
    (h : fs.status p.text = .ok (some e)) {names : List String}
    (hnames : ∀ name ∈ names, Entry.IsName name) : ¬ Path.HasNul (p.below names).text := by
  obtain ⟨hnul, -, -⟩ := checkPath_eq_ok_iff.mp (status_eq_some_iff.mp h).1
  rw [Path.hasNul_text_iff (hp.below hnames)]
  rintro ⟨part, hpart, hpartNul⟩
  rcases List.mem_append.mp hpart with hpart | hname
  · exact hnul ((Path.hasNul_text_iff hp).mpr ⟨part, hpart, hpartNul⟩)
  · exact (hnames part hname).noNul hpartNul

/-- **What a tree has at some names is found at their path**, behind the path of the tree. -/
theorem status_below {fs : FileSystem} (hfs : fs.Proper) {p : Path} (hp : p.Clean)
    {entries : List (String × Entry)} (h : fs.status p.text = .ok (some (.dir entries)))
    {names : List String} {e : Entry} (hnames : ∀ name ∈ names, Entry.IsName name)
    (hfind : (Entry.dir entries).find? names = some e) (hlink : ∀ target, e ≠ .link target)
    (hshort : (bytesOf (p.below names).text).length < pathLimit) :
    fs.status (p.below names).text = .ok (some e) := by
  have hbelow := hp.below hnames
  obtain ⟨-, reached, hfollow⟩ := status_eq_some_iff.mp h
  refine status_eq_some_iff.mpr ⟨checkPath_eq_ok_iff.mpr ⟨not_hasNul_below hp h hnames, hshort,
    Path.text_ne_empty hbelow⟩, reached ++ names, ?_⟩
  have hstart : fs.startOf (p.below names).text = fs.startOf p.text := by
    rw [startOf_text fs hbelow, startOf_text fs hp]
    rfl
  -- The texts may begin differently, as `.` and `a` do, but only with pieces that lead nowhere.
  obtain ⟨stays, hstays, hpieces⟩ := Path.pieces_text hp
  obtain ⟨stays', hstays', hpieces'⟩ := Path.pieces_text hbelow
  obtain ⟨outer, houter⟩ := hfs.exists_startOf p.text
  rw [hpieces, follow_stays houter hstays] at hfollow
  obtain ⟨hreached, left, hleft⟩ := follow_append hfollow
  have hentry : fs.entry? (reached ++ names) = some e := by
    rw [entry?_append, hreached, Option.bind_some, hfind]
  have hplain : Plain names := fun name hname =>
    ⟨(hnames name hname).component, (hnames name hname).notUp⟩
  have hparts : (p.below names).parts = p.parts ++ (names ++ []) :=
    congrArg (p.parts ++ ·) (List.append_nil names).symm
  rw [hstart, hpieces', follow_stays houter hstays', hparts, hleft,
    follow_through hplain (fun name hname => (hnames name hname).short) hentry,
    follow_nil hentry hlink]

/-- What there is at a path is part of the tree. -/
theorem Proper.of_status {fs : FileSystem} (h : fs.Proper) {path : String} {e : Entry}
    (he : fs.status path = .ok (some e)) : e.Proper := by
  obtain ⟨-, names, hfollow⟩ := status_eq_some_iff.mp he
  exact (h.top.of_find? (follow_append hfollow).1).2

end FileSystem

end Cyclometry
