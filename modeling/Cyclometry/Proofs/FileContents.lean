import Mathlib.Tactic.SplitIfs
import Cyclometry.FileSystem
import Cyclometry.Proofs.Fallible

/-!
# What a written file changes

All that a path can show of a file system is what there is at some names: nothing, a directory, a
link with its path, or a file with its content (`FileSystem.finding`).  Placing a file where a path
may be written to changes this at the names of the file alone (`finding_place`); no directory and no
link comes or goes.

So a file system only ever changes in one way while files are written: something that is neither a
directory nor a link becomes a file (`Grown`).  Such a change does not affect where paths can be
written to (`Grown.writeTarget_eq`), because a path that leads through a missing entry fails just as
one that leads through a file.  It does not affect what is read at a path either, unless it happens
at one of the names that the path leads through (`read_eq_of_waypoints`).
-/

namespace Cyclometry

/-- What there is at some names. -/
inductive Finding
  | nothing
  | directory
  | link (target : String)
  | file (data : Bytes)
  deriving DecidableEq, Repr

namespace Finding

/-- What an entry is. -/
def ofEntry : Option Entry → Finding
  | none => nothing
  | some (.dir _) => directory
  | some (.link target) => link target
  | some (.file data) => file data

/-- It cannot make room for a file. -/
def isFixed : Finding → Bool
  | directory => true
  | link _ => true
  | _ => false

/-- The content of a file, or why there is none. -/
def content : Finding → Except FileError.Cause Bytes
  | nothing => .error .noEntry
  | directory => .error .isDirectory
  | link _ => .error .tooManyLinks
  | file data => .ok data

theorem ofEntry_eq_nothing_iff {e : Option Entry} : ofEntry e = nothing ↔ e = none := by
  rcases e with _ | ⟨_ | _ | _⟩ <;> simp [ofEntry]

theorem ofEntry_eq_directory_iff {e : Option Entry} :
    ofEntry e = directory ↔ ∃ entries, e = some (.dir entries) := by
  rcases e with _ | ⟨_ | _ | _⟩ <;> simp [ofEntry]

theorem ofEntry_eq_file_iff {e : Option Entry} {data : Bytes} :
    ofEntry e = file data ↔ e = some (.file data) := by
  rcases e with _ | ⟨_ | _ | _⟩ <;> simp [ofEntry]

theorem ofEntry_eq_link_iff {e : Option Entry} {target : String} :
    ofEntry e = link target ↔ e = some (.link target) := by
  rcases e with _ | ⟨_ | _ | _⟩ <;> simp [ofEntry]

end Finding

/-! ## Placing a file -/

namespace Entry

theorem find?_append (e : Entry) (xs ys : List String) :
    e.find? (xs ++ ys) = (e.find? xs).bind fun e => e.find? ys := by
  induction xs generalizing e with
  | nil => rfl
  | cons name xs ih =>
    rw [List.cons_append, find?, find?]
    cases e.child? name with
    | none => rfl
    | some child => exact ih child

theorem find?_concat (e : Entry) (xs : List String) (name : String) :
    e.find? (xs ++ [name]) = (e.find? xs).bind fun e => e.child? name := by
  rw [find?_append]
  refine Option.bind_congr fun child _ => ?_
  rw [find?]
  cases child.child? name <;> rfl

theorem child?_setChild (name : String) (new : Entry) (entries : List (String × Entry))
    (x : String) :
    (dir (setChild name new entries)).child? x =
      if x = name then some new else (dir entries).child? x := by
  induction entries with
  | nil =>
    by_cases hx : x = name
    · simp [setChild, child?, hx]
    · have hx' : ¬ name = x := fun h => hx h.symm
      simp [setChild, child?, hx, hx']
  | cons old rest ih =>
    simp only [child?] at ih ⊢
    rw [setChild]
    split
    · rename_i hold
      have hold : old.1 = name := beq_iff_eq.mp hold
      by_cases hx : x = name
      · simp [hx]
      · have hx' : ¬ name = x := fun h => hx h.symm
        simp [hx, hx', hold]
    · rename_i hold
      have hold : ¬ old.1 = name := fun h => hold (beq_iff_eq.mpr h)
      by_cases hx : old.1 = x
      · have hx' : ¬ x = name := fun h => hold (hx.trans h)
        simp [hx, hx']
      · have hskip (l : List (String × Entry)) : (old :: l).find? (fun e => e.1 == x) =
            l.find? fun e => e.1 == x := List.find?_cons_of_neg (by simpa using hx)
        rw [hskip, hskip, ih]

/-- A file may stand at the end of some names: they lead through directories, and not to one. -/
def admits : Entry → List String → Bool
  | file _, [] => true
  | dir entries, name :: rest =>
    match (dir entries).child? name with
    | some e => e.admits rest
    | none => rest.isEmpty
  | _, _ => false

/-- **A placed file changes its own names alone**: what there is at all others stays. -/
theorem finding_place {e : Entry} {names : List String} (h : e.admits names = true) (data : Bytes)
    (x : List String) :
    Finding.ofEntry ((e.place (file data) names).find? x) =
      if x = names then .file data else Finding.ofEntry (e.find? x) := by
  induction names generalizing e x with
  | nil =>
    cases e with
    | dir entries => cases h
    | link target => cases h
    | file old =>
      rw [place]
      cases x with
      | nil => rfl
      | cons name rest => rfl
  | cons name rest ih =>
    cases e with
    | file old => cases h
    | link target => cases h
    | dir entries =>
      rw [place]
      cases x with
      | nil => rfl
      | cons n x =>
        rw [find?, find?, child?_setChild]
        by_cases hn : n = name
        · subst hn
          rw [if_pos rfl]
          rw [admits] at h
          cases hchild : (dir entries).child? n with
          | none =>
            -- A new name is the last one, so there is nothing below it before or after.
            rw [hchild] at h
            obtain rfl : rest = [] := List.isEmpty_iff.mp h
            cases x <;> simp [place, find?, child?, Finding.ofEntry]
          | some child =>
            rw [hchild] at h
            simp only [Option.getD_some, List.cons.injEq, true_and]
            exact ih h x
        · rw [if_neg hn, if_neg fun heq => hn (List.cons.inj heq).1]

theorem admits_of_find?_file {e : Entry} {names : List String} {data : Bytes}
    (h : e.find? names = some (file data)) : e.admits names = true := by
  induction names generalizing e with
  | nil =>
    obtain rfl := Option.some.inj h
    rfl
  | cons name rest ih =>
    rw [find?] at h
    cases e with
    | file old => cases h
    | link target => cases h
    | dir entries =>
      rw [admits]
      cases hchild : (dir entries).child? name with
      | none =>
        rw [hchild] at h
        cases h
      | some child =>
        rw [hchild] at h
        exact ih h

theorem admits_concat {e : Entry} {names : List String} {entries : List (String × Entry)}
    (h : e.find? names = some (dir entries)) {name : String}
    (hname : (dir entries).child? name = none) : e.admits (names ++ [name]) = true := by
  induction names generalizing e with
  | nil =>
    obtain rfl := Option.some.inj h
    rw [List.nil_append, admits, hname]
    rfl
  | cons first rest ih =>
    rw [find?] at h
    cases e with
    | file old => cases h
    | link target => cases h
    | dir outer =>
      rw [List.cons_append, admits]
      cases hchild : (dir outer).child? first with
      | none =>
        rw [hchild] at h
        cases h
      | some child =>
        rw [hchild] at h
        exact ih h

end Entry

/-! ## Following paths -/

theorem Path.pieces_ne_nil (path : String) : pieces path ≠ [] := by
  simpa [pieces] using Text.splitOn_ne_nil '/' path.toList

namespace FileSystem

/-- What there is at some names from the root. -/
def finding (fs : FileSystem) (names : List String) : Finding := .ofEntry (fs.entry? names)

/-- **A written file changes its own names alone.** -/
theorem finding_place {fs : FileSystem} {names : List String} (h : fs.top.admits names = true)
    (data : Bytes) (x : List String) :
    (fs.place names (.file data)).finding x = if x = names then .file data else fs.finding x :=
  Entry.finding_place h data x

theorem finding_concat {fs : FileSystem} {names : List String} {entries : List (String × Entry)}
    (h : fs.entry? names = some (.dir entries)) (name : String) :
    fs.finding (names ++ [name]) = .ofEntry ((Entry.dir entries).child? name) := by
  have hfind : fs.top.find? names = some (.dir entries) := h
  rw [finding, entry?, Entry.find?_concat, hfind, Option.bind_some]

/-- Where there is something, there is something one step up. -/
theorem finding_dropLast {fs : FileSystem} {names : List String} (h : fs.finding names ≠ .nothing) :
    fs.finding names.dropLast ≠ .nothing := by
  rcases List.eq_nil_or_concat names with rfl | ⟨outer, name, rfl⟩
  · exact h
  · rw [List.concat_eq_append] at h ⊢
    rw [List.dropLast_concat]
    intro houter
    have hnone : fs.top.find? outer = none := Finding.ofEntry_eq_nothing_iff.mp houter
    refine h (Finding.ofEntry_eq_nothing_iff.mpr ?_)
    rw [FileSystem.entry?, Entry.find?_concat, hnone, Option.bind_none]

theorem admits_of_file {fs : FileSystem} {names : List String} {data : Bytes}
    (h : fs.finding names = .file data) : fs.top.admits names = true :=
  Entry.admits_of_find?_file (Finding.ofEntry_eq_file_iff.mp h)

theorem admits_of_free {fs : FileSystem} {names : List String} {name : String}
    (hdir : fs.finding names = .directory) (hfree : fs.finding (names ++ [name]) = .nothing) :
    fs.top.admits (names ++ [name]) = true := by
  obtain ⟨entries, hentries⟩ := Finding.ofEntry_eq_directory_iff.mp hdir
  rw [finding_concat hentries, Finding.ofEntry_eq_nothing_iff] at hfree
  exact Entry.admits_concat hentries hfree

/-! ## Following a path, one component at a time -/

/-- What is done at a link, with so many links left. -/
def afterLink (fs : FileSystem) : Nat → List String → List String → Except FileError.Cause Target
  | 0 => fun _ _ => .error .tooManyLinks
  | links + 1 => fun names parts => follow links names parts fs

theorem follow_eq (links : Nat) (names parts : List String) (fs : FileSystem) :
    follow links names parts fs = followWith (fs.afterLink links) names parts fs := by
  cases links <;> rfl

section

variable {fs : FileSystem} {links : Nat} {names : List String}

theorem follow_none (h : fs.entry? names = none) (parts : List String) :
    follow links names parts fs = .error .noEntry := by
  rw [follow_eq, followWith.eq_def, h]

theorem follow_nil {e : Entry} (h : fs.entry? names = some e) (hlink : ∀ target, e ≠ .link target) :
    follow links names [] fs = .ok (.existing names e) := by
  rw [follow_eq, followWith.eq_def, h]
  cases e with
  | link target => exact absurd rfl (hlink target)
  | _ => rfl

theorem follow_link {target : String} (h : fs.entry? names = some (.link target))
    (parts : List String) :
    follow links names parts fs =
      fs.afterLink links (startFrom names.dropLast target) (Path.pieces target ++ parts) := by
  rw [follow_eq, followWith.eq_def, h]

theorem follow_file {data : Bytes} (h : fs.entry? names = some (.file data)) (part : String)
    (rest : List String) : follow links names (part :: rest) fs = .error .notDirectory := by
  rw [follow_eq, followWith.eq_def, h]

/-- One step from a directory. -/
theorem follow_cons {entries : List (String × Entry)} (h : fs.entry? names = some (.dir entries))
    (part : String) (rest : List String) :
    follow links names (part :: rest) fs =
      if isStay part then follow links names rest fs
      else if part == ".." then follow links names.dropLast rest fs
      else if maxName < (bytesOf part).length then .error .nameTooLong
      else if ((Entry.dir entries).child? part).isSome then follow links (names ++ [part]) rest fs
      else if rest.isEmpty then .ok (.missing names part)
      else .error .noEntry := by
  simp only [follow_eq]
  rw [followWith.eq_def, h]

end

/-! ## What is seen at the end of a path -/

/-- Where a path leads to, and what there is. -/
def Target.seen : Target → List String × Finding
  | existing names e => (names, .ofEntry (some e))
  | missing dir name => (dir ++ [name], .nothing)

/-- Where the components of a path lead to from some names, and what there is. -/
def look (fs : FileSystem) (links : Nat) (names parts : List String) :
    Except FileError.Cause (List String × Finding) :=
  (follow links names parts fs).map Target.seen

/-- Where a link leads to from some names, if one more link can be followed. -/
def jump (fs : FileSystem) (links : Nat) (names parts : List String) :
    Except FileError.Cause (List String × Finding) :=
  match links with
  | 0 => .error .tooManyLinks
  | links + 1 => fs.look links names parts

/-! What is seen depends on the findings alone: one equation for each of them. -/

theorem look_nothing {fs : FileSystem} {names : List String} (h : fs.finding names = .nothing)
    (links : Nat) (parts : List String) : fs.look links names parts = .error .noEntry := by
  rw [look, follow_none (Finding.ofEntry_eq_nothing_iff.mp h)]
  rfl

theorem look_link {fs : FileSystem} {names : List String} {target : String}
    (h : fs.finding names = .link target) (links : Nat) (parts : List String) :
    fs.look links names parts =
      fs.jump links (startFrom names.dropLast target) (Path.pieces target ++ parts) := by
  rw [look, follow_link (Finding.ofEntry_eq_link_iff.mp h)]
  cases links <;> rfl

theorem look_nil {fs : FileSystem} {names : List String} {f : Finding}
    (h : fs.finding names = f) (hnothing : f ≠ .nothing) (hlink : ∀ target, f ≠ .link target)
    (links : Nat) : fs.look links names [] = .ok (names, f) := by
  subst h
  cases hentry : fs.entry? names with
  | none => exact absurd (Finding.ofEntry_eq_nothing_iff.mpr hentry) hnothing
  | some e =>
    cases e with
    | link target => exact absurd (Finding.ofEntry_eq_link_iff.mpr hentry) (hlink target)
    | _ =>
      rw [look, follow_nil hentry (by simp), finding, hentry]
      rfl

theorem look_file {fs : FileSystem} {names : List String} {data : Bytes}
    (h : fs.finding names = .file data) (links : Nat) (part : String) (rest : List String) :
    fs.look links names (part :: rest) = .error .notDirectory := by
  rw [look, follow_file (Finding.ofEntry_eq_file_iff.mp h)]
  rfl

/-- Where the components of a path lead to from a name in a directory, at which there may be
nothing if the path ends there. -/
def arrive (fs : FileSystem) (links : Nat) (names rest : List String) :
    Except FileError.Cause (List String × Finding) :=
  if fs.finding names = .nothing ∧ rest = [] then .ok (names, .nothing)
  else fs.look links names rest

theorem arrive_free {fs : FileSystem} {names : List String} (h : fs.finding names = .nothing)
    (links : Nat) : fs.arrive links names [] = .ok (names, .nothing) := if_pos ⟨h, rfl⟩

theorem arrive_eq_look {fs : FileSystem} {names rest : List String}
    (h : fs.finding names ≠ .nothing ∨ rest ≠ []) (links : Nat) :
    fs.arrive links names rest = fs.look links names rest :=
  if_neg (Decidable.not_and_iff_or_not.mpr h)

theorem look_directory {fs : FileSystem} {names : List String}
    (h : fs.finding names = .directory) (links : Nat) (part : String) (rest : List String) :
    fs.look links names (part :: rest) =
      if isStay part then fs.look links names rest
      else if part == ".." then fs.look links names.dropLast rest
      else if maxName < (bytesOf part).length then .error .nameTooLong
      else fs.arrive links (names ++ [part]) rest := by
  obtain ⟨entries, hentries⟩ := Finding.ofEntry_eq_directory_iff.mp h
  have hfree : fs.finding (names ++ [part]) = .nothing ↔
      (Entry.dir entries).child? part = none := by
    rw [finding_concat hentries, Finding.ofEntry_eq_nothing_iff]
  rw [look, follow_cons hentries]
  split_ifs with hstay hup hlong hsome hend
  · rfl
  · rfl
  · rfl
  · rw [arrive_eq_look (.inl fun hnone => ?_)]
    · rfl
    · rw [hfree.mp hnone] at hsome
      cases hsome
  all_goals
    have hnone : fs.finding (names ++ [part]) = .nothing := hfree.mpr (by simpa using hsome)
  · rw [List.isEmpty_iff.mp hend, arrive_free hnone]
    rfl
  · rw [arrive_eq_look (.inr fun hnil => hend (List.isEmpty_iff.mpr hnil)), look_nothing hnone]
    rfl

/-- What is seen at the end of a path is what there is.  It is no link, and a file may stand there
unless there is a directory.  The induction is on the links that are left, and then on the
components in front of the next link. -/
theorem look_ok {fs : FileSystem} {links : Nat} {names parts target : List String} {f : Finding}
    (h : fs.look links names parts = .ok (target, f)) :
    fs.finding target = f ∧ (∀ path, f ≠ .link path) ∧
      (f ≠ .directory → fs.top.admits target = true) := by
  induction links using Nat.strongRecOn generalizing names parts with
  | ind links jumps =>
    have hjump {names parts : List String} (h : fs.jump links names parts = .ok (target, f)) :
        fs.finding target = f ∧ (∀ path, f ≠ .link path) ∧
          (f ≠ .directory → fs.top.admits target = true) := by
      cases links with
      | zero => cases h
      | succ left => exact jumps left (Nat.lt_succ_self left) h
    induction parts generalizing names with
    | nil =>
      cases hf : fs.finding names with
      | nothing =>
        rw [look_nothing hf] at h
        cases h
      | link path =>
        rw [look_link hf] at h
        exact hjump h
      | directory =>
        rw [look_nil hf (by simp) (by simp)] at h
        cases h
        exact ⟨hf, by simp, fun hne => absurd rfl hne⟩
      | file data =>
        rw [look_nil hf (by simp) (by simp)] at h
        cases h
        exact ⟨hf, by simp, fun _ => admits_of_file hf⟩
    | cons part rest ih =>
      cases hf : fs.finding names with
      | nothing =>
        rw [look_nothing hf] at h
        cases h
      | link path =>
        rw [look_link hf] at h
        exact hjump h
      | file data =>
        rw [look_file hf] at h
        cases h
      | directory =>
        rw [look_directory hf] at h
        split_ifs at h
        · exact ih h
        · exact ih h
        · rw [arrive] at h
          split_ifs at h with hend
          · cases h
            exact ⟨hend.1, by simp, fun _ => admits_of_free hf hend.1⟩
          · exact ih h

/-! ## Paths that are read -/

/-- What is read at a path is the content of what is seen there. -/
theorem read_eq (fs : FileSystem) (path : String) :
    fs.read path =
      match checkPath path with
      | .error error => .error error
      | .ok () =>
        match (fs.look maxLinks (fs.startOf path) (Path.pieces path)).bind
          fun seen => seen.2.content with
        | .ok data => .ok data
        | .error cause => .error (.refused cause path) := by
  rw [read, locate, look]
  cases checkPath path with
  | error error => rfl
  | ok _ =>
    cases follow maxLinks (fs.startOf path) (Path.pieces path) fs with
    | error cause => rfl
    | ok target =>
      rcases target with ⟨names, _ | _ | _⟩ | _ <;> rfl

/-- The names that components lead through: the ones they start from and, as long as there is a
directory, those that each of them leads to.  At a link, `jump` gives the names that it and what
comes behind it lead through. -/
def waypointsWith (fs : FileSystem) (jump : List String → List String → List (List String))
    (names parts : List String) : List (List String) :=
  names ::
    match fs.finding names, parts with
    | .link target, parts => jump (startFrom names.dropLast target) (Path.pieces target ++ parts)
    | .directory, part :: rest =>
      if isStay part then fs.waypointsWith jump names rest
      else if part == ".." then fs.waypointsWith jump names.dropLast rest
      else fs.waypointsWith jump (names ++ [part]) rest
    | _, _ => []

/-- The names that components lead through, with so many links left. -/
def waypointsFrom (fs : FileSystem) : Nat → List String → List String → List (List String)
  | 0 => fs.waypointsWith fun _ _ => []
  | links + 1 => fs.waypointsWith (fs.waypointsFrom links)

/-- The names that a path leads through. -/
def waypoints (fs : FileSystem) (path : String) : List (List String) :=
  fs.waypointsFrom maxLinks (fs.startOf path) (Path.pieces path)

theorem mem_waypointsFrom_self (fs : FileSystem) (links : Nat) (names parts : List String) :
    names ∈ fs.waypointsFrom links names parts := by
  cases links <;> (rw [waypointsFrom, waypointsWith.eq_def]; exact List.mem_cons_self)

/-- A component in a directory leads on to these names. -/
theorem waypointsFrom_directory {fs : FileSystem} {names : List String}
    (h : fs.finding names = .directory) (links : Nat) (part : String) (rest : List String) :
    fs.waypointsFrom links names (part :: rest) = names ::
      if isStay part then fs.waypointsFrom links names rest
      else if part == ".." then fs.waypointsFrom links names.dropLast rest
      else fs.waypointsFrom links (names ++ [part]) rest := by
  cases links <;> (rw [waypointsFrom, waypointsWith.eq_def, h])

theorem waypointsFrom_link {fs : FileSystem} {names : List String} {target : String}
    (h : fs.finding names = .link target) (links : Nat) (parts : List String) :
    fs.waypointsFrom (links + 1) names parts = names ::
      fs.waypointsFrom links (startFrom names.dropLast target) (Path.pieces target ++ parts) := by
  rw [waypointsFrom, waypointsWith.eq_def, h]

/-- A path that leads through unchanged names shows what it showed before. -/
theorem look_eq_of_waypoints {fs fs' : FileSystem} {links : Nat} {names parts : List String}
    (h : ∀ x ∈ fs.waypointsFrom links names parts, fs'.finding x = fs.finding x) :
    fs'.look links names parts = fs.look links names parts := by
  induction links using Nat.strongRecOn generalizing names parts with
  | ind links jumps =>
    have hlink {names parts : List String} {target : String}
        (h : ∀ x ∈ fs.waypointsFrom links names parts, fs'.finding x = fs.finding x)
        (hf : fs.finding names = .link target) :
        fs'.look links names parts = fs.look links names parts := by
      have hself := h names (mem_waypointsFrom_self fs links names parts)
      rw [look_link hf, look_link (hself.trans hf)]
      cases links with
      | zero => rfl
      | succ left =>
        refine jumps left (Nat.lt_succ_self left) fun x hx => h x ?_
        rw [waypointsFrom_link hf]
        exact List.mem_cons_of_mem names hx
    induction parts generalizing names with
    | nil =>
      have hself := h names (mem_waypointsFrom_self fs links names [])
      cases hf : fs.finding names with
      | nothing => rw [look_nothing hf, look_nothing (hself.trans hf)]
      | link target => exact hlink h hf
      | directory =>
        rw [look_nil hf (by simp) (by simp), look_nil (hself.trans hf) (by simp) (by simp)]
      | file data =>
        rw [look_nil hf (by simp) (by simp), look_nil (hself.trans hf) (by simp) (by simp)]
    | cons part rest ih =>
      have hself := h names (mem_waypointsFrom_self fs links names (part :: rest))
      cases hf : fs.finding names with
      | nothing => rw [look_nothing hf, look_nothing (hself.trans hf)]
      | link target => exact hlink h hf
      | file data => rw [look_file hf, look_file (hself.trans hf)]
      | directory =>
        rw [waypointsFrom_directory hf] at h
        have hrest := fun x hx => h x (List.mem_cons_of_mem names hx)
        rw [look_directory hf, look_directory (hself.trans hf)]
        split_ifs at hrest ⊢ with hstay hup hlong
        · exact ih hrest
        · exact ih hrest
        · rfl
        · rw [arrive, arrive, ih hrest, hrest _ (mem_waypointsFrom_self fs links _ rest)]

/-- **What is read at a path depends on the names it leads through alone.** -/
theorem read_eq_of_waypoints {fs fs' : FileSystem} {path : String} (hcwd : fs'.cwd = fs.cwd)
    (h : ∀ x ∈ fs.waypoints path, fs'.finding x = fs.finding x) :
    fs'.read path = fs.read path := by
  have hstart : fs'.startOf path = fs.startOf path := by rw [startOf, startOf, hcwd]
  rw [read_eq, read_eq, hstart, look_eq_of_waypoints h]

/-! ## Paths that are written to -/

/-- Where a new content goes, if there is room for a file. -/
def spot? (seen : List String × Finding) : Option (List String) :=
  if seen.2.isFixed then none else some seen.1

/-- Where a path can be written to. -/
theorem toOption_writeTarget (fs : FileSystem) (path : String) :
    (fs.writeTarget path).toOption =
      match checkPath path with
      | .error _ => none
      | .ok () =>
        if path.endsWith "/" then none
        else (fs.look maxLinks (fs.startOf path) (Path.pieces path)).toOption.bind spot? := by
  rw [writeTarget, locate, look]
  cases checkPath path with
  | error error => rfl
  | ok _ =>
    by_cases hslash : path.endsWith "/" = true
    · simp only [hslash, if_true]
      rfl
    · simp only [hslash]
      cases follow maxLinks (fs.startOf path) (Path.pieces path) fs with
      | error cause => rfl
      | ok target =>
        rcases target with ⟨names, _ | _ | _⟩ | _ <;> rfl

/-- A file may stand where a path can be written to, and there is neither a directory nor a link. -/
theorem of_writeTarget {fs : FileSystem} {path : String} {names : List String}
    (h : fs.writeTarget path = .ok names) :
    (fs.finding names).isFixed = false ∧ fs.top.admits names = true := by
  have hspot : (fs.writeTarget path).toOption = some names := by rw [h]; rfl
  rw [toOption_writeTarget] at hspot
  split at hspot
  · cases hspot
  · split_ifs at hspot
    obtain ⟨⟨target, f⟩, hlook, hfree⟩ := Option.bind_eq_some_iff.mp hspot
    rw [spot?] at hfree
    split_ifs at hfree with hfixed
    obtain rfl := Option.some.inj hfree
    obtain ⟨rfl, -, hadmits⟩ := look_ok (toOption_eq_some_iff.mp hlook)
    refine ⟨Bool.not_eq_true _ ▸ hfixed, hadmits fun hdir => hfixed ?_⟩
    simp [hdir, Finding.isFixed]

/-- No directory and no link comes or goes from one file system to another, and no file goes: at
some names where there is nothing or a file there may be a new file, or a new content. -/
structure Grown (fs fs' : FileSystem) : Prop where
  cwd : fs'.cwd = fs.cwd
  finding (names : List String) :
    fs'.finding names = fs.finding names ∨
      (fs.finding names).isFixed = false ∧ ∃ data, fs'.finding names = .file data

namespace Grown

theorem refl (fs : FileSystem) : Grown fs fs := ⟨rfl, fun _ => .inl rfl⟩

theorem fixed {fs fs' : FileSystem} (h : Grown fs fs') {names : List String}
    (hfixed : (fs.finding names).isFixed = true) : fs'.finding names = fs.finding names := by
  rcases h.finding names with hsame | ⟨hfree, -⟩
  · exact hsame
  · rw [hfree] at hfixed
    cases hfixed

theorem free {fs fs' : FileSystem} (h : Grown fs fs') {names : List String}
    (hfree : (fs'.finding names).isFixed = false) : (fs.finding names).isFixed = false := by
  cases hfixed : (fs.finding names).isFixed with
  | false => rfl
  | true =>
    rw [h.fixed hfixed, hfixed] at hfree
    cases hfree

theorem place {fs fs' : FileSystem} (h : Grown fs fs') {path : String} {names : List String}
    (hnames : fs'.writeTarget path = .ok names) (data : Bytes) :
    Grown fs (fs'.place names (.file data)) := by
  obtain ⟨hfree, hadmits⟩ := of_writeTarget hnames
  refine ⟨h.cwd, fun x => ?_⟩
  rw [finding_place hadmits]
  by_cases hx : x = names
  · subst hx
    rw [if_pos rfl]
    exact .inr ⟨h.free hfree, data, rfl⟩
  · rw [if_neg hx]
    exact h.finding x

theorem directory {fs fs' : FileSystem} (h : Grown fs fs') {names : List String}
    (hdir : fs.finding names = .directory) : fs'.finding names = .directory := by
  rw [h.fixed (by rw [hdir]; rfl), hdir]

theorem link {fs fs' : FileSystem} (h : Grown fs fs') {names : List String} {target : String}
    (hlink : fs.finding names = .link target) : fs'.finding names = .link target := by
  rw [h.fixed (by rw [hlink]; rfl), hlink]

theorem file {fs fs' : FileSystem} (h : Grown fs fs') {names : List String} {data : Bytes}
    (hfile : fs.finding names = .file data) : ∃ data, fs'.finding names = .file data := by
  rcases h.finding names with hsame | ⟨-, hnew⟩
  · exact ⟨data, hsame.trans hfile⟩
  · exact hnew

theorem nothing {fs fs' : FileSystem} (h : Grown fs fs') {names : List String}
    (hnothing : fs.finding names = .nothing) :
    fs'.finding names = .nothing ∨ ∃ data, fs'.finding names = .file data := by
  rcases h.finding names with hsame | ⟨-, hnew⟩
  · exact .inl (hsame.trans hnothing)
  · exact .inr hnew

theorem something {fs fs' : FileSystem} (h : Grown fs fs') {names : List String}
    (hne : fs.finding names ≠ .nothing) : fs'.finding names ≠ .nothing := by
  rcases h.finding names with hsame | ⟨-, data, hnew⟩
  · rwa [hsame]
  · simp [hnew]

theorem trans {fs₁ fs₂ fs₃ : FileSystem} (h : Grown fs₁ fs₂) (h' : Grown fs₂ fs₃) :
    Grown fs₁ fs₃ := by
  refine ⟨h'.cwd.trans h.cwd, fun names => ?_⟩
  rcases h'.finding names with hsame | ⟨hfree, data, hnew⟩
  · rw [hsame]
    exact h.finding names
  · exact .inr ⟨h.free hfree, data, hnew⟩

/-- At a name in a directory, a new content can go where a new file can. -/
theorem spot_arrive {fs fs' : FileSystem} (h : Grown fs fs') {links : Nat}
    {names rest : List String}
    (ih : fs.finding names ≠ .nothing ∨ rest ≠ [] →
      (fs'.look links names rest).toOption.bind spot? =
        (fs.look links names rest).toOption.bind spot?) :
    (fs'.arrive links names rest).toOption.bind spot? =
      (fs.arrive links names rest).toOption.bind spot? := by
  by_cases hend : fs.finding names = .nothing ∧ rest = []
  · obtain ⟨hf, rfl⟩ := hend
    rw [arrive_free hf]
    rcases h.nothing hf with hnone | ⟨data, hfile⟩
    · rw [arrive_free hnone]
    · rw [arrive_eq_look (.inl (by simp [hfile])), look_nil hfile (by simp) (by simp)]
      rfl
  · have hgo : fs.finding names ≠ .nothing ∨ rest ≠ [] := Decidable.not_and_iff_or_not.mp hend
    rw [arrive_eq_look hgo, arrive_eq_look (hgo.imp_left h.something), ih hgo]

/-- A new file makes no path writable and none unwritable: a path through it fails as it did when
there was nothing. -/
theorem spot_look {fs fs' : FileSystem} (h : Grown fs fs') {links : Nat}
    {names parts : List String} (hstart : fs.finding names ≠ .nothing ∨ parts ≠ []) :
    (fs'.look links names parts).toOption.bind spot? =
      (fs.look links names parts).toOption.bind spot? := by
  induction links using Nat.strongRecOn generalizing names parts with
  | ind links jumps =>
    have hlink {names parts : List String} {target : String}
        (hf : fs.finding names = .link target) :
        (fs'.look links names parts).toOption.bind spot? =
          (fs.look links names parts).toOption.bind spot? := by
      rw [look_link hf, look_link (h.link hf)]
      cases links with
      | zero => rfl
      | succ left =>
        refine jumps left (Nat.lt_succ_self left) (.inr ?_)
        simp [Path.pieces_ne_nil]
    induction parts generalizing names with
    | nil =>
      have hne : fs.finding names ≠ .nothing := hstart.resolve_right (fun hnil => hnil rfl)
      cases hf : fs.finding names with
      | nothing => exact absurd hf hne
      | link target => exact hlink hf
      | directory =>
        rw [look_nil hf (by simp) (by simp), look_nil (h.directory hf) (by simp) (by simp)]
      | file data =>
        obtain ⟨new, hnew⟩ := h.file hf
        rw [look_nil hf (by simp) (by simp), look_nil hnew (by simp) (by simp)]
        rfl
    | cons part rest ih =>
      cases hf : fs.finding names with
      | nothing =>
        rw [look_nothing hf]
        -- The causes may differ now, but a path that goes on from here fails all the same.
        rcases h.nothing hf with hnone | ⟨data, hfile⟩
        · rw [look_nothing hnone]
        · rw [look_file hfile]
          rfl
      | link target => exact hlink hf
      | file data =>
        obtain ⟨new, hnew⟩ := h.file hf
        rw [look_file hf, look_file hnew]
      | directory =>
        have hsome : fs.finding names ≠ .nothing := by simp [hf]
        rw [look_directory hf, look_directory (h.directory hf)]
        split_ifs
        · exact ih (.inl hsome)
        · exact ih (.inl (finding_dropLast hsome))
        · rfl
        · exact h.spot_arrive ih

/-- **A new file does not affect where paths can be written to.** -/
theorem writeTarget_eq {fs fs' : FileSystem} (h : Grown fs fs') (path : String) :
    (fs'.writeTarget path).toOption = (fs.writeTarget path).toOption := by
  have hstart : fs'.startOf path = fs.startOf path := by rw [startOf, startOf, h.cwd]
  rw [toOption_writeTarget, toOption_writeTarget, hstart,
    h.spot_look (.inr (Path.pieces_ne_nil path))]

end Grown

end FileSystem

end Cyclometry
