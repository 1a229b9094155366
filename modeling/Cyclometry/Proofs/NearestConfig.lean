import Cyclometry.Proofs.ResolvedPaths
import Cyclometry.Settings

/-!
# The nearest configuration file

The search for a configuration file starts from the path that the links in a path come to
(`FileSystem.resolve`), or from the directory of the file that is there.  From there it goes up, and
the first directory with one of the files counts, whatever is in those above it (`Settings.Asks`).
It ends in exactly one way (`Settings.Ends.unique`): with a file, with nothing, or with the error of
the first path that the system refuses.

What counts is what the system shows at a path (`FileSystem.status`).  Behind a resolved path this
is the entry of the name itself, or what it leads to if it is a link (`FileSystem.Yields`).  So a
link that leads nowhere is passed over.
-/

namespace Cyclometry

namespace Settings

/-! ## What is searched for -/

/-- There is nothing at any of the paths of the files in a directory. -/
def Bare (fs : FileSystem) (dir : Path) : Prop :=
  ∀ name ∈ fileNames, fs.status (dir.child name).text = .ok none

/-- There is nothing at the paths of the files that are preferred to this one. -/
def Preferred (fs : FileSystem) (dir : Path) (name : String) : Prop :=
  ∃ before after, fileNames = before ++ name :: after ∧
    ∀ other ∈ before, fs.status (dir.child other).text = .ok none

/-- The search from `dir` up asks for a file: nothing has been there before. -/
structure Asks (fs : FileSystem) (dir : Path) (outer : List String) (name : String) : Prop where
  above : outer <+: dir.parts
  deeper : ∀ inner, inner <+: dir.parts → outer.length < inner.length → Bare fs ⟨dir.root, inner⟩
  preferred : Preferred fs ⟨dir.root, outer⟩ name

/-- What a search from `dir` up comes to. -/
inductive Ends (fs : FileSystem) (dir : Path) : Except FileError (Option String) → Prop
  | nothing (hbare : ∀ outer, outer <+: dir.parts → Bare fs ⟨dir.root, outer⟩) :
      Ends fs dir (.ok none)
  | found {outer : List String} {name : String} {e : Entry} (hasks : Asks fs dir outer name)
      (hthere : fs.status (Path.mk dir.root (outer ++ [name])).text = .ok (some e)) :
      Ends fs dir (.ok (some (Path.mk dir.root (outer ++ [name])).text))
  | refused {outer : List String} {name : String} {error : FileError}
      (hasks : Asks fs dir outer name)
      (hrefused : fs.status (Path.mk dir.root (outer ++ [name])).text = .error error) :
      Ends fs dir (.error error)

variable {fs : FileSystem}

theorem Preferred.mem {dir : Path} {name : String} (h : Preferred fs dir name) :
    name ∈ fileNames := by
  obtain ⟨before, after, hnames, -⟩ := h
  rw [hnames]
  exact List.mem_append_right before List.mem_cons_self

/-- Two files with something at their paths cannot both be the preferred one. -/
theorem Preferred.unique {dir : Path} {name name' : String} (h : Preferred fs dir name)
    (h' : Preferred fs dir name') (hthere : fs.status (dir.child name).text ≠ .ok none)
    (hthere' : fs.status (dir.child name').text ≠ .ok none) : name = name' := by
  obtain ⟨before, after, hnames, hbefore⟩ := h
  obtain ⟨before', after', hnames', hbefore'⟩ := h'
  rcases List.append_eq_append_iff.mp (hnames.symm.trans hnames') with
    ⟨mid, rfl, hmid⟩ | ⟨mid, rfl, hmid⟩
  · cases mid with
    | nil => exact (List.cons.inj hmid).1
    | cons other rest =>
      obtain rfl := (List.cons.inj hmid).1
      exact absurd (hbefore' name (by simp)) hthere
  · cases mid with
    | nil => exact (List.cons.inj hmid).1.symm
    | cons other rest =>
      obtain rfl := (List.cons.inj hmid).1
      exact absurd (hbefore name' (by simp)) hthere'

/-- The search asks for at most one file with something at its path. -/
theorem Asks.unique {dir : Path} {outer outer' : List String} {name name' : String}
    (h : Asks fs dir outer name) (h' : Asks fs dir outer' name')
    (hthere : fs.status (Path.mk dir.root (outer ++ [name])).text ≠ .ok none)
    (hthere' : fs.status (Path.mk dir.root (outer' ++ [name'])).text ≠ .ok none) :
    outer = outer' ∧ name = name' := by
  -- If one of the directories were deeper, nothing would be at its paths.
  have hlength : outer.length = outer'.length := by
    refine Nat.le_antisymm (Nat.not_lt.mp fun hlt => ?_) (Nat.not_lt.mp fun hlt => ?_)
    · exact hthere (h'.deeper outer h.above hlt name h.preferred.mem)
    · exact hthere' (h.deeper outer' h'.above hlt name' h'.preferred.mem)
  obtain rfl : outer = outer' :=
    (List.prefix_of_prefix_length_le h.above h'.above hlength.le).eq_of_length hlength
  exact ⟨rfl, h.preferred.unique h'.preferred hthere hthere'⟩

theorem Asks.not_bare {dir : Path} {outer : List String} {name : String}
    (h : Asks fs dir outer name)
    (hthere : fs.status (Path.mk dir.root (outer ++ [name])).text ≠ .ok none) :
    ¬ ∀ outer, outer <+: dir.parts → Bare fs ⟨dir.root, outer⟩ :=
  fun hbare => hthere (hbare outer h.above name h.preferred.mem)

/-- **A search ends in one way.** -/
theorem Ends.unique {dir : Path} {answer answer' : Except FileError (Option String)}
    (h : Ends fs dir answer) (h' : Ends fs dir answer') : answer = answer' := by
  cases h with
  | nothing hbare =>
    cases h' with
    | nothing => rfl
    | found hasks hthere => exact absurd hbare (hasks.not_bare (by simp [hthere]))
    | refused hasks hrefused => exact absurd hbare (hasks.not_bare (by simp [hrefused]))
  | found hasks hthere =>
    cases h' with
    | nothing hbare => exact absurd hbare (hasks.not_bare (by simp [hthere]))
    | found hasks' hthere' =>
      obtain ⟨rfl, rfl⟩ := hasks.unique hasks' (by simp [hthere]) (by simp [hthere'])
      rfl
    | refused hasks' hrefused =>
      obtain ⟨rfl, rfl⟩ := hasks.unique hasks' (by simp [hthere]) (by simp [hrefused])
      cases hthere.symm.trans hrefused
  | refused hasks hrefused =>
    cases h' with
    | nothing hbare => exact absurd hbare (hasks.not_bare (by simp [hrefused]))
    | found hasks' hthere =>
      obtain ⟨rfl, rfl⟩ := hasks.unique hasks' (by simp [hrefused]) (by simp [hthere])
      cases hthere.symm.trans hrefused
    | refused hasks' hrefused' =>
      obtain ⟨rfl, rfl⟩ := hasks.unique hasks' (by simp [hrefused]) (by simp [hrefused'])
      obtain rfl := Except.error.inj (hrefused.symm.trans hrefused')
      rfl

/-! ## The search in one directory -/

section

variable {dir : Path} {name : String}

theorem firstIn_of_absent (h : fs.status (dir.child name).text = .ok none) (rest : List String) :
    firstIn fs dir (name :: rest) = firstIn fs dir rest := by
  simp [firstIn, FileSystem.pathExists, h, Except.map, bind, Except.bind]

theorem firstIn_of_there {e : Entry} (h : fs.status (dir.child name).text = .ok (some e))
    (rest : List String) : firstIn fs dir (name :: rest) = .ok (some (dir.child name).text) := by
  simp [firstIn, FileSystem.pathExists, h, Except.map, bind, Except.bind, pure, Except.pure]

theorem firstIn_of_refused {error : FileError} (h : fs.status (dir.child name).text = .error error)
    (rest : List String) : firstIn fs dir (name :: rest) = .error error := by
  simp [firstIn, FileSystem.pathExists, h, Except.map, bind, Except.bind]

end

/-- What is found in a directory: nothing, or what is at the path of the preferred file. -/
theorem firstIn_cases (fs : FileSystem) (dir : Path) {before names : List String}
    (hnames : fileNames = before ++ names)
    (hbefore : ∀ other ∈ before, fs.status (dir.child other).text = .ok none) :
    (Bare fs dir ∧ firstIn fs dir names = .ok none) ∨
    ∃ name, Preferred fs dir name ∧
      ((∃ e, fs.status (dir.child name).text = .ok (some e) ∧
          firstIn fs dir names = .ok (some (dir.child name).text)) ∨
        ∃ error, fs.status (dir.child name).text = .error error ∧
          firstIn fs dir names = .error error) := by
  induction names generalizing before with
  | nil =>
    rw [List.append_nil] at hnames
    refine .inl ⟨?_, rfl⟩
    rwa [Bare, hnames]
  | cons name rest ih =>
    have hpreferred : Preferred fs dir name := ⟨before, rest, hnames, hbefore⟩
    cases hstatus : fs.status (dir.child name).text with
    | error error =>
      exact .inr ⟨name, hpreferred, .inr ⟨error, hstatus, firstIn_of_refused hstatus rest⟩⟩
    | ok shown =>
      cases shown with
      | some e =>
        exact .inr ⟨name, hpreferred, .inl ⟨e, hstatus, firstIn_of_there hstatus rest⟩⟩
      | none =>
        rw [firstIn_of_absent hstatus]
        refine ih (hnames.trans (List.append_cons before name rest)) fun other hother => ?_
        rcases List.mem_append.mp hother with hother | hother
        · exact hbefore other hother
        · exact List.mem_singleton.mp hother ▸ hstatus

/-! ## The search upwards -/

section

variable {root : Path.Root} {dir : List String}

theorem searchUp_of_bare {name : String}
    (h : firstIn fs ⟨root, dir ++ [name]⟩ fileNames = .ok none) :
    searchUp fs root (dir ++ [name]).reverse = searchUp fs root dir.reverse := by
  have hreverse : (dir ++ [name]).reverse = name :: dir.reverse := by simp
  rw [hreverse, searchUp, ← hreverse, List.reverse_reverse, h]
  rfl

/-- What the directory itself comes to counts, unless it is nothing. -/
theorem searchUp_of_answer {answer : Except FileError (Option String)}
    (h : firstIn fs ⟨root, dir⟩ fileNames = answer) (hanswer : answer ≠ .ok none) :
    searchUp fs root dir.reverse = answer := by
  rcases List.eq_nil_or_concat dir with rfl | ⟨outer, name, rfl⟩
  · exact h
  · rw [List.concat_eq_append] at h ⊢
    have hreverse : (outer ++ [name]).reverse = name :: outer.reverse := by simp
    rw [hreverse, searchUp, ← hreverse, List.reverse_reverse, h]
    rcases answer with error | _ | path
    · rfl
    · exact absurd rfl hanswer
    · rfl

/-- The directory itself is the first one. -/
theorem Preferred.asks {name : String} (h : Preferred fs ⟨root, dir⟩ name) :
    Asks fs ⟨root, dir⟩ dir name :=
  ⟨List.prefix_rfl, fun _ hinner hlt => absurd hinner.length_le (Nat.not_le.mpr hlt), h⟩

/-- If there is nothing in the directory itself, the search goes on one name further up. -/
theorem Asks.of_bare {last name : String} {outer : List String}
    (h : Asks fs ⟨root, dir⟩ outer name) (hbare : Bare fs ⟨root, dir ++ [last]⟩) :
    Asks fs ⟨root, dir ++ [last]⟩ outer name := by
  refine ⟨h.above.trans (List.prefix_append dir [last]), ?_, h.preferred⟩
  intro inner hinner hlt
  rcases List.prefix_concat_iff.mp hinner with rfl | hinner
  · exact hbare
  · exact h.deeper inner hinner hlt

theorem Ends.of_bare {last : String} {answer : Except FileError (Option String)}
    (h : Ends fs ⟨root, dir⟩ answer) (hbare : Bare fs ⟨root, dir ++ [last]⟩) :
    Ends fs ⟨root, dir ++ [last]⟩ answer := by
  cases h with
  | nothing habove =>
    refine .nothing fun outer houter => ?_
    rcases List.prefix_concat_iff.mp houter with rfl | houter
    · exact hbare
    · exact habove outer houter
  | found hasks hthere => exact .found (hasks.of_bare hbare) hthere
  | refused hasks hrefused => exact .refused (hasks.of_bare hbare) hrefused

/-- Either there is nothing in the directory itself, or the search ends there. -/
theorem bare_or_ends (fs : FileSystem) (root : Path.Root) (dir : List String) :
    (Bare fs ⟨root, dir⟩ ∧ firstIn fs ⟨root, dir⟩ fileNames = .ok none) ∨
      Ends fs ⟨root, dir⟩ (searchUp fs root dir.reverse) := by
  rcases firstIn_cases fs ⟨root, dir⟩ (List.nil_append fileNames).symm (by simp) with
    hbare | ⟨name, hpreferred, ⟨e, hthere, hfirst⟩ | ⟨error, hrefused, hfirst⟩⟩
  · exact .inl hbare
  · rw [searchUp_of_answer hfirst (by simp)]
    exact .inr (.found hpreferred.asks hthere)
  · rw [searchUp_of_answer hfirst (by simp)]
    exact .inr (.refused hpreferred.asks hrefused)

/-- **The search ends as it should.**  The induction is on the directory, from its last name on. -/
theorem ends_searchUp (fs : FileSystem) (root : Path.Root) (dir : List String) :
    Ends fs ⟨root, dir⟩ (searchUp fs root dir.reverse) := by
  induction dir using List.reverseRecOn with
  | nil =>
    rcases bare_or_ends fs root [] with ⟨hbare, hfirst⟩ | hends
    · rw [List.reverse_nil, searchUp, hfirst]
      exact .nothing fun outer houter => List.prefix_nil.mp houter ▸ hbare
    · exact hends
  | append_singleton dir last ih =>
    rcases bare_or_ends fs root (dir ++ [last]) with ⟨hbare, hfirst⟩ | hends
    · rw [searchUp_of_bare hfirst]
      exact ih.of_bare hbare
    · exact hends

end

/-! ## The search from a path -/

theorem find_of_resolve_error {start : String} {fault : FileSystem.ResolveFault}
    (h : fs.resolve start = .error fault) : find fs start = .error (.ofResolve fault) := by
  rw [find, h]
  rfl

theorem find_of_file_error {start : String} {p : Path} {error : FileError}
    (h : fs.resolve start = .ok p) (hfile : fs.fileExists p.text = .error error) :
    find fs start = .error (.file error) := by
  rw [find, h]
  simp [Except.mapError, hfile, bind, Except.bind]

theorem find_eq_searchUp {start : String} {p : Path} {isFile : Bool}
    (h : fs.resolve start = .ok p) (hfile : fs.fileExists p.text = .ok isFile) :
    let dir := if isFile then p.parent else p
    find fs start = (searchUp fs dir.root dir.parts.reverse).mapError .file := by
  rw [find, h]
  simp [Except.mapError, hfile, bind, Except.bind]

/-- **The search finds the configuration file of the nearest directory.**

The path is resolved first.  From there, or from the directory of the file that is there, the search
goes up and ends as `Ends` says, in one way.

Names that the path resolves to have no links, and the system shows the entries that are there, or
what they lead to.  A component with a NUL character is an error.  Without links a path resolves to
what its spelling comes down to. -/
theorem find_nearest (hfs : fs.Proper) (start : String) :
    (∀ fault, fs.resolve start = .error fault → find fs start = .error (.ofResolve fault)) ∧
    (∀ p, fs.resolve start = .ok p →
      (∀ error, fs.fileExists p.text = .error error → find fs start = .error (.file error)) ∧
      ∀ isFile, fs.fileExists p.text = .ok isFile →
        ∃ answer, find fs start = answer.mapError .file ∧
          ∀ other, Ends fs (if isFile then p.parent else p) other ↔ other = answer) ∧
    (∀ depth names, fs.ResolvesTo depth start names → fs.Shown names ∧
      (fs.resolve start = .ok ⟨.slash, names⟩ ∨
        (FileSystem.maxLinkNesting < depth ∧ fs.resolve start = .error .nestedTooDeep))) ∧
    (∀ depth q before part after, Path.HasNul part → depth ≤ FileSystem.maxLinkNesting →
      Path.pieces (Path.ofString start).text = before ++ part :: after →
      fs.Resolves depth (FileSystem.linkBase ⟨.relative, []⟩ (Path.ofString start).text) before q →
      find fs start = .error (.file .nulCharacter)) ∧
    ((∀ names target, fs.entry? names ≠ some (.link target)) → ¬ Path.HasNul start →
      fs.ResolvesTo 0 start (fs.absolute start)) := by
  refine ⟨fun _ => find_of_resolve_error, fun p hp => ⟨fun _ => find_of_file_error hp, ?_⟩, ?_, ?_,
    fun hlinks hnul => FileSystem.resolvesTo_absolute hlinks hnul⟩
  · intro isFile hfile
    have hends := ends_searchUp fs (if isFile then p.parent else p).root
      (if isFile then p.parent else p).parts
    refine ⟨_, find_eq_searchUp hp hfile, fun other => ⟨fun hother => hother.unique hends, ?_⟩⟩
    rintro rfl
    exact hends
  · intro depth names hnames
    exact ⟨hnames.shown hfs, FileSystem.resolve_of_resolvesTo hfs hnames⟩
  · intro depth q before part after hnul hdepth hpieces hbefore
    exact find_of_resolve_error (FileSystem.resolve_of_nul hfs hpieces hbefore hdepth hnul)

/-- Two projects next to each other.  The first has a link into the second, which has a file and a
link that leads nowhere. -/
def linkedProjects : FileSystem :=
  ⟨.dir [("home", .dir [(".cycloscan.yaml", .file []), ("p", .dir [("lib", .link "../q/src")]),
    ("q", .dir [(".cycloscan.yaml", .link "old.yaml"), (".cycloscan.json", .file []),
      ("src", .dir [("a.c", .file [])])])])], ["home", "p"]⟩

theorem proper_linkedProjects : linkedProjects.Proper := by
  have hfirst : (Entry.dir [("lib", .link "../q/src")]).Proper :=
    .cons (by decide) (by decide) (.link _) .empty
  have hsrc : (Entry.dir [("a.c", .file [])]).Proper :=
    .cons (by decide) (by decide) (.file _) .empty
  have hsecond : (Entry.dir [(".cycloscan.yaml", .link "old.yaml"), (".cycloscan.json", .file []),
      ("src", .dir [("a.c", .file [])])]).Proper :=
    .cons (by decide) (by decide) (.link _)
      (.cons (by decide) (by decide) (.file _) (.cons (by decide) (by decide) hsrc .empty))
  refine ⟨.cons (by decide) (by decide) ?_ .empty, _, rfl⟩
  exact .cons (by decide) (by decide) (.file _)
    (.cons (by decide) (by decide) hfirst (.cons (by decide) (by decide) hsecond .empty))

theorem resolvesTo_linkedProjects :
    linkedProjects.ResolvesTo 1 "lib/a.c" ["home", "q", "src", "a.c"] := by
  have hstart : FileSystem.linkBase ⟨.relative, []⟩ (Path.ofString "lib/a.c").text =
      ⟨.relative, []⟩ ∧ FileSystem.linkBase ⟨.relative, []⟩ "../q/src" = ⟨.relative, []⟩ := by
    decide +kernel
  have hpieces : Path.pieces (Path.ofString "lib/a.c").text = ["lib", "a.c"] ∧
      Path.pieces "../q/src" = ["..", "q", "src"] := by
    decide
  have hlib : linkedProjects.Resolves 0 (FileSystem.linkBase ⟨.relative, []⟩ "../q/src")
      (Path.pieces "../q/src") ⟨.relative, ["..", "q", "src"]⟩ := by
    rw [hstart.2, hpieces.2]
    exact .up (.entry (by decide) rfl rfl (.entry (by decide) rfl rfl (.done _ _)))
  have hrest : linkedProjects.Resolves 1 ⟨.relative, ["..", "q", "src"]⟩ ["a.c"]
      ⟨.relative, ["..", "q", "src", "a.c"]⟩ :=
    .entry (by decide) rfl rfl (.done _ _)
  refine ⟨⟨.relative, ["..", "q", "src", "a.c"]⟩, ?_, by decide⟩
  rw [hstart.1, hpieces.1]
  exact .link (by decide) (by decide) rfl (by decide) hlib hrest

theorem find_nearest_linkedProjects :
    linkedProjects.Proper ∧
    linkedProjects.ResolvesTo 1 "lib/a.c" ["home", "q", "src", "a.c"] ∧
    find linkedProjects "lib/a.c" = .ok (some "/home/q/.cycloscan.json") := by
  obtain ⟨-, hfind, hnames, -, -⟩ := find_nearest proper_linkedProjects "lib/a.c"
  obtain ⟨-, hpath⟩ := hnames 1 _ resolvesTo_linkedProjects
  have hresolve := hpath.resolve_right fun hdeep => absurd hdeep.1 (by decide)
  have hfile : linkedProjects.fileExists "/home/q/src/a.c" = .ok true := by
    decide +kernel
  obtain ⟨answer, hanswer, hends⟩ := (hfind _ hresolve).2 true hfile
  -- Below the project there is nothing, and in it only the last of the names leads to something.
  have habsent : (∀ name ∈ fileNames,
        linkedProjects.pathExists (Path.mk .slash (["home", "q", "src"] ++ [name])).text =
          .ok false) ∧
      (∀ name ∈ [".cycloscan.yaml", ".cycloscan.yml"],
        linkedProjects.pathExists (Path.mk .slash (["home", "q"] ++ [name])).text =
          .ok false) ∧
      linkedProjects.pathExists (Path.mk .slash (["home", "q"] ++ [".cycloscan.json"])).text =
        .ok true := by
    decide +kernel
  obtain ⟨hsrc, hproject, hjson⟩ := habsent
  obtain ⟨e, hthere⟩ := FileSystem.exists_status_iff.mpr hjson
  have hasks : Asks linkedProjects ⟨.slash, ["home", "q", "src"]⟩ ["home", "q"]
      ".cycloscan.json" := by
    refine ⟨⟨["src"], rfl⟩, fun inner hinner hlt name hname => ?_,
      [".cycloscan.yaml", ".cycloscan.yml"], [], rfl, fun other hother => ?_⟩
    · obtain rfl := hinner.eq_of_length_le hlt
      exact FileSystem.status_eq_none_iff.mpr (hsrc name hname)
    · exact FileSystem.status_eq_none_iff.mpr (hproject other hother)
  rw [hanswer, ← (hends _).mp (.found hasks hthere)]
  exact ⟨proper_linkedProjects, resolvesTo_linkedProjects, rfl⟩

/-- A directory with a link that leads nowhere. -/
def danglingFiles : FileSystem :=
  ⟨.dir [(".cycloscan.yaml", .link "old.yaml"), ("a.c", .file [])], []⟩

/-- An entry with the name of a configuration file is not enough: it may be a link that leads
nowhere.  A path with a NUL character is none, whatever there is. -/
theorem find_danglingFiles :
    danglingFiles.entry? [".cycloscan.yaml"] = some (.link "old.yaml") ∧
    find danglingFiles "a.c" = .ok none ∧
    find danglingFiles "a\x00b" = .error (.file .nulCharacter) := by
  refine ⟨rfl, ?_, ?_⟩
  · decide +kernel
  · decide +kernel

end Settings

end Cyclometry
