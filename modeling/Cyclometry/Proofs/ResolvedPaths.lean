import Cyclometry.Path.Resolve
import Cyclometry.Proofs.DirectoryTrees
import Cyclometry.Proofs.NormalPaths

/-!
# Resolved paths

The links in a path are taken out one after the other: in the place of a link comes what its own
path resolves to, and `..` takes back what has been resolved in front of it
(`FileSystem.Resolves`).  This leads to at most one path (`FileSystem.Resolves.unique`), and to none
if a link leads back to itself.

The resolver remembers each link that it has met, with what it came to.  It takes a link that has
not come to anything yet for one that leads to itself.  Where a path resolves it never does so
wrongly: a link that is met while it is being resolved would have to resolve in fewer steps than
itself (`FileSystem.Pending`).  So the resolver comes to the path that there is, if there is room
for the links within links (`FileSystem.resolve_of_resolvesTo`).  This path has no links any more
(`FileSystem.Settled`).
-/

namespace Cyclometry

namespace FileSystem

/-! ## Taking out links -/

/-- The components behind `p` resolve to `q`, with links within links up to some depth. -/
inductive Resolves (fs : FileSystem) : Nat → Path → List String → Path → Prop
  | done (depth : Nat) (p : Path) : Resolves fs depth p [] p
  | stay {depth : Nat} {p q : Path} {part : String} {rest : List String}
      (hstay : isStay part = true) (hrest : Resolves fs depth p rest q) :
      Resolves fs depth p (part :: rest) q
  | up {depth : Nat} {p q : Path} {rest : List String}
      (hrest : Resolves fs depth (p.push "..") rest q) : Resolves fs depth p (".." :: rest) q
  | plain {depth : Nat} {p q : Path} {part : String} {rest : List String}
      (hstay : isStay part = false) (hup : part ≠ "..") (hnul : ¬ Path.HasNul part)
      (hplace : ∀ target, fs.entry? (fs.namesOf (p.push part)) ≠ some (.link target))
      (hrest : Resolves fs depth (p.push part) rest q) : Resolves fs depth p (part :: rest) q
  | link {depth : Nat} {p q mid : Path} {part target : String} {rest : List String}
      (hstay : isStay part = false) (hup : part ≠ "..")
      (hplace : fs.entry? (fs.namesOf (p.push part)) = some (.link target))
      (hshort : (bytesOf (p.push part).text).length < pathLimit)
      (hlink : Resolves fs depth (linkBase p target) (Path.pieces target) mid)
      (hrest : Resolves fs (depth + 1) mid rest q) : Resolves fs (depth + 1) p (part :: rest) q

/-- A path resolves to some names from the root. -/
def ResolvesTo (fs : FileSystem) (depth : Nat) (path : String) (names : List String) : Prop :=
  ∃ q, fs.Resolves depth (linkBase ⟨.relative, []⟩ (Path.ofString path).text)
    (Path.pieces (Path.ofString path).text) q ∧ names = fs.namesOf q

variable {fs : FileSystem}

theorem not_isStay_up : isStay ".." = false := by decide

/-- **Components resolve in one way**, whatever the depth. -/
theorem Resolves.unique {depth depth' : Nat} {p q q' : Path} {parts : List String}
    (h : fs.Resolves depth p parts q) (h' : fs.Resolves depth' p parts q') : q = q' := by
  induction h generalizing depth' q' with
  | done depth p =>
    cases h'
    rfl
  | stay hstay _ ih =>
    cases h' with
    | stay _ hrest => exact ih hrest
    | up _ => cases not_isStay_up.symm.trans hstay
    | plain hnot => cases hnot.symm.trans hstay
    | link hnot => cases hnot.symm.trans hstay
  | up _ ih =>
    cases h' with
    | stay hstay _ => cases not_isStay_up.symm.trans hstay
    | up hrest => exact ih hrest
    | plain _ hup => exact absurd rfl hup
    | link _ hup => exact absurd rfl hup
  | plain hstay hup _ hplace _ ih =>
    cases h' with
    | stay hnot _ => cases hstay.symm.trans hnot
    | up _ => exact absurd rfl hup
    | plain _ _ _ _ hrest => exact ih hrest
    | link _ _ hlink => exact absurd hlink (hplace _)
  | link hstay hup hplace _ _ _ ihlink ih =>
    cases h' with
    | stay hnot _ => cases hstay.symm.trans hnot
    | up _ => exact absurd rfl hup
    | plain _ _ _ hnone => exact absurd hplace (hnone _)
    | link _ _ hplace' _ hlink hrest =>
      obtain rfl := Entry.link.inj (Option.some.inj (hplace.symm.trans hplace'))
      obtain rfl := ihlink hlink
      exact ih hrest

/-- An entry that is no link is left in its place. -/
theorem Resolves.entry {depth : Nat} {p q : Path} {part : String} {rest : List String} {e : Entry}
    (hname : Entry.IsName part) (hentry : fs.entry? (fs.namesOf (p.push part)) = some e)
    (hlink : (e.isDir || e.isFile) = true) (hrest : fs.Resolves depth (p.push part) rest q) :
    fs.Resolves depth p (part :: rest) q := by
  have hstay : isStay part = false := by simpa [isStay_eq] using hname.component
  refine .plain hstay hname.notUp hname.noNul (fun target htarget => ?_) hrest
  obtain rfl := Option.some.inj (hentry.symm.trans htarget)
  cases hlink

/-! ## What is at the place of a path -/

theorem push_name (p : Path) {part : String} (h : part ≠ "..") :
    p.push part = ⟨p.root, p.parts ++ [part]⟩ := by
  rw [Path.push, Path.pushNormal_name _ _ h]

theorem namesOf_concat (fs : FileSystem) (root : Path.Root) (parts : List String) (part : String) :
    fs.namesOf ⟨root, parts ++ [part]⟩ =
      Path.pushNormal .slash (fs.namesOf ⟨root, parts⟩) part := by
  simp [namesOf, Path.append, Path.normalize]

theorem namesOf_push_name (fs : FileSystem) (p : Path) {part : String} (h : part ≠ "..") :
    fs.namesOf (p.push part) = fs.namesOf p ++ [part] := by
  rw [push_name p h, namesOf_concat, Path.pushNormal_name _ _ h]

theorem name_push (p : Path) {part : String} (h : part ≠ "..") : (p.push part).name = part := by
  rw [push_name p h]
  exact List.getLastD_concat

theorem parent_push (p : Path) {part : String} (h : part ≠ "..") : (p.push part).parent = p := by
  rw [push_name p h, Path.parent]
  exact congrArg (Path.mk p.root) List.dropLast_concat

theorem linkAt?_of_nul (fs : FileSystem) (p : Path) {part : String} (hup : part ≠ "..")
    (hnul : Path.HasNul part) : fs.linkAt? (p.push part) = .error .nulCharacter := by
  rw [linkAt?, name_push p hup, if_pos (List.contains_iff_mem.mpr hnul)]

theorem linkAt?_of_plain {p : Path} {part : String} (hup : part ≠ "..") (hnul : ¬ Path.HasNul part)
    (hplace : ∀ target, fs.entry? (fs.namesOf (p.push part)) ≠ some (.link target)) :
    fs.linkAt? (p.push part) = .ok none := by
  rw [linkAt?, name_push p hup, if_neg fun hmem => hnul (List.contains_iff_mem.mp hmem)]
  split_ifs
  · rfl
  · split
    · exact absurd ‹_› (hplace _)
    · rfl

theorem linkAt?_of_link (hfs : fs.Proper) {p : Path} {part target : String} (hup : part ≠ "..")
    (hplace : fs.entry? (fs.namesOf (p.push part)) = some (.link target))
    (hshort : (bytesOf (p.push part).text).length < pathLimit) :
    fs.linkAt? (p.push part) = .ok (some target) := by
  have hname : Entry.IsName part := by
    refine (hfs.top.of_find? hplace).1 part ?_
    rw [namesOf_push_name fs p hup]
    exact List.mem_append_right _ List.mem_cons_self
  have hlooked : ¬ (decide (pathLimit ≤ (bytesOf (p.push part).text).length) ||
      decide (maxName < (bytesOf part).length)) = true := by
    simpa using ⟨hshort, hname.short⟩
  rw [linkAt?, name_push p hup, if_neg fun hmem => hname.noNul (List.contains_iff_mem.mp hmem),
    if_neg hlooked, hplace]

/-! ## The resolver, one component at a time -/

/-- What is done at a link that is met for the first time. -/
def atNewLink (fs : FileSystem) : Nat → Seen → Path → List String → Except ResolveFault Resolved
  | 0 => fun _ _ _ => .error .nestedTooDeep
  | room + 1 => fs.resolveFrom room

theorem resolveFrom_eq (fs : FileSystem) (room : Nat) :
    fs.resolveFrom room = resolveWith (fs.atNewLink room) fs := by
  cases room <;> rfl

section

variable {room : Nat} {seen : Seen} {p : Path} {part : String}

theorem resolveFrom_nil : fs.resolveFrom room seen p [] = .ok ⟨p, true, seen⟩ := by
  rw [resolveFrom_eq, resolveWith]

theorem resolveFrom_stay (h : isStay part = true) (rest : List String) :
    fs.resolveFrom room seen p (part :: rest) = fs.resolveFrom room seen p rest := by
  rw [resolveFrom_eq, resolveWith, if_pos h]

theorem resolveFrom_up (rest : List String) :
    fs.resolveFrom room seen p (".." :: rest) = fs.resolveFrom room seen (p.push "..") rest := by
  rw [resolveFrom_eq, resolveWith, if_neg (by simp [not_isStay_up]), if_pos (beq_self_eq_true _)]

variable (hstay : isStay part = false) (hup : part ≠ "..")

include hstay hup

theorem resolveFrom_error {fault : ResolveFault} (hat : fs.linkAt? (p.push part) = .error fault)
    (rest : List String) : fs.resolveFrom room seen p (part :: rest) = .error fault := by
  rw [resolveFrom_eq, resolveWith, if_neg (by simp [hstay]), if_neg (by simpa using hup), hat]
  rfl

theorem resolveFrom_plain (hat : fs.linkAt? (p.push part) = .ok none) (rest : List String) :
    fs.resolveFrom room seen p (part :: rest) = fs.resolveFrom room seen (p.push part) rest := by
  rw [resolveFrom_eq, resolveWith, if_neg (by simp [hstay]), if_neg (by simpa using hup), hat]
  rfl

variable {target : String} (hat : fs.linkAt? (p.push part) = .ok (some target))

include hat

theorem resolveFrom_known {known : Path} (hseen : seen.lookup (p.push part) = some (some known))
    (rest : List String) :
    fs.resolveFrom room seen p (part :: rest) = fs.resolveFrom room seen known rest := by
  rw [resolveFrom_eq, resolveWith, if_neg (by simp [hstay]), if_neg (by simpa using hup), hat]
  simp only [bind, Except.bind, hseen]

theorem resolveFrom_new {mid : Path} {seen' : Seen} (hseen : seen.lookup (p.push part) = none)
    (hinner : fs.atNewLink room ((p.push part, none) :: seen) (linkBase p target)
      (Path.pieces target) = .ok ⟨mid, true, seen'⟩) (rest : List String) :
    fs.resolveFrom room seen p (part :: rest) =
      fs.resolveFrom room ((p.push part, some mid) :: seen') mid rest := by
  rw [resolveFrom_eq, resolveWith, if_neg (by simp [hstay]), if_neg (by simpa using hup), hat]
  simp only [bind, Except.bind, hseen, hinner, if_true]

theorem resolveFrom_new_error {fault : ResolveFault} (hseen : seen.lookup (p.push part) = none)
    (hinner : fs.atNewLink room ((p.push part, none) :: seen) (linkBase p target)
      (Path.pieces target) = .error fault) (rest : List String) :
    fs.resolveFrom room seen p (part :: rest) = .error fault := by
  rw [resolveFrom_eq, resolveWith, if_neg (by simp [hstay]), if_neg (by simpa using hup), hat]
  simp only [bind, Except.bind, hseen, hinner]

end

/-! ## What the resolver remembers -/

/-- The link at a path resolves. -/
def LinkResolves (fs : FileSystem) (depth : Nat) (p mid : Path) : Prop :=
  ∃ target, fs.entry? (fs.namesOf p) = some (.link target) ∧
    fs.Resolves depth (linkBase p.parent target) (Path.pieces target) mid

/-- What is remembered of links is right. -/
def Sound (fs : FileSystem) (seen : Seen) : Prop :=
  ∀ p known, seen.lookup p = some (some known) → ∃ depth, fs.LinkResolves depth p known

/-- The links that have not come to anything yet do not resolve at a smaller depth. -/
def Pending (fs : FileSystem) (depth : Nat) (seen : Seen) : Prop :=
  ∀ p, seen.lookup p = some none → ∀ less mid, less < depth → ¬ fs.LinkResolves less p mid

theorem LinkResolves.unique {depth depth' : Nat} {p q q' : Path} (h : fs.LinkResolves depth p q)
    (h' : fs.LinkResolves depth' p q') : q = q' := by
  obtain ⟨target, hplace, hlink⟩ := h
  obtain ⟨target', hplace', hlink'⟩ := h'
  obtain rfl := Entry.link.inj (Option.some.inj (hplace.symm.trans hplace'))
  exact hlink.unique hlink'

/-- A link that resolves does so at a smallest depth. -/
theorem LinkResolves.exists_least {depth : Nat} {p mid : Path} (h : fs.LinkResolves depth p mid) :
    ∃ least, least ≤ depth ∧ fs.LinkResolves least p mid ∧
      ∀ less other, less < least → ¬ fs.LinkResolves less p other := by
  induction depth using Nat.strongRecOn with
  | ind depth ih =>
    by_cases hless : ∃ less other, less < depth ∧ fs.LinkResolves less p other
    · obtain ⟨less, other, hlt, hother⟩ := hless
      obtain rfl := hother.unique h
      obtain ⟨least, hle, hleast⟩ := ih less hlt hother
      exact ⟨least, by omega, hleast⟩
    · exact ⟨depth, Nat.le_refl depth, h, fun less other hlt hother =>
        hless ⟨less, other, hlt, hother⟩⟩

theorem lookup_cons_of_ne {p q : Path} (h : p ≠ q) (known : Option Path) (seen : Seen) :
    List.lookup p ((q, known) :: seen) = seen.lookup p := by
  rw [List.lookup_cons, beq_false_of_ne h]

theorem sound_nil : fs.Sound [] := by
  intro p known hp
  cases hp

theorem pending_nil (depth : Nat) : fs.Pending depth [] := by
  intro p hp
  cases hp

theorem Sound.cons_pending {seen : Seen} (h : fs.Sound seen) (p : Path) :
    fs.Sound ((p, none) :: seen) := by
  intro q known hq
  by_cases hqp : q = p
  · rw [hqp, List.lookup_cons_self] at hq
    cases hq
  · exact h q known (by rwa [lookup_cons_of_ne hqp] at hq)

theorem Sound.cons_known {seen : Seen} (h : fs.Sound seen) {depth : Nat} {p known : Path}
    (hknown : fs.LinkResolves depth p known) : fs.Sound ((p, some known) :: seen) := by
  intro q other hq
  by_cases hqp : q = p
  · rw [hqp, List.lookup_cons_self] at hq
    obtain rfl := Option.some.inj (Option.some.inj hq)
    exact ⟨depth, hqp ▸ hknown⟩
  · exact h q other (by rwa [lookup_cons_of_ne hqp] at hq)

theorem Pending.cons {depth least : Nat} {seen : Seen} (h : fs.Pending depth seen)
    (hle : least ≤ depth) {p : Path}
    (hp : ∀ less other, less < least → ¬ fs.LinkResolves less p other) :
    fs.Pending least ((p, none) :: seen) := by
  intro q hq less other hless
  by_cases hqp : q = p
  · exact hqp ▸ hp less other hless
  · rw [lookup_cons_of_ne hqp] at hq
    exact h q hq less other (by omega)

/-- No more links are being resolved than before. -/
def Fewer (seen seen' : Seen) : Prop :=
  ∀ p, seen'.lookup p = some none → seen.lookup p = some none

theorem Pending.fewer {depth : Nat} {seen seen' : Seen} (h : fs.Pending depth seen)
    (hfewer : Fewer seen seen') : fs.Pending depth seen' :=
  fun p hp => h p (hfewer p hp)

/-- A link that has come to something is not being resolved any more. -/
theorem Fewer.cons_known {p known : Path} {seen seen' : Seen}
    (h : Fewer ((p, none) :: seen) seen') : Fewer seen ((p, some known) :: seen') := by
  intro q hq
  by_cases hqp : q = p
  · rw [hqp, List.lookup_cons_self] at hq
    cases hq
  · rw [lookup_cons_of_ne hqp] at hq
    simpa [lookup_cons_of_ne hqp] using h q hq

/-! ## The resolver finds what there is -/

/-- What the resolver does with components that resolve, whatever comes behind them. -/
def Reads (fs : FileSystem) (room depth : Nat) (seen : Seen) (p : Path) (parts : List String)
    (q : Path) : Prop :=
  (∃ seen', fs.Sound seen' ∧ Fewer seen seen' ∧
    ∀ more, fs.resolveFrom room seen p (parts ++ more) = fs.resolveFrom room seen' q more) ∨
  (room < depth ∧
    ∀ more, fs.resolveFrom room seen p (parts ++ more) = .error .nestedTooDeep)

/-- One component more. -/
theorem Reads.cons {room depth : Nat} {seen seen' : Seen} {p p' q : Path} {part : String}
    {rest : List String} (h : fs.Reads room depth seen' p' rest q) (hfewer : Fewer seen seen')
    (hstep : ∀ rest, fs.resolveFrom room seen p (part :: rest) =
      fs.resolveFrom room seen' p' rest) : fs.Reads room depth seen p (part :: rest) q := by
  rcases h with ⟨last, hsound, hlast, hread⟩ | ⟨hroom, hfault⟩
  · exact .inl ⟨last, hsound, fun k hk => hfewer k (hlast k hk),
      fun more => (hstep (rest ++ more)).trans (hread more)⟩
  · exact .inr ⟨hroom, fun more => (hstep (rest ++ more)).trans (hfault more)⟩

/-- **The resolver follows components that resolve.**  The induction is on the depth, and within it
on the components.  Each link is resolved at the smallest depth that there is for it, so that it
cannot be met again on its own way. -/
theorem reads_of_resolves (hfs : fs.Proper) {depth : Nat} {p q : Path} {parts : List String}
    (h : fs.Resolves depth p parts q) (room : Nat) {seen : Seen} (hsound : fs.Sound seen)
    (hpending : fs.Pending depth seen) : fs.Reads room depth seen p parts q := by
  induction depth using Nat.strongRecOn generalizing p q parts room seen with
  | ind depth ihdepth =>
    induction parts generalizing p seen with
    | nil =>
      cases h
      exact .inl ⟨seen, hsound, fun _ hk => hk, fun _ => rfl⟩
    | cons part rest ih =>
      have hsame : Fewer seen seen := fun _ hk => hk
      cases h with
      | stay hstay hrest => exact (ih hrest hsound hpending).cons hsame (resolveFrom_stay hstay)
      | up hrest => exact (ih hrest hsound hpending).cons hsame resolveFrom_up
      | plain hstay hup hnul hplace hrest =>
        exact (ih hrest hsound hpending).cons hsame
          (resolveFrom_plain hstay hup (linkAt?_of_plain hup hnul hplace))
      | @link depth _ _ mid _ target _ hstay hup hplace hshort hlink hrest =>
        have hat := linkAt?_of_link hfs hup hplace hshort
        have hresolves : fs.LinkResolves depth (p.push part) mid :=
          ⟨target, hplace, (parent_push p hup).symm ▸ hlink⟩
        rcases hseen : seen.lookup (p.push part) with _ | _ | known
        · -- The link is new, so it is resolved at the smallest depth.
          obtain ⟨least, hle, hleast, hlower⟩ := hresolves.exists_least
          obtain ⟨target', hplace', hlink'⟩ := hleast
          obtain rfl := Entry.link.inj (Option.some.inj (hplace.symm.trans hplace'))
          rw [parent_push p hup] at hlink'
          cases room with
          | zero =>
            exact .inr ⟨Nat.succ_pos depth, fun more =>
              resolveFrom_new_error hstay hup hat hseen rfl (rest ++ more)⟩
          | succ room =>
            have hinner := ihdepth least (by omega) hlink' room (hsound.cons_pending _)
              (hpending.cons (by omega) hlower)
            rcases hinner with ⟨seen', hsound', hfewer, hread⟩ | ⟨hroom, hfault⟩
            · have hnew := hread []
              rw [List.append_nil, resolveFrom_nil] at hnew
              exact (ih hrest (hsound'.cons_known hresolves)
                (hpending.fewer hfewer.cons_known)).cons hfewer.cons_known
                (resolveFrom_new hstay hup hat hseen hnew)
            · have hnew : fs.atNewLink (room + 1) ((p.push part, none) :: seen)
                  (linkBase p target) (Path.pieces target) = .error .nestedTooDeep := by
                rw [← hfault [], List.append_nil]
                rfl
              exact .inr ⟨by omega, fun more =>
                resolveFrom_new_error hstay hup hat hseen hnew (rest ++ more)⟩
        · exact absurd hresolves (hpending _ hseen depth mid (Nat.lt_succ_self depth))
        · obtain ⟨_, hknown⟩ := hsound _ _ hseen
          obtain rfl := hknown.unique hresolves
          exact (ih hrest hsound hpending).cons hsame (resolveFrom_known hstay hup hat hseen)

/-! ## A resolved path has no links -/

/-- What has been resolved so far: a normal path, to names without a link. -/
structure Settled (fs : FileSystem) (p : Path) : Prop where
  path : p.IsNormal
  root : p.root ≠ .doubleSlash
  names : Path.IsNormal ⟨.slash, fs.namesOf p⟩
  noNul : ∀ name ∈ fs.namesOf p, ¬ Path.HasNul name
  clear : fs.Clear (fs.namesOf p)

theorem Clear.of_prefix {names outer : List String} (h : fs.Clear names)
    (houter : outer <+: names) : fs.Clear outer :=
  fun inner hinner => h inner (hinner.trans houter)

/-- One more component of a normal path is one more of its names. -/
theorem namesOf_push (fs : FileSystem) {p : Path} (hp : p.IsNormal) {part : String}
    (hpart : Path.isComponent part = true ∧ '/' ∉ part.toList) :
    fs.namesOf (p.push part) = Path.pushNormal .slash (fs.namesOf p) part ∧
      (p.push part).IsNormal := by
  rcases Path.pushNormal_cases hp hpart with
    ⟨hpush, hnormal⟩ | ⟨outer, name, hparts, hname, rfl, hpush⟩ | ⟨hroot, hparts, rfl, hpush⟩
  · have hself : p.push part = ⟨p.root, p.parts ++ [part]⟩ := congrArg (Path.mk p.root) hpush
    rw [hself, namesOf_concat]
    exact ⟨rfl, hnormal⟩
  · have hself : p.push ".." = ⟨p.root, outer⟩ := congrArg (Path.mk p.root) hpush
    have houter : p = ⟨p.root, outer ++ [name]⟩ := congrArg (Path.mk p.root) hparts
    constructor
    · rw [hself, houter, namesOf_concat, Path.pushNormal_name _ _ hname,
        Path.pushNormal_back _ _ hname]
    · rw [houter] at hp
      rw [hself]
      exact hp.of_append
  · have hself : p.push ".." = p := by
      rw [Path.push, hpush, ← hparts]
    have hnames : fs.namesOf p = [] := by
      simp [namesOf, Path.append, Path.normalize, hparts, hroot]
    rw [hself, hnames]
    exact ⟨(Path.pushNormal_top (by simp)).symm, hp⟩

/-- `..` leads up. -/
theorem pushNormal_up_isPrefix {names : List String} (h : Path.IsNormal ⟨.slash, names⟩) :
    Path.pushNormal .slash names ".." <+: names := by
  have hup : Path.isComponent ".." = true ∧ '/' ∉ "..".toList := by decide
  rcases Path.pushNormal_cases h hup with
    ⟨-, hnormal⟩ | ⟨outer, name, houter, -, -, hpush⟩ | ⟨-, -, -, hpush⟩
  · cases (hnormal.ups _ [] rfl).1
  · rw [hpush]
    exact ⟨[name], houter.symm⟩
  · rw [hpush]
    exact List.nil_prefix

theorem Settled.push_up {p : Path} (h : fs.Settled p) : fs.Settled (p.push "..") := by
  have hup : Path.isComponent ".." = true ∧ '/' ∉ "..".toList := by decide
  obtain ⟨hpush, hnormal⟩ := namesOf_push fs h.path hup
  obtain ⟨rest, hrest⟩ := pushNormal_up_isPrefix h.names
  rw [← hpush] at hrest
  have hnames := h.names
  rw [← hrest] at hnames
  exact ⟨hnormal, h.root, hnames.of_append,
    fun name hname => h.noNul name (hrest ▸ List.mem_append_left rest hname),
    h.clear.of_prefix ⟨rest, hrest⟩⟩

theorem Settled.push_name {p : Path} (h : fs.Settled p) {part : String}
    (hstay : isStay part = false) (hslash : '/' ∉ part.toList) (hup : part ≠ "..")
    (hnul : ¬ Path.HasNul part)
    (hplace : ∀ target, fs.entry? (fs.namesOf (p.push part)) ≠ some (.link target)) :
    fs.Settled (p.push part) := by
  have hcomponent : Path.isComponent part = true := by simpa [isStay_eq] using hstay
  have hnames := namesOf_push_name fs p hup
  refine ⟨?_, h.root, ?_, ?_, ?_⟩
  · rw [FileSystem.push_name p hup]
    exact h.path.concat ⟨hcomponent, hslash⟩ fun heq => absurd heq hup
  · rw [hnames]
    exact h.names.concat ⟨hcomponent, hslash⟩ fun heq => absurd heq hup
  · rw [hnames]
    intro name hname
    rcases List.mem_append.mp hname with hname | hname
    · exact h.noNul name hname
    · exact List.mem_singleton.mp hname ▸ hnul
  · rw [hnames] at hplace ⊢
    intro outer houter
    rcases List.prefix_concat_iff.mp houter with rfl | houter
    · exact hplace
    · exact h.clear outer houter

theorem settled_top (hfs : fs.Proper) : fs.Settled ⟨.slash, []⟩ := by
  obtain ⟨entries, htop⟩ := hfs.exists_top
  refine ⟨Path.isNormal_nil _, by simp, Path.isNormal_nil _,
    fun _ h => absurd h List.not_mem_nil, ?_⟩
  intro outer houter target hlink
  rw [List.prefix_nil.mp houter] at hlink
  cases htop.symm.trans hlink

theorem settled_cwd (hfs : fs.Proper) : fs.Settled ⟨.relative, []⟩ := by
  obtain ⟨entries, hcwd⟩ := hfs.cwd
  have hisName := (hfs.top.of_find? hcwd).1
  have hnormal : Path.IsNormal ⟨.slash, fs.cwd⟩ := by
    refine ⟨fun name hname => ⟨(hisName name hname).component, (hisName name hname).noSlash⟩, ?_⟩
    intro before after hparts
    have hmem : ".." ∈ fs.cwd := by
      have hcwd : fs.cwd = before ++ ".." :: after := hparts
      rw [hcwd]
      exact List.mem_append_right _ List.mem_cons_self
    exact absurd rfl (hisName ".." hmem).notUp
  have hnames : fs.namesOf ⟨.relative, []⟩ = fs.cwd := by
    rw [← Path.pushAll_of_isNormal hnormal, Path.pushAll,
      List.filter_eq_self.mpr fun name hname => (hisName name hname).component]
    simp [namesOf, Path.append, Path.normalize]
  refine ⟨Path.isNormal_nil _, by simp, hnames.symm ▸ hnormal, ?_, ?_⟩
  · rw [hnames]
    exact fun name hname => (hisName name hname).noNul
  · rw [hnames]
    -- Directories are all that the names lead through.
    rintro outer ⟨rest, hrest⟩ target hlink
    rw [← hrest, entry?_append, hlink, Option.bind_some] at hcwd
    cases rest <;> cases hcwd

theorem Settled.linkBase {p : Path} (h : fs.Settled p) (hfs : fs.Proper) (target : String) :
    fs.Settled (linkBase p target) := by
  rw [FileSystem.linkBase]
  split_ifs
  · exact settled_top hfs
  · exact h

/-- **What is resolved has no links.** -/
theorem Resolves.settled (hfs : fs.Proper) {depth : Nat} {p q : Path} {parts : List String}
    (h : fs.Resolves depth p parts q) (hslash : ∀ part ∈ parts, '/' ∉ part.toList)
    (hp : fs.Settled p) : fs.Settled q := by
  induction h with
  | done => exact hp
  | stay _ _ ih => exact ih (List.forall_mem_cons.mp hslash).2 hp
  | up _ ih => exact ih (List.forall_mem_cons.mp hslash).2 hp.push_up
  | plain hstay hup hnul hplace _ ih =>
    obtain ⟨hpart, hrest⟩ := List.forall_mem_cons.mp hslash
    exact ih hrest (hp.push_name hstay hpart hup hnul hplace)
  | link _ _ _ _ _ _ ihlink ih =>
    have hmid := ihlink (fun piece hpiece => Path.slash_not_mem_of_mem_pieces hpiece)
      (hp.linkBase hfs _)
    exact ih (List.forall_mem_cons.mp hslash).2 hmid

/-! ## The path of names without links -/

/-- The system refuses the path of some names: it is too long, or one of the names is. -/
def Refuses (fs : FileSystem) (names : List String) : Prop :=
  pathLimit ≤ (bytesOf (Path.mk .slash names).text).length ∨ fs.Oversized [] names

/-- Where the path of some names is followed from. -/
theorem locate_rooted (hfs : fs.Proper) {names : List String} (h : Path.IsNormal ⟨.slash, names⟩)
    (hnul : ∀ name ∈ names, ¬ Path.HasNul name)
    (hshort : (bytesOf (Path.mk .slash names).text).length < pathLimit) :
    fs.locate (Path.mk .slash names).text =
      (follow maxLinks [] names fs).mapError fun cause =>
        .refused cause (Path.mk .slash names).text := by
  obtain ⟨entries, htop⟩ := hfs.exists_top
  have hfree : ¬ Path.HasNul (Path.mk .slash names).text := by
    rw [Path.hasNul_text_iff h.clean]
    rintro ⟨name, hname, hhas⟩
    exact hnul name hname hhas
  have hcheck : checkPath (Path.mk .slash names).text = .ok () :=
    checkPath_eq_ok_iff.mpr ⟨hfree, hshort, Path.text_ne_empty h.clean⟩
  obtain ⟨stays, hstays, hpieces⟩ := Path.pieces_text h.clean
  rw [locate, hcheck, startOf_text fs h.clean, if_neg (by simp), hpieces, follow_stays htop hstays]
  cases follow maxLinks [] names fs <;> rfl

/-- **The path of names without links leads to the entry that they have**, if it is not refused. -/
theorem locate_clear (hfs : fs.Proper) {names : List String} (h : Path.IsNormal ⟨.slash, names⟩)
    (hnul : ∀ name ∈ names, ¬ Path.HasNul name) (hclear : fs.Clear names) :
    let text := (Path.mk .slash names).text
    (fs.Refuses names ∧ fs.locate text = .error (.refused .nameTooLong text)) ∨
    (¬ fs.Refuses names ∧
      ((∃ e, fs.entry? names = some e ∧ fs.locate text = .ok (.existing names e)) ∨
        (fs.entry? names = none ∧ ((∃ dir name, fs.locate text = .ok (.missing dir name)) ∨
          fs.locate text = .error (.refused .noEntry text) ∨
          fs.locate text = .error (.refused .notDirectory text))))) := by
  intro text
  obtain ⟨entries, htop⟩ := hfs.exists_top
  by_cases hlong : pathLimit ≤ (bytesOf text).length
  · refine .inl ⟨.inl hlong, locate_of_long ?_ hlong⟩
    rw [Path.hasNul_text_iff h.clean]
    rintro ⟨name, hname, hhas⟩
    exact hnul name hname hhas
  · have hrefuses : fs.Refuses names ↔ fs.Oversized [] names := or_iff_right hlong
    have hplain : Plain names := fun name hname => ⟨(h.clean name hname).1, h.ne_up name hname⟩
    rw [locate_rooted hfs h hnul (Nat.not_le.mp hlong), hrefuses]
    cases hentry : fs.entry? names with
    | some e =>
      have hshort : ∀ name ∈ names, (bytesOf name).length ≤ maxName := fun name hname =>
        ((hfs.top.of_find? hentry).1 name hname).short
      have hlink : ∀ target, e ≠ .link target := by
        rintro target rfl
        exact hclear names List.prefix_rfl target hentry
      have hfollow : follow maxLinks [] names fs = .ok (.existing names e) := by
        rw [← List.append_nil names, follow_through hplain hshort hentry, List.append_nil,
          List.nil_append, follow_nil hentry hlink]
      rw [hfollow]
      exact .inr ⟨not_oversized_of_short hshort, .inl ⟨e, rfl, rfl⟩⟩
    | none =>
      rcases follow_missing hplain htop hclear hentry with
        ⟨hover, hfollow⟩ | ⟨hover, hfollow⟩
      · rw [hfollow]
        exact .inl ⟨hover, rfl⟩
      · refine .inr ⟨hover, .inr ⟨rfl, ?_⟩⟩
        rcases hfollow with ⟨dir, name, hfollow⟩ | hfollow | hfollow
        · exact .inl ⟨dir, name, by rw [hfollow]; rfl⟩
        · exact .inr (.inl (by rw [hfollow]; rfl))
        · exact .inr (.inr (by rw [hfollow]; rfl))

theorem status_clear (hfs : fs.Proper) {names : List String} (h : Path.IsNormal ⟨.slash, names⟩)
    (hnul : ∀ name ∈ names, ¬ Path.HasNul name) (hclear : fs.Clear names)
    (hok : ¬ fs.Refuses names) : fs.status (Path.mk .slash names).text = .ok (fs.entry? names) := by
  rcases locate_clear hfs h hnul hclear with ⟨hrefuses, -⟩ |
    ⟨-, ⟨e, hentry, hlocate⟩ | ⟨hentry, ⟨dir, name, hlocate⟩ | hlocate | hlocate⟩⟩
  · exact absurd hrefuses hok
  all_goals rw [status, hlocate, hentry]

/-- The entry of a name in a directory leads to something: it is no link, or the system comes to
something where the link leads. -/
inductive Yields (fs : FileSystem) (dir : List String) (name : String) : Entry → Prop
  | itself {e : Entry} (hentry : fs.entry? (dir ++ [name]) = some e)
      (hlink : ∀ target, e ≠ .link target) : Yields fs dir name e
  | link {target : String} {names : List String} {e : Entry}
      (hentry : fs.entry? (dir ++ [name]) = some (.link target))
      (hfollow : follow (maxLinks - 1) (startFrom dir target) (Path.pieces target) fs =
        .ok (.existing names e)) : Yields fs dir name e

section

variable {dir : List String} {name : String}

theorem not_yields_of_none (h : fs.entry? (dir ++ [name]) = none) (e : Entry) :
    ¬ fs.Yields dir name e := by
  rintro (⟨hentry, -⟩ | ⟨hentry, -⟩)
  all_goals cases h.symm.trans hentry

theorem yields_iff_of_link {target : String} (h : fs.entry? (dir ++ [name]) = some (.link target))
    (e : Entry) : fs.Yields dir name e ↔
      ∃ names, follow (maxLinks - 1) (startFrom dir target) (Path.pieces target) fs =
        .ok (.existing names e) := by
  constructor
  · rintro (⟨hentry, hlink⟩ | ⟨hentry, hfollow⟩)
    · exact absurd (Option.some.inj (hentry.symm.trans h)) (hlink target)
    · obtain rfl := Entry.link.inj (Option.some.inj (h.symm.trans hentry))
      exact ⟨_, hfollow⟩
  · rintro ⟨names, hfollow⟩
    exact .link h hfollow

theorem yields_iff_of_not_link {found : Entry} (h : fs.entry? (dir ++ [name]) = some found)
    (hlink : ∀ target, found ≠ .link target) (e : Entry) : fs.Yields dir name e ↔ e = found := by
  constructor
  · rintro (⟨hentry, -⟩ | ⟨hentry, -⟩)
    · exact Option.some.inj (hentry.symm.trans h)
    · exact absurd (Option.some.inj (h.symm.trans hentry)) (hlink _)
  · rintro rfl
    exact .itself h hlink

/-- Names without links and one name more lead to what its entry leads to. -/
theorem follow_child_iff (hfs : fs.Proper) (hplain : Plain (dir ++ [name]))
    (hclear : fs.Clear dir) (e : Entry) :
    (∃ names, follow maxLinks [] (dir ++ [name]) fs = .ok (.existing names e)) ↔
      fs.Yields dir name e := by
  cases hentry : fs.entry? (dir ++ [name]) with
  | none =>
    obtain ⟨entries, htop⟩ := hfs.exists_top
    have hclear' : fs.Clear (dir ++ [name]) := by
      intro outer houter
      rcases List.prefix_concat_iff.mp houter with rfl | houter
      · simp [hentry]
      · exact hclear outer houter
    refine iff_of_false ?_ (not_yields_of_none hentry e)
    rintro ⟨names, hexisting⟩
    rcases follow_missing hplain htop hclear' hentry with
      ⟨-, hfollow⟩ | ⟨-, ⟨_, _, hfollow⟩ | hfollow | hfollow⟩
    all_goals cases hfollow.symm.trans hexisting
  | some found =>
    have hshort : ∀ part ∈ dir ++ [name], (bytesOf part).length ≤ maxName := fun part hpart =>
      ((hfs.top.of_find? hentry).1 part hpart).short
    have hreach : follow maxLinks [] (dir ++ [name]) fs =
        follow maxLinks (dir ++ [name]) [] fs := by
      have hnames : fs.entry? ([] ++ (dir ++ [name])) = some found := hentry
      simpa using follow_through hplain hshort hnames []
    rw [hreach]
    by_cases hlink : ∃ target, found = .link target
    · obtain ⟨target, rfl⟩ := hlink
      rw [yields_iff_of_link hentry, follow_link hentry, List.dropLast_concat, List.append_nil]
      rfl
    · have hnot : ∀ target, found ≠ .link target := fun target heq => hlink ⟨target, heq⟩
      rw [yields_iff_of_not_link hentry hnot, follow_nil hentry hnot]
      constructor
      · rintro ⟨names, hexisting⟩
        cases hexisting
        rfl
      · rintro rfl
        exact ⟨_, rfl⟩

end

/-- **The path of a name behind names without links shows what its entry leads to.** -/
theorem status_child (hfs : fs.Proper) {dir : List String} (h : Path.IsNormal ⟨.slash, dir⟩)
    (hnul : ∀ name ∈ dir, ¬ Path.HasNul name) (hclear : fs.Clear dir) {name : String}
    (hname : Entry.IsName name) (e : Entry) :
    fs.status (Path.mk .slash (dir ++ [name])).text = .ok (some e) ↔
      (bytesOf (Path.mk .slash (dir ++ [name])).text).length < pathLimit ∧
        fs.Yields dir name e := by
  have hnormal : Path.IsNormal ⟨.slash, dir ++ [name]⟩ :=
    h.concat ⟨hname.component, hname.noSlash⟩ fun heq => absurd heq hname.notUp
  have hfree : ∀ part ∈ dir ++ [name], ¬ Path.HasNul part := by
    intro part hpart
    rcases List.mem_append.mp hpart with hpart | hpart
    · exact hnul part hpart
    · exact List.mem_singleton.mp hpart ▸ hname.noNul
  by_cases hlong : pathLimit ≤ (bytesOf (Path.mk .slash (dir ++ [name])).text).length
  · have htext : ¬ Path.HasNul (Path.mk .slash (dir ++ [name])).text := by
      rw [Path.hasNul_text_iff hnormal.clean]
      rintro ⟨part, hpart, hhas⟩
      exact hfree part hpart hhas
    rw [status_of_long htext hlong]
    exact iff_of_false (by simp) fun hshort => absurd hlong (Nat.not_le.mpr hshort.1)
  · have hplain : Plain (dir ++ [name]) := fun part hpart =>
      ⟨(hnormal.clean part hpart).1, hnormal.ne_up part hpart⟩
    rw [and_iff_right (Nat.not_le.mp hlong), ← follow_child_iff hfs hplain hclear,
      status_eq_some_iff_locate, locate_rooted hfs hnormal hfree (Nat.not_le.mp hlong)]
    cases follow maxLinks [] (dir ++ [name]) fs <;> simp [Except.mapError]

/-- What the system shows of some names without links, and of the names behind them. -/
structure Shown (fs : FileSystem) (names : List String) : Prop where
  clear : fs.Clear names
  itself : ¬ fs.Refuses names → fs.status (Path.mk .slash names).text = .ok (fs.entry? names)
  refused : fs.Refuses names → fs.status (Path.mk .slash names).text =
    .error (.refused .nameTooLong (Path.mk .slash names).text)
  child : ∀ outer name e, outer <+: names → Entry.IsName name →
    (fs.status (Path.mk .slash (outer ++ [name])).text = .ok (some e) ↔
      (bytesOf (Path.mk .slash (outer ++ [name])).text).length < pathLimit ∧ fs.Yields outer name e)

theorem Settled.shown (hfs : fs.Proper) {p : Path} (h : fs.Settled p) :
    fs.Shown (fs.namesOf p) := by
  refine ⟨h.clear, status_clear hfs h.names h.noNul h.clear, fun hrefuses => ?_, ?_⟩
  · rcases locate_clear hfs h.names h.noNul h.clear with ⟨-, hlocate⟩ | ⟨hok, -⟩
    · rw [status, hlocate]
    · exact absurd hrefuses hok
  · intro outer name e houter hname
    refine status_child hfs ?_ (fun part hpart => h.noNul part (houter.subset hpart))
      (h.clear.of_prefix houter) hname e
    obtain ⟨inner, hinner⟩ := houter
    have hnormal := h.names
    rw [← hinner] at hnormal
    exact hnormal.of_append

/-! ## What the resolver ends with -/

theorem settled_start (hfs : fs.Proper) (path : String) :
    fs.Settled (linkBase ⟨.relative, []⟩ path) := (settled_cwd hfs).linkBase hfs path

/-- **A path is resolved to what it resolves to**, if there is room for its links within links. -/
theorem resolve_of_resolvesTo (hfs : fs.Proper) {depth : Nat} {path : String} {names : List String}
    (h : fs.ResolvesTo depth path names) :
    fs.resolve path = .ok ⟨.slash, names⟩ ∨
      (maxLinkNesting < depth ∧ fs.resolve path = .error .nestedTooDeep) := by
  obtain ⟨q, hresolves, rfl⟩ := h
  have hq := hresolves.settled hfs (fun piece hpiece => Path.slash_not_mem_of_mem_pieces hpiece)
    (settled_start hfs _)
  rcases reads_of_resolves hfs hresolves maxLinkNesting sound_nil (pending_nil depth) with
    ⟨seen, -, -, hread⟩ | ⟨hroom, hfault⟩
  · left
    have hdone := hread []
    rw [List.append_nil, resolveFrom_nil] at hdone
    rw [resolve]
    dsimp only
    rw [hdone]
    simp only [bind, Except.bind, if_neg hq.root]
    rcases locate_clear hfs hq.names hq.noNul hq.clear with ⟨-, hlocate⟩ |
      ⟨-, ⟨e, -, hlocate⟩ | ⟨-, ⟨dir, name, hlocate⟩ | hlocate | hlocate⟩⟩
    all_goals
      rw [hlocate]
      rfl
  · right
    have hdone := hfault []
    rw [List.append_nil] at hdone
    rw [resolve]
    dsimp only
    rw [hdone]
    exact ⟨hroom, rfl⟩

theorem ResolvesTo.shown (hfs : fs.Proper) {depth : Nat} {path : String} {names : List String}
    (h : fs.ResolvesTo depth path names) : fs.Shown names := by
  obtain ⟨q, hresolves, rfl⟩ := h
  exact (hresolves.settled hfs (fun piece hpiece => Path.slash_not_mem_of_mem_pieces hpiece)
    (settled_start hfs _)).shown hfs

/-- A component with a NUL character behind components that resolve is no part of a path. -/
theorem resolve_of_nul (hfs : fs.Proper) {depth : Nat} {path part : String} {q : Path}
    {before after : List String}
    (hpieces : Path.pieces (Path.ofString path).text = before ++ part :: after)
    (h : fs.Resolves depth (linkBase ⟨.relative, []⟩ (Path.ofString path).text) before q)
    (hdepth : depth ≤ maxLinkNesting) (hnul : Path.HasNul part) :
    fs.resolve path = .error .nulCharacter := by
  have hstay : isStay part = false := by
    rw [isStay, Bool.or_eq_false_iff, beq_eq_false_iff_ne, beq_eq_false_iff_ne]
    constructor
    all_goals
      rintro rfl
      simp [Path.HasNul] at hnul
  have hup : part ≠ ".." := by
    rintro rfl
    simp [Path.HasNul] at hnul
  rcases reads_of_resolves hfs h maxLinkNesting sound_nil (pending_nil depth) with
    ⟨seen, -, -, hread⟩ | ⟨hroom, -⟩
  · have hstop := hread (part :: after)
    rw [resolveFrom_error hstay hup (linkAt?_of_nul fs q hup hnul), ← hpieces] at hstop
    rw [resolve]
    dsimp only
    rw [hstop]
    rfl
  · omega

/-! ## Without links -/

theorem namesOf_eq_foldl (fs : FileSystem) (root : Path.Root) (parts : List String) :
    fs.namesOf ⟨root, parts⟩ = parts.foldl (Path.pushNormal .slash) (fs.namesOf ⟨root, []⟩) := by
  simp [namesOf, Path.append, Path.normalize]

theorem namesOf_linkBase (fs : FileSystem) {p : Path} (h : p.Clean) :
    fs.namesOf (linkBase ⟨.relative, []⟩ p.text) = fs.namesOf ⟨p.root, []⟩ := by
  have hrooted : p.text.startsWith "/" = true ↔ p.root ≠ .relative := by
    rw [String.startsWith_string_iff, ← Path.ofChars_text h, Path.Root.ofChars_ne_relative_iff]
    rfl
  rw [linkBase]
  by_cases hroot : p.root = .relative
  · rw [if_neg fun hstart => hrooted.mp hstart hroot, hroot]
  · rw [if_pos (hrooted.mpr hroot)]
    simp [namesOf, Path.append, hroot]

/-- Where there are no links, components are put behind the names one by one. -/
theorem exists_resolves (hlinks : ∀ names target, fs.entry? names ≠ some (.link target))
    {parts : List String} (hslash : ∀ part ∈ parts, '/' ∉ part.toList)
    (hnul : ∀ part ∈ parts, ¬ Path.HasNul part) {p : Path} (hp : p.IsNormal) :
    ∃ q, fs.Resolves 0 p parts q ∧ fs.namesOf q = Path.pushAll .slash (fs.namesOf p) parts := by
  induction parts generalizing p with
  | nil => exact ⟨p, .done 0 p, rfl⟩
  | cons part rest ih =>
    obtain ⟨hpart, hslash⟩ := List.forall_mem_cons.mp hslash
    obtain ⟨hfree, hnul⟩ := List.forall_mem_cons.mp hnul
    rw [Path.pushAll_cons]
    cases hstay : isStay part with
    | true =>
      obtain ⟨q, hq, hnames⟩ := ih hslash hnul hp
      have hcomponent : ¬ Path.isComponent part = true := by simpa [isStay_eq] using hstay
      rw [if_neg hcomponent]
      exact ⟨q, .stay hstay hq, hnames⟩
    | false =>
      have hcomponent : Path.isComponent part = true := by simpa [isStay_eq] using hstay
      obtain ⟨hpush, hnormal⟩ := namesOf_push fs hp ⟨hcomponent, hpart⟩
      obtain ⟨q, hq, hnames⟩ := ih hslash hnul hnormal
      rw [if_pos hcomponent, ← hpush]
      refine ⟨q, ?_, hnames⟩
      by_cases hup : part = ".."
      · subst hup
        exact .up hq
      · exact .plain hstay hup hfree (hlinks _) hq

/-- **Without links, a path resolves to what its spelling comes down to.** -/
theorem resolvesTo_absolute (hlinks : ∀ names target, fs.entry? names ≠ some (.link target))
    {path : String} (hnul : ¬ Path.HasNul path) : fs.ResolvesTo 0 path (fs.absolute path) := by
  have hclean := Path.clean_ofString path
  have hfree : ¬ Path.HasNul (Path.ofString path).text := by
    rw [Path.hasNul_text_iff hclean]
    rintro ⟨part, hpart, hhas⟩
    exact hnul ((Path.mem_pieces_iff (by decide)).mp ⟨part, (List.mem_filter.mp hpart).1, hhas⟩)
  have hnormal : (linkBase ⟨.relative, []⟩ (Path.ofString path).text).IsNormal := by
    rw [linkBase]
    split_ifs
    · exact Path.isNormal_nil _
    · exact Path.isNormal_nil _
  obtain ⟨q, hq, hnames⟩ := exists_resolves hlinks
    (fun piece hpiece => Path.slash_not_mem_of_mem_pieces hpiece)
    (fun piece hpiece hhas => hfree ((Path.mem_pieces_iff (by decide)).mp ⟨piece, hpiece, hhas⟩))
    hnormal
  refine ⟨q, hq, ?_⟩
  rw [hnames, namesOf_linkBase fs hclean, Path.pushAll, Path.filter_pieces_text hclean, absolute,
    namesOf_eq_foldl]

end FileSystem

end Cyclometry
