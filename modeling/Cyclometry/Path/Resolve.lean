import Cyclometry.FileSystem

/-!
# Resolving paths

A path is resolved by taking out all links in it, from the front to the back.  Nothing has to exist:
what is not there is no link.  A link that leads to itself cannot be taken out.  The path then
stays as it is from there on, and whether it can be used is for the system to say.
-/

namespace Cyclometry

/-- One more component of a normal path. -/
def Path.push (p : Path) (part : String) : Path :=
  { p with parts := Path.pushNormal p.root p.parts part }

namespace FileSystem

/-- Why a path cannot be resolved. -/
inductive ResolveFault
  /-- A path with a NUL character is none. -/
  | nulCharacter
  /-- There is a link on the way that leads to itself. -/
  | linkLoop
  /-- Links lead to links, and so on, too often. -/
  | nestedTooDeep
  deriving DecidableEq, Repr

/-- The link at a path in front of which there is none.  What the system cannot look at is no
link. -/
def linkAt? (fs : FileSystem) (p : Path) : Except ResolveFault (Option String) :=
  if p.name.toList.contains (Char.ofNat 0) then .error .nulCharacter
  else if pathLimit ≤ (bytesOf p.text).length || maxName < (bytesOf p.name).length then .ok none
  else
    match fs.entry? (fs.namesOf p) with
    | some (.link target) => .ok (some target)
    | _ => .ok none

/-- The links that have been met, with what they came to; one that is still being followed has come
to nothing. -/
abbrev Seen := List (Path × Option Path)

/-- What some components came to. -/
structure Resolved where
  path : Path
  /-- No component is left to be followed. -/
  complete : Bool
  seen : Seen

/-- The path behind which the components of a link come. -/
def linkBase (dir : Path) (target : String) : Path :=
  if target.startsWith "/" then ⟨.slash, []⟩ else dir

/-- Components that are not followed any more, behind a path. -/
def leave (p : Path) (rest : List String) : Path :=
  p.append (.ofString (Text.joinTexts "/" rest))

/-- Resolve the components behind a path.  At a link that is met for the first time, `jump` resolves
what it stands for. -/
def resolveWith (jump : Seen → Path → List String → Except ResolveFault Resolved)
    (fs : FileSystem) (seen : Seen) (p : Path) : List String → Except ResolveFault Resolved
  | [] => .ok ⟨p, true, seen⟩
  | part :: rest =>
    if isStay part then resolveWith jump fs seen p rest
    else if part == ".." then resolveWith jump fs seen (p.push part) rest
    else do
      match ← fs.linkAt? (p.push part) with
      | none => resolveWith jump fs seen (p.push part) rest
      | some target =>
        match seen.lookup (p.push part) with
        | some (some known) => resolveWith jump fs seen known rest
        | some none => pure ⟨leave (p.push part) rest, false, seen⟩
        | none =>
          let inner ← jump ((p.push part, none) :: seen) (linkBase p target) (Path.pieces target)
          if inner.complete then
            resolveWith jump fs ((p.push part, some inner.path) :: inner.seen) inner.path rest
          else pure { inner with path := leave inner.path rest }

/-- Resolve the components behind a path, with room for so many links within links. -/
def resolveFrom (fs : FileSystem) : Nat → Seen → Path → List String →
    Except ResolveFault Resolved
  | 0 => resolveWith (fun _ _ _ => .error .nestedTooDeep) fs
  | room + 1 => resolveWith (resolveFrom fs room) fs

/-- The number of links within links that there is room for. -/
def maxLinkNesting : Nat := 980

/-- The path from the root without links that a path stands for. -/
def resolve (fs : FileSystem) (path : String) : Except ResolveFault Path := do
  let text := (Path.ofString path).text
  let resolved ← fs.resolveFrom maxLinkNesting [] (linkBase ⟨.relative, []⟩ text) (Path.pieces text)
  let root : Path.Root :=
    if resolved.path.root = .doubleSlash then .doubleSlash else .slash
  let p : Path := ⟨root, fs.namesOf resolved.path⟩
  match fs.locate p.text with
  | .error .nulCharacter => throw .nulCharacter
  | .error (.refused .tooManyLinks _) => throw .linkLoop
  | _ => pure p

end FileSystem

end Cyclometry
