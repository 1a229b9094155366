import Cyclometry.Eligibility
import Cyclometry.FileSystem
import Cyclometry.Language

/-!
# Finding units

A path on the command line names a unit, or a directory whose primary sources are the units.
Directories of version control, build output and foreign code are left out, and so are headers
and files in no known language.  Units come in the order of their paths, component by
component.  A path below the directory that the system refuses, because it is too long, ends the
search, whether it would be a unit or not, and so does a directory that is nested too deep.  Links
below the directory count for what they lead to, but directories behind them are not searched.
-/

namespace Cyclometry.Units

/-- Names of directories, and of files, that are left out. -/
def ignoredNames : List String :=
  [".git", ".hg", ".svn", ".idea", ".vscode", ".venv", "node_modules", "dist", "build",
    "target", "vendor", "third_party", "bin", "obj", "out"]

/-- The order of component lists: component by component, by code point. -/
def partsLe : List String → List String → Bool
  | [], _ => true
  | _ :: _, [] => false
  | a :: as, b :: bs => decide (a < b) || (a == b && partsLe as bs)

/-- Why the units cannot be listed. -/
inductive Fault
  | file (error : FileError)
  | notText
  /-- There are directories within directories, too often. -/
  | nestedTooDeep
  deriving DecidableEq, Repr

/-- The path of something below the root. -/
def pathBelow (root : Path) (parts : List String) : String :=
  { root with parts := root.parts ++ parts }.text

/-- Look into a directory below the root, if there is room for so many directories within
directories. -/
def enter (room : Nat) (root : Path) (parts : List String) : Except Fault Unit :=
  let path := pathBelow root parts
  if room ≤ parts.length then .error .nestedTooDeep
  else if FileSystem.pathLimit ≤ (bytesOf path).length then
    .error (.file (.refused .nameTooLong path))
  else .ok ()

/-- Keep something below the root if it is a file and a unit. -/
def keep (fs : FileSystem) (headers : Policy) (root : Path) (parts : List String) :
    Except Fault (Option String) := do
  let path := pathBelow root parts
  if !(← (fs.fileExists path).mapError Fault.file) then pure none
  else if parts.any ignoredNames.contains then pure none
  else
    match headers.isHeader path with
    | .error _ => throw .notText
    | .ok true => pure none
    | .ok false => pure (if (Language.ofPath? path).isSome then some path else none)

/-- The number of directories within directories that there is room for. -/
def maxNesting : Nat := 980

/-- The units below a path; `headers` tells the endings of header names.  All directories are
searched before the first file is looked at. -/
def list (fs : FileSystem) (room : Nat) (headers : Policy) (root : String) :
    Except Fault (List String) := do
  let p := Path.ofString root
  match ← (fs.status p.text).mapError Fault.file with
  | none => pure []
  | some (.dir entries) =>
    (Entry.dir entries).folders.forM (enter room p)
    let found := (Entry.dir entries).descendants.mergeSort partsLe
    pure ((← found.mapM (keep fs headers p)).filterMap id)
  | some e => pure (if e.isFile then [p.text] else [])

end Cyclometry.Units
