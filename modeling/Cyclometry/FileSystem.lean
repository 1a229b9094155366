import Cyclometry.Number.Decimal
import Cyclometry.Path.Basic
import Cyclometry.Text.Quoted
import Cyclometry.Text.Utf8

/-!
# File systems

A file system is a tree of directories, files and symbolic links, together with the directory
that relative paths start from.  A path is followed component by component, so `..` leads to
the directory above the one reached so far, and every component but the last has to be a
directory.  In the place of a link comes the path that it stands for, but only so many links are
followed on one way.

The system itself is taken to be in order: nothing is forbidden, a file that can be opened can be
read and written, and there is room for what is written.
-/

namespace Cyclometry

/-- A file, a directory, or a link with the path that it stands for. -/
inductive Entry
  | file (data : Bytes)
  | dir (entries : List (String × Entry))
  | link (target : String)

namespace Entry

/-- The entry is a directory. -/
def isDir : Entry → Bool
  | dir _ => true
  | _ => false

/-- The entry is a file. -/
def isFile : Entry → Bool
  | file _ => true
  | _ => false

/-- An entry of a directory. -/
def child? : Entry → String → Option Entry
  | dir entries, name => (entries.find? fun e => e.1 == name).map (·.2)
  | _, _ => none

/-- The entry that some names lead to. -/
def find? (e : Entry) : List String → Option Entry
  | [] => some e
  | name :: rest =>
    match e.child? name with
    | some e => e.find? rest
    | none => none

/-- Put an entry under a name, in the place of one of that name. -/
def setChild (name : String) (e : Entry) : List (String × Entry) → List (String × Entry)
  | [] => [(name, e)]
  | old :: rest => if old.1 == name then (name, e) :: rest else old :: setChild name e rest

/-- Put an entry at the end of some names.  Directories on the way are made as needed. -/
def place (e : Entry) (new : Entry) : List String → Entry
  | [] => new
  | name :: rest =>
    match e with
    | dir entries =>
      let inner := ((dir entries).child? name).getD (dir [])
      dir (setChild name (inner.place new rest) entries)
    | _ => dir [(name, (dir []).place new rest)]

mutual

/-- An entry and everything below it, each with the names that lead to it. -/
def listing : Entry → List (List String × Entry)
  | dir entries => ([], dir entries) :: listingIn entries
  | e => [([], e)]

/-- The entries of a directory and everything below them. -/
def listingIn : List (String × Entry) → List (List String × Entry)
  | [] => []
  | (name, e) :: rest => (e.listing.map fun found => (name :: found.1, found.2)) ++ listingIn rest

end

/-- The content of an entry that is a file. -/
def data? : Entry → Option Bytes
  | file data => some data
  | _ => none

/-- All files from an entry down. -/
def files (e : Entry) : List (List String × Bytes) :=
  e.listing.filterMap fun found => found.2.data?.map fun data => (found.1, data)

/-- All directories from an entry down, as the names that lead to them. -/
def folders (e : Entry) : List (List String) :=
  (e.listing.filter fun found => found.2.isDir).map (·.1)

/-- Everything below an entry, as the names that lead to it. -/
def descendants (e : Entry) : List (List String) :=
  (e.listing.map (·.1)).filter fun names => !names.isEmpty

end Entry

/-! ## Errors -/

/-- What the system refuses a path for. -/
inductive FileError.Cause
  | noEntry
  | notDirectory
  | isDirectory
  | nameTooLong
  | tooManyLinks
  deriving DecidableEq, Repr

/-- Why a path cannot be used. -/
inductive FileError
  | refused (cause : FileError.Cause) (path : String)
  /-- A path with a NUL character is none. -/
  | nulCharacter
  deriving DecidableEq, Repr

namespace FileError

/-- The number of a cause. -/
def Cause.number : Cause → Nat
  | noEntry => 2
  | notDirectory => 20
  | isDirectory => 21
  | nameTooLong => 36
  | tooManyLinks => 40

/-- The wording of a cause. -/
def Cause.text : Cause → String
  | noEntry => "No such file or directory"
  | notDirectory => "Not a directory"
  | isDirectory => "Is a directory"
  | nameTooLong => "File name too long"
  | tooManyLinks => "Too many levels of symbolic links"

/-- The wording of an error. -/
def message : FileError → String
  | refused cause path =>
    "[Errno " ++ Decimal.ofNat cause.number ++ "] " ++ cause.text ++ ": " ++ Text.quoted path
  | nulCharacter => "embedded null byte"

end FileError

/-- The content of an entry that can be opened. -/
def Entry.content : Entry → Except FileError.Cause Bytes
  | file data => .ok data
  | dir _ => .error .isDirectory
  | link _ => .error .tooManyLinks

/-- The tree of all files, and the current directory as names from the root. -/
structure FileSystem where
  top : Entry
  cwd : List String

namespace FileSystem

/-- The entry that some names from the root lead to. -/
def entry? (fs : FileSystem) (names : List String) : Option Entry := fs.top.find? names

/-- Where a path leads to: an entry that exists, or a name in a directory that has no such
entry. -/
inductive Target
  | existing (names : List String) (entry : Entry)
  | missing (dir : List String) (name : String)

/-- The longest name of an entry, in bytes. -/
def maxName : Nat := 255

/-- The shortest path that is too long, in bytes. -/
def pathLimit : Nat := 4096

/-- A component that stays in the directory reached so far. -/
def isStay (part : String) : Bool := part == "" || part == "."

/-- Where a path starts from, if it is met in a directory. -/
def startFrom (dir : List String) (path : String) : List String :=
  if path.startsWith "/" then [] else dir

/-- Follow the components of a path from the entry at `names`.  At a link, `jump` follows what it
stands for and all that comes behind it. -/
def followWith (jump : List String → List String → Except FileError.Cause Target)
    (names : List String) (parts : List String) (fs : FileSystem) :
    Except FileError.Cause Target :=
  match fs.entry? names, parts with
  | none, _ => .error .noEntry
  | some (.link target), parts =>
    jump (startFrom names.dropLast target) (Path.pieces target ++ parts)
  | some e, [] => .ok (.existing names e)
  | some (.file _), _ :: _ => .error .notDirectory
  | some (.dir entries), part :: rest =>
    if isStay part then followWith jump names rest fs
    else if part == ".." then followWith jump names.dropLast rest fs
    else if maxName < (bytesOf part).length then .error .nameTooLong
    else if ((Entry.dir entries).child? part).isSome then
      followWith jump (names ++ [part]) rest fs
    else if rest.isEmpty then .ok (.missing names part)
    else .error .noEntry

/-- Follow the components of a path, with so many links left. -/
def follow : Nat → List String → List String → FileSystem → Except FileError.Cause Target
  | 0, names, parts, fs => followWith (fun _ _ => .error .tooManyLinks) names parts fs
  | links + 1, names, parts, fs =>
    followWith (fun names parts => follow links names parts fs) names parts fs

/-- The number of links that are followed on one way. -/
def maxLinks : Nat := 40

/-- The path is one at all: it is not empty, not too long, and has no NUL character. -/
def checkPath (path : String) : Except FileError Unit :=
  if path.toList.contains (Char.ofNat 0) then .error .nulCharacter
  else if pathLimit ≤ (bytesOf path).length then .error (.refused .nameTooLong path)
  else if path.isEmpty then .error (.refused .noEntry path)
  else .ok ()

/-- Where the components of a path start from. -/
def startOf (fs : FileSystem) (path : String) : List String := startFrom fs.cwd path

/-- Where a path leads to. -/
def locate (fs : FileSystem) (path : String) : Except FileError Target :=
  match checkPath path with
  | .error error => .error error
  | .ok () =>
    match follow maxLinks (fs.startOf path) (Path.pieces path) fs with
    | .ok target => .ok target
    | .error cause => .error (.refused cause path)

/-- The entry at a path, `none` if there is nothing.  Some errors mean just that. -/
def status (fs : FileSystem) (path : String) : Except FileError (Option Entry) :=
  match fs.locate path with
  | .ok (.existing _ e) => .ok (some e)
  | .ok (.missing _ _) => .ok none
  | .error (.refused .noEntry _) => .ok none
  | .error (.refused .notDirectory _) => .ok none
  | .error (.refused .tooManyLinks _) => .ok none
  | .error .nulCharacter => .ok none
  | .error error => .error error

/-- There is something at a path. -/
def pathExists (fs : FileSystem) (path : String) : Except FileError Bool :=
  (fs.status path).map Option.isSome

/-- There is a file at a path. -/
def fileExists (fs : FileSystem) (path : String) : Except FileError Bool :=
  (fs.status path).map fun e => (e.map Entry.isFile).getD false

/-- There is a directory at a path. -/
def dirExists (fs : FileSystem) (path : String) : Except FileError Bool :=
  (fs.status path).map fun e => (e.map Entry.isDir).getD false

/-- The content of a file. -/
def read (fs : FileSystem) (path : String) : Except FileError Bytes :=
  match fs.locate path with
  | .error error => .error error
  | .ok (.missing _ _) => .error (.refused .noEntry path)
  | .ok (.existing _ e) => e.content.mapError fun cause => .refused cause path

/-- Why nothing can be written to a path with a slash at its end.  It can only mean a
directory, whether there is one or not, but what stands in front of it has to be one, too. -/
def slashCause (fs : FileSystem) (path : String) : FileError.Cause :=
  let bare := (path.toList.reverse.dropWhile (· == '/')).reverse
  match follow maxLinks (fs.startOf path) (Path.pieces (String.ofList bare)).dropLast fs with
  | .error cause => cause
  | .ok (.missing _ _) => .noEntry
  | .ok (.existing _ e) => if e.isDir then .isDirectory else .notDirectory

/-- Where a new content of the file at a path goes. -/
def writeTarget (fs : FileSystem) (path : String) : Except FileError (List String) :=
  match checkPath path with
  | .error error => .error error
  | .ok () =>
    if path.endsWith "/" then .error (.refused (fs.slashCause path) path)
    else
      match fs.locate path with
      | .error error => .error error
      | .ok (.existing names e) =>
        match e.content with
        | .error cause => .error (.refused cause path)
        | .ok _ => .ok names
      | .ok (.missing dir name) => .ok (dir ++ [name])

/-- Put an entry at the end of some names from the root. -/
def place (fs : FileSystem) (names : List String) (e : Entry) : FileSystem :=
  { fs with top := fs.top.place e names }

/-- Replace the content of a file, or make a file. -/
def write (fs : FileSystem) (path : String) (data : Bytes) : Except FileError FileSystem :=
  (fs.writeTarget path).map fun names => fs.place names (.file data)

/-- The names from the root of a path, by its spelling. -/
def namesOf (fs : FileSystem) (p : Path) : List String :=
  let start : Path := ⟨.slash, if p.root = .relative then fs.cwd else []⟩
  (start.append { p with root := .relative }).normalize.parts

/-- The names from the root that a path has by its spelling. -/
def absolute (fs : FileSystem) (path : String) : List String := fs.namesOf (Path.ofString path)

end FileSystem

end Cyclometry
