import Cyclometry.Log
import Cyclometry.Node
import Cyclometry.Path.Basic
import Cyclometry.Value

/-!
# Eligible declarations

Only code of primary source files is reported.  A declaration is excluded if its location is
unknown, if it stands in a system header or below a system include directory, or if its file
is a header by its name.
-/

namespace Cyclometry

/-- Which files are not primary sources. -/
structure Policy where
  /-- Endings of header names. -/
  headers : List String
  /-- System include directories, in normal form with one slash at the end. -/
  systemDirs : List String
  /-- All configured endings are texts.  Otherwise `headers` has those in front of the first
  one that is not, and a path that has none of these endings cannot be judged. -/
  headersComplete : Bool := true
  deriving DecidableEq, Repr

namespace Policy

/-- The usual endings of header names. -/
def defaultHeaders : List String := [".h", ".hpp", ".hh", ".hxx", ".h++", ".inc"]

/-- The usual system include directories. -/
def defaultSystemDirs : List String := ["/usr/include", "/usr/local/include"]

/-- A directory in normal form with one slash at the end. -/
def normalDir (dir : String) : String :=
  String.ofList ((Path.normal dir).toList.reverse.dropWhile (· == '/')).reverse ++ "/"

/-- The policy of some endings and directories. -/
def ofLists (headers dirs : List String) : Policy := ⟨headers, dirs.map normalDir, true⟩

/-- The usual policy. -/
def default : Policy := ofLists defaultHeaders defaultSystemDirs

/-- Something that should be a text, or a list of texts, is not. -/
structure NotText where
  deriving DecidableEq, Repr

/-- The policy of configured endings and directories. -/
def ofValues (headers dirs : List Value) : Except NotText Policy :=
  match dirs.mapM Value.text? with
  | none => .error ⟨⟩
  | some dirs =>
    let texts := (headers.takeWhile fun v => v.text?.isSome).filterMap Value.text?
    .ok ⟨texts, dirs.map normalDir, texts.length == headers.length⟩

/-- The file is a header by its name. -/
def isHeader (p : Policy) (path : String) : Except NotText Bool :=
  if p.headers.any fun ending => ending.toList.isSuffixOf path.toList then .ok true
  else if p.headersComplete then .ok false
  else .error ⟨⟩

/-- The file lies below a system include directory. -/
def isSystemPath (p : Policy) (path : String) : Bool :=
  p.systemDirs.any fun dir => dir.toList.isPrefixOf (Path.normal path).toList

/-- Why a declaration is excluded. -/
inductive Exclusion
  | unresolved (error : LocationError)
  | systemHeader (path : String)
  | headerFile (path : String)
  deriving DecidableEq, Repr

/-- The wording of an exclusion. -/
def Exclusion.message (name : String) : Exclusion → String
  | unresolved error => "Excluding " ++ name ++ ": " ++ error.message
  | systemHeader path => "Excluding " ++ name ++ ": system header " ++ path
  | headerFile path => "Excluding " ++ name ++ ": header file " ++ path

/-- The row that the log gets for an exclusion. -/
def Exclusion.row (name : String) (exclusion : Exclusion) : Log.Row :=
  ⟨.debug, .eligibility, exclusion.message name⟩

/-- Judge a location: the location itself, or why a declaration there is excluded. -/
def judge (p : Policy) (location : Except LocationError Location) :
    Except NotText (Except Exclusion Location) :=
  match location with
  | .error error => .ok (.error (.unresolved error))
  | .ok l =>
    if l.system || p.isSystemPath l.path then .ok (.error (.systemHeader l.path))
    else
      match p.isHeader l.path with
      | .error fault => .error fault
      | .ok true => .ok (.error (.headerFile l.path))
      | .ok false => .ok (.ok l)

end Policy

end Cyclometry
