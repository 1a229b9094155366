import Cyclometry.Text.Split

/-!
# Paths

A path is a root mark and a list of components.  Two leading slashes are a root of their own,
while three or more mean the same as one.  Reading a path drops empty components and single
dots; `..` stays, because only the file system knows what it leads to.  `Path.normalize`
resolves `..` by the spelling alone.
-/

namespace Cyclometry

/-- How a path begins. -/
inductive Path.Root
  | relative
  | slash
  | doubleSlash
  deriving DecidableEq, Repr

/-- A path, as root mark and components. -/
structure Path where
  root : Path.Root
  parts : List String
  deriving DecidableEq, Repr

namespace Path

/-- The root mark in front of a path. -/
def Root.text : Root → String
  | relative => ""
  | slash => "/"
  | doubleSlash => "//"

/-- The root mark of a spelling. -/
def Root.ofChars : List Char → Root
  | '/' :: '/' :: '/' :: _ => slash
  | '/' :: '/' :: _ => doubleSlash
  | '/' :: _ => slash
  | _ => relative

/-- All pieces between slashes. -/
def pieces (s : String) : List String := (Text.splitOn '/' s.toList).map String.ofList

/-- A piece between slashes that is a component: neither empty nor a single dot. -/
def isComponent (piece : String) : Bool := !(piece == "" || piece == ".")

/-- Read a path. -/
def ofString (s : String) : Path :=
  ⟨Root.ofChars s.toList, (pieces s).filter isComponent⟩

/-- Write a path.  The empty relative path is a dot. -/
def text (p : Path) : String :=
  if p.root = .relative ∧ p.parts = [] then "."
  else p.root.text ++ Text.joinTexts "/" p.parts

/-- The last component, empty for a bare root. -/
def name (p : Path) : String := p.parts.getLastD ""

/-- Divide a name at its last dot.  A dot at either end of the name does not count. -/
def splitName (name : String) : String × String :=
  let cs := name.toList
  let after := (cs.reverse.takeWhile (· != '.')).reverse
  let before := cs.take (cs.length - after.length - 1)
  if !cs.contains '.' || after.isEmpty || before.isEmpty then (name, "")
  else (String.ofList before, String.ofList ('.' :: after))

/-- The name without its suffix. -/
def stem (p : Path) : String := (splitName p.name).1

/-- The end of the name from its last dot on. -/
def suffix (p : Path) : String := (splitName p.name).2

/-- The path without its last component. -/
def parent (p : Path) : Path := { p with parts := p.parts.dropLast }

/-- The path of something inside `p`. -/
def child (p : Path) (name : String) : Path := { p with parts := p.parts ++ [name] }

/-- `q` as seen from `p`: a rooted path stands for itself. -/
def append (p q : Path) : Path :=
  if q.root = .relative then { p with parts := p.parts ++ q.parts } else q

/-! ## Normal form -/

/-- One more component of a normal form: `..` removes the component in front of it, is kept
at the front of a relative path and vanishes at the root. -/
def pushNormal (root : Root) (parts : List String) (part : String) : List String :=
  if part != ".." || (root == .relative && parts.isEmpty) || parts.getLast? == some ".." then
    parts ++ [part]
  else parts.dropLast

/-- The path with every `..` resolved by spelling. -/
def normalize (p : Path) : Path :=
  { p with parts := p.parts.foldl (pushNormal p.root) [] }

/-- The normal form of a spelling. -/
def normal (s : String) : String := (ofString s).normalize.text

end Path

end Cyclometry
