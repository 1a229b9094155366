import Cyclometry.Compiler.Cursor
import Cyclometry.FileSystem

/-!
# Work of the compiler

The compiler reads files on its own: the unit, what the unit includes, what that includes, and so
on.  Which file it asks for next depends on those that it has read, so its work on a unit is a tree
of questions to the file system.
-/

namespace Cyclometry.Compiler

/-- What the compiler makes of a unit: its messages with their severity, and the tree. -/
structure Parse where
  messages : List (Int × String)
  root : Cursor

/-- The work on a unit. -/
inductive Job
  /-- It is done; the compiler may refuse the unit. -/
  | finish (result : Option Parse)
  /-- The file at a path is asked for. -/
  | ask (path : String) (next : Except FileError Bytes → Job)

namespace Job

/-- The result of the work on a file system. -/
def run (fs : FileSystem) : Job → Option Parse
  | finish result => result
  | ask path next => (next (fs.read path)).run fs

/-- The paths that are asked for on a file system, in their order. -/
def asked (fs : FileSystem) : Job → List String
  | finish _ => []
  | ask path next => path :: (next (fs.read path)).asked fs

end Job

end Cyclometry.Compiler
