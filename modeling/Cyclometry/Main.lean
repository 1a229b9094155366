import Cyclometry.Json.Read
import Cyclometry.Program
import Cyclometry.Snapshot

/-!
# The command line

The words of the command line say what to do.  A snapshot on the standard input says which
files there are and what the parsers make of them; files that have changed are written back
below the directory of the snapshot.
-/

namespace Cyclometry

/-- The directory of a snapshot. -/
def snapshotRoot (v : Value) : List String :=
  (Path.ofString (((v.field? "root").bind Value.text?).getD "/")).normalize.parts

/-- The exit status of an ending.  A fault that nothing takes care of means an exit status of
its own, too. -/
def exitStatus : Program.Ending → Nat
  | .exit status => status
  | .reported _ => Program.faultStatus
  | .fallen _ => Program.faultStatus

/-- Write the files that have changed. -/
def writeChanges (changes : List (List String × Bytes)) : IO Unit :=
  changes.forM fun (names, data) =>
    IO.FS.writeBinFile (Path.mk .slash names).text (ByteArray.mk data.toArray)

end Cyclometry

open Cyclometry in
/-- Run the program. -/
def main (words : List String) : IO UInt32 := do
  let source ← (← IO.getStdin).readToEnd
  match Json.read source.toList with
  | .error _ =>
    IO.eprintln "The snapshot is not valid JSON."
    pure 2
  | .ok v =>
    let root := snapshotRoot v
    let debug ← IO.getEnv "DEBUG"
    let surroundings : Surroundings := {
      fs := Snapshot.fileSystem root v
      tools := Snapshot.tools root v
      terminal := ⟨← (← IO.getStderr).isTty⟩
      debug := (debug.getD "") != ""
      interrupted := false }
    let outcome := Program.run surroundings words
    writeChanges (Snapshot.changes surroundings.fs outcome.fs)
    IO.print outcome.out
    IO.eprint outcome.err
    pure (exitStatus outcome.ending).toUInt32
