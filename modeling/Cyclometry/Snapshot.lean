import Cyclometry.Frontend
import Cyclometry.Text.Digit

/-!
# Snapshots

A snapshot has the files that a run may see, together with what the parsers make of them, as
data.  Trees are lists of rows in preorder; each row ends with the number of children.  Bytes
are a text, or an object with their hexadecimal digits.
-/

namespace Cyclometry.Snapshot

/-! ## Bytes and trees -/

/-- The bytes of pairs of hexadecimal digits, which may have blanks between them. -/
def hexBytes? : List Char → Option Bytes
  | [] => some []
  | a :: rest =>
    if a.isWhitespace || a == Char.ofNat 11 || a == Char.ofNat 12 then hexBytes? rest
    else
      match rest with
      | b :: rest => do
        let high ← Text.hexDigit? a
        let low ← Text.hexDigit? b
        pure (UInt8.ofNat (high * 16 + low) :: (← hexBytes? rest))
      | [] => none

/-- The bytes that a value stands for. -/
def bytes? : Value → Option Bytes
  | .text s => some (bytesOf s)
  | v => hexBytes? (((v.field? "hex").bind Value.text?).getD "").toList

/-- The bytes that a value stands for, none if it makes no sense. -/
def bytes (v : Value) : Bytes := (bytes? v).getD []

/-- A row of a syntax tree. -/
def grammarRow? : Value → Option (Grammar.Head × Nat)
  | .list [rule, named, field, startByte, endByte, startRow, startColumn, count] => do
    let head : Grammar.Head := {
      rule := ← rule.text?
      named := named.truthy
      field := field.text?
      startByte := ← startByte.int?
      endByte := ← endByte.int?
      startRow := ← startRow.int?
      startColumn := ← startColumn.int? }
    pure (head, (← count.int?).toNat)
  | _ => none

/-- The tree of a source without any code. -/
def emptyParse : Grammar.Parse :=
  ⟨false, .mk ⟨"unit", true, none, 0, 0, 0, 0⟩ []⟩

/-- What the grammar-based parser makes of a source. -/
def grammarParse? (v : Value) : Option Grammar.Parse := do
  let rows ← (v.fieldItems "nodes").mapM grammarRow?
  let root ← Grammar.Node.ofRows? rows
  pure ⟨((v.field? "has_error").map Value.truthy).getD false, root⟩

/-- A row of a compiler tree. -/
def compilerRow? : Value → Option (Compiler.Head × Nat)
  | .list [kind, spelling, isDefinition, file, line, column, system, count] => do
    let head : Compiler.Head := {
      kind := kind.text?
      spelling := ← spelling.text?
      isDefinition := isDefinition.truthy
      file := file.text?
      line := ← line.int?
      column := ← column.int?
      system := if system matches .null then none else some system.truthy }
    pure (head, (← count.int?).toNat)
  | _ => none

/-- A message of the compiler with its severity. -/
def message? : Value → Option (Int × String)
  | .list [severity, text] => do pure (← severity.int?, ← text.text?)
  | _ => none

/-- What the compiler makes of a source. -/
def compilerParse? (v : Value) : Option Compiler.Parse := do
  let rows ← (v.fieldItems "nodes").mapM compilerRow?
  let root ← Compiler.Cursor.ofRows? rows
  pure ⟨(v.fieldItems "diagnostics").filterMap message?, root⟩

/-! ## Files -/

/-- The names that lead to a path below a directory. -/
def namesBelow (root : List String) (path : String) : List String :=
  (Path.mk .slash root |>.append { Path.ofString path with root := .relative }).normalize.parts

/-- Make a directory, unless there is something already. -/
def makeDir (fs : FileSystem) (names : List String) : FileSystem :=
  if (fs.entry? names).isSome then fs else fs.place names (.dir [])

/-- The path of a file of the snapshot. -/
def filePath (file : Value) : String := ((file.field? "path").bind Value.text?).getD ""

/-- The file system of a snapshot: below `root` there are its directories and files, and
relative paths start from its current directory. -/
def fileSystem (root : List String) (v : Value) : FileSystem :=
  let cwd := ((v.field? "cwd").bind Value.text?).getD ""
  let start := makeDir ⟨.dir [], namesBelow root cwd⟩ root
  let dirs := (v.fieldItems "dirs").filterMap Value.text?
  let fs := dirs.foldl (fun fs dir => makeDir fs (namesBelow root dir)) start
  let fs := (v.fieldItems "files").foldl (fun fs file =>
    fs.place (namesBelow root (filePath file))
      (.file (((file.field? "data").map bytes).getD []))) fs
  makeDir fs fs.cwd

/-- Whether the compiler can be used. -/
def availability (v : Value) : Compiler.Availability :=
  match (v.field? "clang").bind Value.text? with
  | some "no_bindings" => .noBindings
  | some "no_library" => .noLibrary
  | _ => .available

/-- Parsers that know some files.  To the grammar-based one any other file has no code, and
the compiler refuses it. -/
def toolchain (availability : Compiler.Availability)
    (trees : List (List String × Grammar.Parse))
    (units : List (List String × Compiler.Parse)) : Toolchain where
  grammar names _ _ := ((trees.find? fun t => t.1 == names).map (·.2)).getD emptyParse
  compiler names _ := .finish ((units.find? fun u => u.1 == names).map (·.2))
  availability := availability

/-- The parsers of a snapshot.  Of several files of one path the last one counts. -/
def tools (root : List String) (v : Value) : Toolchain :=
  let files := (v.fieldItems "files").reverse
  toolchain (availability v)
    (files.filterMap fun file => do
      pure (namesBelow root (filePath file), ← grammarParse? (← file.field? "tree")))
    (files.filterMap fun file => do
      pure (namesBelow root (filePath file), ← compilerParse? (← file.field? "tu")))

/-! ## Changes -/

/-- The files of the second file system that the first one does not have like that. -/
def changes (before after : FileSystem) : List (List String × Bytes) :=
  after.top.files.filter fun f =>
    match before.entry? f.1 with
    | some (.file data) => data != f.2
    | _ => true

end Cyclometry.Snapshot
