import Cyclometry.LineMap.Marker
import Cyclometry.Location
import Cyclometry.Text.Split

/-!
# Line maps

A **line map** tells for each row of a preprocessed buffer which line of which file it comes
from.  The rows between two marker lines form a segment, and the marker in front of it fixes
its file, its first line and whether it belongs to a system header.  `LineMap.scan` finds the
markers and gives back the buffer with every marker line blanked out, so that rows, columns
and byte offsets keep their meaning.
-/

namespace Cyclometry

/-- A run of rows that come from consecutive lines of one file. -/
structure Segment where
  /-- The first row, counted from zero. -/
  startRow : Nat
  /-- The line of the file that the first row comes from. -/
  firstLine : Nat
  /-- The file, unless the rows come from no file. -/
  file : Option String
  /-- The file is a system header. -/
  system : Bool
  deriving DecidableEq, Repr

/-- The map of one buffer. -/
structure LineMap where
  /-- The path of the buffer. -/
  path : String
  /-- The segments in the order of their rows. -/
  segments : Array Segment
  deriving DecidableEq, Repr

namespace LineMap

/-- The rows in front of the first marker come from the buffer itself. -/
def initial (path : String) : Segment := ⟨0, 1, some path, false⟩

/-- A buffer without markers. -/
def unmarked (path : String) : LineMap := ⟨path, #[initial path]⟩

/-- The segment in force after the last marker. -/
def current (m : LineMap) : Segment := m.segments.back?.getD (initial m.path)

/-- The buffer has at least one marker. -/
def hasMarkers (m : LineMap) : Bool := decide (1 < m.segments.size)

/-! ## Scanning -/

/-- The flag of text from a system header. -/
def systemFlag : Nat := 3

/-- The segment that a marker at `row` begins.  Without a name it stays in the file at hand;
flags count only beside a name. -/
def follow (current : Segment) (row : Nat) (marker : Marker) :
    Except Decimal.TooLong Segment := do
  let (file, system) ← match marker.name with
    | none => pure (current.file, current.system)
    | some name =>
      let flags ← marker.flags.mapM Decimal.read
      let file := Marker.fileName name
      pure (if Marker.isPseudoFile file then none else some file, flags.contains systemFlag)
  let firstLine ← Decimal.read marker.number
  pure ⟨row + 1, firstLine, file, system⟩

/-- The map after the rest of the lines, the first of which is at `row`. -/
def extend (m : LineMap) (row : Nat) : List Bytes → Except Decimal.TooLong LineMap
  | [] => .ok m
  | line :: rest =>
    match Marker.read? line with
    | none => m.extend (row + 1) rest
    | some marker => do
      let segment ← follow m.current row marker
      { m with segments := m.segments.push segment }.extend (row + 1) rest

/-- The lines of a buffer, divided at line feeds. -/
def lines (source : Bytes) : List Bytes := Text.splitOn 0x0a source

/-- Lines with a line feed between neighbours. -/
def unlines (ls : List Bytes) : Bytes := Text.joinWith [0x0a] ls

/-- A marker line turns into as many spaces, any other line stays. -/
def cleanLine (line : Bytes) : Bytes :=
  if (Marker.read? line).isSome then List.replicate line.length 0x20 else line

/-- The buffer with its marker lines blanked out. -/
def clean (source : Bytes) : Bytes := unlines ((lines source).map cleanLine)

/-- The line map of a buffer, and the buffer without its markers. -/
def scan (path : String) (source : Bytes) : Except Decimal.TooLong (LineMap × Bytes) := do
  let m ← (unmarked path).extend 0 (lines source)
  pure (m, clean source)

/-! ## Resolving -/

/-- How many of the segments start at or in front of a row, found by halving the range from `lo`
to `hi`.  There is no answer if the search looks outside of the segments. -/
def bisect? (segments : Array Segment) (row lo hi : Nat) : Option Nat :=
  if lo < hi then
    match segments[(lo + hi) / 2]? with
    | none => none
    | some segment =>
      if row < segment.startRow then bisect? segments row lo ((lo + hi) / 2)
      else bisect? segments row ((lo + hi) / 2 + 1) hi
  else some lo
  termination_by hi - lo

/-- The segment that contains a row: the last one that starts at or in front of it. -/
def segmentAt? (m : LineMap) (row : Nat) : Option Segment :=
  match bisect? m.segments row 0 m.segments.size with
  | some (i + 1) => m.segments[i]?
  | _ => none

/-- The location of a row and a column, both counted from zero, or what there is to say about a row
that has none. -/
def resolve (m : LineMap) (row column : Int) : Except LocationError Location :=
  if row < 0 then .error (.invalidRow row m.path)
  else
    match m.segmentAt? row.toNat with
    | none => .error (.noOriginatingFile row m.path)
    | some segment =>
      match segment.file with
      | none => .error (.noOriginatingFile row m.path)
      | some file =>
        .ok ⟨file, segment.firstLine + (row - segment.startRow), column + 1, segment.system⟩

/-- Why a row and a column have no location. -/
inductive Fault
  | unresolved (error : LocationError)
  /-- The row has too many digits to be shown in an error. -/
  | numeralTooLong
  deriving DecidableEq, Repr

/-- The location of any row and column.  Rows of a syntax tree are short, but a caller may ask for
one that no error can show. -/
def locate (m : LineMap) (row column : Int) : Except Fault Location :=
  (m.resolve row column).mapError fun error =>
    if error.isShort then .unresolved error else .numeralTooLong

end LineMap

end Cyclometry
