import Mathlib.Algebra.BigOperators.Group.List.Basic
import Mathlib.Data.List.Infix
import Cyclometry.LineMap.Basic
import Cyclometry.Proofs.Fallible

/-!
# Line maps and the forward reading of a buffer

A line map answers for any row by a binary search in its segments.  Reading the buffer from the
top answers the same question without a map: the last marker in front of the row fixes the
line, and the last one of them that names a file fixes the file (`LineMap.reading`).  This
module proves that both give the same answer (`resolve_scan`).  An error shows the row that it is
about, so for a row of too many digits there is a fault in its place (`locate_scan`).

The representation invariant is `Scanned`: the segments of a scanned map are, one for each
initial part of the list of markers, what that part says about the rows behind it.  It is
carried line by line through the scan (`Scanned.extend`).  Rows of markers increase, so starts of
segments do, and the search finds the initial part that ends in front of the row.
-/

namespace Cyclometry.LineMap

/-! ## The search -/

/-- What the search answers with: it has divided the segments into those that start at or in front
of the row and those that start behind it. -/
structure Divides (segments : Array Segment) (row i : Nat) : Prop where
  le_size : i ≤ segments.size
  below : ∀ j (s : Segment), segments[j]? = some s → j < i → s.startRow ≤ row
  above : ∀ j (s : Segment), segments[j]? = some s → i ≤ j → row < s.startRow

/-- Segments in the order of their rows. -/
def Increasing (segments : Array Segment) : Prop :=
  ∀ (i j : Nat) (a b : Segment), segments[i]? = some a → segments[j]? = some b → i < j →
    a.startRow < b.startRow

/-- On segments in order, the search never looks outside of them, and divides them.  The induction
is on the length of the range; what lies outside of it is already known to be on its side. -/
theorem bisect?_divides {segments : Array Segment} (hinc : Increasing segments) (row : Nat)
    {lo hi : Nat} (hle : lo ≤ hi) (hsize : hi ≤ segments.size)
    (hbelow : ∀ j (s : Segment), segments[j]? = some s → j < lo → s.startRow ≤ row)
    (habove : ∀ j (s : Segment), segments[j]? = some s → hi ≤ j → row < s.startRow) :
    ∃ i, bisect? segments row lo hi = some i ∧ Divides segments row i := by
  induction hlength : hi - lo using Nat.strong_induction_on generalizing lo hi with
  | h length ih =>
    rw [bisect?]
    by_cases hlt : lo < hi
    · rw [if_pos hlt]
      have hmid : (lo + hi) / 2 < segments.size := by omega
      obtain ⟨segment, hsegment⟩ : ∃ segment, segments[(lo + hi) / 2]? = some segment :=
        ⟨_, Array.getElem?_eq_getElem hmid⟩
      rw [hsegment]
      by_cases hrow : row < segment.startRow
      · simp only [if_pos hrow]
        refine ih ((lo + hi) / 2 - lo) (by omega) (by omega) (by omega) hbelow ?_ rfl
        intro j s hs hj
        rcases Nat.eq_or_lt_of_le hj with rfl | hj
        · obtain rfl := Option.some.inj (hsegment.symm.trans hs)
          exact hrow
        · exact Nat.lt_trans hrow (hinc _ _ _ _ hsegment hs hj)
      · simp only [if_neg hrow]
        refine ih (hi - ((lo + hi) / 2 + 1)) (by omega) (by omega) hsize ?_ habove rfl
        intro j s hs hj
        rcases Nat.eq_or_lt_of_le (Nat.le_of_lt_succ hj) with rfl | hj
        · obtain rfl := Option.some.inj (hsegment.symm.trans hs)
          exact Nat.le_of_not_lt hrow
        · exact Nat.le_trans (Nat.le_of_lt (hinc _ _ _ _ hs hsegment hj)) (Nat.le_of_not_lt hrow)
    · rw [if_neg hlt]
      obtain rfl : lo = hi := by omega
      exact ⟨lo, rfl, hsize, hbelow, habove⟩

/-! ## Reading from the top -/

/-- The marker lines of a list of lines, each with its row.  The first line has the row `row`. -/
def markersFrom (row : Nat) (ls : List Bytes) : List (Nat × Marker) :=
  (ls.zipIdx row).filterMap fun line => (Marker.read? line.1).map fun marker => (line.2, marker)

/-- The file that some markers lead to, and whether it is a system header: what the last one of
them says that names a file.  A name that stands for no file leads to none. -/
def origin (path : String) (markers : List (Nat × Marker)) : Option String × Bool :=
  match (markers.filterMap fun m => m.2.name.map fun name => (name, m.2.flags)).getLast? with
  | none => (some path, false)
  | some (name, flags) =>
    (if Marker.isPseudoFile (Marker.fileName name) then none else some (Marker.fileName name),
      (flags.map (Decimal.value 10)).contains systemFlag)

/-- The location of a row and a column, by reading the buffer from the top down to the row. -/
def reading (path : String) (source : Bytes) (row : Nat) (column : Int) :
    Except LocationError Location :=
  let markers := (markersFrom 0 (lines source)).filter fun m => m.1 < row
  match markers.getLast? with
  | none => .ok ⟨path, row + 1, column + 1, false⟩
  | some (markerRow, marker) =>
    match origin path markers with
    | (none, _) => .error (.noOriginatingFile row path)
    | (some file, system) =>
      .ok ⟨file, Decimal.value 10 marker.number + (row - markerRow - 1 : Int), column + 1, system⟩

/-! ## The scan -/

/-- The segment of the rows behind some markers. -/
def segmentOf (path : String) (markers : List (Nat × Marker)) : Segment :=
  match markers.getLast? with
  | none => initial path
  | some (row, marker) =>
    ⟨row + 1, Decimal.value 10 marker.number, (origin path markers).1, (origin path markers).2⟩

/-- A map in the middle of a scan: the lines in front of `row` have been read, and had these
markers. -/
structure Scanned (path : String) (row : Nat) (markers : List (Nat × Marker)) (m : LineMap) :
    Prop where
  path_eq : m.path = path
  segments_eq : m.segments.toList = markers.inits.map (segmentOf path)
  rows_lt : ∀ marker ∈ markers, marker.1 < row
  rows_increasing : markers.Pairwise fun a b => a.1 < b.1

variable {path : String} {row : Nat} {markers : List (Nat × Marker)} {m : LineMap}

theorem segmentOf_origin (path : String) (markers : List (Nat × Marker)) :
    (segmentOf path markers).file = (origin path markers).1 ∧
      (segmentOf path markers).system = (origin path markers).2 := by
  rw [segmentOf]
  cases hlast : markers.getLast? with
  | none =>
    rw [List.getLast?_eq_none_iff.mp hlast]
    exact ⟨rfl, rfl⟩
  | some marker => exact ⟨rfl, rfl⟩

theorem read_eq {ds : List Nat} {n : Nat} (h : Decimal.read ds = .ok n) :
    n = Decimal.value 10 ds := by
  rw [Decimal.read] at h
  split at h
  · cases h
  · exact (Except.ok.inj h).symm

theorem mapM_read_eq {flags : List (List Nat)} {values : List Nat}
    (h : flags.mapM Decimal.read = .ok values) : values = flags.map (Decimal.value 10) := by
  induction flags generalizing values with
  | nil =>
    rw [List.mapM_nil] at h
    exact (Except.ok.inj h).symm
  | cons ds flags ih =>
    rw [List.mapM_cons] at h
    obtain ⟨n, hfirst, h⟩ := exists_of_bind_eq_ok h
    obtain ⟨ns, hrest, h⟩ := exists_of_bind_eq_ok h
    rw [← Except.ok.inj h, List.map_cons, read_eq hfirst, ih hrest]

theorem origin_concat_unnamed {marker : Marker} (hname : marker.name = none) :
    origin path (markers ++ [(row, marker)]) = origin path markers := by
  rw [origin, List.filterMap_append]
  simp [hname, origin]

theorem origin_concat_named {marker : Marker} {name : Bytes} (hname : marker.name = some name) :
    origin path (markers ++ [(row, marker)]) =
      (if Marker.isPseudoFile (Marker.fileName name) then none else some (Marker.fileName name),
        (marker.flags.map (Decimal.value 10)).contains systemFlag) := by
  rw [origin, List.filterMap_append]
  simp [hname]

/-- A marker begins the segment that it and all markers in front of it lead to. -/
theorem follow_eq {marker : Marker} {segment : Segment}
    (h : follow (segmentOf path markers) row marker = .ok segment) :
    segment = segmentOf path (markers ++ [(row, marker)]) := by
  rw [follow] at h
  cases hname : marker.name with
  | none =>
    obtain ⟨hfile, hsystem⟩ := segmentOf_origin path markers
    simp only [hname, pure_bind] at h
    obtain ⟨n, hnumber, h⟩ := exists_of_bind_eq_ok h
    rw [segmentOf, List.getLast?_concat, origin_concat_unnamed hname, ← hfile, ← hsystem,
      ← Except.ok.inj h, read_eq hnumber]
  | some name =>
    simp only [hname, pure_bind] at h
    obtain ⟨values, hflags, h⟩ := exists_of_bind_eq_ok h
    obtain ⟨n, hnumber, h⟩ := exists_of_bind_eq_ok h
    rw [segmentOf, List.getLast?_concat, origin_concat_named hname, ← Except.ok.inj h,
      read_eq hnumber, mapM_read_eq hflags]

/-! ### One line of the scan -/

theorem scanned_unmarked (path : String) : Scanned path 0 [] (unmarked path) :=
  ⟨rfl, rfl, fun _ h => absurd h List.not_mem_nil, .nil⟩

theorem Scanned.size_eq (h : Scanned path row markers m) :
    m.segments.size = markers.length + 1 := by
  rw [← Array.length_toList, h.segments_eq, List.length_map, List.length_inits]

theorem Scanned.getElem?_segments (h : Scanned path row markers m) {i : Nat}
    (hi : i ≤ markers.length) : m.segments[i]? = some (segmentOf path (markers.take i)) := by
  have hlt : i < markers.inits.length := by
    rw [List.length_inits]
    omega
  rw [← Array.getElem?_toList, h.segments_eq, List.getElem?_map, List.getElem?_eq_getElem hlt,
    List.getElem_inits, Option.map_some]

theorem Scanned.current_eq (h : Scanned path row markers m) :
    m.current = segmentOf path markers := by
  rw [current, Array.back?_eq_getElem?, h.size_eq, Nat.add_sub_cancel,
    h.getElem?_segments (Nat.le_refl _), List.take_length, Option.getD_some]

/-- A line without a marker changes nothing. -/
theorem Scanned.skip (h : Scanned path row markers m) : Scanned path (row + 1) markers m :=
  ⟨h.path_eq, h.segments_eq, fun x hx => Nat.lt_succ_of_lt (h.rows_lt x hx), h.rows_increasing⟩

/-- A marker line adds the segment that it begins. -/
theorem Scanned.push (h : Scanned path row markers m) {marker : Marker} {segment : Segment}
    (hfollow : follow m.current row marker = .ok segment) :
    Scanned path (row + 1) (markers ++ [(row, marker)])
      { m with segments := m.segments.push segment } := by
  rw [h.current_eq] at hfollow
  refine ⟨h.path_eq, ?_, ?_, ?_⟩
  · rw [Array.toList_push, h.segments_eq, follow_eq hfollow, List.inits_append]
    simp
  · intro x hx
    rcases List.mem_append.mp hx with hx | hx
    · exact Nat.lt_succ_of_lt (h.rows_lt x hx)
    · obtain rfl := List.mem_singleton.mp hx
      exact Nat.lt_succ_self row
  · refine List.pairwise_append.mpr ⟨h.rows_increasing, List.pairwise_singleton .., ?_⟩
    intro x hx y hy
    obtain rfl := List.mem_singleton.mp hy
    exact h.rows_lt x hx

theorem markersFrom_cons (row : Nat) (line : Bytes) (rest : List Bytes) :
    markersFrom row (line :: rest) =
      ((Marker.read? line).map fun marker => (row, marker)).toList ++
        markersFrom (row + 1) rest := by
  rw [markersFrom, List.zipIdx_cons, markersFrom]
  cases hread : Marker.read? line with
  | none => rw [List.filterMap_cons_none (by simp [hread])]; rfl
  | some marker => rw [List.filterMap_cons_some (by simp [hread]; rfl)]; rfl

/-- The scan reads the rest of the lines. -/
theorem Scanned.extend {ls : List Bytes} (h : Scanned path row markers m) {m' : LineMap}
    (hextend : m.extend row ls = .ok m') :
    Scanned path (row + ls.length) (markers ++ markersFrom row ls) m' := by
  induction ls generalizing row markers m with
  | nil =>
    obtain rfl := Except.ok.inj hextend
    have hnone : markersFrom row [] = [] := rfl
    rw [hnone, List.append_nil]
    exact h
  | cons line rest ih =>
    rw [LineMap.extend] at hextend
    rw [markersFrom_cons, List.length_cons, ← Nat.add_assoc, Nat.add_right_comm]
    cases hread : Marker.read? line with
    | none =>
      rw [hread] at hextend
      exact ih h.skip hextend
    | some marker =>
      rw [hread] at hextend
      obtain ⟨segment, hfollow, hextend⟩ := exists_of_bind_eq_ok hextend
      have hrest := ih (h.push hfollow) hextend
      rw [List.append_assoc] at hrest
      exact hrest

/-! ## The segment of a row -/

theorem startRow_segmentOf_take {i : Nat} (hi : i < markers.length) :
    (segmentOf path (markers.take (i + 1))).startRow = (markers[i]).1 + 1 := by
  rw [List.take_succ_eq_append_getElem hi, segmentOf, List.getLast?_concat]

/-- Starts of segments increase, because rows of markers do. -/
theorem Scanned.increasing (h : Scanned path row markers m) : Increasing m.segments := by
  intro i j a b ha hb hij
  have hj : j ≤ markers.length := by
    have := (Array.getElem?_eq_some_iff.mp hb).1
    rw [h.size_eq] at this
    omega
  rw [h.getElem?_segments (by omega)] at ha
  rw [h.getElem?_segments hj] at hb
  obtain rfl := Option.some.inj ha
  obtain rfl := Option.some.inj hb
  obtain ⟨j, rfl⟩ : ∃ k, j = k + 1 := ⟨j - 1, by omega⟩
  rw [startRow_segmentOf_take hj]
  cases i with
  | zero => exact Nat.succ_pos _
  | succ i =>
    have hi : i < markers.length := by omega
    rw [startRow_segmentOf_take hi]
    exact Nat.succ_lt_succ (List.pairwise_iff_getElem.mp h.rows_increasing i j hi hj (by omega))

/-- Where the search divides the segments, the markers in front of the row end. -/
theorem Scanned.take_eq_filter (h : Scanned path row markers m) {x k : Nat}
    (hdivides : Divides m.segments x (k + 1)) :
    markers.take k = markers.filter fun marker => marker.1 < x := by
  -- Marker `j` begins segment `j + 1`, in the row behind its own.
  have hstart {j : Nat} (hj : j < markers.length) :
      ∃ s : Segment, m.segments[j + 1]? = some s ∧ s.startRow = (markers[j]).1 + 1 :=
    ⟨_, h.getElem?_segments hj, startRow_segmentOf_take hj⟩
  have htake : (markers.take k).filter (fun marker => marker.1 < x) = markers.take k := by
    refine List.filter_eq_self.mpr fun marker hmem => ?_
    obtain ⟨j, hj, rfl⟩ := List.mem_take_iff_getElem.mp hmem
    obtain ⟨s, hs, hrow⟩ := hstart (show j < markers.length by omega)
    have := hdivides.below (j + 1) s hs (by omega)
    simp only [decide_eq_true_eq]
    omega
  have hdrop : (markers.drop k).filter (fun marker => marker.1 < x) = [] := by
    refine List.filter_eq_nil_iff.mpr fun marker hmem => ?_
    obtain ⟨j, hj, rfl⟩ := List.mem_drop_iff_getElem.mp hmem
    obtain ⟨s, hs, hrow⟩ := hstart (show k + j < markers.length by omega)
    have := hdivides.above (k + j + 1) s hs (by omega)
    simp only [decide_eq_true_eq]
    omega
  calc markers.take k = (markers.take k ++ markers.drop k).filter fun marker => marker.1 < x := by
        rw [List.filter_append, htake, hdrop, List.append_nil]
    _ = markers.filter fun marker => marker.1 < x := by rw [List.take_append_drop]

/-- The search stays within the segments, and the segment that it finds is what the markers in
front of the row say. -/
theorem Scanned.segmentAt?_eq (h : Scanned path row markers m) (x : Nat) :
    (∃ i, bisect? m.segments x 0 m.segments.size = some i ∧ 1 ≤ i ∧ i ≤ m.segments.size) ∧
    m.segmentAt? x = some (segmentOf path (markers.filter fun marker => marker.1 < x)) := by
  obtain ⟨i, hbisect, hdivides⟩ := bisect?_divides h.increasing x (Nat.zero_le _) (Nat.le_refl _)
    (fun j s _ hj => absurd hj (Nat.not_lt_zero j))
    (fun j s hs hj => absurd (Array.getElem?_eq_some_iff.mp hs).1 (Nat.not_lt_of_le hj))
  -- The first segment starts in row zero, so it is never behind the row.
  cases i with
  | zero =>
    have hfirst := hdivides.above 0 _ (h.getElem?_segments (Nat.zero_le _)) (Nat.le_refl 0)
    exact absurd hfirst (Nat.not_lt_zero x)
  | succ k =>
    have hk : k ≤ markers.length := by
      have := hdivides.le_size
      rw [h.size_eq] at this
      omega
    refine ⟨⟨k + 1, hbisect, Nat.succ_pos k, hdivides.le_size⟩, ?_⟩
    rw [segmentAt?, hbisect]
    simp only
    rw [h.getElem?_segments hk, h.take_eq_filter hdivides]

theorem scanned_of_scan {source cleaned : Bytes} (h : scan path source = .ok (m, cleaned)) :
    Scanned path (lines source).length (markersFrom 0 (lines source)) m := by
  obtain ⟨m', hextend, h⟩ := exists_of_bind_eq_ok h
  obtain rfl : m' = m := congrArg Prod.fst (Except.ok.inj h)
  have hscanned := (scanned_unmarked path).extend hextend
  rw [Nat.zero_add, List.nil_append] at hscanned
  exact hscanned

/-- A line map reads its buffer: for every row, also one behind the last line, the map of a scanned
buffer gives what reading the buffer from the top gives.  Rows in front of the first one have no
location, and the search always finds a segment. -/
theorem resolve_scan {source cleaned : Bytes} (h : scan path source = .ok (m, cleaned)) :
    (∀ (row : Nat) (column : Int), m.resolve row column = reading path source row column) ∧
    (∀ row column : Int, row < 0 → m.resolve row column = .error (.invalidRow row path)) ∧
    (∀ row : Nat, ∃ i, bisect? m.segments row 0 m.segments.size = some i ∧
      1 ≤ i ∧ i ≤ m.segments.size) := by
  have hscanned := scanned_of_scan h
  refine ⟨fun row column => ?_, fun row column hrow => ?_,
    fun row => (hscanned.segmentAt?_eq row).1⟩
  · have hsegment := (hscanned.segmentAt?_eq row).2
    rw [resolve, if_neg (by omega), Int.toNat_natCast, hsegment, hscanned.path_eq, reading]
    simp only [segmentOf]
    cases hlast : ((markersFrom 0 (lines source)).filter fun marker => marker.1 < row).getLast? with
    | none =>
      have hline : ((1 : Nat) : Int) + ((row : Int) - (0 : Nat)) = row + 1 := by omega
      simp only [initial, hline]
    | some marker =>
      have hline : (row : Int) - (marker.1 + 1 : Nat) = row - marker.1 - 1 := by omega
      simp only [hline]
      cases (origin path ((markersFrom 0 (lines source)).filter fun marker => marker.1 < row)) with
      | mk file system => cases file <;> rfl
  · rw [resolve, if_pos hrow, hscanned.path_eq]

theorem isShort_resolve_error {row column : Int} {error : LocationError}
    (h : m.resolve row column = .error error) : error.isShort = Decimal.isShort row := by
  rw [resolve] at h
  split at h
  · cases h
    rfl
  · split at h
    · cases h
      rfl
    · split at h
      · cases h
        rfl
      · cases h

/-- An error is as short as the row that it shows. -/
theorem locate_eq (m : LineMap) (row column : Int) :
    m.locate row column = (m.resolve row column).mapError fun error =>
      if Decimal.isShort row then .unresolved error else .numeralTooLong := by
  rw [locate]
  cases hresolve : m.resolve row column with
  | ok location => rw [Except.mapError, Except.mapError]
  | error error => rw [Except.mapError, Except.mapError, isShort_resolve_error hresolve]

/-- **A line map reads its buffer.**  For every row, also one behind the last line, and every
column, the map of a scanned buffer gives the location that reading the buffer from the top gives.
Rows in front of the first one have no location.  Where there is none, the error shows the row if it
has at most `Decimal.maxDigits` digits, and beyond that there is the fault of a numeral that is too
long; rows that have a location are not limited.  The search never looks outside of the segments,
and it always finds one. -/
theorem locate_scan {source cleaned : Bytes} (h : scan path source = .ok (m, cleaned)) :
    (∀ (row : Nat) (column : Int), Decimal.isShort row = true →
      m.locate row column = (reading path source row column).mapError .unresolved) ∧
    (∀ (row : Nat) (column : Int), Decimal.isShort row = false →
      m.locate row column = (reading path source row column).mapError fun _ => .numeralTooLong) ∧
    (∀ row column : Int, row < 0 → m.locate row column =
      .error (if Decimal.isShort row then .unresolved (.invalidRow row path)
        else .numeralTooLong)) ∧
    (∀ row : Nat, ∃ i, bisect? m.segments row 0 m.segments.size = some i ∧
      1 ≤ i ∧ i ≤ m.segments.size) := by
  obtain ⟨hread, hnegative, hsearch⟩ := resolve_scan h
  refine ⟨fun row column hshort => ?_, fun row column hlong => ?_, fun row column hrow => ?_,
    hsearch⟩
  · rw [locate_eq, hread, hshort]
    rfl
  · rw [locate_eq, hread, hlong]
    rfl
  · rw [locate_eq, hnegative row column hrow]
    rfl

/-- A buffer with a marker that names a system header, one that names no file, and a pseudo file
with another such marker behind it. -/
def markedSample : Bytes :=
  "a\n# 5 \"x.h\" 1 3\n#line 9\nb\n# 1 \"<c>\"\n# 2".toUTF8.toList

/-- A row of one digit more than can be shown. -/
def longRow : Nat := Nat.pow 10 Decimal.maxDigits

/-- In front of the first marker, behind one that keeps the header, far behind the end where the
pseudo file is kept, and in front of the first row; and rows that no error can show. -/
theorem locate_scan_markedSample :
    ∃ m, scan "main.c" markedSample = .ok (m, clean markedSample) ∧
      m.locate 0 4 = .ok ⟨"main.c", 1, 5, false⟩ ∧
      m.locate 3 4 = .ok ⟨"x.h", 9, 5, true⟩ ∧
      m.locate 99 0 = .error (.unresolved (.noOriginatingFile 99 "main.c")) ∧
      m.locate (-1) 0 = .error (.unresolved (.invalidRow (-1) "main.c")) ∧
      m.locate longRow 0 = .error .numeralTooLong ∧
      m.locate (-longRow) 0 = .error .numeralTooLong := by
  have hscan : scan "main.c" markedSample = .ok (⟨"main.c", #[⟨0, 1, some "main.c", false⟩,
      ⟨2, 5, some "x.h", true⟩, ⟨3, 9, some "x.h", true⟩, ⟨5, 1, none, false⟩,
      ⟨6, 2, none, false⟩]⟩, clean markedSample) := by decide +kernel
  obtain ⟨hread, hlong, hnegative, -⟩ := locate_scan hscan
  refine ⟨_, hscan, (hread 0 4 (by decide +kernel)).trans ?_,
    (hread 3 4 (by decide +kernel)).trans ?_,
    (hread 99 0 (by decide +kernel)).trans ?_, (hnegative (-1) 0 (by decide)).trans ?_,
    (hlong longRow 0 (by decide +kernel)).trans ?_,
    (hnegative (-longRow) 0 (by decide +kernel)).trans ?_⟩
  · decide +kernel
  · decide +kernel
  · decide +kernel
  · decide +kernel
  · decide +kernel
  · decide +kernel

end Cyclometry.LineMap
