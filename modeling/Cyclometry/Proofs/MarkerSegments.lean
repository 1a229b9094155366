import Cyclometry.Proofs.CleanedBuffer

/-!
# What a line says to a scan

A scan takes a line for a marker if the grammar does, and for ordinary text otherwise.  A marker
begins the next segment in the row behind it: its number is the line of that row, a quoted name
replaces the file, and only beside a name flags say whether the file is a system header.  Everything
is taken from the parts that the grammar gives the line, and there is only one way to take it
apart (`scan_marker_line`).

The segment of a row is what the lines in front of it say (`segmentAt?_scan`), so these are
statements about the last of these lines.  Numerals are the only thing that can go wrong: a scan
fails if a marker has one that has to be read and is too long (`scan_ok_iff`).
-/

namespace Cyclometry

/-! ## Markers that cannot be read -/

/-- A numeral of the marker that has to be read is too long.  Flags are read beside a name only. -/
def Marker.Overlong (marker : Marker) : Prop :=
  Decimal.maxDigits < marker.number.length ∨
    marker.name.isSome ∧ ∃ flag ∈ marker.flags, Decimal.maxDigits < flag.length

theorem Marker.not_overlong_iff {marker : Marker} :
    ¬ marker.Overlong ↔ marker.number.length ≤ Decimal.maxDigits ∧
      (marker.name.isSome → ∀ flag ∈ marker.flags, flag.length ≤ Decimal.maxDigits) := by
  simp only [Overlong, not_or, not_and, not_exists, Nat.not_lt]

namespace LineMap

/-- Every marker line of the source can be read. -/
def Fits (source : Bytes) : Prop :=
  ∀ line ∈ lines source, ∀ marker, Marker.Spells line marker → ¬ marker.Overlong

theorem read_ok_iff {ds : List Nat} :
    (∃ n, Decimal.read ds = .ok n) ↔ ¬ Decimal.maxDigits < ds.length := by
  rw [Decimal.read]
  by_cases h : Decimal.maxDigits < ds.length
  · rw [if_pos h]
    refine ⟨?_, fun hn => absurd h hn⟩
    rintro ⟨n, hn⟩
    cases hn
  · rw [if_neg h]
    exact ⟨fun _ => h, fun _ => ⟨Decimal.value 10 ds, rfl⟩⟩

theorem mapM_read_ok_iff {flags : List (List Nat)} :
    (∃ ns, flags.mapM Decimal.read = .ok ns) ↔
      ¬ ∃ flag ∈ flags, Decimal.maxDigits < flag.length := by
  induction flags with
  | nil => simp [pure, Except.pure]
  | cons flag flags ih =>
    rw [List.mapM_cons, exists_bind_eq_ok_iff]
    constructor
    · rintro ⟨n, hn, ns, hns⟩
      obtain ⟨ms, hms, -⟩ := exists_of_bind_eq_ok hns
      rintro ⟨other, hother, hlong⟩
      rcases List.mem_cons.mp hother with rfl | hother
      · exact read_ok_iff.mp ⟨n, hn⟩ hlong
      · exact ih.mp ⟨ms, hms⟩ ⟨other, hother, hlong⟩
    · intro h
      obtain ⟨n, hn⟩ := read_ok_iff.mpr fun hlong => h ⟨flag, List.mem_cons_self, hlong⟩
      obtain ⟨ns, hns⟩ := ih.mpr fun ⟨other, hother, hlong⟩ =>
        h ⟨other, List.mem_cons_of_mem flag hother, hlong⟩
      exact ⟨n, hn, n :: ns, by rw [hns]; rfl⟩

theorem follow_ok_iff {current : Segment} {row : Nat} {marker : Marker} :
    (∃ segment, follow current row marker = .ok segment) ↔ ¬ marker.Overlong := by
  obtain ⟨number, name, flags⟩ := marker
  simp only [Marker.Overlong, not_or]
  cases name with
  | none =>
    constructor
    · rintro ⟨segment, hsegment⟩
      obtain ⟨n, hn, -⟩ := exists_of_bind_eq_ok (x := Decimal.read number) hsegment
      exact ⟨read_ok_iff.mp ⟨n, hn⟩, fun h => nomatch h.1⟩
    · rintro ⟨hnumber, -⟩
      obtain ⟨n, hn⟩ := read_ok_iff.mpr hnumber
      exact ⟨⟨row + 1, n, current.file, current.system⟩, by simp only [follow, hn]; rfl⟩
  | some name =>
    constructor
    · rintro ⟨segment, hsegment⟩
      obtain ⟨ns, hns, hsegment⟩ := exists_of_bind_eq_ok (x := flags.mapM Decimal.read) hsegment
      obtain ⟨n, hn, -⟩ := exists_of_bind_eq_ok (x := Decimal.read number) hsegment
      exact ⟨read_ok_iff.mp ⟨n, hn⟩, fun h => mapM_read_ok_iff.mp ⟨ns, hns⟩ h.2⟩
    · rintro ⟨hnumber, hflags⟩
      obtain ⟨n, hn⟩ := read_ok_iff.mpr hnumber
      obtain ⟨ns, hns⟩ := mapM_read_ok_iff.mpr fun h => hflags ⟨rfl, h⟩
      exact ⟨_, by simp only [follow, hns, hn]; rfl⟩

/-- The lines from a row on can be read if each marker among them can.  The induction is on these
lines, for every map so far. -/
theorem extend_ok_iff {m : LineMap} {row : Nat} {ls : List Bytes} :
    (∃ m', m.extend row ls = .ok m') ↔
      ∀ line ∈ ls, ∀ marker, Marker.Spells line marker → ¬ marker.Overlong := by
  induction ls generalizing m row with
  | nil => exact ⟨fun _ line hline => absurd hline List.not_mem_nil, fun _ => ⟨m, rfl⟩⟩
  | cons line rest ih =>
    rw [List.forall_mem_cons, extend]
    cases hread : Marker.read? line with
    | none =>
      have hspells (marker : Marker) (h : Marker.Spells line marker) : ¬ marker.Overlong := by
        rw [← Marker.read?_eq_some_iff, hread] at h
        cases h
      exact ih.trans ⟨fun h => ⟨hspells, h⟩, And.right⟩
    | some marker =>
      have hspells : (∀ other, Marker.Spells line other → ¬ other.Overlong) ↔
          ¬ marker.Overlong := by
        simp only [← Marker.read?_eq_some_iff, hread, Option.some.injEq, forall_eq']
      dsimp only
      rw [exists_bind_eq_ok_iff, hspells, ← follow_ok_iff]
      constructor
      · rintro ⟨segment, hsegment, hrest⟩
        exact ⟨⟨segment, hsegment⟩, ih.mp hrest⟩
      · rintro ⟨⟨segment, hsegment⟩, hrest⟩
        exact ⟨segment, hsegment, ih.mpr hrest⟩

/-- **A source has a line map** exactly if each of its markers can be read. -/
theorem scan_ok_iff (path : String) {source : Bytes} :
    (∃ scanned, scan path source = .ok scanned) ↔ Fits source := by
  rw [scan, exists_bind_eq_ok_iff]
  constructor
  · rintro ⟨m, hm, -⟩
    exact extend_ok_iff.mp ⟨m, hm⟩
  · intro h
    obtain ⟨m, hm⟩ := extend_ok_iff.mpr h
    exact ⟨m, hm, _, rfl⟩

/-! ## Lines of a buffer -/

theorem lines_unlines {ls : List Bytes} (hne : ls ≠ []) (h : ∀ line ∈ ls, 0x0a ∉ line) :
    lines (unlines ls) = ls := Text.splitOn_joinWith hne h

/-- A buffer can be scanned if each of the lines that it was made of can.  A buffer made of none has
one empty line, which is no marker. -/
theorem scan_unlines_ok_iff (path : String) {ls : List Bytes} (h : ∀ line ∈ ls, 0x0a ∉ line) :
    (∃ scanned, scan path (unlines ls) = .ok scanned) ↔
      ∀ line ∈ ls, ∀ marker, Marker.Spells line marker → ¬ marker.Overlong := by
  rw [scan_ok_iff, Fits]
  rcases List.eq_nil_or_concat ls with rfl | ⟨_, _, rfl⟩
  · refine ⟨fun _ line hline => absurd hline List.not_mem_nil,
      fun _ line hline marker hmarker => ?_⟩
    obtain rfl := List.mem_singleton.mp hline
    exact absurd (mem_of_isMarkerLine ⟨marker, hmarker⟩) List.not_mem_nil
  · rw [lines_unlines (by simp) h]

theorem markersFrom_append (row : Nat) (xs ys : List Bytes) :
    markersFrom row (xs ++ ys) = markersFrom row xs ++ markersFrom (row + xs.length) ys := by
  induction xs generalizing row with
  | nil => rfl
  | cons line xs ih =>
    rw [List.cons_append, markersFrom_cons, markersFrom_cons, ih, List.append_assoc,
      List.length_cons, Nat.add_right_comm, Nat.add_assoc]

theorem le_of_mem_markersFrom {row : Nat} {ls : List Bytes} {marker : Nat × Marker}
    (h : marker ∈ markersFrom row ls) : row ≤ marker.1 ∧ marker.1 < row + ls.length := by
  induction ls generalizing row with
  | nil => cases h
  | cons line ls ih =>
    rw [markersFrom_cons, List.mem_append] at h
    rw [List.length_cons]
    rcases h with h | h
    · obtain ⟨read, -, rfl⟩ := Option.map_eq_some_iff.mp (Option.mem_toList.mp h)
      simp
    · have := ih h
      omega

/-- The markers in front of a row are those of the lines in front of it. -/
theorem filter_markersFrom (x : Nat) (ls : List Bytes) :
    (markersFrom 0 ls).filter (fun marker => marker.1 < x) = markersFrom 0 (ls.take x) := by
  have hsplit : markersFrom 0 ls =
      markersFrom 0 (ls.take x) ++ markersFrom (ls.take x).length (ls.drop x) := by
    rw [← Nat.zero_add (ls.take x).length, ← markersFrom_append, List.take_append_drop]
  have hfront : ∀ marker ∈ markersFrom 0 (ls.take x), decide (marker.1 < x) = true := by
    intro marker hmarker
    have := (le_of_mem_markersFrom hmarker).2
    rw [List.length_take] at this
    exact decide_eq_true (by omega)
  have hback : ∀ marker ∈ markersFrom (ls.take x).length (ls.drop x),
      ¬ decide (marker.1 < x) = true := by
    intro marker hmarker
    have := le_of_mem_markersFrom hmarker
    rw [List.length_take, List.length_drop] at this
    exact fun h => absurd (of_decide_eq_true h) (by omega)
  rw [hsplit, List.filter_append, List.filter_eq_self.mpr hfront, List.filter_eq_nil_iff.mpr hback,
    List.append_nil]

/-- **The segment of a row** is what the markers in front of it say. -/
theorem segmentAt?_scan {path : String} {source cleaned : Bytes} {m : LineMap}
    (h : scan path source = .ok (m, cleaned)) (row : Nat) :
    m.segmentAt? row = some (segmentOf path (markersFrom 0 ((lines source).take row))) := by
  rw [((scanned_of_scan h).segmentAt?_eq row).2, filter_markersFrom]

/-! ## The segment that a marker begins -/

/-- How a marker at a row goes on from a segment. -/
structure Follows (current : Segment) (row : Nat) (marker : Marker) (next : Segment) : Prop where
  startRow : next.startRow = row + 1
  firstLine : next.firstLine = Decimal.value 10 marker.number
  /-- Without a name the marker stays in the file, whatever its flags are. -/
  unnamed : marker.name = none → next.file = current.file ∧ next.system = current.system
  named : ∀ name, marker.name = some name →
    next.file = (if Marker.isPseudoFile (Marker.fileName name) then none
      else some (Marker.fileName name)) ∧
    (next.system = true ↔ systemFlag ∈ marker.flags.map (Decimal.value 10))

theorem follows_segmentOf (path : String) (markers : List (Nat × Marker)) (row : Nat)
    (marker : Marker) :
    Follows (segmentOf path markers) row marker (segmentOf path (markers ++ [(row, marker)])) := by
  obtain ⟨hfile, hsystem⟩ := segmentOf_origin path markers
  have hsegment : segmentOf path (markers ++ [(row, marker)]) =
      ⟨row + 1, Decimal.value 10 marker.number, (origin path (markers ++ [(row, marker)])).1,
        (origin path (markers ++ [(row, marker)])).2⟩ := by
    rw [segmentOf, List.getLast?_concat]
  rw [hsegment]
  refine ⟨rfl, rfl, fun hname => ?_, fun name hname => ?_⟩
  · rw [origin_concat_unnamed hname]
    exact ⟨hfile.symm, hsystem.symm⟩
  · rw [origin_concat_named hname]
    exact ⟨rfl, List.contains_iff_mem⟩

theorem startRow_segmentOf_le (path : String) {markers : List (Nat × Marker)} {row : Nat}
    (h : ∀ marker ∈ markers, marker.1 < row) : (segmentOf path markers).startRow ≤ row := by
  rw [segmentOf]
  cases hlast : markers.getLast? with
  | none => exact Nat.zero_le row
  | some marker => exact h marker (List.mem_of_getLast? hlast)

theorem forall_mem_insert {P : Bytes → Prop} {before after : List Bytes} {line : Bytes} :
    (∀ l ∈ before ++ line :: after, P l) ↔ (∀ l ∈ before ++ after, P l) ∧ P line := by
  simp only [List.forall_mem_append, List.forall_mem_cons]
  tauto

/-- The markers in front of a row behind a line: those in front of the line, the line itself if it
is one, and those between the line and the row. -/
theorem markersFrom_take_insert (before after : List Bytes) (line : Bytes) (k : Nat) :
    markersFrom 0 ((before ++ line :: after).take (before.length + 1 + k)) =
      markersFrom 0 before ++
        (((Marker.read? line).map fun marker => (before.length, marker)).toList ++
          markersFrom (before.length + 1) (after.take k)) := by
  rw [Nat.add_assoc, List.take_length_add_append, Nat.add_comm 1 k, List.take_succ_cons,
    markersFrom_append, markersFrom_cons, Nat.zero_add]

theorem startRow_le_of_segmentAt? {path : String} {source cleaned : Bytes} {m : LineMap}
    (hscan : scan path source = .ok (m, cleaned)) {row : Nat} {segment : Segment}
    (h : m.segmentAt? row = some segment) : segment.startRow ≤ row := by
  obtain rfl := Option.some.inj ((segmentAt?_scan hscan row).symm.trans h)
  refine startRow_segmentOf_le path fun marker hmarker => ?_
  have hrow := (le_of_mem_markersFrom hmarker).2
  have htake := List.length_take_le row (lines source)
  omega

section Behind

variable {path : String} {source cleaned : Bytes} {m : LineMap}
    (hscan : scan path source = .ok (m, cleaned)) {before after : List Bytes} {line : Bytes}
    (hlines : lines source = before ++ line :: after)
include hscan hlines

theorem getElem?_lines_cleaned :
    (lines cleaned)[before.length]? = some (cleanLine line) := by
  rw [cleaned_eq_of_scan hscan, lines_clean, hlines]
  simp

/-- An ordinary line does not end a segment. -/
theorem segmentAt?_behind_plain (hplain : ¬ IsMarkerLine line) :
    m.segmentAt? (before.length + 1) = m.segmentAt? before.length := by
  have hread : Marker.read? line = none := by
    rw [← Option.not_isSome_iff_eq_none, isSome_read?_iff]
    exact hplain
  have hsame := markersFrom_take_insert before after line 0
  rw [hread, List.take_zero, Nat.add_zero] at hsame
  rw [segmentAt?_scan hscan, segmentAt?_scan hscan, hlines, hsame, List.take_left]
  exact congrArg (some ∘ segmentOf path) (List.append_nil _)

/-- From the row behind a marker up to the next marker, the segment is the one that the marker
begins. -/
theorem exists_follows_behind {marker : Marker} (hmarker : Marker.Spells line marker) {k : Nat}
    (hplain : ∀ l ∈ after.take k, ¬ IsMarkerLine l) :
    ∃ segment, m.segmentAt? (before.length + 1 + k) = some segment ∧
      Follows (segmentOf path (markersFrom 0 before)) before.length marker segment := by
  have hsegment := segmentAt?_scan hscan (before.length + 1 + k)
  rw [hlines, markersFrom_take_insert, Marker.read?_eq_some_iff.mpr hmarker,
    markersFrom_eq_nil_iff.mpr hplain, List.append_nil] at hsegment
  exact ⟨_, hsegment, follows_segmentOf path (markersFrom 0 before) before.length marker⟩

end Behind

/-- The location of a row is counted from the start of its segment. -/
theorem resolve_of_segmentAt? {m : LineMap} {row : Nat} {segment : Segment}
    (h : m.segmentAt? row = some segment) (column : Int) :
    m.resolve row column = segment.file.elim (.error (.noOriginatingFile row m.path)) fun file =>
      .ok ⟨file, segment.firstLine + (row - segment.startRow), column + 1, segment.system⟩ := by
  rw [resolve, if_neg (by omega), Int.toNat_natCast, h]
  cases hfile : segment.file with
  | none => simp only [hfile, Option.elim_none]
  | some file => simp only [hfile, Option.elim_some]

/-- **A line to a scan.**  Wherever a line without line feeds stands in a buffer, the scan takes it
for a marker, so that a new segment begins behind it and the line is blanked, if and only if the
line is one of the grammar of markers.  There is one way at most to take a line apart by that
grammar, and the segment goes on from the one in front with the parts that it gives.  An ordinary
line changes nothing.  The scan accepts the buffer if it accepts the other lines and the
numerals of the marker are not too long, where flags are looked at beside a name only. -/
theorem scan_marker_line (path : String) (before after : List Bytes) {line : Bytes}
    (hline : 0x0a ∉ line) (hothers : ∀ l ∈ before ++ after, 0x0a ∉ l) :
    let source := unlines (before ++ line :: after)
    let row := before.length
    (∀ a b, Marker.Spells line a → Marker.Spells line b → a = b) ∧
    ((∃ scanned, scan path source = .ok scanned) ↔
      (∃ scanned, scan path (unlines (before ++ after)) = .ok scanned) ∧
      ∀ marker, Marker.Spells line marker → marker.number.length ≤ Decimal.maxDigits ∧
        (marker.name.isSome → ∀ flag ∈ marker.flags, flag.length ≤ Decimal.maxDigits)) ∧
    ∀ m cleaned, scan path source = .ok (m, cleaned) →
      ∃ current next, m.segmentAt? row = some current ∧ m.segmentAt? (row + 1) = some next ∧
        (next.startRow = row + 1 ↔ ∃ marker, Marker.Spells line marker) ∧
        ((∀ marker, ¬ Marker.Spells line marker) →
          next = current ∧ (lines cleaned)[row]? = some line) ∧
        ∀ marker, Marker.Spells line marker → Follows current row marker next ∧
          (lines cleaned)[row]? = some (List.replicate line.length 0x20) := by
  intro source row
  have hfeeds : ∀ l ∈ before ++ line :: after, 0x0a ∉ l := forall_mem_insert.mpr ⟨hothers, hline⟩
  have hlines : lines source = before ++ line :: after := lines_unlines (by simp) hfeeds
  refine ⟨fun a b ha hb => ha.unique hb, ?_, fun m cleaned hscan => ?_⟩
  · rw [scan_unlines_ok_iff path hfeeds, scan_unlines_ok_iff path hothers, forall_mem_insert]
    simp only [Marker.not_overlong_iff]
  · have hcurrent : m.segmentAt? row = some (segmentOf path (markersFrom 0 before)) := by
      rw [segmentAt?_scan hscan, hlines, List.take_left]
    have hcleaned := getElem?_lines_cleaned hscan hlines
    by_cases hmarker : IsMarkerLine line
    · rw [cleanLine_of_isMarkerLine hmarker] at hcleaned
      obtain ⟨marker, hspells⟩ := hmarker
      obtain ⟨next, hnext, hfollows⟩ :=
        exists_follows_behind hscan hlines hspells (k := 0) (by simp)
      refine ⟨_, next, hcurrent, hnext, ⟨fun _ => ⟨marker, hspells⟩, fun _ => hfollows.startRow⟩,
        fun h => absurd hspells (h marker), fun other hother => ?_⟩
      obtain rfl := hspells.unique hother
      exact ⟨hfollows, hcleaned⟩
    · rw [cleanLine_of_not_isMarkerLine hmarker] at hcleaned
      have hnext := (segmentAt?_behind_plain hscan hlines hmarker).trans hcurrent
      have hstart := startRow_le_of_segmentAt? hscan hcurrent
      exact ⟨_, _, hcurrent, hnext, ⟨fun h => absurd h (by omega), fun h => absurd h hmarker⟩,
        fun _ => ⟨rfl, hcleaned⟩, fun marker h => absurd ⟨marker, h⟩ hmarker⟩

/-- A marker line with everything that the grammar allows: blanks in front, the word, leading zeros,
a tab, a protected quote, flags, blanks behind and a carriage return. -/
def wordySample : Bytes := " #line 007\t\"a\\\"b.h\" 3 04 \r".toUTF8.toList

/-- The sample between two lines of code, the first of which comes from the buffer itself.  Behind
the sample begins line 7 of a system header with a quote in its name. -/
theorem scan_marker_line_wordySample :
    let code : Bytes := "int x;".toUTF8.toList
    ∃ m cleaned, scan "main.c" (unlines ([code] ++ wordySample :: [code])) = .ok (m, cleaned) ∧
      ∃ current next, m.segmentAt? 1 = some current ∧ m.segmentAt? 2 = some next ∧
        next.startRow = 2 ∧ next.firstLine = 7 ∧ next.file = some "a\"b.h" ∧ next.system = true ∧
        (lines cleaned)[1]? = some (List.replicate wordySample.length 0x20) := by
  intro code
  have hspells : Marker.Spells wordySample
      ⟨[0, 0, 7], some "a\\\"b.h".toUTF8.toList, [[3], [0, 4]]⟩ :=
    Marker.read?_eq_some_iff.mp (by decide +kernel)
  obtain ⟨hunique, haccepted, hsegments⟩ := scan_marker_line "main.c" [code] [code]
    (show 0x0a ∉ wordySample by decide +kernel) (by decide +kernel)
  have hcode : ∃ scanned, scan "main.c" (unlines ([code] ++ [code])) = .ok scanned := by
    have hplain : Marker.read? "int x;".toUTF8.toList = none := by decide +kernel
    refine (scan_unlines_ok_iff "main.c" (by decide +kernel)).mpr fun l hl marker hmarker => ?_
    obtain rfl : l = code := by simpa using hl
    rw [← Marker.read?_eq_some_iff, hplain] at hmarker
    cases hmarker
  obtain ⟨⟨m, cleaned⟩, hscan⟩ := haccepted.mpr ⟨hcode, fun marker hmarker => by
    obtain rfl := hunique _ _ hmarker hspells
    decide⟩
  obtain ⟨current, next, hcurrent, hnext, -, -, hmarker⟩ := hsegments m cleaned hscan
  obtain ⟨hfollows, hblank⟩ := hmarker _ hspells
  obtain ⟨hfile, hsystem⟩ := hfollows.named _ rfl
  refine ⟨m, cleaned, hscan, current, next, hcurrent, hnext, hfollows.startRow, hfollows.firstLine,
    hfile.trans ?_, hsystem.mpr (by decide), hblank⟩
  decide +kernel

end LineMap

end Cyclometry
