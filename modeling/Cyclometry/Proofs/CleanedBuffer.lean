import Mathlib.Data.List.Forall2
import Cyclometry.Proofs.ForwardReading
import Cyclometry.Proofs.MarkerGrammar

/-!
# The cleaned copy of a buffer

A scan gives back the buffer with its marker lines blanked out.  The parser sees only this copy,
and what it says about offsets, rows and columns is taken for the buffer itself.  `scan_cleaned`
says why that is right: the copy has its line feeds where the buffer has them, and only the marker
lines differ, which are blank in the copy.  A blank line is no marker line, so a second scan finds
nothing and changes nothing.

All of it comes from two facts about lines: the lines of the copy are the cleaned lines of the
buffer (`lines_clean`), and cleaning a line keeps its breaks (`breaks_cleanLine`).
-/

namespace Cyclometry.LineMap

/-- The line is one of the grammar of markers. -/
def IsMarkerLine (line : Bytes) : Prop := ∃ marker, Marker.Spells line marker

/-- The row and the column of a byte offset: the line feeds in front of it, and the bytes since the
last one of them. -/
def position (source : Bytes) (offset : Nat) : Nat × Nat :=
  ((source.take offset).count 0x0a,
    ((source.take offset).reverse.takeWhile (· != 0x0a)).length)

/-- Where the line feeds are. -/
def breaks (source : Bytes) : List Bool := source.map (· == 0x0a)

/-! ## Breaks -/

section Breaks

variable {s t : Bytes}

theorem length_eq_of_breaks (h : breaks s = breaks t) : s.length = t.length := by
  simpa [breaks] using congrArg List.length h

theorem getElem?_eq_of_breaks (h : breaks s = breaks t) (i : Nat) :
    s[i]? = some 0x0a ↔ t[i]? = some 0x0a := by
  have hbreak (u : Bytes) : u[i]? = some 0x0a ↔ (breaks u)[i]? = some true := by
    rw [breaks, List.getElem?_map]
    cases u[i]? with
    | none => simp
    | some b => simp
  rw [hbreak s, hbreak t, h]

theorem position_eq (s : Bytes) (offset : Nat) :
    position s offset = (((breaks s).take offset).count true,
      (((breaks s).take offset).reverse.takeWhile (!·)).length) := by
  have hfeed : (· == true) ∘ (· == (0x0a : UInt8)) = fun b => b == 0x0a := by
    funext b
    simp
  rw [position, breaks, ← List.map_take, ← List.map_reverse, List.takeWhile_map, List.length_map,
    List.count_eq_countP, List.count_eq_countP, List.countP_map, hfeed]
  rfl

theorem position_eq_of_breaks (h : breaks s = breaks t) : position s = position t := by
  funext offset
  rw [position_eq, position_eq, h]

end Breaks

/-! ## Lines -/

theorem unlines_lines (source : Bytes) : unlines (lines source) = source :=
  Text.joinWith_splitOn 0x0a source

theorem not_mem_of_mem_lines {source line : Bytes} (h : line ∈ lines source) : 0x0a ∉ line :=
  Text.not_mem_of_mem_splitOn h

/-- Lines may be changed one by one, as long as each keeps its breaks. -/
theorem breaks_unlines_map {f : Bytes → Bytes} {ls : List Bytes}
    (h : ∀ line ∈ ls, breaks (f line) = breaks line) :
    breaks (unlines (ls.map f)) = breaks (unlines ls) := by
  induction ls with
  | nil => rfl
  | cons line rest ih =>
    have hline := h line (List.mem_cons_self ..)
    have hrest := ih fun line hmem => h line (List.mem_cons_of_mem _ hmem)
    cases rest with
    | nil => exact hline
    | cons next rest =>
      simp only [unlines, breaks, List.map_cons, Text.joinWith, List.map_append] at hline hrest ⊢
      rw [hline, hrest]

theorem isSome_read?_iff {line : Bytes} :
    (Marker.read? line).isSome = true ↔ IsMarkerLine line := by
  simp only [Option.isSome_iff_exists, Marker.read?_eq_some_iff, IsMarkerLine]

theorem cleanLine_of_isMarkerLine {line : Bytes} (h : IsMarkerLine line) :
    cleanLine line = List.replicate line.length 0x20 := if_pos (isSome_read?_iff.mpr h)

theorem cleanLine_of_not_isMarkerLine {line : Bytes} (h : ¬ IsMarkerLine line) :
    cleanLine line = line := if_neg (mt isSome_read?_iff.mp h)

theorem not_mem_cleanLine {line : Bytes} (h : 0x0a ∉ line) : 0x0a ∉ cleanLine line := by
  by_cases hmarker : IsMarkerLine line
  · rw [cleanLine_of_isMarkerLine hmarker]
    intro hmem
    exact absurd (List.eq_of_mem_replicate hmem) (by decide)
  · rw [cleanLine_of_not_isMarkerLine hmarker]
    exact h

/-- A line has no breaks at all, and neither have the spaces that take its place. -/
theorem breaks_cleanLine {line : Bytes} (h : 0x0a ∉ line) :
    breaks (cleanLine line) = breaks line := by
  have hnone {s : Bytes} (hs : 0x0a ∉ s) : breaks s = List.replicate s.length false := by
    refine List.map_eq_replicate_iff.mpr fun b hb => ?_
    exact beq_eq_false_iff_ne.mpr fun heq => hs (heq ▸ hb)
  have hlength : (cleanLine line).length = line.length := by
    rw [cleanLine]
    split
    · exact List.length_replicate
    · rfl
  rw [hnone h, hnone (not_mem_cleanLine h), hlength]

/-- Every marker line has the sign of one, so a line of spaces is none. -/
theorem mem_of_isMarkerLine {line : Bytes} (h : IsMarkerLine line) : 0x23 ∈ line := by
  obtain ⟨marker, hlead, hgap, hword, hnumeral, hrest⟩ := h
  exact List.mem_append_right _ (List.mem_cons_self ..)

theorem not_isMarkerLine_cleanLine (line : Bytes) : ¬ IsMarkerLine (cleanLine line) := by
  by_cases hmarker : IsMarkerLine line
  · rw [cleanLine_of_isMarkerLine hmarker]
    intro h
    exact absurd (List.eq_of_mem_replicate (mem_of_isMarkerLine h)) (by decide)
  · rw [cleanLine_of_not_isMarkerLine hmarker]
    exact hmarker

/-! ## The copy -/

theorem lines_clean (source : Bytes) : lines (clean source) = (lines source).map cleanLine := by
  refine Text.splitOn_joinWith ?_ ?_
  · exact mt List.map_eq_nil_iff.mp (Text.splitOn_ne_nil _ _)
  · intro line hline
    obtain ⟨original, horiginal, rfl⟩ := List.mem_map.mp hline
    exact not_mem_cleanLine (not_mem_of_mem_lines horiginal)

theorem breaks_clean (source : Bytes) : breaks (clean source) = breaks source := by
  rw [clean, breaks_unlines_map fun line hline => breaks_cleanLine (not_mem_of_mem_lines hline),
    unlines_lines]

theorem clean_eq_self {source : Bytes} (h : ∀ line ∈ lines source, ¬ IsMarkerLine line) :
    clean source = source := by
  have hmap : (lines source).map cleanLine = lines source :=
    (List.map_congr_left fun line hline => cleanLine_of_not_isMarkerLine (h line hline)).trans
      (List.map_id' _)
  rw [clean, hmap, unlines_lines]

theorem markersFrom_eq_nil_iff {row : Nat} {ls : List Bytes} :
    markersFrom row ls = [] ↔ ∀ line ∈ ls, ¬ IsMarkerLine line := by
  induction ls generalizing row with
  | nil => simp [markersFrom]
  | cons line rest ih =>
    rw [markersFrom_cons, List.append_eq_nil_iff, ih, List.forall_mem_cons, ← isSome_read?_iff]
    cases Marker.read? line with
    | none => simp
    | some marker => simp

/-- Lines without markers leave the map as it is. -/
theorem extend_of_not_isMarkerLine {ls : List Bytes} (h : ∀ line ∈ ls, ¬ IsMarkerLine line)
    (m : LineMap) (row : Nat) : m.extend row ls = .ok m := by
  induction ls generalizing row with
  | nil => rfl
  | cons line rest ih =>
    obtain ⟨hline, hrest⟩ := List.forall_mem_cons.mp h
    have hread : Marker.read? line = none := by
      rw [← Option.not_isSome_iff_eq_none, isSome_read?_iff]
      exact hline
    rw [LineMap.extend, hread]
    exact ih hrest (row + 1)

theorem scan_of_not_isMarkerLine {source : Bytes}
    (h : ∀ line ∈ lines source, ¬ IsMarkerLine line) (path : String) :
    scan path source = .ok (unmarked path, source) := by
  rw [scan, extend_of_not_isMarkerLine h]
  change Except.ok (unmarked path, clean source) = _
  rw [clean_eq_self h]

theorem cleaned_eq_of_scan {path : String} {source cleaned : Bytes} {m : LineMap}
    (h : scan path source = .ok (m, cleaned)) : cleaned = clean source := by
  obtain ⟨m', -, h⟩ := exists_of_bind_eq_ok h
  exact (congrArg Prod.snd (Except.ok.inj h)).symm

theorem hasMarkers_of_scan {path : String} {source cleaned : Bytes} {m : LineMap}
    (h : scan path source = .ok (m, cleaned)) :
    m.hasMarkers = true ↔ ∃ line ∈ lines source, IsMarkerLine line := by
  have hsize := (scanned_of_scan h).size_eq
  have hmarked : m.hasMarkers = true ↔ ¬ (markersFrom 0 (lines source)).length = 0 := by
    rw [hasMarkers, decide_eq_true_iff]
    omega
  rw [hmarked, List.length_eq_zero_iff, markersFrom_eq_nil_iff]
  simp only [not_forall, not_not, exists_prop]

/-- **The cleaned copy stands for the buffer.**  It is as long and has its line feeds at the same
offsets, so every offset has the same row and column in both.  Line by line, a marker line has
turned into spaces and any other line is unchanged.  The map has markers if and only if some line
is a marker line, and the copy has none: scanned again, under whatever path, it stays as it is. -/
theorem scan_cleaned {path : String} {source cleaned : Bytes} {m : LineMap}
    (h : scan path source = .ok (m, cleaned)) :
    cleaned.length = source.length ∧
    (∀ i : Nat, cleaned[i]? = some 0x0a ↔ source[i]? = some 0x0a) ∧
    List.Forall₂ (fun line line' =>
        (IsMarkerLine line → line' = List.replicate line.length 0x20) ∧
        (¬ IsMarkerLine line → line' = line)) (lines source) (lines cleaned) ∧
    (m.hasMarkers = true ↔ ∃ line ∈ lines source, IsMarkerLine line) ∧
    (∀ path', scan path' cleaned = .ok (unmarked path', cleaned) ∧
      (unmarked path').hasMarkers = false) ∧
    (∀ offset, position cleaned offset = position source offset) := by
  obtain rfl := cleaned_eq_of_scan h
  have hbreaks := breaks_clean source
  refine ⟨length_eq_of_breaks hbreaks, getElem?_eq_of_breaks hbreaks, ?_, hasMarkers_of_scan h,
    fun path' => ⟨scan_of_not_isMarkerLine ?_ path', rfl⟩,
    fun offset => congrFun (position_eq_of_breaks hbreaks) offset⟩
  · rw [lines_clean, List.forall₂_map_right_iff]
    exact List.forall₂_same.mpr fun line _ =>
      ⟨cleanLine_of_isMarkerLine, cleanLine_of_not_isMarkerLine⟩
  · rw [lines_clean]
    intro line hline
    obtain ⟨original, -, rfl⟩ := List.mem_map.mp hline
    exact not_isMarkerLine_cleanLine original

/-- A marker line that ends with a carriage return, a line of code, and a line that would be a
marker line but for its last byte, which is no text at all. -/
def returnSample : Bytes := "#line 7 \"a.h\"\r\nint f;\n# 2 ".toUTF8.toList ++ [0xff]

/-- The copy of the sample: fourteen spaces for the marker line and its carriage return. -/
theorem scan_cleaned_returnSample :
    let cleaned := List.replicate 14 0x20 ++ "\nint f;\n# 2 ".toUTF8.toList ++ [0xff]
    ∃ m, scan "main.c" returnSample = .ok (m, cleaned) ∧ m.hasMarkers = true ∧
      cleaned.length = returnSample.length ∧
      (∀ i : Nat, cleaned[i]? = some 0x0a ↔ returnSample[i]? = some 0x0a) ∧
      scan "again.c" cleaned = .ok (unmarked "again.c", cleaned) ∧
      position cleaned 26 = (2, 4) ∧ position returnSample 26 = (2, 4) := by
  intro cleaned
  have hscan : scan "main.c" returnSample =
      .ok (⟨"main.c", #[⟨0, 1, some "main.c", false⟩, ⟨1, 7, some "a.h", false⟩]⟩,
        List.replicate 14 0x20 ++ "\nint f;\n# 2 ".toUTF8.toList ++ [0xff]) := by decide +kernel
  obtain ⟨hlength, hfeeds, -, hmarkers, hagain, hposition⟩ := scan_cleaned hscan
  have hline : IsMarkerLine "#line 7 \"a.h\"\r".toUTF8.toList :=
    isSome_read?_iff.mp (by decide +kernel)
  have hcolumn : position returnSample 26 = (2, 4) := by decide +kernel
  exact ⟨_, hscan, hmarkers.mpr ⟨_, by decide +kernel, hline⟩, hlength, hfeeds,
    (hagain "again.c").1, (hposition 26).trans hcolumn, hcolumn⟩

end Cyclometry.LineMap
