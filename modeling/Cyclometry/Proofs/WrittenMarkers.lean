import Mathlib.Algebra.BigOperators.Group.List.Basic
import Mathlib.Data.List.Infix
import Cyclometry.Proofs.DecimalDigits
import Cyclometry.Proofs.MarkerSegments
import Cyclometry.Proofs.Utf8RoundTrip

/-!
# Markers that a preprocessor writes

`Marker.write` is the usual marker line: a number, a file name between quotes and flags.
Backslashes protect the quotes and the backslashes of the name.  Wherever such a line stands in a
buffer, the rows behind it, up to the next marker, resolve to that file and count on from that
number (`resolve_behind_write`).

The name goes through two readers that know nothing of each other: the grammar finds the closing
quote among bytes, and the name is unescaped as text.  They agree because a quote or a backslash
is a byte of its own in UTF-8 and never part of another character, so bytes are protected
exactly where characters are (`quotable_encode_escape`, `fileName_encode_escape`).
-/

namespace Cyclometry

namespace Marker

/-! ## Writing a marker -/

/-- A character as it stands between quotes. -/
def escapeChar (c : Char) : List Char := if c = '"' ∨ c = '\\' then ['\\', c] else [c]

/-- A name as it stands between quotes: each quote and each backslash behind a backslash. -/
def escape (name : List Char) : List Char := name.flatMap escapeChar

/-- Flags, each behind a space. -/
def flagsText (flags : List Nat) : List Char := flags.flatMap fun flag => ' ' :: Decimal.digits flag

/-- The marker line in front of a line of a file. -/
def write (number : Nat) (file : String) (flags : List Nat) : Bytes :=
  Utf8.encode ('#' :: ' ' :: (Decimal.digits number ++
    ' ' :: '"' :: (escape file.toList ++ '"' :: flagsText flags)))

/-! ## Names -/

theorem unescape_cons {c : Char} (h : c ≠ '\\') (rest : List Char) :
    unescape (c :: rest) = c :: unescape rest := by
  rw [unescape]
  · intro hc
    exact absurd hc h
  · intro _ _ hc
    exact absurd hc h

theorem unescape_escape (name : List Char) : unescape (escape name) = name := by
  induction name with
  | nil => rfl
  | cons c name ih =>
    rw [escape, List.flatMap_cons, ← escape, escapeChar]
    by_cases hc : c = '"' ∨ c = '\\'
    · rw [if_pos hc, List.cons_append, List.singleton_append, unescape, ih]
    · rw [if_neg hc, List.singleton_append, unescape_cons fun h => hc (.inr h), ih]

/-- **A quoted name is read back.** -/
theorem fileName_encode_escape (file : String) :
    fileName (Utf8.encode (escape file.toList)) = file := by
  rw [fileName, Utf8.decodeLossy_encode, unescape_escape, String.ofList_toList]

theorem Quotable.append_plain {s rest : Bytes} (h : ∀ b ∈ s, b ≠ 0x22 ∧ b ≠ 0x5c)
    (hrest : Quotable rest) : Quotable (s ++ rest) := by
  induction s with
  | nil => exact hrest
  | cons b s ih =>
    obtain ⟨hb, hs⟩ := List.forall_mem_cons.mp h
    exact .plain hb.1 hb.2 (ih hs)

/-- The bytes of a name between quotes.  Bytes that the grammar looks for can only come from the
characters that have been protected. -/
theorem quotable_encode_escape (name : List Char) : Quotable (Utf8.encode (escape name)) := by
  induction name with
  | nil => exact .nil
  | cons c name ih =>
    rw [escape, List.flatMap_cons, ← escape, Utf8.encode_append, escapeChar]
    by_cases hc : c = '"' ∨ c = '\\'
    · rw [if_pos hc]
      rcases hc with rfl | rfl
      · exact .escaped 0x22 ih
      · exact .escaped 0x5c ih
    · -- The bytes of this character are all plain, however many they are.
      rw [if_neg hc]
      refine .append_plain (fun b hb => ⟨?_, ?_⟩) ih
      · rintro rfl
        exact hc (.inl (List.mem_singleton.mp (Utf8.mem_of_mem_encode hb (by decide))).symm)
      · rintro rfl
        exact hc (.inr (List.mem_singleton.mp (Utf8.mem_of_mem_encode hb (by decide))).symm)

theorem mem_of_mem_escape {c : Char} {name : List Char} (hc : c ≠ '\\') (h : c ∈ escape name) :
    c ∈ name := by
  obtain ⟨d, hd, hescaped⟩ := List.mem_flatMap.mp h
  obtain rfl : c = d := by
    rw [escapeChar] at hescaped
    split at hescaped
    · exact List.mem_singleton.mp ((List.mem_cons.mp hescaped).resolve_left hc)
    · exact List.mem_singleton.mp hescaped
  exact hd

/-- **Names of no file**: the empty one, and those that begin and end with an angle bracket. -/
theorem isPseudoFile_iff {file : String} : isPseudoFile file = true ↔
    file = "" ∨ file.toList.head? = some '<' ∧ file.toList.getLast? = some '>' := by
  have hfirst : file.startsWith "<" = true ↔ file.toList.head? = some '<' := by
    rw [String.startsWith_string_iff]
    exact List.singleton_prefix_iff_head?_eq_some
  have hlast : file.endsWith ">" = true ↔ file.toList.getLast? = some '>' := by
    rw [← String.endsWith_toSlice, String.Slice.endsWith_string_iff, String.copy_toSlice]
    exact List.singleton_suffix_iff_getLast?_eq_some
  rw [isPseudoFile, Bool.or_eq_true, Bool.and_eq_true, String.isEmpty_iff, hfirst, hlast]

/-! ## Numerals -/

theorem toNat_of_mem_digits {c : Char} {n : Nat} (h : c ∈ Decimal.digits n) :
    48 ≤ c.toNat ∧ c.toNat ≤ 57 :=
  Char.isDigit_iff_toNat.mp (Decimal.isDigit_of_mem_digits h)

theorem encode_digits (n : Nat) :
    Utf8.encode (Decimal.digits n) = (Decimal.digits n).map fun c => UInt8.ofNat c.toNat :=
  Utf8.encode_eq_map fun c hc => by
    have := toNat_of_mem_digits hc
    omega

theorem toNat_ofNat_of_mem_digits {c : Char} {n : Nat} (h : c ∈ Decimal.digits n) :
    (UInt8.ofNat c.toNat).toNat = c.toNat := by
  have := toNat_of_mem_digits h
  exact UInt8.toNat_ofNat_of_lt' (by show c.toNat < 256; omega)

theorem numeral_digits (n : Nat) : Numeral (Utf8.encode (Decimal.digits n)) := by
  rw [encode_digits]
  refine ⟨fun h => Nat.toDigits_ne_nil (List.map_eq_nil_iff.mp h), fun b hb => ?_⟩
  obtain ⟨c, hc, rfl⟩ := List.mem_map.mp hb
  rw [UInt8.le_iff_toNat_le, UInt8.le_iff_toNat_le, toNat_ofNat_of_mem_digits hc]
  exact toNat_of_mem_digits hc

theorem values_digits (n : Nat) :
    values (Utf8.encode (Decimal.digits n)) = Decimal.digitValues n := by
  rw [encode_digits, values, Decimal.digitValues, List.map_map]
  refine List.map_congr_left fun c hc => ?_
  rw [Function.comp_apply, toNat_ofNat_of_mem_digits hc]

/-! ## The line -/

section Line

theorem blanks_nil : Blanks [] := fun _ hb => absurd hb List.not_mem_nil

theorem blanks_space : Blanks [0x20] := fun _ hb => .inl (List.mem_singleton.mp hb)

variable {cr : Bytes} (hcr : cr = [] ∨ cr = [0x0d])

include hcr in
theorem flags_flagsText (flags : List Nat) :
    Flags (Utf8.encode (flagsText flags) ++ cr) (flags.map Decimal.digitValues) := by
  induction flags with
  | nil => exact .done blanks_nil hcr
  | cons flag flags ih =>
    have hline : Utf8.encode (flagsText (flag :: flags)) ++ cr =
        [0x20] ++ (Utf8.encode (Decimal.digits flag) ++
          (Utf8.encode (flagsText flags) ++ cr)) := by
      rw [flagsText, List.flatMap_cons, ← flagsText, Utf8.encode_append, List.append_assoc]
      rfl
    rw [hline, List.map_cons, ← values_digits]
    exact .flag (by simp) blanks_space (numeral_digits flag) ih

include hcr in
/-- **A written line is a marker line** with the parts that it was written with. -/
theorem spells_write (number : Nat) (file : String) (flags : List Nat) :
    Spells (write number file flags ++ cr) ⟨Decimal.digitValues number,
      some (Utf8.encode (escape file.toList)), flags.map Decimal.digitValues⟩ := by
  have hline : write number file flags ++ cr = [] ++ 0x23 :: ([0x20] ++ ([] ++
      (Utf8.encode (Decimal.digits number) ++ ([0x20] ++ 0x22 ::
        (Utf8.encode (escape file.toList) ++ 0x22 ::
          (Utf8.encode (flagsText flags) ++ cr)))))) := by
    have hname : Utf8.encode (' ' :: '"' :: (escape file.toList ++ '"' :: flagsText flags)) =
        0x20 :: 0x22 :: (Utf8.encode (escape file.toList) ++
          0x22 :: Utf8.encode (flagsText flags)) := by
      show 0x20 :: 0x22 :: Utf8.encode (escape file.toList ++ '"' :: flagsText flags) = _
      rw [Utf8.encode_append]
      rfl
    show 0x23 :: 0x20 :: Utf8.encode (Decimal.digits number ++ _) ++ cr = _
    rw [Utf8.encode_append, hname]
    simp
  rw [hline, ← values_digits]
  exact .intro blanks_nil blanks_space .absent (numeral_digits number)
    (.named (by simp) blanks_space (quotable_encode_escape file.toList) (flags_flagsText hcr flags))

include hcr in
/-- A written line stays a line if the name does. -/
theorem not_mem_write {file : String} (h : '\n' ∉ file.toList) (number : Nat) (flags : List Nat) :
    0x0a ∉ write number file flags ++ cr := by
  intro hmem
  have hdigits (n : Nat) : '\n' ∉ Decimal.digits n := Decimal.not_mem_digits (by decide) n
  have hname : '\n' ∉ escape file.toList := fun hc => h (mem_of_mem_escape (by decide) hc)
  have hflags : '\n' ∉ flagsText flags := by
    intro hc
    obtain ⟨flag, -, hc⟩ := List.mem_flatMap.mp hc
    rcases List.mem_cons.mp hc with hc | hc
    · exact absurd hc (by decide)
    · exact hdigits flag hc
  rcases List.mem_append.mp hmem with hmem | hmem
  · have hfeed : '\n' ∈ '#' :: ' ' :: (Decimal.digits number ++
        ' ' :: '"' :: (escape file.toList ++ '"' :: flagsText flags)) :=
      Utf8.mem_of_mem_encode hmem (by decide)
    simp [hdigits, hname, hflags] at hfeed
  · rcases hcr with rfl | rfl
    · exact absurd hmem List.not_mem_nil
    · exact absurd hmem (by decide)

include hcr in
/-- A written line can be read if its numbers are not too long. -/
theorem not_overlong_of_spells_write {number : Nat} {file : String} {flags : List Nat}
    (hnumber : (Decimal.digits number).length ≤ Decimal.maxDigits)
    (hflags : ∀ flag ∈ flags, (Decimal.digits flag).length ≤ Decimal.maxDigits) {marker : Marker}
    (h : Spells (write number file flags ++ cr) marker) : ¬ marker.Overlong := by
  obtain rfl := h.unique (spells_write hcr number file flags)
  rw [not_overlong_iff]
  refine ⟨by rwa [Decimal.length_digitValues], fun _ flag hflag => ?_⟩
  obtain ⟨n, hn, rfl⟩ := List.mem_map.mp hflag
  rw [Decimal.length_digitValues]
  exact hflags n hn

end Line

end Marker

namespace LineMap

/-! ## Rows behind a written marker -/

/-- **A written marker is obeyed.**  Put between lines that a scan accepts, a marker of a number, a
file and flags, none of which has too many digits, is recognised and blanked, with or without a
carriage return at its end.  The row that is `k` rows behind the first one after it, in front of the
next marker or at its row, comes from line `number + k` of the file, in a system header if the flag
for it is there.  Only names that are empty or stand in angle brackets lead to no location. -/
theorem resolve_behind_write (path : String) (before after : List Bytes) (number : Nat)
    (file : String) (flags : List Nat) (cr : Bytes) (hothers : ∀ l ∈ before ++ after, 0x0a ∉ l)
    (haccepted : ∃ scanned, scan path (unlines (before ++ after)) = .ok scanned)
    (hnumber : (Decimal.digits number).length ≤ Decimal.maxDigits)
    (hflags : ∀ flag ∈ flags, (Decimal.digits flag).length ≤ Decimal.maxDigits)
    (hfile : '\n' ∉ file.toList) (hcr : cr = [] ∨ cr = [0x0d]) :
    let line := Marker.write number file flags ++ cr
    ∃ m cleaned, scan path (unlines (before ++ line :: after)) = .ok (m, cleaned) ∧
      IsMarkerLine line ∧
      (lines cleaned)[before.length]? = some (List.replicate line.length 0x20) ∧
      ∀ k : Nat, (∀ l ∈ after.take k, ¬ IsMarkerLine l) → ∀ column : Int,
        let row := before.length + 1 + k
        m.resolve row column =
          if file = "" ∨ file.toList.head? = some '<' ∧ file.toList.getLast? = some '>' then
            .error (.noOriginatingFile row path)
          else .ok ⟨file, number + k, column + 1, decide (3 ∈ flags)⟩ := by
  intro line
  have hspells := Marker.spells_write hcr number file flags
  have hfeeds : ∀ l ∈ before ++ line :: after, 0x0a ∉ l :=
    forall_mem_insert.mpr ⟨hothers, Marker.not_mem_write hcr hfile number flags⟩
  have hfits : ∀ marker, Marker.Spells line marker → ¬ marker.Overlong :=
    fun _ => Marker.not_overlong_of_spells_write hcr hnumber hflags
  obtain ⟨⟨m, cleaned⟩, hscan⟩ := (scan_unlines_ok_iff path hfeeds).mpr
    (forall_mem_insert.mpr ⟨(scan_unlines_ok_iff path hothers).mp haccepted, hfits⟩)
  have hlines : lines (unlines (before ++ line :: after)) = before ++ line :: after :=
    lines_unlines (by simp) hfeeds
  refine ⟨m, cleaned, hscan, ⟨_, hspells⟩, ?_, ?_⟩
  · rw [getElem?_lines_cleaned hscan hlines, cleanLine_of_isMarkerLine ⟨_, hspells⟩]
  · intro k hplain column row
    -- No marker stands between the line and the row, so the line begins the segment of the row.
    obtain ⟨segment, hsegment, hfollows⟩ := exists_follows_behind hscan hlines hspells hplain
    obtain ⟨hsource, hsystem⟩ := hfollows.named _ rfl
    have hline : (segment.firstLine : Int) + (row - segment.startRow) = number + k := by
      rw [hfollows.firstLine, hfollows.startRow, Decimal.value_digitValues]
      omega
    have hheader : segment.system = decide (3 ∈ flags) := by
      rw [Bool.eq_iff_iff, hsystem, decide_eq_true_iff, Decimal.map_value_digitValues]
      rfl
    rw [resolve_of_segmentAt? hsegment, hsource, Marker.fileName_encode_escape, hline, hheader,
      (scanned_of_scan hscan).path_eq]
    simp only [Marker.isPseudoFile_iff]
    split
    · rfl
    · rfl

/-- A name with a quote, a carriage return, a character of two bytes and a backslash at its end. -/
def awkwardName : String := "é\"\r7\\"

/-- The marker of the awkward name ends with a carriage return and stands between a line of code
and, two rows further down, another marker.  The marker of a pseudo file is the end of its buffer.
-/
theorem resolve_behind_write_awkwardName :
    let code : Bytes := "int x;".toUTF8.toList
    let next : Bytes := "# 90".toUTF8.toList
    Marker.write 7 awkwardName [1, 3] = "# 7 \"é\\\"\r7\\\\\" 1 3".toUTF8.toList ∧
    (∃ m cleaned, scan "main.c" (unlines ([code] ++
        (Marker.write 7 awkwardName [1, 3] ++ [0x0d]) :: [code, next])) = .ok (m, cleaned) ∧
      m.resolve 2 4 = .ok ⟨awkwardName, 7, 5, true⟩ ∧
      m.resolve 3 0 = .ok ⟨awkwardName, 8, 1, true⟩) ∧
    ∃ m cleaned, scan "main.c" (unlines ([code] ++ (Marker.write 1 "<built-in>" [] ++ []) :: [])) =
        .ok (m, cleaned) ∧
      m.resolve 99 0 = .error (.noOriginatingFile 99 "main.c") := by
  intro code next
  have hcode : Marker.read? "int x;".toUTF8.toList = none := by decide +kernel
  have hnext : Marker.read? "# 90".toUTF8.toList = some ⟨[9, 0], none, []⟩ := by decide +kernel
  have hplain : ¬ IsMarkerLine code := by
    rw [← isSome_read?_iff, hcode]
    exact Bool.false_ne_true
  have hfits : ∀ l ∈ [code, code, next], ∀ marker, Marker.Spells l marker → ¬ marker.Overlong := by
    intro l hl marker hmarker
    obtain rfl | rfl : l = code ∨ l = next := by simpa using hl
    · exact absurd ⟨marker, hmarker⟩ hplain
    · obtain rfl := hmarker.unique (Marker.read?_eq_some_iff.mp hnext)
      rw [Marker.not_overlong_iff]
      decide
  refine ⟨by decide +kernel, ?_, ?_⟩
  · obtain ⟨m, cleaned, hscan, -, -, hrows⟩ :=
      resolve_behind_write "main.c" [code] [code, next] 7 awkwardName [1, 3] [0x0d]
        (by decide +kernel) ((scan_unlines_ok_iff "main.c" (by decide +kernel)).mpr hfits)
        (by decide) (by decide) (by decide) (.inr rfl)
    exact ⟨m, cleaned, hscan, hrows 0 (by simp) 4, hrows 1 (by simpa using hplain) 0⟩
  · have hfront : ∀ l ∈ [code] ++ [], ∀ marker, Marker.Spells l marker → ¬ marker.Overlong :=
      fun l hl => hfits l (List.mem_append_left [code, next] hl)
    obtain ⟨m, cleaned, hscan, -, -, hrows⟩ :=
      resolve_behind_write "main.c" [code] [] 1 "<built-in>" [] []
        (by decide +kernel) ((scan_unlines_ok_iff "main.c" (by decide +kernel)).mpr hfront)
        (by decide) (by decide) (by decide) (.inl rfl)
    exact ⟨m, cleaned, hscan, hrows 97 (by simp) 0⟩

end LineMap

end Cyclometry
