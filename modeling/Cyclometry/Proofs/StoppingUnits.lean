import Cyclometry.Proofs.MarkerSegments
import Cyclometry.Proofs.ReportFiles
import Cyclometry.Proofs.ReportRoundTrip
import Cyclometry.Proofs.Utf8RoundTrip

/-!
# Units that stop a run

A unit without a tree is refused, and the run goes on with the next one.  So a run should have a
result for each of its units, whatever is in them.  It has, with three exceptions (`Engine.Stops`):
the path has a NUL character, a line marker has a numeral that is too long to be read, or a location
is too long to be written.

Two facts carry the proof.  Reading the markers of a source fails exactly if one of them has such a
numeral (`LineMap.scan_ok_iff`).  And a report has no marker lines (`Report.fits_text`), so writing
one over a source that is still to come cannot make that unit stop the run: a unit that does so for
its path or its markers would have done so at the start (`Frontend.Chokes.of_overlaid`).
-/

namespace Cyclometry

/-! ## Sources without markers -/

namespace LineMap

theorem lines_eq_singleton {source : Bytes} (h : 0x0a ∉ source) : lines source = [source] :=
  Text.splitOn_joinWith (List.cons_ne_nil source []) fun _ hpart => List.mem_singleton.mp hpart ▸ h

theorem fits_of_not_isMarkerLine {source : Bytes}
    (h : ∀ line ∈ lines source, ¬ IsMarkerLine line) : Fits source :=
  fun line hline marker hmarker => absurd ⟨marker, hmarker⟩ (h line hline)

/-- A marker line begins with a blank or with its sign. -/
theorem head?_of_isMarkerLine {line : Bytes} (h : IsMarkerLine line) :
    line.head? = some 0x20 ∨ line.head? = some 0x09 ∨ line.head? = some 0x23 := by
  obtain ⟨_, ⟨hlead, -, -, -, -⟩⟩ := h
  rename_i lead _ _ _ _ _ _
  cases lead with
  | nil => exact .inr (.inr rfl)
  | cons b lead =>
    rcases hlead b List.mem_cons_self with rfl | rfl
    · exact .inl rfl
    · exact .inr (.inl rfl)

end LineMap

/-! ## Paths with a NUL character -/

namespace Path

/-- No file can be named by the text. -/
def HasNul (s : String) : Prop := Char.ofNat 0 ∈ s.toList

theorem mem_joinTexts_iff {c : Char} (hc : c ≠ '/') {parts : List String} :
    c ∈ (Text.joinTexts "/" parts).toList ↔ ∃ part ∈ parts, c ∈ part.toList := by
  have hslash : "/".toList = ['/'] := by decide
  fun_induction Text.joinTexts "/" parts with
  | case1 => simp
  | case2 part => simp
  | case3 part rest hne ih => simp [hslash, hc, ih]

theorem mem_splitOn_iff {c : Char} (hc : c ≠ '/') {s : List Char} :
    (∃ piece ∈ Text.splitOn '/' s, c ∈ piece) ↔ c ∈ s := by
  induction s with
  | nil => simp [Text.splitOn]
  | cons d s ih =>
    have hcons : Text.splitOn '/' (d :: s) = Text.consPart '/' d (Text.splitOn '/' s) := rfl
    obtain ⟨piece, rest, hpieces⟩ := List.exists_cons_of_ne_nil (Text.splitOn_ne_nil '/' s)
    rw [hcons, hpieces, Text.consPart]
    rw [hpieces] at ih
    by_cases hd : (d == '/') = true
    · obtain rfl := beq_iff_eq.mp hd
      simp [← ih, hc]
    · rw [if_neg hd]
      simp only [List.mem_cons, exists_eq_or_imp, ← ih]
      tauto

theorem mem_pieces_iff {c : Char} (hc : c ≠ '/') {s : String} :
    (∃ piece ∈ pieces s, c ∈ piece.toList) ↔ c ∈ s.toList := by
  rw [← mem_splitOn_iff hc]
  simp [pieces]

/-- Writing a path keeps all characters but dots and slashes. -/
theorem mem_text_ofString_iff {c : Char} (hslash : c ≠ '/') (hdot : c ≠ '.') {s : String} :
    c ∈ (ofString s).text.toList ↔ c ∈ s.toList := by
  have hparts : (∃ part ∈ (ofString s).parts, c ∈ part.toList) ↔ c ∈ s.toList := by
    rw [← mem_pieces_iff hslash]
    constructor
    · rintro ⟨part, hpart, hc⟩
      exact ⟨part, List.mem_of_mem_filter hpart, hc⟩
    · rintro ⟨piece, hpiece, hc⟩
      refine ⟨piece, List.mem_filter.mpr ⟨hpiece, ?_⟩, hc⟩
      -- A piece that has the character is neither empty nor a dot.
      have hempty : piece ≠ "" := by
        rintro rfl
        exact absurd hc List.not_mem_nil
      have hpoint : piece ≠ "." := by
        rintro rfl
        exact hdot (List.mem_singleton.mp hc)
      simp [isComponent, hempty, hpoint]
  rw [← hparts, text]
  split_ifs with hbare
  · rw [hbare.2]
    have hpoint : ".".toList = ['.'] := by decide
    simp [hpoint, hdot]
  · have hroot : c ∉ (ofString s).root.text.toList := by
      cases (ofString s).root with
      | relative => exact List.not_mem_nil
      | slash => simpa [Root.text] using hslash
      | doubleSlash => simpa [Root.text] using hslash
    rw [String.toList_append, List.mem_append, mem_joinTexts_iff hslash]
    exact ⟨fun h => h.resolve_left hroot, .inr⟩

theorem mem_of_mem_stem {c : Char} (hslash : c ≠ '/') {s : String}
    (h : c ∈ (ofString s).stem.toList) : c ∈ s.toList := by
  have hname : c ∈ (ofString s).name.toList := by
    rw [stem, splitName] at h
    split at h
    · exact h
    · rw [String.toList_ofList] at h
      exact List.mem_of_mem_take h
  rw [name, List.getLastD_eq_getLast?] at hname
  cases hlast : (ofString s).parts.getLast? with
  | none =>
    rw [hlast] at hname
    exact absurd hname List.not_mem_nil
  | some part =>
    rw [hlast] at hname
    exact (mem_pieces_iff hslash).mp
      ⟨part, List.mem_of_mem_filter (List.mem_of_getLast? hlast), hname⟩

end Path

theorem Report.mem_expandStem {c : Char} {stem template : List Char}
    (h : c ∈ expandStem stem template) : c ∈ stem ∨ c ∈ template := by
  fun_induction expandStem stem template with
  | case1 => exact absurd h List.not_mem_nil
  | case2 rest ih =>
    rcases List.mem_append.mp h with h | h
    · exact .inl h
    · exact (ih h).imp_right fun h => by simp [h]
  | case3 d rest hne ih =>
    rcases List.mem_cons.mp h with rfl | h
    · exact .inr List.mem_cons_self
    · exact (ih h).imp_right (List.mem_cons_of_mem d)

namespace FileSystem

theorem checkPath_eq_nulCharacter_iff {path : String} :
    checkPath path = .error .nulCharacter ↔ Path.HasNul path := by
  rw [checkPath, Path.HasNul]
  split_ifs <;> simp_all

theorem read_eq_nulCharacter_iff {fs : FileSystem} {path : String} :
    fs.read path = .error .nulCharacter ↔ Path.HasNul path := by
  rw [read_eq, ← checkPath_eq_nulCharacter_iff]
  cases checkPath path with
  | error error => simp
  | ok _ =>
    cases (fs.look maxLinks (fs.startOf path) (Path.pieces path)).bind
      fun seen => seen.2.content with
    | error cause => simp
    | ok data => simp

end FileSystem

/-! ## Units that are neither parsed nor refused -/

namespace Frontend

/-- Why the grammar-based parser neither gives a tree for a unit nor refuses it: a marker of the
source cannot be read, or the source has to be read from a path with a NUL character. -/
inductive Chokes (asked : Option String) (fs : FileSystem) (path : String)
    (source : Option Bytes) : ParseFault → Prop
  | marker {bytes : Bytes} (hlanguage : (languageName? asked path).isSome)
      (hsource : sourceOf fs path source = .ok bytes) (hlong : ¬ LineMap.Fits bytes) :
      Chokes asked fs path source .numeralTooLong
  | nul (hlanguage : (languageName? asked path).isSome) (hsource : source = none)
      (hnul : Path.HasNul path) : Chokes asked fs path source .nulCharacter

/-- All that looking for the source of a unit can come to. -/
theorem sourceOf_cases (fs : FileSystem) (path : String) (source : Option Bytes) :
    (∃ bytes, sourceOf fs path source = .ok bytes ∧ (source = none → ¬ Path.HasNul path)) ∨
    (∃ error, sourceOf fs path source = .error (.refused error) ∧ ¬ Path.HasNul path) ∨
    (sourceOf fs path source = .error .nulCharacter ∧ source = none ∧ Path.HasNul path) := by
  cases source with
  | some bytes => exact .inl ⟨bytes, rfl, fun h => nomatch h⟩
  | none =>
    have hnul : fs.read (Path.ofString path).text = .error .nulCharacter ↔ Path.HasNul path :=
      FileSystem.read_eq_nulCharacter_iff.trans
        (Path.mem_text_ofString_iff (by decide) (by decide))
    unfold sourceOf
    cases hread : fs.read (Path.ofString path).text with
    | ok bytes => exact .inl ⟨bytes, rfl, fun _ h => nomatch hread.symm.trans (hnul.mpr h)⟩
    | error error =>
      rw [hread] at hnul
      cases error with
      | nulCharacter => exact .inr (.inr ⟨rfl, rfl, hnul.mp rfl⟩)
      | refused cause file => exact .inr (.inl ⟨_, rfl, fun h => nomatch hnul.mpr h⟩)

/-- All that the grammar-based parser can come to. -/
theorem parse_grammar_cases (tools : Toolchain) (fs : FileSystem) (asked : Option String)
    (path : String) (source : Option Bytes) :
    let parsed := (parse tools fs (.grammar asked) path source).2
    (∃ s : Grammar.Source, ∃ root unit, parsed = .ok unit ∧ unit.root = s.node root ∧
      (source = none → ¬ Path.HasNul path) ∧ ∀ fault, ¬ Chokes asked fs path source fault) ∨
    (∃ error, parsed = .error (.refused error) ∧ ∀ fault, ¬ Chokes asked fs path source fault) ∨
    (parsed = .error .numeralTooLong ∧
      ∀ fault, Chokes asked fs path source fault ↔ fault = .numeralTooLong) ∨
    (parsed = .error .nulCharacter ∧
      ∀ fault, Chokes asked fs path source fault ↔ fault = .nulCharacter) := by
  intro parsed
  cases hlanguage : languageName? asked path with
  | none =>
    refine .inr (.inl ⟨.unsupported path, ?_, ?_⟩)
    · simp only [parsed, parse, parseGrammar, hlanguage]
    · rintro _ (⟨hlanguage', -, -⟩ | ⟨hlanguage', -, -⟩) <;>
        rw [hlanguage] at hlanguage' <;> cases hlanguage'
  | some language =>
    have hsome : (languageName? asked path).isSome = true := by rw [hlanguage]; rfl
    rcases sourceOf_cases fs path source with ⟨bytes, hsource, hnul⟩ | ⟨error, hsource, hnul⟩ |
      ⟨hsource, hnone, hnul⟩
    · -- There is no NUL character in the way, so only the markers are left.
      have hchokes (fault : ParseFault) : Chokes asked fs path source fault ↔
          fault = .numeralTooLong ∧ ¬ LineMap.Fits bytes := by
        constructor
        · rintro (⟨-, hsource', hlong⟩ | ⟨-, hnone, hhas⟩)
          · obtain rfl := Except.ok.inj (hsource.symm.trans hsource')
            exact ⟨rfl, hlong⟩
          · exact absurd hhas (hnul hnone)
        · rintro ⟨rfl, hlong⟩
          exact .marker hsome hsource hlong
      cases hscan : LineMap.scan path bytes with
      | ok scanned =>
        have hfits : LineMap.Fits bytes := (LineMap.scan_ok_iff path).mp ⟨scanned, hscan⟩
        exact .inl ⟨⟨scanned.2, scanned.1⟩, _, _, parse_grammar hlanguage hsource hscan, rfl, hnul,
          fun fault h => ((hchokes fault).mp h).2 hfits⟩
      | error tooLong =>
        have hlong : ¬ LineMap.Fits bytes := fun hfits => by
          obtain ⟨scanned, hok⟩ := (LineMap.scan_ok_iff path).mpr hfits
          cases hscan.symm.trans hok
        refine .inr (.inr (.inl ⟨?_, fun fault => ?_⟩))
        · simp only [parsed, parse, parseGrammar, hlanguage, hsource, hscan]
        · rw [hchokes]
          exact ⟨And.left, fun h => ⟨h, hlong⟩⟩
    · refine .inr (.inl ⟨error, ?_, ?_⟩)
      · simp only [parsed, parse, parseGrammar, hlanguage, hsource]
      · rintro _ (⟨-, hsource', -⟩ | ⟨-, -, hhas⟩)
        · cases hsource.symm.trans hsource'
        · exact hnul hhas
    · refine .inr (.inr (.inr ⟨?_, fun fault => ⟨?_, ?_⟩⟩))
      · simp only [parsed, parse, parseGrammar, hlanguage, hsource]
      · rintro (⟨-, hsource', -⟩ | ⟨-, -, -⟩)
        · cases hsource.symm.trans hsource'
        · rfl
      · rintro rfl
        exact .nul hsome hnone hnul

/-- A unit is parsed or refused, unless it chokes the parser. -/
theorem parse_returns_iff (tools : Toolchain) (fs : FileSystem) (asked : Option String)
    (path : String) (source : Option Bytes) :
    let parsed := (parse tools fs (.grammar asked) path source).2
    ((∃ unit, parsed = .ok unit) ∨ ∃ error, parsed = .error (.refused error)) ↔
      ∀ fault, ¬ Chokes asked fs path source fault := by
  intro parsed
  rcases parse_grammar_cases tools fs asked path source with
    ⟨-, -, unit, hparsed, -, -, hfree⟩ | ⟨error, hparsed, hfree⟩ | ⟨hparsed, hchokes⟩ |
    ⟨hparsed, hchokes⟩
  · exact ⟨fun _ => hfree, fun _ => .inl ⟨unit, hparsed⟩⟩
  · exact ⟨fun _ => hfree, fun _ => .inr ⟨error, hparsed⟩⟩
  all_goals
    refine ⟨?_, fun hfree => absurd ((hchokes _).mpr rfl) (hfree _)⟩
    rintro (⟨unit, hunit⟩ | ⟨error, herror⟩)
    · cases hparsed.symm.trans hunit
    · cases hparsed.symm.trans herror

end Frontend

/-! ## Reports have no markers -/

namespace Report

theorem lines_encode {ls : List (List Char)} (h : ∀ l ∈ ls, '\n' ∉ l) :
    LineMap.lines (Utf8.encode (ls.flatMap (· ++ ['\n']))) = ls.map Utf8.encode ++ [[]] := by
  have hfeed : String.utf8EncodeChar '\n' = [0x0a] := by decide
  have hencode : Utf8.encode (ls.flatMap (· ++ ['\n'])) =
      (ls.map Utf8.encode).flatMap (· ++ [0x0a]) := by
    simp [Utf8.encode, List.flatMap_assoc, List.flatMap_map, hfeed]
  rw [hencode]
  refine Text.splitOn_flatMap fun line hline => ?_
  obtain ⟨l, hl, rfl⟩ := List.mem_map.mp hline
  intro hmem
  exact h l hl (Utf8.mem_of_mem_encode hmem (by decide))

/-- **A report has no marker lines**: each line begins with a letter, or is empty. -/
theorem fits_text {t : Tally} (h : ∀ entry ∈ t.entries, Text.Spaced entry.1.toList) :
    LineMap.Fits (bytesOf (text t)) := by
  have hfeed : ∀ l ∈ t.entries.map lineText, '\n' ∉ l := by
    intro l hl
    obtain ⟨entry, hentry, rfl⟩ := List.mem_map.mp hl
    exact not_mem_lineText (by decide) fun hc => (h entry hentry).not_lineBreak hc (by decide)
  refine LineMap.fits_of_not_isMarkerLine fun line hline hmarker => ?_
  rw [bytesOf, toList_text, lines_encode hfeed] at hline
  have hhead := LineMap.head?_of_isMarkerLine hmarker
  rcases List.mem_append.mp hline with hline | hline
  · obtain ⟨l, hl, rfl⟩ := List.mem_map.mp hline
    obtain ⟨entry, -, rfl⟩ := List.mem_map.mp hl
    have hletter : (Utf8.encode (lineText entry)).head? = some 0x46 := rfl
    rw [hletter] at hhead
    revert hhead
    decide
  · obtain rfl := List.mem_singleton.mp hline
    revert hhead
    decide

end Report

/-! ## Sources under reports -/

/-- A file system has grown by files whose markers can all be read. -/
structure FileSystem.Overlaid (fs fs' : FileSystem) : Prop where
  grown : fs.Grown fs'
  file : ∀ names data, fs'.finding names = .file data →
    fs.finding names = .file data ∨ LineMap.Fits data

namespace FileSystem.Overlaid

variable {fs fs' : FileSystem}

theorem refl (fs : FileSystem) : Overlaid fs fs := ⟨.refl fs, fun _ _ h => .inl h⟩

theorem place (h : Overlaid fs fs') {path : String} {names : List String}
    (hnames : fs'.writeTarget path = .ok names) {data : Bytes} (hdata : LineMap.Fits data) :
    Overlaid fs (fs'.place names (.file data)) := by
  refine ⟨h.grown.place hnames data, fun x content hx => ?_⟩
  rw [finding_place (of_writeTarget hnames).2] at hx
  split_ifs at hx
  · obtain rfl := Finding.file.inj hx
    exact .inr hdata
  · exact h.file x content hx

/-- A source that is read was there before, or its markers can be read. -/
theorem read (h : Overlaid fs fs') {path : String} {data : Bytes}
    (hread : fs'.read path = .ok data) : fs.read path = .ok data ∨ LineMap.Fits data := by
  have hstart : fs'.startOf path = fs.startOf path := by rw [startOf, startOf, h.grown.cwd]
  rw [read_eq, hstart] at hread
  rw [read_eq]
  cases hcheck : checkPath path with
  | error error =>
    rw [hcheck] at hread
    cases hread
  | ok _ =>
    rw [hcheck] at hread
    -- The path leads to the same names as before, where there was a file if this one is not new.
    have hspot : (fs'.look maxLinks (fs.startOf path) (Path.pieces path)).toOption.bind spot? =
        (fs.look maxLinks (fs.startOf path) (Path.pieces path)).toOption.bind spot? :=
      h.grown.spot_look (.inr (Path.pieces_ne_nil path))
    cases hlook' : fs'.look maxLinks (fs.startOf path) (Path.pieces path) with
    | error cause =>
      rw [hlook'] at hread
      cases hread
    | ok seen' =>
      obtain ⟨target, f⟩ := seen'
      rw [hlook'] at hread hspot
      cases f with
      | nothing => cases hread
      | directory => cases hread
      | link path => cases hread
      | file content =>
        obtain rfl : content = data := Except.ok.inj hread
        rcases h.file target content (look_ok hlook').1 with hold | hfits
        · refine .inl ?_
          obtain ⟨⟨old, f⟩, hlook, hfree⟩ := Option.bind_eq_some_iff.mp hspot.symm
          have hlook := toOption_eq_some_iff.mp hlook
          rw [spot?] at hfree
          split_ifs at hfree
          obtain rfl : old = target := Option.some.inj hfree
          obtain rfl : f = .file content := (look_ok hlook).1.symm.trans hold
          rw [hlook]
          rfl
        · exact .inr hfits

end FileSystem.Overlaid

/-- A unit on which the parser chokes under reports is one on which it choked before. -/
theorem Frontend.Chokes.of_overlaid {asked : Option String} {fs fs' : FileSystem} {path : String}
    {fault : ParseFault} (hfs : fs.Overlaid fs') (h : Chokes asked fs' path none fault) :
    Chokes asked fs path none fault := by
  cases h with
  | nul hlanguage hsource hnul => exact .nul hlanguage hsource hnul
  | @marker bytes hlanguage hsource hlong =>
    have hread : fs'.read (Path.ofString path).text = .ok bytes := by
      unfold sourceOf at hsource
      dsimp only at hsource
      split at hsource
      · rename_i heq
        rw [heq, Except.ok.inj hsource]
      · cases hsource
      · cases hsource
    have hbefore := (hfs.read hread).resolve_right hlong
    refine .marker hlanguage ?_ hlong
    unfold sourceOf
    rw [hbefore]

/-! ## Units and runs -/

namespace Engine

/-- The value asks for no reports, or says where they go. -/
def isReportTemplate (template : Value) : Bool :=
  !template.truthy || template.text?.any fun text => !text.toList.contains (Char.ofNat 0)

/-- The settings of an engine are fit for every unit: all endings of header names are texts, there
are diagnostics, and the report path is a text or nothing. -/
structure InOrder (e : Engine) (terminal : Terminal) : Prop where
  headers : e.policy.headersComplete = true
  diagnostics : (e.newDiagnostics terminal).toOption.isSome = true
  report : e.settings.reportPath.toOption.any isReportTemplate = true

/-- A remark about the unit at a path has to be written, and its location is too long for that. -/
def Overflows (e : Engine) (tools : Toolchain) (terminal : Terminal) (fs : FileSystem)
    (path : String) : Prop :=
  ∃ unit diagnostics, (e.frontend.parse tools fs path none).2 = .ok unit ∧
    e.newDiagnostics terminal = .ok diagnostics ∧
    ¬ Walk.Shown e.policy diagnostics.sink unit.root.declarations

/-- Why the unit at a path stops a run. -/
inductive Stops (e : Engine) (tools : Toolchain) (terminal : Terminal) (asked : Option String)
    (fs : FileSystem) (path : String) : Fault → Prop
  | nul (h : Frontend.Chokes asked fs path none .nulCharacter) :
      Stops e tools terminal asked fs path (.file .nulCharacter)
  | marker (h : Frontend.Chokes asked fs path none .numeralTooLong) :
      Stops e tools terminal asked fs path .numeralTooLong
  | remark (h : e.Overflows tools terminal fs path) :
      Stops e tools terminal asked fs path .numeralTooLong

variable {e : Engine} {tools : Toolchain} {terminal : Terminal} {asked : Option String}
  {path : String} {r : Run}

theorem not_hasNul_pathFor {template unit : String} (htemplate : ¬ Path.HasNul template)
    (hunit : ¬ Path.HasNul unit) : ¬ Path.HasNul (Report.pathFor template unit) := by
  rw [Path.HasNul, Report.pathFor, String.toList_ofList]
  intro h
  rcases Report.mem_expandStem h with h | h
  · exact hunit (Path.mem_of_mem_stem (by decide) h)
  · exact htemplate h

theorem exists_writeReport {template : Value} (htemplate : isReportTemplate template = true)
    {result : AnalysisResult} (hnul : ¬ Path.HasNul result.unit) (r : Run) :
    ∃ written, (writeReport template result r).2 = .ok written := by
  rw [writeReport_snd]
  by_cases htruthy : template.truthy = true
  · rw [isReportTemplate, htruthy, Bool.not_true, Bool.false_or, Option.any_eq_true] at htemplate
    obtain ⟨text, htext, hclean⟩ := htemplate
    obtain rfl : template = .text text := by
      cases template <;> simp_all [Value.text?]
    have hpath : reportPathFor (.text text) result.unit =
        .ok (some (Report.pathFor text result.unit)) := by simp [reportPathFor, htruthy]
    have hfree : ¬ Path.HasNul text := by simpa [Path.HasNul] using hclean
    rw [hpath]
    dsimp only
    split
    · rename_i hcheck
      exact absurd (FileSystem.checkPath_eq_nulCharacter_iff.mp hcheck)
        (not_hasNul_pathFor hfree hnul)
    · exact ⟨_, rfl⟩
  · have hpath : reportPathFor template result.unit = .ok none := by simp [reportPathFor, htruthy]
    rw [hpath]
    exact ⟨result, rfl⟩

/-- A unit with a tree has a result, unless one of its remarks cannot be written. -/
theorem analyzeUnit_snd (horder : e.InOrder terminal) {unit : ParsedUnit}
    (hroot : unit.root.Complete) (hnul : ¬ Path.HasNul unit.path) {diagnostics : Diagnostics}
    (hdiagnostics : e.newDiagnostics terminal = .ok diagnostics) (r : Run) :
    let shown := Walk.Shown e.policy diagnostics.sink unit.root.declarations
    (shown → ∃ result, (e.analyzeUnit terminal unit r).2 = .ok result) ∧
    (¬ shown → (e.analyzeUnit terminal unit r).2 = .error .numeralTooLong) := by
  intro shown
  obtain ⟨seen, -, -, hok, herror⟩ :=
    Walker.walk_accounts horder.headers hroot .empty (some diagnostics)
  obtain ⟨template, htemplate, hreport⟩ := Option.any_eq_true _ _ |>.mp horder.report
  rw [toOption_eq_some_iff] at htemplate
  rw [analyzeUnit, hdiagnostics]
  dsimp only
  rcases hwalk : (Walker.start e.policy (some diagnostics)).1.walk (some unit.root) .empty
    (Walker.start e.policy (some diagnostics)).2 with ⟨state, outcome⟩
  rw [hwalk] at hok herror
  constructor
  · intro hshown
    obtain rfl : outcome = .ok () := (hok hshown).2
    dsimp only
    rw [htemplate]
    exact exists_writeReport hreport hnul _
  · intro hshown
    obtain rfl : outcome = .error .numeralTooLong := herror hshown
    rfl

/-- **What stops a run at a unit**: nothing but the three reasons. -/
theorem analyze_error_iff (hfrontend : e.frontend = .grammar asked) (horder : e.InOrder terminal)
    {fault : Fault} : (e.analyze tools terminal path none r).2 = .error fault ↔
      e.Stops tools terminal asked r.fs path fault := by
  obtain ⟨diagnostics, hdiagnostics⟩ := Option.isSome_iff_exists.mp horder.diagnostics
  rw [toOption_eq_some_iff] at hdiagnostics
  have hcases := Frontend.parse_grammar_cases tools r.fs asked path none
  rw [← hfrontend] at hcases
  rw [analyze]
  rcases hparse : e.frontend.parse tools r.fs path none with ⟨events, parsed⟩
  have hparsed : (e.frontend.parse tools r.fs path none).2 = parsed := by rw [hparse]
  have hoverflows {fault : Frontend.ParseFault} (hfault : parsed = .error fault) :
      ¬ e.Overflows tools terminal r.fs path := by
    rintro ⟨unit, -, hunit, -⟩
    cases (hparsed.symm.trans hunit).symm.trans hfault
  rw [hparsed] at hcases
  rcases hcases with ⟨s, root, unit, rfl, hroot, hnul, hfree⟩ | ⟨error, rfl, hfree⟩ |
    ⟨rfl, hchokes⟩ | ⟨rfl, hchokes⟩
  · obtain rfl := Frontend.path_of_parse hparsed
    obtain ⟨hok, herror⟩ := analyzeUnit_snd horder (hroot ▸ s.complete_node root) (hnul rfl)
      hdiagnostics (r.add events)
    dsimp only
    by_cases hshown : Walk.Shown e.policy diagnostics.sink unit.root.declarations
    · obtain ⟨result, hresult⟩ := hok hshown
      rw [hresult]
      constructor
      · rintro ⟨⟩
      · rintro (h | h | ⟨other, d, hother, hd, hlong⟩)
        · exact absurd h (hfree _)
        · exact absurd h (hfree _)
        · obtain rfl := Except.ok.inj (hparsed.symm.trans hother)
          obtain rfl := Except.ok.inj (hdiagnostics.symm.trans hd)
          exact absurd hshown hlong
    · rw [herror hshown]
      constructor
      · rintro ⟨⟩
        exact .remark ⟨unit, diagnostics, hparsed, hdiagnostics, hshown⟩
      · rintro (h | - | -)
        · exact absurd h (hfree _)
        · rfl
        · rfl
  · constructor
    · rintro ⟨⟩
    · rintro (h | h | h)
      · exact absurd h (hfree _)
      · exact absurd h (hfree _)
      · exact absurd h (hoverflows rfl)
  · constructor
    · rintro ⟨⟩
      exact .marker ((hchokes _).mpr rfl)
    · rintro (h | - | -)
      · cases (hchokes _).mp h
      · rfl
      · rfl
  · constructor
    · rintro ⟨⟩
      exact .nul ((hchokes _).mpr rfl)
    · rintro (- | h | h)
      · rfl
      · cases (hchokes _).mp h
      · exact absurd h (hoverflows rfl)

theorem unit_of_analyze {result : AnalysisResult}
    (h : (e.analyze tools terminal path none r).2 = .ok result) : result.unit = path := by
  have hcourse := e.course_analyze tools terminal path none r
  rw [h] at hcourse
  generalize (e.analyze tools terminal path none r).1.fs = fs at hcourse
  cases hcourse <;> rfl

/-- One unit leaves reports only behind. -/
theorem overlaid_analyze (hfrontend : e.frontend = .grammar asked) {fs : FileSystem}
    (h : fs.Overlaid r.fs) (tools : Toolchain) (terminal : Terminal) (path : String) :
    fs.Overlaid (e.analyze tools terminal path none r).1.fs := by
  have hcourse := e.course_analyze tools terminal path none r
  generalize (e.analyze tools terminal path none r).1.fs = fs' at hcourse ⊢
  generalize (e.analyze tools terminal path none r).2 = outcome at hcourse
  cases hcourse with
  | stopped | refused | unreported | unwritten => exact h
  | @written state report names hfinds hreport htarget =>
    obtain ⟨unit, diagnostics, hparse, -, hwalk⟩ := hfinds
    rw [hfrontend] at hparse
    rcases Frontend.parse_grammar_cases tools r.fs asked path none with
      ⟨s, root, other, hother, hroot, -, -⟩ | ⟨error, herror, -⟩ | ⟨herror, -⟩ | ⟨herror, -⟩
    · obtain rfl := Except.ok.inj (hparse.symm.trans hother)
      refine h.place htarget (Report.fits_text ?_)
      have hspaced := (Walker.start e.policy (some diagnostics)).1.tally_walk_spaced s root
        (Walker.start e.policy (some diagnostics)).2
      rw [← hroot, hwalk] at hspaced
      exact hspaced
    all_goals cases hparse.symm.trans herror

/-- Why a unit fails: what is wrong with its path or its markers was so before any report. -/
theorem reason_of_analyze (hfrontend : e.frontend = .grammar asked) {fs : FileSystem}
    (hfs : fs.Overlaid r.fs) {fault : Fault}
    (h : (e.analyze tools terminal path none r).2 = .error fault) :
    (∃ cause, Frontend.Chokes asked fs path none cause) ∨
      e.Overflows tools terminal r.fs path ∨ ¬ e.InOrder terminal := by
  by_cases horder : e.InOrder terminal
  · cases (analyze_error_iff hfrontend horder).mp h with
    | nul hchokes => exact .inl ⟨_, hchokes.of_overlaid hfs⟩
    | marker hchokes => exact .inl ⟨_, hchokes.of_overlaid hfs⟩
    | remark hlong => exact .inr (.inl hlong)
  · exact .inr (.inr horder)

/-- The first unit that fails is reached with a result for each unit in front of it.  The induction
is on the units that are still to come; reports are all that lies over the sources of the start. -/
theorem analyzePaths_cases (tools : Toolchain) (terminal : Terminal)
    (hfrontend : e.frontend = .grammar asked) {fs : FileSystem} (hfs : fs.Overlaid r.fs)
    (paths : List String) :
    (∃ results, (e.analyzePaths tools terminal paths r).2 = .ok results ∧
      results.map AnalysisResult.unit = paths) ∨
    ∃ before path after r' results fault, paths = before ++ path :: after ∧
      e.analyzePaths tools terminal before r = (r', .ok results) ∧
      results.map AnalysisResult.unit = before ∧
      (e.analyze tools terminal path none r').2 = .error fault ∧
      (e.analyzePaths tools terminal paths r).2 = .error fault ∧
      ((∃ cause, Frontend.Chokes asked fs path none cause) ∨
        e.Overflows tools terminal r'.fs path ∨ ¬ e.InOrder terminal) := by
  induction paths generalizing r with
  | nil => exact .inl ⟨[], rfl, rfl⟩
  | cons path rest ih =>
    rcases hfirst : e.analyze tools terminal path none r with ⟨r₁, fault | result⟩
    · have hstop : (e.analyze tools terminal path none r).2 = .error fault := by rw [hfirst]
      refine .inr ⟨[], path, rest, r, [], fault, rfl, rfl, rfl, hstop, ?_,
        reason_of_analyze hfrontend hfs hstop⟩
      rw [analyzePaths, hfirst]
    · have hunit : result.unit = path := unit_of_analyze (by rw [hfirst])
      have hfs₁ : fs.Overlaid r₁.fs := by
        have h := overlaid_analyze hfrontend hfs tools terminal path
        rwa [hfirst] at h
      rcases ih hfs₁ with ⟨results, hresults, hmap⟩ |
        ⟨before, stop, after, r', results, fault, rfl, hbefore, hmap, hstop, hfault, hreason⟩
      · refine .inl ⟨result :: results, ?_, by rw [List.map_cons, hunit, hmap]⟩
        rw [analyzePaths, hfirst]
        dsimp only
        rcases hrest : e.analyzePaths tools terminal rest r₁ with ⟨r₂, others⟩
        rw [hrest] at hresults
        obtain rfl : others = .ok results := hresults
        rfl
      · refine .inr ⟨path :: before, stop, after, r', result :: results, fault, rfl, ?_,
          by rw [List.map_cons, hunit, hmap], hstop, ?_, hreason⟩
        · rw [analyzePaths, hfirst]
          dsimp only
          rw [hbefore]
        · rw [analyzePaths, hfirst]
          dsimp only
          rcases hrest : e.analyzePaths tools terminal (before ++ stop :: after) r₁ with
            ⟨r₂, others⟩
          rw [hrest] at hfault
          obtain rfl : others = .error fault := hfault
          rfl

/-- **A run has a result for each of its units**, or it stops at one.  With the grammar-based
parser,

* a unit is parsed or refused, unless it has a marker that cannot be read, or its source has to be
  read from a path with a NUL character;
* a run returns exactly one result for each unit, in their order, or it stops with the fault of the
  first unit that fails, behind results for all units in front of it.  If the settings are in order,
  that unit chokes the parser at the start of the run already, whatever the run has written since,
  or the location of a remark is too long to be written.

If the settings are in order, the analysis of a unit fails for one of these three reasons and for
no other, and without a sink only what the units were at the start can stop a run. -/
theorem analyzePaths_returns_or_stops (e : Engine) (tools : Toolchain) (terminal : Terminal)
    {asked : Option String} (hfrontend : e.frontend = .grammar asked) (paths : List String)
    (r : Run) :
    let returns := ∃ results, (e.analyzePaths tools terminal paths r).2 = .ok results ∧
      results.map AnalysisResult.unit = paths
    (∀ fs path source,
      let parsed := (e.frontend.parse tools fs path source).2
      ((∃ unit, parsed = .ok unit) ∨ ∃ error, parsed = .error (.refused error)) ↔
        ∀ fault, ¬ Frontend.Chokes asked fs path source fault) ∧
    (returns ∨ ∃ before path after r' results fault, paths = before ++ path :: after ∧
      e.analyzePaths tools terminal before r = (r', .ok results) ∧
      results.map AnalysisResult.unit = before ∧
      (e.analyze tools terminal path none r').2 = .error fault ∧
      (e.analyzePaths tools terminal paths r).2 = .error fault ∧
      ((∃ cause, Frontend.Chokes asked r.fs path none cause) ∨
        e.Overflows tools terminal r'.fs path ∨ ¬ e.InOrder terminal)) ∧
    (e.InOrder terminal →
      (∀ path r fault, (e.analyze tools terminal path none r).2 = .error fault ↔
        e.Stops tools terminal asked r.fs path fault) ∧
      ((∀ diagnostics, e.newDiagnostics terminal = .ok diagnostics → diagnostics.sink = none) →
        (∀ path ∈ paths, ∀ cause, ¬ Frontend.Chokes asked r.fs path none cause) → returns)) := by
  intro returns
  have hcases := analyzePaths_cases tools terminal hfrontend (.refl r.fs) paths
  refine ⟨?_, hcases, fun horder => ⟨fun path r fault => analyze_error_iff hfrontend horder, ?_⟩⟩
  · rw [hfrontend]
    exact fun fs path source => Frontend.parse_returns_iff tools fs asked path source
  · intro hsink hfree
    rcases hcases with hreturns |
      ⟨before, path, after, r', results, fault, hpaths, -, -, -, -, hreason⟩
    · exact hreturns
    · exfalso
      have hpath : path ∈ paths := by rw [hpaths]; simp
      rcases hreason with ⟨cause, hchokes⟩ | ⟨unit, diagnostics, -, hd, hlong⟩ | hnot
      · exact hfree path hpath cause hchokes
      · refine hlong fun hsome => ?_
        rw [hsink diagnostics hd] at hsome
        cases hsome
      · exact hnot horder

/-- A marker line with a number of too many digits. -/
def overlongSource : Bytes :=
  0x23 :: 0x20 :: List.replicate (Decimal.maxDigits + 1) 0x39

theorem not_fits_overlongSource : ¬ LineMap.Fits overlongSource := by
  have hnumeral : Marker.Numeral (List.replicate (Decimal.maxDigits + 1) 0x39) :=
    ⟨by simp, fun b hb => by rw [List.eq_of_mem_replicate hb]; decide⟩
  have hnone : Marker.Blanks [] := fun _ h => absurd h List.not_mem_nil
  have hspells : Marker.Spells
      ([] ++ 0x23 :: ([0x20] ++ ([] ++ (List.replicate (Decimal.maxDigits + 1) 0x39 ++ []))))
      ⟨Marker.values (List.replicate (Decimal.maxDigits + 1) 0x39), none, []⟩ :=
    .intro hnone (by simp [Marker.Blanks]) .absent hnumeral (.unnamed (.done hnone (.inl rfl)))
  rw [List.append_nil] at hspells
  intro hfits
  refine hfits overlongSource ?_ _ hspells (.inl ?_)
  · rw [LineMap.lines_eq_singleton (by simp [overlongSource])]
    exact List.mem_singleton.mpr rfl
  · simp [Marker.values]

/-- A source of one letter, and another source. -/
def twoFiles (source : Bytes) : FileSystem where
  top := .dir [("a.c", .file "f".toUTF8.toList), ("b.c", .file source)]
  cwd := []

theorem sourceOf_twoFiles (source : Bytes) :
    Frontend.sourceOf (twoFiles source) "b.c" none = .ok source := by
  have htext : (Path.ofString "b.c").text = "b.c" := by decide +kernel
  have hpieces : Path.pieces "b.c" = ["b.c"] := by decide +kernel
  have hcheck : FileSystem.checkPath "b.c" = .ok () :=
    toOption_eq_some_iff.mp (by decide +kernel)
  have hstart : (twoFiles source).startOf "b.c" = [] := by
    simp [FileSystem.startOf, FileSystem.startFrom, twoFiles]
  unfold Frontend.sourceOf
  rw [htext, FileSystem.read, FileSystem.locate, hcheck, hpieces, hstart]
  rfl

/-- A unit with such a line stops a run, behind a unit that is refused and in front of one that has
a result in a run without it. -/
theorem analyzePaths_returns_or_stops_overlongSource :
    let start : Run := ⟨twoFiles overlongSource, []⟩
    let run paths := (stemEngine.analyzePaths letterTools ⟨false⟩ paths start).2
    stemEngine.InOrder ⟨false⟩ ∧
    (∃ results, run ["notes.txt", "a.c"] = .ok results ∧
      results.map AnalysisResult.unit = ["notes.txt", "a.c"]) ∧
    run ["notes.txt", "b.c", "a.c"] = .error .numeralTooLong := by
  intro start run
  have horder : stemEngine.InOrder ⟨false⟩ :=
    ⟨by decide +kernel, by decide +kernel, by decide +kernel⟩
  have hrun (paths : List String) := analyzePaths_returns_or_stops stemEngine letterTools ⟨false⟩
    rfl paths start
  have hfails := ((hrun []).2.2 horder).1
  refine ⟨horder, ?_, ?_⟩
  · rcases (hrun ["notes.txt", "a.c"]).2.1 with
      hreturns | ⟨-, -, -, -, -, fault, -, -, -, -, hfault, -⟩
    · exact hreturns
    · have hsome : (run ["notes.txt", "a.c"]).toOption.isSome = true := by decide +kernel
      rw [show run _ = _ from hfault] at hsome
      cases hsome
  · rcases hall : stemEngine.analyzePaths letterTools ⟨false⟩ ["notes.txt", "b.c", "a.c"] start with
      ⟨r, outcome⟩
    rcases (hrun ["notes.txt", "b.c", "a.c"]).2.1 with ⟨results, hresults, -⟩ |
      ⟨before, path, after, r', results, fault, hpaths, -, -, hstop, hfault, -⟩
    · -- The refused unit leaves the file system as it is, so the next one stops the run.
      exfalso
      rw [hall] at hresults
      obtain rfl : outcome = .ok results := hresults
      obtain ⟨r₁, first, others, hfirst, hothers, -⟩ := analyzePaths_cons_eq_ok hall
      obtain ⟨r₂, second, -, hsecond, -, -⟩ := analyzePaths_cons_eq_ok hothers
      have hfs : r₁.fs = twoFiles overlongSource := by
        rw [← show _ = r₁ from congrArg Prod.fst hfirst]
        rfl
      have hchokes : Frontend.Chokes none r₁.fs "b.c" none .numeralTooLong :=
        .marker (by decide +kernel) (hfs ▸ sourceOf_twoFiles overlongSource) not_fits_overlongSource
      have herror := (hfails "b.c" r₁ _).mpr (.marker hchokes)
      rw [hsecond] at herror
      cases herror
    · have hnul : ∀ path ∈ ["notes.txt", "b.c", "a.c"], Char.ofNat 0 ∉ path.toList := by
        decide +kernel
      rcases (hfails path r' fault).mp hstop with hchokes | - | -
      · cases hchokes with
        | nul _ _ hhas => exact absurd hhas (hnul path (by rw [hpaths]; simp))
      · exact hfault
      · exact hfault

end Engine

end Cyclometry
