import Mathlib.Data.List.Infix
import Cyclometry.Proofs.DecimalDigits
import Cyclometry.Proofs.FunctionNames
import Cyclometry.Report

/-!
# Reading a report back

A report can be read back: each line without the words at its beginning, cut at the last place
where the words between name and number stand, is a name and a decimal numeral.  `Report.decode?`
does so, and it finds exactly the entries of the tally (`decode?_text`), provided that names stay
on their line.  Those of functions do, so the report of every walk of a parsed unit can be read back
(`Frontend.report_decodes`).

The last place matters: a name may itself contain the words in front of the number.
-/

namespace Cyclometry.Report

/-! ## The decoder -/

/-- The words in front of a name. -/
def label : List Char := "Function: ".toList

/-- The words between a name and its number. -/
def separator : List Char := ", Cyclomatic Complexity: ".toList

/-- The lines of a text in which every line ends with a line feed. -/
def terminatedLines? (text : List Char) : Option (List (List Char)) :=
  let parts := Text.splitOn '\n' text
  if parts.getLast? = some [] then some parts.dropLast else none

/-- What stands in front of and behind the last occurrence of some characters. -/
def cutLast? (sep : List Char) : List Char → Option (List Char × List Char)
  | [] => none
  | c :: rest =>
    match cutLast? sep rest with
    | some (before, after) => some (c :: before, after)
    | none => if sep <+: c :: rest then some ([], (c :: rest).drop sep.length) else none

/-- The number of a decimal numeral without a sign. -/
def natural? (numeral : List Char) : Option Nat :=
  if numeral ≠ [] ∧ numeral.all Char.isDigit then some (Nat.ofDigitChars 10 numeral 0) else none

/-- The number of a decimal numeral. -/
def integer? : List Char → Option Int
  | '-' :: numeral => (natural? numeral).map fun n : Nat => -(n : Int)
  | numeral => (natural? numeral).map fun n : Nat => (n : Int)

/-- The entry that a line stands for. -/
def entry? (line : List Char) : Option (String × Int) := do
  guard (label <+: line)
  let (name, numeral) ← cutLast? separator (line.drop label.length)
  let n ← integer? numeral
  some (String.ofList name, n)

/-- The entries of a report. -/
def decode? (report : String) : Option (List (String × Int)) :=
  (terminatedLines? report.toList).bind fun ls => ls.mapM entry?

/-! ## Cutting at the last occurrence -/

section Cut

variable {sep s before after : List Char}

theorem cutLast?_eq_none (hsep : sep ≠ []) (h : cutLast? sep s = none) (b a : List Char) :
    s ≠ b ++ (sep ++ a) := by
  induction s generalizing b with
  | nil =>
    intro heq
    have hnil := List.append_eq_nil_iff.mp (List.append_eq_nil_iff.mp heq.symm).2
    exact hsep hnil.1
  | cons c rest ih =>
    rw [cutLast?] at h
    split at h
    · cases h
    · rename_i hnone
      split at h
      · cases h
      · rename_i hprefix
        intro heq
        cases b with
        | nil => exact hprefix ⟨a, heq.symm⟩
        | cons d b => exact ih hnone b (List.cons.inj heq).2

/-- The cut is at an occurrence, and no other one begins behind it. -/
theorem cutLast?_eq_some (hsep : sep ≠ []) (h : cutLast? sep s = some (before, after)) :
    s = before ++ (sep ++ after) ∧
      ∀ b a, s = b ++ (sep ++ a) → b.length ≤ before.length := by
  induction s generalizing before with
  | nil => cases h
  | cons c rest ih =>
    rw [cutLast?] at h
    split at h
    · rename_i before' after' hrest
      obtain ⟨rfl, rfl⟩ := Prod.mk.inj (Option.some.inj h)
      obtain ⟨hcut, hlast⟩ := ih hrest
      refine ⟨congrArg (c :: ·) hcut, fun b a heq => ?_⟩
      cases b with
      | nil => exact Nat.zero_le _
      | cons d b => exact Nat.succ_le_succ (hlast b a (List.cons.inj heq).2)
    · rename_i hnone
      split at h
      · rename_i hprefix
        obtain ⟨rfl, rfl⟩ := Prod.mk.inj (Option.some.inj h)
        refine ⟨(List.prefix_iff_eq_append.mp hprefix).symm, fun b a heq => ?_⟩
        cases b with
        | nil => exact Nat.le_refl 0
        | cons d b => exact absurd (List.cons.inj heq).2 (cutLast?_eq_none hsep hnone b a)
      · cases h

/-- An occurrence behind which no other one begins is where the cut is made. -/
theorem cutLast?_append (hsep : sep ≠ [])
    (hlast : ∀ b a, before ++ (sep ++ after) = b ++ (sep ++ a) → b.length ≤ before.length) :
    cutLast? sep (before ++ (sep ++ after)) = some (before, after) := by
  cases hcut : cutLast? sep (before ++ (sep ++ after)) with
  | none => exact absurd rfl (cutLast?_eq_none hsep hcut before after)
  | some cut =>
    obtain ⟨b, a⟩ := cut
    obtain ⟨heq, hlast'⟩ := cutLast?_eq_some hsep hcut
    have hlength : before.length = b.length :=
      Nat.le_antisymm (hlast' before after rfl) (hlast b a heq)
    obtain ⟨rfl, htail⟩ := List.append_inj heq hlength
    rw [List.append_cancel_left htail]

/-- Characters that begin with one that occurs neither later in them nor behind them do not occur
again. -/
theorem occurrence_le {c : Char} {tail b a : List Char} (htail : c ∉ tail) (hafter : c ∉ after)
    (heq : before ++ (c :: tail ++ after) = b ++ (c :: tail ++ a)) :
    b.length ≤ before.length := by
  refine Nat.le_of_not_lt fun hlt => ?_
  -- Otherwise the first character stands in the tail of the occurrence in front or behind it.
  obtain ⟨x, rfl⟩ : ∃ x, b = before ++ x := by
    have hprefix : before <+: b ++ (c :: tail ++ a) := ⟨_, heq⟩
    obtain ⟨x, hx⟩ := List.prefix_of_prefix_length_le hprefix (List.prefix_append b _) hlt.le
    exact ⟨x, hx.symm⟩
  rw [List.append_assoc] at heq
  have hrest := List.append_cancel_left heq
  cases x with
  | nil => simp at hlt
  | cons d x =>
    have htail' : tail ++ after = x ++ (c :: tail ++ a) := (List.cons.inj hrest).2
    have hmem : c ∈ tail ++ after := by
      rw [htail']
      exact List.mem_append_right _ (List.mem_cons_self ..)
    exact (List.mem_append.mp hmem).elim htail hafter

end Cut

/-! ## Numerals -/

theorem natural?_digits (n : Nat) : natural? (Decimal.digits n) = some n := by
  have hdigits : ∀ c ∈ Decimal.digits n, c.isDigit = true := fun c =>
    Decimal.isDigit_of_mem_digits
  rw [natural?, if_pos ⟨Nat.toDigits_ne_nil, List.all_eq_true.mpr hdigits⟩, Decimal.digits,
    Nat.ofDigitChars_ten_toDigits]

theorem toList_ofInt (n : Int) : (Decimal.ofInt n).toList =
    if n < 0 then '-' :: Decimal.digits n.natAbs else Decimal.digits n.natAbs := by
  have hsign : "-".toList = ['-'] := by decide
  rw [Decimal.ofInt, apply_ite String.toList, String.toList_append, hsign]
  simp only [Decimal.ofNat, String.toList_ofList, List.singleton_append]

theorem not_mem_ofInt {c : Char} (hdigit : c.isDigit = false) (hsign : c ≠ '-') (n : Int) :
    c ∉ (Decimal.ofInt n).toList := by
  rw [toList_ofInt]
  split
  · intro hmem
    exact (List.mem_cons.mp hmem).elim hsign (Decimal.not_mem_digits hdigit _)
  · exact Decimal.not_mem_digits hdigit _

theorem integer?_ofInt (n : Int) : integer? (Decimal.ofInt n).toList = some n := by
  rw [toList_ofInt]
  split
  · rw [integer?, natural?_digits, Option.map_some]
    congr 1
    omega
  · rw [integer?]
    · rw [natural?_digits, Option.map_some]
      congr 1
      omega
    · intro numeral heq
      exact Decimal.not_mem_digits (by decide) n.natAbs (heq ▸ List.mem_cons_self ..)

/-! ## Lines and reports -/

/-- The characters of a line, without the line feed at its end. -/
def lineText (entry : String × Int) : List Char :=
  label ++ (entry.1.toList ++ (separator ++ (Decimal.ofInt entry.2).toList))

theorem toList_line (entry : String × Int) : (line entry).toList = lineText entry ++ ['\n'] := by
  have hfeed : "\n".toList = ['\n'] := by decide
  have hlabel : "Function: ".toList = label := rfl
  have hseparator : ", Cyclomatic Complexity: ".toList = separator := rfl
  simp only [line, String.toList_append, hfeed, hlabel, hseparator, lineText, List.append_assoc]

theorem separator_eq : ∃ tail, separator = ',' :: tail ∧ ',' ∉ tail := ⟨_, rfl, by decide⟩

theorem entry?_lineText (entry : String × Int) : entry? (lineText entry) = some entry := by
  obtain ⟨tail, hseparator, htail⟩ := separator_eq
  have hcomma : ',' ∉ (Decimal.ofInt entry.2).toList := not_mem_ofInt (by decide) (by decide) _
  have hcut : cutLast? separator (entry.1.toList ++ (separator ++ (Decimal.ofInt entry.2).toList)) =
      some (entry.1.toList, (Decimal.ofInt entry.2).toList) := by
    rw [hseparator]
    exact cutLast?_append (List.cons_ne_nil _ _) fun b a heq => occurrence_le htail hcomma heq
  rw [Report.entry?, lineText, List.drop_left, hcut]
  simp [guard, integer?_ofInt]

/-- What ends no line in a name ends no line in the line of the name. -/
theorem not_mem_lineText {entry : String × Int} {c : Char} (hc : c ∈ Text.lineBreaks)
    (h : c ∉ entry.1.toList) : c ∉ lineText entry := by
  have hwords : Text.lineBreaks.all (fun c => decide
      (c ∉ label ∧ c ∉ separator ∧ c.isDigit = false ∧ c ≠ '-')) = true := by decide
  obtain ⟨hlabel, hseparator, hdigit, hsign⟩ :=
    of_decide_eq_true (List.all_eq_true.mp hwords c hc)
  simp only [lineText, List.mem_append, not_or]
  exact ⟨hlabel, h, hseparator, not_mem_ofInt hdigit hsign _⟩

theorem toList_text (t : Tally) :
    (text t).toList = (t.entries.map lineText).flatMap (· ++ ['\n']) := by
  rw [text, String.toList_join, List.flatMap_map, List.flatMap_map]
  exact List.flatMap_congr fun entry _ => toList_line entry

/-- Lines that each end with a line feed are found again, if there is none inside of them. -/
theorem terminatedLines?_flatMap {ls : List (List Char)} (h : ∀ l ∈ ls, '\n' ∉ l) :
    terminatedLines? (ls.flatMap (· ++ ['\n'])) = some ls := by
  rw [terminatedLines?, Text.splitOn_flatMap h, List.getLast?_concat, List.dropLast_concat]
  rfl

theorem mapM_entry?_lineText (entries : List (String × Int)) :
    (entries.map lineText).mapM entry? = some entries := by
  induction entries with
  | nil => rfl
  | cons entry entries ih =>
    rw [List.map_cons, List.mapM_cons, entry?_lineText, ih]
    rfl

/-- **A report can be read back**, if no name in it runs over the end of its line. -/
theorem decode?_text {t : Tally} (h : ∀ entry ∈ t.entries, '\n' ∉ entry.1.toList) :
    decode? (text t) = some t.entries := by
  have hlines : ∀ l ∈ t.entries.map lineText, '\n' ∉ l := by
    intro l hl
    obtain ⟨entry, hentry, rfl⟩ := List.mem_map.mp hl
    exact not_mem_lineText (by decide) (h entry hentry)
  rw [decode?, toList_text, terminatedLines?_flatMap hlines, Option.bind_some,
    mapM_entry?_lineText]

end Cyclometry.Report

namespace Cyclometry.Frontend

/-- **The report of a parsed unit can be read back.**  Whatever the parser makes of a source, and
whatever the policy, the report of the walk has one line for each name of the tally, each with a
line feed at its end and no line break before it, and the decoder finds exactly the entries of the
tally.  No declaration of any grammar tree over any source has a line break in its name. -/
theorem report_decodes (tools : Toolchain) {fs : FileSystem} {asked : Option String}
    {path language : String} {source : Option Bytes} {bytes cleaned : Bytes} {lineMap : LineMap}
    (hlanguage : languageName? asked path = some language)
    (hsource : sourceOf fs path source = .ok bytes)
    (hscan : LineMap.scan path bytes = .ok (lineMap, cleaned))
    (policy : Policy) (diagnostics : Option Diagnostics) :
    let start := Walker.start policy diagnostics
    ∃ unit, (parse tools fs (.grammar asked) path source).2 = .ok unit ∧
      let tally := (start.1.walk (some unit.root) .empty start.2).1.tally
      (∃ ls : List (List Char), (Report.text tally).toList = ls.flatMap (· ++ ['\n']) ∧
        ls.length = tally.size ∧ ∀ l ∈ ls, ∀ c ∈ l, c ∉ Text.lineBreaks) ∧
      Report.decode? (Report.text tally) = some tally.entries ∧
      ∀ (s : Grammar.Source) (n : Grammar.Node), ∀ f ∈ (s.node n).declared,
        ∀ c ∈ f.name.toList, c ∉ Text.lineBreaks := by
  intro start
  refine ⟨_, parse_grammar hlanguage hsource hscan, ?_⟩
  intro tally
  have hspaced : ∀ entry ∈ tally.entries, Text.Spaced entry.1.toList :=
    start.1.tally_walk_spaced ⟨cleaned, lineMap⟩ _ start.2
  refine ⟨⟨tally.entries.map Report.lineText, Report.toList_text tally, List.length_map _,
    fun l hl c hc hbreak => ?_⟩, Report.decode?_text fun entry hentry hfeed => ?_, ?_⟩
  · obtain ⟨entry, hentry, rfl⟩ := List.mem_map.mp hl
    exact Report.not_mem_lineText hbreak
      (fun hname => (hspaced entry hentry).not_lineBreak hname hbreak) hc
  · exact (hspaced entry hentry).not_lineBreak hfeed (by decide)
  · intro s n f hf c hc
    rw [Grammar.Source.declared_node] at hf
    obtain ⟨d, hd, rfl⟩ := Option.map_eq_some_iff.mp hf
    exact (Grammar.Source.spaced_declared? hd).not_lineBreak hc

/-- A definition whose name runs over two lines and contains the words in front of a number, and a
lambda behind it. -/
def separatorTree : Grammar.Node :=
  let node (rule : String) (field : Option String) := Grammar.Node.mk
    ⟨rule, true, field, 0, 30, 0, 0⟩
  let body := node "compound_statement" (some "body") []
  node "translation_unit" none [
    node "function_definition" none [node "identifier" (some "declarator") [], body],
    node "lambda_expression" none [body]]

/-- The report of the two functions, read back. -/
theorem report_decodes_separatorTree :
    let tools : Toolchain :=
      ⟨fun _ _ _ => ⟨false, separatorTree⟩, fun _ _ => .finish none, .noLibrary⟩
    let source := "g, Cyclomatic\n\t Complexity: 9 ".toUTF8.toList
    let start := Walker.start (Policy.ofLists [".h"] ["/usr/include"]) (some (.start (some .plain)))
    ∃ unit, (parse tools ⟨.dir [], []⟩ (.grammar none) "a.c" (some source)).2 = .ok unit ∧
      let tally := (start.1.walk (some unit.root) .empty start.2).1.tally
      Report.text tally = "Function: g, Cyclomatic Complexity: 9, Cyclomatic Complexity: 1\n" ++
        "Function: operator(), Cyclomatic Complexity: 1\n" ∧
      Report.decode? (Report.text tally) =
        some [("g, Cyclomatic Complexity: 9", 1), ("operator()", 1)] := by
  intro tools source start
  have hlanguage : languageName? none "a.c" = some "c" := by decide +kernel
  have hsource : sourceOf ⟨.dir [], []⟩ "a.c" (some source) = .ok source := rfl
  have hscan : LineMap.scan "a.c" "g, Cyclomatic\n\t Complexity: 9 ".toUTF8.toList =
      .ok (⟨"a.c", #[⟨0, 1, some "a.c", false⟩]⟩,
        "g, Cyclomatic\n\t Complexity: 9 ".toUTF8.toList) := by decide +kernel
  obtain ⟨unit, hunit, -, hdecode, -⟩ := report_decodes tools hlanguage hsource hscan
    (Policy.ofLists [".h"] ["/usr/include"]) (some (.start (some .plain)))
  obtain rfl := Except.ok.inj (hunit.symm.trans (parse_grammar hlanguage hsource hscan))
  refine ⟨_, hunit, ?_, hdecode.trans ?_⟩
  · decide +kernel
  · decide +kernel

end Cyclometry.Frontend
