import Cyclometry.Proofs.ReportRoundTrip
import Cyclometry.Proofs.Visit

/-!
# Graphic modes of a terminal

A line in colour is the plain line with control sequences in it: an escape character, a bracket,
codes, and the letter that makes the terminal switch to the graphic mode of these codes.
`withoutModes` takes such sequences out of any text.  Remarks in colour are then the plain remarks
(`withoutModes_join_coloredText`), as long as no path has an escape character of its own.
-/

namespace Cyclometry.Diagnostic

/-- The character that a control sequence begins with. -/
def escape : Char := Char.ofNat 27

/-- The character can stand between the bracket and the letter of a control sequence. -/
def isCode (c : Char) : Bool := c.isDigit || c == ';'

/-- How many characters behind an escape switch to a graphic mode together with it. -/
def modeLength? : List Char → Option Nat
  | '[' :: rest =>
    let codes := rest.takeWhile isCode
    if (rest.drop codes.length).head? = some 'm' then some (codes.length + 2) else none
  | _ => none

/-- The characters behind the first `skip` ones, without the sequences that switch to a graphic
mode. -/
def stripModes : Nat → List Char → List Char
  | _, [] => []
  | skip + 1, _ :: rest => stripModes skip rest
  | 0, c :: rest =>
    if c = escape then
      match modeLength? rest with
      | some length => stripModes length rest
      | none => c :: stripModes 0 rest
    else c :: stripModes 0 rest

/-- The text without the sequences that switch to a graphic mode. -/
def withoutModes (text : String) : String := String.ofList (stripModes 0 text.toList)

/-- A mode goes, and so does one of several codes.  Any other sequence stays. -/
example : withoutModes (mode 1 ++ "a" ++ String.singleton escape ++ "[1;94mb" ++
    String.singleton escape ++ "[2Jc") = "ab" ++ String.singleton escape ++ "[2Jc" := by
  decide +kernel

theorem stripModes_append_of_not_mem {s : List Char} (h : escape ∉ s) (rest : List Char) :
    stripModes 0 (s ++ rest) = s ++ stripModes 0 rest := by
  induction s with
  | nil => rfl
  | cons c s ih =>
    obtain ⟨hc, hs⟩ := not_or.mp (mt List.mem_cons.mpr h)
    rw [List.cons_append, stripModes, if_neg (Ne.symm hc), ih hs, List.cons_append]

theorem stripModes_length_append (s rest : List Char) :
    stripModes s.length (s ++ rest) = stripModes 0 rest := by
  induction s with
  | nil => rfl
  | cons c s ih =>
    rw [List.length_cons, List.cons_append, stripModes]
    exact ih

theorem modeLength?_digits (n : Nat) (rest : List Char) :
    modeLength? ('[' :: (Decimal.digits n ++ 'm' :: rest)) =
      some ((Decimal.digits n).length + 2) := by
  have hcodes : (Decimal.digits n ++ 'm' :: rest).takeWhile isCode = Decimal.digits n := by
    rw [List.takeWhile_append_of_pos, List.takeWhile_cons_of_neg (by decide), List.append_nil]
    intro c hc
    rw [isCode, Nat.isDigit_of_mem_toDigits (by decide) (by decide) hc, Bool.true_or]
  rw [modeLength?, hcodes, List.drop_left, List.head?_cons, if_pos rfl]

theorem toList_mode (code : Nat) :
    (mode code).toList = escape :: ('[' :: (Decimal.digits code ++ ['m'])) := by
  have hbracket : "[".toList = ['['] := by decide
  have hletter : "m".toList = ['m'] := by decide
  simp only [mode, Decimal.ofNat, String.toList_append, String.toList_singleton,
    String.toList_ofList, hbracket, hletter, List.append_assoc, escape]
  rfl

/-- Behind the escape of a mode, the rest of the mode is skipped. -/
theorem stripModes_mode (code : Nat) (rest : List Char) :
    stripModes 0 ((mode code).toList ++ rest) = stripModes 0 rest := by
  have hlength : ('[' :: (Decimal.digits code ++ ['m'])).length =
      (Decimal.digits code).length + 2 := by
    rw [List.length_cons, List.length_append, List.length_singleton]
  have hmode : modeLength? ('[' :: (Decimal.digits code ++ ['m']) ++ rest) =
      some ('[' :: (Decimal.digits code ++ ['m'])).length := by
    rw [hlength, ← modeLength?_digits code rest, List.cons_append, List.append_assoc,
      List.singleton_append]
  rw [toList_mode, List.cons_append, stripModes, if_pos rfl, hmode]
  exact stripModes_length_append _ rest

theorem escape_not_mem_location {l : Location} (h : escape ∉ l.path.toList) :
    escape ∉ l.text.toList := by
  have hcolon : escape ∉ ":".toList := by decide
  have hnumber (n : Int) : escape ∉ (Decimal.ofInt n).toList :=
    Report.not_mem_ofInt (by decide) (by decide) n
  simp only [Location.text, String.toList_append, List.mem_append, h, hcolon, hnumber, or_self,
    not_false_eq_true]

/-- **A line in colour is the plain line**, but for its modes. -/
theorem stripModes_coloredText {d : Diagnostic} (hpath : escape ∉ d.location.path.toList)
    (hmessage : escape ∉ d.message.toList) (rest : List Char) :
    stripModes 0 (d.coloredText.toList ++ rest) = d.text.toList ++ stripModes 0 rest := by
  have hlocation := escape_not_mem_location hpath
  have hseverity : escape ∉ d.severity.name.toList := by
    cases d.severity <;> decide
  have hcolon : ": ".toList = ":".toList ++ " ".toList := by decide
  have hmark : escape ∉ ":".toList := by decide
  have hblank : escape ∉ " ".toList := by decide
  simp only [coloredText, text, boldMode, plainMode, String.toList_append, List.append_assoc,
    stripModes_mode, hcolon, stripModes_append_of_not_mem hlocation,
    stripModes_append_of_not_mem hseverity, stripModes_append_of_not_mem hmark,
    stripModes_append_of_not_mem hblank, stripModes_append_of_not_mem hmessage]

theorem toList_join_cons (line : String) (lines : List String) :
    (String.join (line :: lines)).toList = line.toList ++ (String.join lines).toList := by
  rw [String.join_cons, String.toList_append]

/-- **Remarks in colour are the plain remarks**, but for their modes. -/
theorem withoutModes_join_coloredText {functions : List FunctionResult}
    (h : ∀ f ∈ functions, escape ∉ f.location.path.toList) (remarkId : Nat) :
    withoutModes (String.join (functions.map fun f =>
        (Walk.remarkOf remarkId f).coloredText ++ "\n")) =
      String.join (functions.map fun f => (Walk.remarkOf remarkId f).text ++ "\n") := by
  rw [withoutModes, ← String.toList_inj, String.toList_ofList]
  induction functions with
  | nil => rfl
  | cons f functions ih =>
    have hfeed : escape ∉ "\n".toList := by decide
    have hmessage : escape ∉ (Walk.remarkOf remarkId f).message.toList := by
      have hlabel : escape ∉ "Cyclomatic Complexity: ".toList := by decide
      have hnumber : escape ∉ (Decimal.ofInt f.complexity).toList :=
        Report.not_mem_ofInt (by decide) (by decide) f.complexity
      rw [Walk.remarkOf, String.toList_append, List.mem_append]
      exact not_or.mpr ⟨hlabel, hnumber⟩
    rw [List.map_cons, List.map_cons, toList_join_cons, toList_join_cons, String.toList_append,
      String.toList_append, List.append_assoc,
      stripModes_coloredText (h f List.mem_cons_self) hmessage,
      stripModes_append_of_not_mem hfeed,
      ih fun g hg => h g (List.mem_cons_of_mem f hg), List.append_assoc]

end Cyclometry.Diagnostic
