import Cyclometry.Json.Read
import Cyclometry.Json.Write
import Cyclometry.Proofs.DecimalDigits
import Cyclometry.Proofs.ReportRoundTrip

/-!
# Texts and integers in JSON

A written text is read back up to its closing quote (`readText_writeChars`), and a written integer
up to whatever can stand behind a value (`readAtom_ofInt`).  A character is written as itself, as a
letter behind a backslash, or as the code units that it has in UTF-16 (`CharForm`); each of these is
an escape that the reader undoes on its own, so a text follows character by character.
-/

namespace Cyclometry.Json

/-! ## Going forward -/

theorem Input.advance_append (position : Nat) (xs rest : List Char) :
    (Input.mk position (xs ++ rest)).advance xs.length = ⟨position + xs.length, rest⟩ := by
  rw [advance, List.drop_left]

theorem Input.advance_one (position : Nat) (c : Char) (rest : List Char) :
    (Input.mk position (c :: rest)).advance 1 = ⟨position + 1, rest⟩ := rfl

theorem skipBlanks_append {blanks rest : List Char} (hblanks : ∀ c ∈ blanks, isBlank c = true)
    (hrest : ∀ c ∈ rest.head?, isBlank c = false) (position : Nat) :
    skipBlanks ⟨position, blanks ++ rest⟩ = ⟨position + blanks.length, rest⟩ := by
  rw [skipBlanks, (Text.span_append hblanks hrest).1, Input.advance_append]

/-! ## Escapes -/

theorem hexDigit?_digitChar : ∀ d, d < 16 → Text.hexDigit? (Nat.digitChar d) = some d := by
  decide

/-- Four hexadecimal digits are enough for a code unit. -/
theorem hex_four {n : Nat} (h : n < 0x10000) : Text.Quoted.hex 4 n =
    [Nat.digitChar (n / 4096), Nat.digitChar (n / 256 % 16), Nat.digitChar (n / 16 % 16),
      Nat.digitChar (n % 16)] := by
  have hstep {m : Nat} (hm : 16 ≤ m) :
      Nat.toDigits 16 m = Nat.toDigits 16 (m / 16) ++ [Nat.digitChar (m % 16)] :=
    Nat.toDigits_of_base_le (by decide) hm
  have hlast {m : Nat} (hm : m < 16) : Nat.toDigits 16 m = [Nat.digitChar m] :=
    Nat.toDigits_of_lt_base hm
  have hzero : Nat.digitChar 0 = '0' := rfl
  have hdiv : n / 16 / 16 = n / 256 ∧ n / 256 / 16 = n / 4096 := by omega
  unfold Text.Quoted.hex
  -- The number of digits decides how many zeros stand in front.
  by_cases h₁ : n < 16
  · have hsmall : n / 4096 = 0 ∧ n / 256 % 16 = 0 ∧ n / 16 % 16 = 0 ∧ n % 16 = n := by omega
    simp [hlast h₁, hsmall, hzero]
  have htwo := hstep (Nat.le_of_not_lt h₁)
  by_cases h₂ : n / 16 < 16
  · have hsmall : n / 4096 = 0 ∧ n / 256 % 16 = 0 ∧ n / 16 % 16 = n / 16 := by omega
    simp [htwo, hlast h₂, hsmall, hzero]
  have hthree := hstep (Nat.le_of_not_lt h₂)
  rw [hdiv.1] at hthree
  by_cases h₃ : n / 256 < 16
  · have hsmall : n / 4096 = 0 ∧ n / 256 % 16 = n / 256 := by omega
    simp [htwo, hthree, hlast h₃, hsmall, hzero]
  have hfour := hstep (Nat.le_of_not_lt h₃)
  rw [hdiv.2] at hfour
  have h₄ : n / 4096 < 16 := by omega
  simp [htwo, hthree, hfour, hlast h₄]

theorem hexQuad?_hex {n : Nat} (h : n < 0x10000) (rest : List Char) :
    hexQuad? (Text.Quoted.hex 4 n ++ rest) = some n := by
  have hvalue : Decimal.value 16 [n / 4096, n / 256 % 16, n / 16 % 16, n % 16] = n := by
    simp only [Decimal.value, List.foldl_cons, List.foldl_nil]
    omega
  rw [hex_four h]
  simp only [List.cons_append, hexQuad?, hexDigit?_digitChar (n / 4096) (by omega),
    hexDigit?_digitChar (n / 256 % 16) (by omega), hexDigit?_digitChar (n / 16 % 16) (by omega),
    hexDigit?_digitChar (n % 16) (by omega), bind, Option.bind, pure, hvalue]

theorem length_hex_four {n : Nat} (h : n < 0x10000) : (Text.Quoted.hex 4 n).length = 4 := by
  rw [hex_four h]
  rfl

theorem drop_hex {n : Nat} (h : n < 0x10000) (rest : List Char) :
    (Text.Quoted.hex 4 n ++ rest).drop 4 = rest := by
  exact List.drop_left' (length_hex_four h)

theorem escape_short {letter meant : Char} (hletter : letter ≠ 'u')
    (hmeant : shortEscape? letter = some meant) (rest : List Char) (start position : Nat) :
    escape start ⟨position, '\\' :: letter :: rest⟩ = .ok (meant, 1) := by
  simp only [escape, List.drop_succ_cons, List.drop_zero, hmeant]

theorem length_unitEscape {n : Nat} (h : n < 0x10000) : (unitEscape n).length = 5 + 1 := by
  rw [unitEscape, List.length_cons, List.length_cons, length_hex_four h]

/-- The escape of a code unit that is a character of its own.  Something has to follow it. -/
theorem escape_unit {n : Nat} (hn : n < 0x10000) (hchar : ¬ (0xd800 ≤ n ∧ n ≤ 0xdfff))
    {rest : List Char} (hrest : rest ≠ []) (start position : Nat) :
    escape start ⟨position, unitEscape n ++ rest⟩ = .ok (Char.ofNat n, 5) := by
  have hlong : 4 < (Text.Quoted.hex 4 n ++ rest).length := by
    have := List.length_pos_iff.mpr hrest
    rw [List.length_append, length_hex_four hn]
    omega
  have hlow : ¬ (0xd800 ≤ n ∧ n ≤ 0xdbff) := by omega
  simp only [escape, unitEscape, List.cons_append, List.drop_succ_cons, List.drop_zero, hlong,
    if_true, hexQuad?_hex hn, drop_hex hn, unitChar, if_neg hchar]
  split
  · rw [if_neg (by omega)]
  · rfl

/-- The two escapes of a character beyond the first plane. -/
theorem escape_pair (high low : Nat) (hhigh : 0xd800 ≤ high ∧ high ≤ 0xdbff)
    (hlow : 0xdc00 ≤ low ∧ low ≤ 0xdfff) {rest : List Char} (hrest : rest ≠ [])
    (start position : Nat) :
    escape start ⟨position, unitEscape high ++ (unitEscape low ++ rest)⟩ =
      .ok (Char.ofNat (0x10000 + (high - 0xd800) * 0x400 + (low - 0xdc00)), 11) := by
  have hfirst : high < 0x10000 := by omega
  have hsecond : low < 0x10000 := by omega
  have hlong : 4 < (Text.Quoted.hex 4 low ++ rest).length := by
    have := List.length_pos_iff.mpr hrest
    rw [List.length_append, length_hex_four hsecond]
    omega
  have hlong' : 4 < (Text.Quoted.hex 4 high ++
      '\\' :: 'u' :: (Text.Quoted.hex 4 low ++ rest)).length := by
    rw [List.length_append, length_hex_four hfirst]
    simp
  simp only [escape, unitEscape, List.cons_append, List.drop_succ_cons, List.drop_zero, hlong',
    if_true, hexQuad?_hex hfirst, drop_hex hfirst, hexQuad?_hex hsecond, if_pos hlow]
  rw [if_pos ⟨hhigh.1, hhigh.2, hlong⟩]

/-! ## Written characters -/

/-- The letters that a character is escaped with. -/
def escapeLetters : List Char := ['"', '\\', 'n', 'r', 't', 'b', 'f']

/-- How a character is written: as a letter behind a backslash, as itself, or as one code unit or
two. -/
inductive CharForm (c : Char) : Prop
  | short {letter : Char} (hletter : letter ∈ escapeLetters) (hmeant : shortEscape? letter = some c)
      (hwrite : writeChar c = ['\\', letter])
  | plain (hquote : c ≠ '"') (hslash : c ≠ '\\') (hrange : 0x20 ≤ c.toNat ∧ c.toNat < 0x7f)
      (hwrite : writeChar c = [c])
  | unit (hsmall : c.toNat < 0x10000) (hwrite : writeChar c = unitEscape c.toNat)
  | pair {high low : Nat} (hhigh : 0xd800 ≤ high ∧ high ≤ 0xdbff)
      (hlow : 0xdc00 ≤ low ∧ low ≤ 0xdfff)
      (hvalue : 0x10000 + (high - 0xd800) * 0x400 + (low - 0xdc00) = c.toNat)
      (hwrite : writeChar c = unitEscape high ++ unitEscape low)

theorem CharForm.of_eq {c letter meant : Char} (hc : c = meant) (hletter : letter ∈ escapeLetters)
    (hmeant : shortEscape? letter = some meant) (hwrite : writeChar meant = ['\\', letter]) :
    CharForm c := by
  subst hc
  exact .short hletter hmeant hwrite

theorem writeChar_form (c : Char) : CharForm c := by
  have hvalid : c.toNat < 0xd800 ∨ 0xdfff < c.toNat ∧ c.toNat < 0x110000 := c.valid
  have hcode {n : Nat} (h : c.toNat = n) : c = Char.ofNat n := by rw [← h, Char.ofNat_toNat]
  by_cases h₁ : c = '"'
  · exact .of_eq h₁ (by decide) rfl rfl
  by_cases h₂ : c = '\\'
  · exact .of_eq h₂ (by decide) rfl rfl
  by_cases h₃ : c = '\n'
  · exact .of_eq h₃ (by decide) rfl rfl
  by_cases h₄ : c = '\r'
  · exact .of_eq h₄ (by decide) rfl rfl
  by_cases h₅ : c = '\t'
  · exact .of_eq h₅ (by decide) rfl rfl
  by_cases h₆ : c.toNat = 8
  · exact .of_eq (hcode h₆) (by decide) rfl rfl
  by_cases h₇ : c.toNat = 12
  · exact .of_eq (hcode h₇) (by decide) rfl rfl
  -- No letter stands for the character, so only its code decides.
  have hwrite : writeChar c = if 0x20 ≤ c.toNat ∧ c.toNat < 0x7f then [c]
      else if c.toNat < 0x10000 then unitEscape c.toNat
      else unitEscape (0xd800 + (c.toNat - 0x10000) / 0x400) ++
        unitEscape (0xdc00 + (c.toNat - 0x10000) % 0x400) := by
    simp only [writeChar, beq_iff_eq, h₁, h₂, h₃, h₄, h₅, h₆, h₇, if_false]
  by_cases h₈ : 0x20 ≤ c.toNat ∧ c.toNat < 0x7f
  · exact .plain h₁ h₂ h₈ (by rw [hwrite, if_pos h₈])
  by_cases h₉ : c.toNat < 0x10000
  · exact .unit h₉ (by rw [hwrite, if_neg h₈, if_pos h₉])
  · refine .pair ?_ ?_ ?_ (by rw [hwrite, if_neg h₈, if_neg h₉])
    all_goals omega

/-! ## Texts -/

variable (start : Nat) (done : List Char)

theorem readText_quote (position : Nat) (rest : List Char) :
    readText start done ⟨position, '"' :: rest⟩ =
      .ok (String.ofList done.reverse, ⟨position + 1, rest⟩) := by
  rw [readText]
  rfl

/-- An escape is read whole. -/
theorem readText_escape {escaped : List Char} {position n : Nat} {rest : List Char} {c : Char}
    (hfirst : escaped.head? = some '\\') (hlength : escaped.length = n + 1)
    (h : escape start ⟨position, escaped ++ rest⟩ = .ok (c, n)) :
    readText start done ⟨position, escaped ++ rest⟩ =
      readText start (c :: done) ⟨position + escaped.length, rest⟩ := by
  obtain ⟨more, rfl⟩ := List.head?_eq_some_iff.mp hfirst
  rw [← Input.advance_append, hlength, List.cons_append]
  rw [List.cons_append] at h
  rw [readText]
  simp only [h]

theorem readText_plain {c : Char} (hquote : c ≠ '"') (hslash : c ≠ '\\') (hplain : 0x20 ≤ c.toNat)
    (position : Nat) (rest : List Char) :
    readText start done ⟨position, c :: rest⟩ =
      readText start (c :: done) ⟨position + 1, rest⟩ := by
  rw [readText]
  split
  · rename_i h
    cases h
  · rename_i h
    exact absurd (List.cons.inj h).1 hquote
  · rename_i h
    exact absurd (List.cons.inj h).1 hslash
  · rename_i h
    obtain ⟨rfl, rfl⟩ := List.cons.inj h
    rw [if_neg (by omega)]
    rfl

/-- One written character is read back, if something follows it. -/
theorem readText_writeChar (c : Char) {rest : List Char} (hrest : rest ≠ []) (position : Nat) :
    readText start done ⟨position, writeChar c ++ rest⟩ =
      readText start (c :: done) ⟨position + (writeChar c).length, rest⟩ := by
  have hvalid : c.toNat < 0xd800 ∨ 0xdfff < c.toNat ∧ c.toNat < 0x110000 := c.valid
  cases writeChar_form c with
  | short hletter hmeant hwrite =>
    have hletters : escapeLetters.all (· != 'u') = true := by decide
    have hother := bne_iff_ne.mp (List.all_eq_true.mp hletters _ hletter)
    rw [hwrite]
    exact readText_escape start done rfl rfl (escape_short hother hmeant rest start position)
  | plain hquote hslash hrange hwrite =>
    rw [hwrite]
    exact readText_plain start done hquote hslash hrange.1 position rest
  | unit hsmall hwrite =>
    have hescape := escape_unit hsmall (by omega) hrest start position
    rw [Char.ofNat_toNat] at hescape
    rw [hwrite]
    exact readText_escape start done rfl (length_unitEscape hsmall) hescape
  | pair hhigh hlow hvalue hwrite =>
    have hescape := escape_pair _ _ hhigh hlow hrest start position
    rw [hvalue, Char.ofNat_toNat, ← List.append_assoc] at hescape
    rw [hwrite]
    refine readText_escape start done rfl ?_ hescape
    rw [List.length_append, length_unitEscape (by omega), length_unitEscape (by omega)]

theorem readText_writeChars (cs rest : List Char) (position : Nat) :
    ∃ next, readText start done ⟨position, cs.flatMap writeChar ++ '"' :: rest⟩ =
      .ok (String.ofList (done.reverse ++ cs), ⟨next, rest⟩) := by
  induction cs generalizing done position with
  | nil =>
    rw [List.append_nil]
    exact ⟨_, readText_quote start done position rest⟩
  | cons c cs ih =>
    obtain ⟨next, hnext⟩ := ih (c :: done) (position + (writeChar c).length)
    refine ⟨next, ?_⟩
    rw [List.flatMap_cons, List.append_assoc, readText_writeChar start done c (by simp), hnext]
    simp

/-! ## Integers -/

/-- What may follow a value in a written text. -/
def Closes (rest : List Char) : Prop := ∀ c ∈ rest.head?, c = ',' ∨ c = '\n'

theorem closes_cons_iff {c : Char} {rest : List Char} :
    Closes (c :: rest) ↔ c = ',' ∨ c = '\n' := by
  simp [Closes]

theorem closes_nil : Closes [] := by
  intro c hc
  cases hc

theorem asciiDigit?_eq (c : Char) :
    Text.asciiDigit? c = if c.isDigit then some (c.toNat - 48) else none := by
  simp only [Text.asciiDigit?, Char.isDigit, Bool.and_eq_true, decide_eq_true_eq]
  rfl

/-- A run of digits is read whole. -/
theorem leadingDigits_append {ds rest : List Char} (hds : ∀ c ∈ ds, c.isDigit = true)
    (hrest : ∀ c ∈ rest.head?, c.isDigit = false) :
    leadingDigits (ds ++ rest) = ds.map fun c => c.toNat - 48 := by
  have hkind : (fun c => (Text.asciiDigit? c).isSome) = Char.isDigit := by
    funext c
    rw [asciiDigit?_eq]
    cases c.isDigit <;> rfl
  rw [leadingDigits, hkind, (Text.span_append hds hrest).1]
  clear hrest
  induction ds with
  | nil => rfl
  | cons c ds ih =>
    have hc : Text.asciiDigit? c = some (c.toNat - 48) := by
      rw [asciiDigit?_eq, if_pos (hds c List.mem_cons_self)]
    rw [List.filterMap_cons_some hc, List.map_cons,
      ih fun d hd => hds d (List.mem_cons_of_mem c hd)]

theorem Closes.head?_isDigit {rest : List Char} (h : Closes rest) :
    ∀ c ∈ rest.head?, c.isDigit = false := by
  intro c hc
  rcases h c hc with rfl | rfl <;> decide

theorem wholeOf?_digits (n : Nat) {rest : List Char} (hrest : Closes rest) :
    wholeOf? (Decimal.digits n ++ rest) = some (Decimal.digitValues n) := by
  obtain ⟨d, ds, hvalues, hzero⟩ := Decimal.head_digitValues n
  have hleading : leadingDigits (Decimal.digits n ++ rest) = d :: ds := by
    rw [leadingDigits_append (fun c => Decimal.isDigit_of_mem_digits) hrest.head?_isDigit,
      ← hvalues]
    rfl
  rw [wholeOf?, hleading, hvalues]
  cases d with
  | zero =>
    rw [(hzero rfl).2]
    rfl
  | succ d => rfl

theorem Closes.fractionOf {rest : List Char} (h : Closes rest) : fractionOf rest = [] := by
  unfold Json.fractionOf
  split
  · rcases closes_cons_iff.mp h with h | h <;> cases h
  · rfl

theorem Closes.exponentOf? {rest : List Char} (h : Closes rest) : exponentOf? rest = none := by
  cases rest with
  | nil => rfl
  | cons c rest => rcases closes_cons_iff.mp h with rfl | rfl <;> rfl

theorem unsigned?_digits (negative : Bool) (n : Nat) {rest : List Char} (hrest : Closes rest) :
    unsigned? negative (Decimal.digits n ++ rest) =
      some ⟨negative, Decimal.digitValues n, [], none,
        (if negative then 1 else 0) + (Decimal.digits n).length⟩ := by
  have hfraction : fractionOf rest = [] := hrest.fractionOf
  have hexponent : exponentOf? rest = none := hrest.exponentOf?
  rw [unsigned?, wholeOf?_digits n hrest]
  simp [hfraction, hexponent, Decimal.length_digitValues]

/-- The numeral of an integer ends where the next part of the text begins. -/
theorem numeral?_ofInt (n : Int) {rest : List Char} (hrest : Closes rest) :
    numeral? ((Decimal.ofInt n).toList ++ rest) =
      some ⟨decide (n < 0), Decimal.digitValues n.natAbs, [], none,
        (Decimal.ofInt n).toList.length⟩ := by
  rw [Report.toList_ofInt]
  by_cases hn : n < 0
  · rw [if_pos hn, List.cons_append, numeral?, unsigned?_digits true _ hrest]
    simp [hn, Nat.add_comm]
  · rw [if_neg hn, numeral?, unsigned?_digits false _ hrest]
    · simp [hn]
    · intro more heq
      have hmem : '-' ∈ Decimal.digits n.natAbs := by
        cases hdigits : Decimal.digits n.natAbs with
        | nil => exact absurd hdigits Nat.toDigits_ne_nil
        | cons c ds =>
          rw [hdigits] at heq
          rw [(List.cons.inj heq).1]
          exact List.mem_cons_self
      exact Decimal.not_mem_digits (by decide) _ hmem

/-- The first characters of an integer: a digit, or a sign and a digit. -/
theorem exists_digit_ofInt (n : Int) :
    ∃ c cs, c.isDigit = true ∧ ((Decimal.ofInt n).toList = c :: cs ∨
      (Decimal.ofInt n).toList = '-' :: c :: cs) := by
  rw [Report.toList_ofInt]
  cases hdigits : Decimal.digits n.natAbs with
  | nil => exact absurd hdigits Nat.toDigits_ne_nil
  | cons c cs =>
    have hc : c.isDigit = true := Decimal.isDigit_of_mem_digits (hdigits ▸ List.mem_cons_self)
    refine ⟨c, cs, hc, ?_⟩
    split
    · exact .inr rfl
    · exact .inl rfl

/-- No word begins as an integer does. -/
theorem find?_words_ofInt (n : Int) (rest : List Char) :
    words.find? (fun word => word.1.isPrefixOf ((Decimal.ofInt n).toList ++ rest)) = none := by
  have hletters : words.all (fun word => word.1.head?.any (fun a => !a.isDigit) &&
      (word.1.head? != some '-' || word.1.tail.head?.any (fun b => !b.isDigit))) = true := by
    decide
  obtain ⟨c, cs, hc, htext⟩ := exists_digit_ofInt n
  refine List.find?_eq_none.mpr fun word hword hprefix => ?_
  obtain ⟨more, hmore⟩ := List.isPrefixOf_iff_prefix.mp hprefix
  have hletter := List.all_eq_true.mp hletters word hword
  rcases hspelled : word.1 with _ | ⟨a, w⟩
  · rw [hspelled] at hletter
    cases hletter
  · rw [hspelled] at hletter hmore
    rcases htext with htext | htext
    · rw [htext] at hmore
      obtain ⟨rfl, -⟩ := List.cons.inj hmore
      simp [hc] at hletter
    · rw [htext] at hmore
      obtain ⟨rfl, htail⟩ := List.cons.inj hmore
      cases w with
      | nil => simp at hletter
      | cons b w =>
        obtain ⟨rfl, -⟩ := List.cons.inj htail
        simp [hc] at hletter

/-- A short integer is read back. -/
theorem readAtom_ofInt {n : Int} (hn : Decimal.isShort n = true) {rest : List Char}
    (hrest : Closes rest) (position : Nat) :
    ∃ next, readAtom ⟨position, (Decimal.ofInt n).toList ++ rest⟩ = .ok (.int n, ⟨next, rest⟩) := by
  have hread := Decimal.read_digitValues (of_decide_eq_true hn)
  have hsigned : Double.signed (decide (n < 0)) n.natAbs = n := by
    by_cases hsign : n < 0
    · rw [decide_eq_true hsign, Double.signed, if_pos rfl]
      omega
    · rw [decide_eq_false hsign, Double.signed, if_neg Bool.false_ne_true]
      omega
  refine ⟨position + (Decimal.ofInt n).toList.length, ?_⟩
  simp only [readAtom, find?_words_ofInt, numeral?_ofInt n hrest, Numeral.value, hread, hsigned,
    Input.advance_append]
  rfl

end Cyclometry.Json
