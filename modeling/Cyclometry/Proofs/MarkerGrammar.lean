import Mathlib.Data.List.TakeWhile
import Cyclometry.LineMap.Marker
import Cyclometry.Text.Split

/-!
# The grammar of marker lines

`Spells line marker` says what a marker line looks like, as a concatenation of its parts: blanks,
`#`, blanks, perhaps the word `line`, a numeral, perhaps a quoted name, flags, blanks and perhaps a
carriage return.  It speaks of no reading order.  `Marker.read?` finds exactly these lines and
exactly these parts (`read?_eq_some_iff`), so a line has at most one way to be taken apart.

The proof follows the line from left to right.  At each joint the next part cannot begin with a
byte that the part in front of it could have taken (`Flags.head?_ne_digit`), which is why reading
as much as possible never goes too far.
-/

namespace Cyclometry.Marker

/-! ## Parts of a line -/

/-- Spaces and tabs, or nothing at all. -/
def Blanks (s : Bytes) : Prop := ∀ b ∈ s, b = 0x20 ∨ b = 0x09

/-- At least one digit, and nothing else. -/
def Numeral (s : Bytes) : Prop := s ≠ [] ∧ ∀ b ∈ s, 0x30 ≤ b ∧ b ≤ 0x39

/-- The digit values of a numeral. -/
def values (s : Bytes) : List Nat := s.map fun b => b.toNat - 0x30

/-- What may stand between quotes: a backslash protects the byte behind it, and a quote has to be
protected. -/
inductive Quotable : Bytes → Prop
  | nil : Quotable []
  | plain {b : UInt8} {rest : Bytes} (quote : b ≠ 0x22) (backslash : b ≠ 0x5c)
      (tail : Quotable rest) : Quotable (b :: rest)
  | escaped (b : UInt8) {rest : Bytes} (tail : Quotable rest) : Quotable (0x5c :: b :: rest)

/-- The end of a line: flags, each behind at least one blank, then blanks and perhaps a carriage
return. -/
inductive Flags : Bytes → List (List Nat) → Prop
  | done {blanks cr : Bytes} (hblanks : Blanks blanks) (hcr : cr = [] ∨ cr = [0x0d]) :
      Flags (blanks ++ cr) []
  | flag {blanks numeral rest : Bytes} {flags : List (List Nat)} (hne : blanks ≠ [])
      (hblanks : Blanks blanks) (hnumeral : Numeral numeral) (tail : Flags rest flags) :
      Flags (blanks ++ (numeral ++ rest)) (values numeral :: flags)

/-- The line behind the line number: perhaps a name, and the flags. -/
inductive Named : Bytes → Option Bytes → List (List Nat) → Prop
  | unnamed {s : Bytes} {flags : List (List Nat)} (tail : Flags s flags) : Named s none flags
  | named {blanks name rest : Bytes} {flags : List (List Nat)} (hne : blanks ≠ [])
      (hblanks : Blanks blanks) (hname : Quotable name) (tail : Flags rest flags) :
      Named (blanks ++ 0x22 :: (name ++ 0x22 :: rest)) (some name) flags

/-- The word `line` with at least one blank behind it, or nothing. -/
inductive Word : Bytes → Prop
  | absent : Word []
  | present {blanks : Bytes} (hne : blanks ≠ []) (hblanks : Blanks blanks) :
      Word (0x6c :: 0x69 :: 0x6e :: 0x65 :: blanks)

/-- The line is a marker line with these parts. -/
inductive Spells : Bytes → Marker → Prop
  | intro {lead gap word numeral rest : Bytes} {name : Option Bytes} {flags : List (List Nat)}
      (hlead : Blanks lead) (hgap : Blanks gap) (hword : Word word) (hnumeral : Numeral numeral)
      (hrest : Named rest name flags) :
      Spells (lead ++ 0x23 :: (gap ++ (word ++ (numeral ++ rest)))) ⟨values numeral, name, flags⟩

/-! ## Reading as much as possible -/

theorem isBlank_iff {b : UInt8} : isBlank b = true ↔ b = 0x20 ∨ b = 0x09 := by
  simp [isBlank]

theorem isDigit_iff {b : UInt8} : isDigit b = true ↔ 0x30 ≤ b ∧ b ≤ 0x39 := by
  simp [isDigit]

theorem blanks_iff {s : Bytes} : Blanks s ↔ ∀ b ∈ s, isBlank b = true := by
  simp only [Blanks, isBlank_iff]

theorem numeral_iff {s : Bytes} : Numeral s ↔ s ≠ [] ∧ ∀ b ∈ s, isDigit b = true := by
  simp only [Numeral, isDigit_iff]

theorem isBlank_of_isDigit {b : UInt8} (h : isDigit b = true) : isBlank b = false := by
  refine Bool.eq_false_iff.mpr fun hblank => ?_
  rcases isBlank_iff.mp hblank with rfl | rfl
  · exact absurd h (by decide)
  · exact absurd h (by decide)

theorem skipBlanks_append {blanks : Bytes} (hblanks : Blanks blanks) (rest : Bytes)
    (hrest : ∀ b ∈ rest.head?, isBlank b = false) :
    (blanks ++ rest).takeWhile isBlank = blanks ∧ skipBlanks (blanks ++ rest) = rest :=
  Text.span_append (blanks_iff.mp hblanks) hrest

theorem exists_blanks (s : Bytes) :
    ∃ blanks, Blanks blanks ∧ s = blanks ++ skipBlanks s ∧ s.takeWhile isBlank = blanks :=
  ⟨_, blanks_iff.mpr fun _ => List.mem_takeWhile_imp, List.takeWhile_append_dropWhile.symm, rfl⟩

theorem Numeral.head? {numeral : Bytes} (h : Numeral numeral) (rest : Bytes) :
    ∃ b tail, numeral ++ rest = b :: tail ∧ isDigit b = true := by
  obtain ⟨hne, hdigits⟩ := numeral_iff.mp h
  cases numeral with
  | nil => exact absurd rfl hne
  | cons b tail => exact ⟨b, tail ++ rest, rfl, hdigits b (List.mem_cons_self ..)⟩

theorem Numeral.head?_not_blank {numeral : Bytes} (h : Numeral numeral) (rest : Bytes) :
    ∀ b ∈ (numeral ++ rest).head?, isBlank b = false := by
  obtain ⟨b, tail, heq, hdigit⟩ := h.head? rest
  rw [heq]
  rintro c ⟨⟩
  exact isBlank_of_isDigit hdigit

theorem filterMap_digit? {s : Bytes} (h : ∀ b ∈ s, isDigit b = true) :
    s.filterMap digit? = values s := by
  induction s with
  | nil => rfl
  | cons b s ih =>
    have hb : digit? b = some (b.toNat - 0x30) := if_pos (h b (List.mem_cons_self ..))
    rw [List.filterMap_cons_some hb, ih fun c hc => h c (List.mem_cons_of_mem b hc)]
    rfl

theorem digits_append {numeral rest : Bytes} (hnumeral : Numeral numeral)
    (hrest : ∀ b ∈ rest.head?, isDigit b = false) :
    digits (numeral ++ rest) = (values numeral, rest) := by
  have hdigits := (numeral_iff.mp hnumeral).2
  obtain ⟨htake, hdrop⟩ := Text.span_append hdigits hrest
  rw [digits, htake, hdrop, filterMap_digit? hdigits]

theorem exists_numeral {s : Bytes} (h : (digits s).1 ≠ []) :
    ∃ numeral, Numeral numeral ∧ s = numeral ++ (digits s).2 ∧ (digits s).1 = values numeral := by
  have hdigits : ∀ b ∈ s.takeWhile isDigit, isDigit b = true := fun _ => List.mem_takeWhile_imp
  refine ⟨s.takeWhile isDigit, numeral_iff.mpr ⟨fun hnil => h ?_, hdigits⟩,
    List.takeWhile_append_dropWhile.symm, filterMap_digit? hdigits⟩
  rw [digits, hnil]
  rfl

theorem values_ne_nil {numeral : Bytes} (h : Numeral numeral) : values numeral ≠ [] :=
  mt List.map_eq_nil_iff.mp h.1

/-! ## The quoted name -/

theorem quoted_of_quotable {name rest : Bytes} (h : Quotable name) :
    quoted (name ++ 0x22 :: rest) = some (name, rest) := by
  induction h with
  | nil => rfl
  | plain quote backslash tail ih =>
    rw [List.cons_append, quoted]
    · rw [ih]
      rfl
    · exact quote
    · exact fun h _ => backslash h
    · exact fun _ _ h _ => backslash h
  | escaped b tail ih =>
    rw [List.cons_append, List.cons_append, quoted, ih]
    rfl

theorem quotable_of_quoted {s name rest : Bytes} (h : quoted s = some (name, rest)) :
    Quotable name ∧ s = name ++ 0x22 :: rest := by
  fun_induction quoted s generalizing name with
  | case1 => cases h
  | case2 tail =>
    obtain ⟨rfl, rfl⟩ := Prod.mk.inj (Option.some.inj h)
    exact ⟨.nil, rfl⟩
  | case3 => cases h
  | case4 b tail ih =>
    obtain ⟨⟨inner, after⟩, hinner, hname⟩ := Option.map_eq_some_iff.mp h
    obtain ⟨rfl, rfl⟩ := Prod.mk.inj hname
    obtain ⟨hquotable, rfl⟩ := ih hinner
    exact ⟨.escaped b hquotable, rfl⟩
  | case5 b tail hquote hlast hescape ih =>
    obtain ⟨⟨inner, after⟩, hinner, hname⟩ := Option.map_eq_some_iff.mp h
    obtain ⟨rfl, rfl⟩ := Prod.mk.inj hname
    obtain ⟨hquotable, rfl⟩ := ih hinner
    -- A backslash here would have a byte behind it, at least the closing quote.
    have hbackslash : b ≠ 0x5c := by
      intro hb
      cases hnext : inner ++ 0x22 :: after with
      | nil => exact hlast hb hnext
      | cons c more => exact hescape c more hb hnext
    exact ⟨.plain hquote hbackslash hquotable, rfl⟩

/-! ## Flags -/

/-- Whatever follows a numeral begins with no digit, because a flag has a blank in front of it. -/
theorem Flags.head?_not_digit {s : Bytes} {flags : List (List Nat)} (h : Flags s flags) :
    ∀ b ∈ s.head?, isDigit b = false := by
  have hblank {b : UInt8} {s : Bytes} (hs : Blanks (b :: s)) : isDigit b = false := by
    rcases hs b (List.mem_cons_self ..) with rfl | rfl
    · decide
    · decide
  cases h with
  | done hblanks hcr =>
    rename_i blanks cr
    cases blanks with
    | nil =>
      rcases hcr with rfl | rfl
      · rintro b ⟨⟩
      · rintro b ⟨⟩
        decide
    | cons c blanks =>
      rintro b ⟨⟩
      exact hblank hblanks
  | flag hne hblanks hnumeral tail =>
    rename_i blanks numeral rest flags
    cases blanks with
    | nil => exact absurd rfl hne
    | cons c blanks =>
      rintro b ⟨⟩
      exact hblank hblanks

theorem flagsOf_of_flags {s : Bytes} {flags : List (List Nat)} (h : Flags s flags) :
    flagsOf s = some flags := by
  induction h with
  | done hblanks hcr =>
    rename_i blanks cr
    have hend : ∀ b ∈ cr.head?, isBlank b = false := by
      rcases hcr with rfl | rfl
      · rintro b ⟨⟩
      · rintro b ⟨⟩
        decide
    rw [flagsOf, (skipBlanks_append hblanks cr hend).2, if_pos]
    rcases hcr with rfl | rfl
    · rfl
    · rfl
  | flag hne hblanks hnumeral tail ih =>
    rename_i blanks numeral rest flags
    have hskip := (skipBlanks_append hblanks _ (hnumeral.head?_not_blank rest)).2
    have hdigits := digits_append hnumeral tail.head?_not_digit
    obtain ⟨b, more, heq, hdigit⟩ := hnumeral.head? rest
    have hend : ¬ atEnd (numeral ++ rest) = true := by
      rw [heq]
      intro h
      rcases Bool.or_eq_true_iff.mp h with h | h
      · cases beq_iff_eq.mp h
      · obtain ⟨rfl, -⟩ := List.cons.inj (beq_iff_eq.mp h)
        exact absurd hdigit (by decide)
    have hlength : (numeral ++ rest).length < (blanks ++ (numeral ++ rest)).length := by
      have hpos := List.length_pos_iff.mpr hne
      simp only [List.length_append]
      omega
    rw [flagsOf, hskip, if_neg hend, hdigits, if_pos ⟨hlength, values_ne_nil hnumeral⟩, ih]
    rfl

theorem flags_of_flagsOf {s : Bytes} {flags : List (List Nat)} (h : flagsOf s = some flags) :
    Flags s flags := by
  fun_induction flagsOf s generalizing flags with
  | case1 s hend =>
    obtain rfl := Option.some.inj h
    obtain ⟨blanks, hblanks, hs, -⟩ := exists_blanks s
    rw [hs]
    refine .done hblanks ?_
    simpa [atEnd] using hend
  | case2 s hend hflag ih =>
    obtain ⟨flags', hflags, rfl⟩ := Option.map_eq_some_iff.mp h
    obtain ⟨blanks, hblanks, hs, -⟩ := exists_blanks s
    obtain ⟨numeral, hnumeral, hnext, hvalues⟩ := exists_numeral hflag.2
    have hne : blanks ≠ [] := by
      rintro rfl
      rw [List.nil_append] at hs
      rw [← hs] at hflag
      exact Nat.lt_irrefl _ hflag.1
    rw [hvalues, hs, hnext]
    exact .flag hne hblanks hnumeral (ih hflags)
  | case3 s hend hflag => cases h

/-! ## The name, the word and the whole line -/

/-- A line that goes on with flags has no quote behind its blanks. -/
theorem Flags.nameOf {s : Bytes} {flags : List (List Nat)} (h : Flags s flags) :
    nameOf s = some (none, s) := by
  have hquote : ∀ rest, skipBlanks s ≠ 0x22 :: rest := by
    intro rest hskip
    cases h with
    | done hblanks hcr =>
      rename_i blanks cr
      rcases hcr with rfl | rfl
      · rw [(skipBlanks_append hblanks [] (by rintro b ⟨⟩)).2] at hskip
        cases hskip
      · rw [(skipBlanks_append hblanks [0x0d] (by rintro b ⟨⟩; decide)).2] at hskip
        exact absurd (List.cons.inj hskip).1 (by decide)
    | flag hne hblanks hnumeral tail =>
      rename_i blanks numeral after flags
      obtain ⟨b, more, heq, hdigit⟩ := hnumeral.head? after
      rw [(skipBlanks_append hblanks _ (hnumeral.head?_not_blank after)).2, heq] at hskip
      obtain ⟨rfl, -⟩ := List.cons.inj hskip
      exact absurd hdigit (by decide)
  rw [Marker.nameOf]
  split
  · rename_i hskip
    exact absurd hskip (hquote _)
  · rfl

theorem nameOf_of_named {s : Bytes} {name : Option Bytes} {flags : List (List Nat)}
    (h : Named s name flags) :
    ∃ rest, nameOf s = some (name, rest) ∧ flagsOf rest = some flags := by
  cases h with
  | unnamed tail => exact ⟨s, tail.nameOf, flagsOf_of_flags tail⟩
  | named hne hblanks hname tail =>
    rename_i blanks name rest
    obtain ⟨htake, hskip⟩ := skipBlanks_append hblanks
      (0x22 :: (name ++ 0x22 :: rest)) (by rintro b ⟨⟩; decide)
    refine ⟨rest, ?_, flagsOf_of_flags tail⟩
    obtain ⟨b, more, rfl⟩ := List.exists_cons_of_ne_nil hne
    rw [nameOf, htake, hskip]
    simp only [quoted_of_quotable hname, Option.map_some]

theorem named_of_nameOf {s rest : Bytes} {name : Option Bytes} {flags : List (List Nat)}
    (hname : nameOf s = some (name, rest)) (hflags : flagsOf rest = some flags) :
    Named s name flags := by
  obtain ⟨blanks, hblanks, hs, htake⟩ := exists_blanks s
  rw [nameOf] at hname
  split at hname
  · rename_i b more after hmore hskip
    obtain ⟨⟨inner, behind⟩, hquoted, hpair⟩ := Option.map_eq_some_iff.mp hname
    obtain ⟨rfl, rfl⟩ := Prod.mk.inj hpair
    obtain ⟨hquotable, rfl⟩ := quotable_of_quoted hquoted
    rw [hs, hskip]
    refine .named ?_ hblanks hquotable (flags_of_flagsOf hflags)
    rw [← htake, hmore]
    exact List.cons_ne_nil b more
  · obtain ⟨rfl, rfl⟩ := Prod.mk.inj (Option.some.inj hname)
    exact .unnamed (flags_of_flagsOf hflags)

theorem Named.head?_not_digit {s : Bytes} {name : Option Bytes} {flags : List (List Nat)}
    (h : Named s name flags) : ∀ b ∈ s.head?, isDigit b = false := by
  cases h with
  | unnamed tail => exact tail.head?_not_digit
  | named hne hblanks hname tail =>
    rename_i blanks name rest
    obtain ⟨c, more, rfl⟩ := List.exists_cons_of_ne_nil hne
    rintro b ⟨⟩
    rcases hblanks c (List.mem_cons_self ..) with rfl | rfl
    · decide
    · decide

theorem dropWord_of_word {word numeral rest : Bytes} (hword : Word word)
    (hnumeral : Numeral numeral) :
    dropWord (word ++ (numeral ++ rest)) = some (numeral ++ rest) := by
  cases hword with
  | absent =>
    -- A digit is not the first letter of the word.
    obtain ⟨b, more, heq, hdigit⟩ := hnumeral.head? rest
    rw [List.nil_append, heq, dropWord]
    rintro after ⟨rfl, -⟩
    exact absurd hdigit (by decide)
  | present hne hblanks =>
    rename_i blanks
    obtain ⟨htake, hskip⟩ := skipBlanks_append hblanks _ (hnumeral.head?_not_blank rest)
    rw [List.cons_append, List.cons_append, List.cons_append, List.cons_append, dropWord, htake,
      hskip, if_neg (by simpa using hne)]

theorem word_of_dropWord {s rest : Bytes} (h : dropWord s = some rest) :
    ∃ word, Word word ∧ s = word ++ rest := by
  unfold dropWord at h
  split at h
  · rename_i after
    obtain ⟨blanks, hblanks, hs, htake⟩ := exists_blanks after
    rw [htake] at h
    split at h
    · cases h
    · rename_i hne
      obtain rfl := Option.some.inj h
      refine ⟨_, .present (by simpa using hne) hblanks, ?_⟩
      rw [List.cons_append, List.cons_append, List.cons_append, List.cons_append, ← hs]
  · obtain rfl := Option.some.inj h
    exact ⟨[], .absent, rfl⟩

/-- **The reader knows the grammar.**  It finds the parts of exactly those lines that the grammar
makes out of them. -/
theorem read?_eq_some_iff {line : Bytes} {marker : Marker} :
    read? line = some marker ↔ Spells line marker := by
  constructor
  · intro h
    obtain ⟨lead, hlead, hline, -⟩ := exists_blanks line
    rw [read?] at h
    split at h
    · rename_i rest hsign
      obtain ⟨gap, hgap, hrest, -⟩ := exists_blanks rest
      obtain ⟨behind, hdrop, h⟩ := Option.bind_eq_some_iff.mp h
      obtain ⟨word, hword, hskip⟩ := word_of_dropWord hdrop
      simp only at h
      split at h
      · cases h
      · rename_i hnumber
        obtain ⟨numeral, hnumeral, hbehind, hvalues⟩ := exists_numeral (s := behind)
          (by simpa using hnumber)
        obtain ⟨⟨name, after⟩, hname, h⟩ := Option.bind_eq_some_iff.mp h
        obtain ⟨flags, hflags, h⟩ := Option.bind_eq_some_iff.mp h
        obtain rfl := Option.some.inj h
        rw [hvalues, hline, hsign, hrest, hskip, hbehind]
        exact .intro hlead hgap hword hnumeral (named_of_nameOf hname hflags)
    · cases h
  · rintro ⟨hlead, hgap, hword, hnumeral, hrest⟩
    rename_i lead gap word numeral rest name flags
    have hsign := (skipBlanks_append hlead
      (0x23 :: (gap ++ (word ++ (numeral ++ rest)))) (by rintro b ⟨⟩; decide)).2
    have hgap' : ∀ b ∈ (word ++ (numeral ++ rest)).head?, isBlank b = false := by
      cases hword with
      | absent => exact hnumeral.head?_not_blank rest
      | present hne hblanks =>
        rintro b ⟨⟩
        decide
    obtain ⟨after, hname, hflags⟩ := nameOf_of_named hrest
    rw [read?, hsign]
    simp only
    rw [(skipBlanks_append hgap _ hgap').2, dropWord_of_word hword hnumeral]
    simp only [Option.bind_eq_bind, Option.bind_some, digits_append hnumeral hrest.head?_not_digit,
      hname, hflags]
    rw [if_neg (by simpa using values_ne_nil hnumeral)]

/-- **There is one way at most** to take a line apart. -/
theorem Spells.unique {line : Bytes} {a b : Marker} (ha : Spells line a) (hb : Spells line b) :
    a = b := by
  rw [← read?_eq_some_iff] at ha hb
  exact Option.some.inj (ha.symm.trans hb)

end Cyclometry.Marker
