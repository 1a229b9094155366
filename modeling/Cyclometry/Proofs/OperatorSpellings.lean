import Mathlib.Data.List.Chain
import Mathlib.Data.List.Infix
import Cyclometry.Proofs.FunctionNames

/-!
# Spellings of operator names

One operator can be spelled with different blanks, and its name has one form for several spellings.
All that the form takes from a spelling is the words of what follows `operator`: it keeps them apart
if they begin with a letter or a low line, and runs them together if they begin with a symbol.
Either way a name is itself a text of words with single spaces between them (`operatorName_eq`), and
what is known of such texts says the rest: they have no other blanks, the words are read back from
them (`words_unwords`), and they hold the characters of their words and no others (`ink_unwords`).
-/

namespace Cyclometry

namespace Text

/-- The characters of a text that are not blank. -/
def ink (s : List Char) : List Char := s.filter fun c => !isBlank c

/-- A text without blanks that is not empty. -/
structure IsWord (w : List Char) : Prop where
  ne_nil : w ≠ []
  not_isBlank : ∀ c ∈ w, isBlank c = false

theorem ink_eq_self {s : List Char} (h : ∀ c ∈ s, isBlank c = false) : ink s = s :=
  List.filter_eq_self.mpr fun c hc => by rw [h c hc, Bool.not_false]

theorem not_isBlank_of_mem_ink {s : List Char} {c : Char} (h : c ∈ ink s) : isBlank c = false := by
  simpa using (List.mem_filter.mp h).2

/-! ## The words of a text -/

/-- The reading of words splits at blanks: it holds back the first part and leaves out the empty
ones behind it. -/
theorem splitOnP_eq_wordSplit (s : List Char) :
    ∃ parts, s.splitOnP isBlank = (wordSplit s).1 :: parts ∧
      (wordSplit s).2 = parts.filter fun w => !w.isEmpty := by
  induction s with
  | nil => exact ⟨[], rfl, rfl⟩
  | cons c s ih =>
    obtain ⟨parts, hparts, hwords⟩ := ih
    rw [List.splitOnP_cons_eq_if_modifyHead, hparts, wordSplit]
    simp only
    split
    · refine ⟨(wordSplit s).1 :: parts, rfl, ?_⟩
      rw [List.filter_cons, hwords]
      simp only [consWord]
      cases (wordSplit s).1.isEmpty <;> rfl
    · exact ⟨parts, rfl, hwords⟩

/-- The words are the parts between blanks, without the empty ones. -/
theorem words_eq_splitOnP (s : List Char) :
    words s = (s.splitOnP isBlank).filter fun w => !w.isEmpty := by
  obtain ⟨parts, hparts, hwords⟩ := splitOnP_eq_wordSplit s
  rw [hparts, List.filter_cons, words]
  simp only [consWord, hwords]
  cases (wordSplit s).1.isEmpty <;> rfl

theorem isWord_words (s : List Char) : ∀ w ∈ words s, IsWord w := by
  intro w h
  refine ⟨?_, not_isBlank_of_mem_words h⟩
  rintro rfl
  rw [words_eq_splitOnP] at h
  simpa using (List.mem_filter.mp h).2

/-- A space divides the words of a text. -/
theorem words_append_space (s t : List Char) : words (s ++ ' ' :: t) = words s ++ words t := by
  rw [words_eq_splitOnP, List.splitOnP_append_cons s t (by decide), List.filter_append,
    ← words_eq_splitOnP, ← words_eq_splitOnP]

theorem words_of_isWord {w : List Char} (hw : IsWord w) : words w = [w] := by
  rw [words_eq_splitOnP, List.splitOnP_eq_singleton hw.not_isBlank, List.filter_cons,
    if_pos (by simpa using hw.ne_nil), List.filter_nil]

theorem unwords_cons {w : List Char} {ws : List (List Char)} (h : ws ≠ []) :
    unwords (w :: ws) = w ++ ' ' :: unwords ws := unwords.eq_3 w ws h

/-- Words are read back from the text that they are written as. -/
theorem words_unwords {ws : List (List Char)} (h : ∀ w ∈ ws, IsWord w) :
    words (unwords ws) = ws := by
  fun_induction unwords ws with
  | case1 => rfl
  | case2 w => exact words_of_isWord (h w (List.mem_cons_self ..))
  | case3 w rest hne ih =>
    rw [words_append_space, words_of_isWord (h w (List.mem_cons_self ..)),
      ih fun v hv => h v (List.mem_cons_of_mem w hv), List.singleton_append]

/-- The words hold the characters that are not blank, in their order. -/
theorem flatten_words (s : List Char) : (words s).flatten = ink s := by
  rw [words_eq_splitOnP, List.flatten_filter_not_isEmpty]
  induction s with
  | nil => rfl
  | cons c s ih =>
    obtain ⟨part, parts, hparts⟩ := List.exists_cons_of_ne_nil (List.splitOnP_ne_nil isBlank s)
    rw [hparts] at ih
    rw [List.splitOnP_cons_eq_if_modifyHead, hparts, List.modifyHead_cons]
    cases hc : isBlank c with
    | true => simpa [ink, hc] using ih
    | false => simpa [ink, hc] using ih

/-- A text of words has no other characters than theirs, up to the spaces. -/
theorem ink_unwords {ws : List (List Char)} (h : ∀ w ∈ ws, IsWord w) :
    ink (unwords ws) = ws.flatten := by
  rw [← flatten_words, words_unwords h]

/-! ## Blanks in a text of words -/

/-- Neighbours in the text are not both spaces. -/
def SpacedOnce (s : List Char) : Prop := s.IsChain fun c d => ¬ (c = ' ' ∧ d = ' ')

theorem ne_space_of_not_isBlank {c : Char} (h : isBlank c = false) : c ≠ ' ' := by
  rintro rfl
  exact absurd h (by decide)

/-- In a text whose only blanks are spaces, taking out the spaces leaves what is not blank. -/
theorem filter_ne_space {s : List Char} (h : Spaced s) : s.filter (· != ' ') = ink s := by
  refine List.filter_congr fun c hc => ?_
  cases hblank : isBlank c with
  | true =>
    rw [h c hc hblank]
    rfl
  | false => simpa using ne_space_of_not_isBlank hblank

theorem IsWord.spacedOnce {w : List Char} (hw : IsWord w) : SpacedOnce w := by
  refine List.Pairwise.isChain (List.pairwise_of_forall_mem_list fun c hc d _ h => ?_)
  exact ne_space_of_not_isBlank (hw.not_isBlank c hc) h.1

theorem head?_unwords {ws : List (List Char)} (h : ∀ w ∈ ws, IsWord w) :
    (unwords ws).head? = ws.flatten.head? := by
  fun_induction unwords ws with
  | case1 => rfl
  | case2 w => simp
  | case3 w rest hne ih =>
    obtain ⟨c, w, rfl⟩ := List.exists_cons_of_ne_nil (h w (List.mem_cons_self ..)).ne_nil
    rfl

theorem getLast?_unwords {ws : List (List Char)} (h : ∀ w ∈ ws, IsWord w) :
    (unwords ws).getLast? = ws.flatten.getLast? := by
  fun_induction unwords ws with
  | case1 => rfl
  | case2 w => simp
  | case3 w rest hne ih =>
    obtain ⟨v, more, rfl⟩ := List.exists_cons_of_ne_nil hne
    have hflat : (v :: more).flatten ≠ [] := by simp [(h v (by simp)).ne_nil]
    rw [List.flatten_cons, List.getLast?_append, List.getLast?_append, List.getLast?_cons,
      ih fun u hu => h u (List.mem_cons_of_mem w hu), List.getLast?_eq_some_getLast hflat]
    rfl

/-- A character of some words is not blank. -/
theorem not_isBlank_of_mem_flatten {ws : List (List Char)} (h : ∀ w ∈ ws, IsWord w) {c : Char}
    (hc : c ∈ ws.flatten) : isBlank c = false := by
  obtain ⟨w, hw, hc⟩ := List.mem_flatten.mp hc
  exact (h w hw).not_isBlank c hc

theorem spacedOnce_unwords {ws : List (List Char)} (h : ∀ w ∈ ws, IsWord w) :
    SpacedOnce (unwords ws) := by
  fun_induction unwords ws with
  | case1 => exact List.isChain_nil
  | case2 w => exact (h w (List.mem_cons_self ..)).spacedOnce
  | case3 w rest hne ih =>
    have hw := h w (List.mem_cons_self ..)
    have hrest : ∀ v ∈ rest, IsWord v := fun v hv => h v (List.mem_cons_of_mem w hv)
    -- The space stands between the end of a word and the beginning of another one.
    refine List.isChain_append.mpr ⟨hw.spacedOnce, List.isChain_cons.mpr ⟨?_, ih hrest⟩, ?_⟩
    · intro c hc heq
      rw [head?_unwords hrest] at hc
      have hblank := not_isBlank_of_mem_flatten hrest (List.mem_of_mem_head? hc)
      exact ne_space_of_not_isBlank hblank heq.2
    · intro c hc d hd heq
      exact ne_space_of_not_isBlank (hw.not_isBlank c (List.mem_of_getLast? hc)) heq.1

end Text

/-! ## The form of a name -/

namespace Grammar

open Text (words unwords ink isBlank IsWord)

/-- The words of the name, for the words that follow `operator`. -/
def nameWords (ws : List (List Char)) : List (List Char) :=
  if isWordy ws.flatten then operatorWord :: ws else [operatorWord ++ ws.flatten]

theorem isWord_operatorWord : IsWord operatorWord := by
  have hall : operatorWord.all (fun c => !isBlank c) = true := by decide
  refine ⟨by decide, fun c hc => ?_⟩
  simpa using List.all_eq_true.mp hall c hc

theorem isWord_nameWords {ws : List (List Char)} (h : ∀ w ∈ ws, IsWord w) :
    ∀ w ∈ nameWords ws, IsWord w := by
  intro w hw
  rw [nameWords] at hw
  split at hw
  · rcases List.mem_cons.mp hw with rfl | hw
    · exact isWord_operatorWord
    · exact h w hw
  · obtain rfl := List.mem_singleton.mp hw
    refine ⟨List.append_ne_nil_of_left_ne_nil isWord_operatorWord.ne_nil _, fun c hc => ?_⟩
    rcases List.mem_append.mp hc with hc | hc
    · exact isWord_operatorWord.not_isBlank c hc
    · exact Text.not_isBlank_of_mem_flatten h hc

theorem flatten_nameWords (ws : List (List Char)) :
    (nameWords ws).flatten = operatorWord ++ ws.flatten := by
  rw [nameWords]
  split
  · rw [List.flatten_cons]
  · rw [List.flatten_singleton]

theorem isWordy_congr {s t : List Char} (h : s.head? = t.head?) : isWordy s = isWordy t := by
  cases s <;> cases t <;> simp_all [isWordy]

/-- The two forms: the words of the spelling behind a space, or all of them as one. -/
theorem operatorName_cases (r : List Char) :
    (isWordy (ink r) = true ∧
      operatorName (operatorWord ++ r) = operatorWord ++ ' ' :: unwords (words r)) ∨
    (isWordy (ink r) = false ∧ operatorName (operatorWord ++ r) = operatorWord ++ ink r) := by
  have hws := Text.isWord_words r
  have hink : ink (Text.squeeze r) = ink r := by
    rw [Text.squeeze, Text.ink_unwords hws, Text.flatten_words]
  have hwordy : isWordy (Text.squeeze r) = isWordy (ink r) := by
    rw [← Text.flatten_words]
    exact isWordy_congr (Text.head?_unwords hws)
  have hname : operatorName (operatorWord ++ r) =
      if isWordy (ink r) then operatorWord ++ ' ' :: unwords (words r)
      else operatorWord ++ ink r := by
    rw [operatorName, List.drop_left, hwordy, Text.filter_ne_space (Text.spaced_squeeze r), hink,
      Text.squeeze]
  cases h : isWordy (ink r) with
  | true => exact .inl ⟨rfl, by rw [hname, h, if_pos rfl]⟩
  | false => exact .inr ⟨rfl, by rw [hname, h]; rfl⟩

/-- The form behind a symbol: blanks play no part in it. -/
theorem operatorName_of_symbol {r : List Char}
    (h : ∀ c ∈ r.find? (fun c => !isBlank c), Text.isLetter c = false ∧ c ≠ '_') :
    operatorName (operatorWord ++ r) = operatorWord ++ ink r := by
  rcases operatorName_cases r with ⟨hwordy, -⟩ | ⟨-, hname⟩
  · rw [← List.head?_filter, ← ink] at h
    cases hink : ink r with
    | nil =>
      rw [hink] at hwordy
      cases hwordy
    | cons c rest =>
      obtain ⟨hletter, hline⟩ := h c (by rw [hink]; rfl)
      rw [hink] at hwordy
      simp [isWordy, hletter, hline] at hwordy
  · exact hname

/-- **A name is a text of words**, `operator` and those behind it, or one word of all of them. -/
theorem operatorName_eq (r : List Char) :
    operatorName (operatorWord ++ r) = unwords (nameWords (words r)) := by
  rcases operatorName_cases r with ⟨hwordy, hname⟩ | ⟨hwordy, hname⟩
  · have hne : words r ≠ [] := by
      intro hnil
      rw [← Text.flatten_words, hnil] at hwordy
      cases hwordy
    rw [hname, nameWords, Text.flatten_words, if_pos hwordy, Text.unwords_cons hne]
  · rw [hname, nameWords, Text.flatten_words, hwordy]
    rfl

/-- A name is its own form: what follows `operator` in it is read the same way again. -/
theorem operatorName_operatorName (r : List Char) :
    operatorName (operatorName (operatorWord ++ r)) = operatorName (operatorWord ++ r) := by
  rcases operatorName_cases r with ⟨-, hname⟩ | ⟨hwordy, hname⟩
  · have hwords : words (' ' :: unwords (words r)) = words r :=
      (Text.words_append_space [] _).trans (Text.words_unwords (Text.isWord_words r))
    rw [hname, operatorName_eq, hwords, ← operatorName_eq, hname]
  · have hink : ink (ink r) = ink r := Text.ink_eq_self fun c hc => Text.not_isBlank_of_mem_ink hc
    rw [hname, operatorName_eq, nameWords, Text.flatten_words, hink, hwordy]
    rfl

theorem ink_operatorName (r : List Char) :
    ink (operatorName (operatorWord ++ r)) = operatorWord ++ ink r := by
  rw [operatorName_eq, Text.ink_unwords (isWord_nameWords (Text.isWord_words r)),
    flatten_nameWords, Text.flatten_words]

/-- **One name for several spellings.**  A name is its own form.  It depends on nothing but the
parts between blanks that follow `operator`, holds their characters in order and no others, and has
no blanks but single spaces inside.  Spellings of a symbol that differ in blanks only have one name,
and no name belongs to two spellings that differ in anything else. -/
theorem operatorName_spellings (r : List Char) :
    operatorName (operatorName (operatorWord ++ r)) = operatorName (operatorWord ++ r) ∧
    (∀ r' : List Char,
      (r'.splitOnP isBlank).filter (fun w => !w.isEmpty) =
        (r.splitOnP isBlank).filter (fun w => !w.isEmpty) →
      operatorName (operatorWord ++ r') = operatorName (operatorWord ++ r)) ∧
    (operatorName (operatorWord ++ r)).filter (fun c => !isBlank c) =
      operatorWord ++ r.filter (fun c => !isBlank c) ∧
    ((∀ c ∈ operatorName (operatorWord ++ r), isBlank c = true → c = ' ') ∧
      ¬ [' ', ' '] <:+: operatorName (operatorWord ++ r) ∧
      ∀ c ∈ (operatorName (operatorWord ++ r)).getLast?, isBlank c = false) ∧
    ((∀ c ∈ r.find? (fun c => !isBlank c), Text.isLetter c = false ∧ c ≠ '_') →
      ∀ r' : List Char,
        r'.filter (fun c => !isBlank c) = r.filter (fun c => !isBlank c) →
        operatorName (operatorWord ++ r') = operatorName (operatorWord ++ r)) ∧
    ∀ r' : List Char,
      r'.filter (fun c => !isBlank c) ≠ r.filter (fun c => !isBlank c) →
      operatorName (operatorWord ++ r') ≠ operatorName (operatorWord ++ r) := by
  have hws : ∀ w ∈ nameWords (words r), IsWord w :=
    isWord_nameWords (Text.isWord_words r)
  refine ⟨operatorName_operatorName r, fun r' h => ?_, ink_operatorName r,
    ⟨spaced_operatorName _, ?_, ?_⟩, fun hsymbol r' h => ?_, fun r' h heq => ?_⟩
  · rw [operatorName_eq, operatorName_eq, Text.words_eq_splitOnP, Text.words_eq_splitOnP, h]
  · intro hdouble
    rw [operatorName_eq] at hdouble
    have hpair := List.IsChain.infix (Text.spacedOnce_unwords hws) hdouble
    exact List.isChain_pair.mp hpair ⟨rfl, rfl⟩
  · rw [operatorName_eq, Text.getLast?_unwords hws]
    exact fun c hc => Text.not_isBlank_of_mem_flatten hws (List.mem_of_getLast? hc)
  · have hfirst : r'.find? (fun c => !isBlank c) = r.find? fun c => !isBlank c := by
      rw [← List.head?_filter, ← List.head?_filter, h]
    have hink : ink r' = ink r := h
    rw [operatorName_of_symbol (hfirst ▸ hsymbol), operatorName_of_symbol hsymbol, hink]
  · have hink := congrArg ink heq
    rw [ink_operatorName, ink_operatorName, List.append_cancel_left_eq] at hink
    exact h hink

/-- A comparison spelled with different blanks, and another operator. -/
theorem operatorName_spellings_comparison :
    let spelled (r : String) := operatorName (operatorWord ++ r.toList)
    (∀ c ∈ " <\u2003=\t> ".toList.find? (fun c => !isBlank c),
      Text.isLetter c = false ∧ c ≠ '_') ∧
    spelled "<=>" = spelled " <\u2003=\t> " ∧ spelled "\n<  = >" = spelled " <\u2003=\t> " ∧
    spelled "<=" ≠ spelled " <\u2003=\t> " := by
  intro spelled
  obtain ⟨-, hwords, -, -, hsymbol, hother⟩ := operatorName_spellings " <\u2003=\t> ".toList
  have hfirst : ∀ c ∈ " <\u2003=\t> ".toList.find? (fun c => !isBlank c),
      Text.isLetter c = false ∧ c ≠ '_' := by
    intro c hc
    obtain rfl : '<' = c := Option.some.inj hc
    exact ⟨by decide +kernel, by decide⟩
  exact ⟨hfirst, hsymbol hfirst _ (by decide), hwords _ (by decide), hother _ (by decide)⟩

end Grammar
end Cyclometry
