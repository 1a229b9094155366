import Cyclometry.Proofs.RecordedFunctions

/-!
# Names of functions stand on one line

A name is read off a piece of source text, which may run over several lines and hold any character.
Every way to make a name out of it goes through the words of the text, so a name has no blanks but
single spaces (`Spaced`), and line breaks are blanks.  This holds for each branch of
`Node.ownName?` and so for all that a declarator leads to (`spaced_declaredName?`), for every
declaration of a grammar tree (`Source.spaced_declared?`) and, because a walk records nothing but
names of declarations, for every name of a tally (`Walker.tally_walk_spaced`).
-/

namespace Cyclometry

namespace Text

/-- The characters that end a line. -/
def lineBreaks : List Char :=
  ['\n', '\x0b', '\x0c', '\r', '\x1c', '\x1d', '\x1e', '\u0085', '\u2028', '\u2029']

/-- The only blanks are spaces. -/
def Spaced (s : List Char) : Prop := ∀ c ∈ s, isBlank c = true → c = ' '

theorem isBlank_of_mem_lineBreaks : ∀ c ∈ lineBreaks, isBlank c = true ∧ c ≠ ' ' := by
  have hall : lineBreaks.all (fun c => isBlank c && c != ' ') = true := by decide
  intro c hc
  simpa using List.all_eq_true.mp hall c hc

theorem spaced_of_all {s : List Char} (h : s.all (fun c => !isBlank c || c == ' ') = true) :
    Spaced s := by
  intro c hc hblank
  have hc := List.all_eq_true.mp h c hc
  simpa [hblank] using hc

theorem Spaced.not_lineBreak {s : List Char} (h : Spaced s) {c : Char} (hc : c ∈ s) :
    c ∉ lineBreaks := by
  intro hbreak
  obtain ⟨hblank, hspace⟩ := isBlank_of_mem_lineBreaks c hbreak
  exact hspace (h c hc hblank)

theorem Spaced.append {s t : List Char} (hs : Spaced s) (ht : Spaced t) : Spaced (s ++ t) := by
  intro c hc
  rcases List.mem_append.mp hc with hc | hc
  · exact hs c hc
  · exact ht c hc

theorem Spaced.cons_space {s : List Char} (h : Spaced s) : Spaced (' ' :: s) := by
  intro c hc hblank
  rcases List.mem_cons.mp hc with rfl | hc
  · rfl
  · exact h c hc hblank

theorem Spaced.filter {s : List Char} (h : Spaced s) (p : Char → Bool) : Spaced (s.filter p) :=
  fun c hc => h c (List.mem_filter.mp hc).1

/-! ## Words -/

theorem mem_consWord {word w : List Char} {ws : List (List Char)} (h : w ∈ consWord word ws) :
    w = word ∨ w ∈ ws := by
  rw [consWord] at h
  split at h
  · exact .inr h
  · exact List.mem_cons.mp h

/-- Neither the beginning of a text up to its first blank nor any word behind it has a blank. -/
theorem not_isBlank_of_wordSplit (s : List Char) :
    (∀ c ∈ (wordSplit s).1, isBlank c = false) ∧
      ∀ w ∈ (wordSplit s).2, ∀ c ∈ w, isBlank c = false := by
  induction s with
  | nil => exact ⟨fun c hc => absurd hc List.not_mem_nil, fun w hw => absurd hw List.not_mem_nil⟩
  | cons c s ih =>
    obtain ⟨hword, hwords⟩ := ih
    rw [wordSplit]
    simp only
    split
    · refine ⟨fun c hc => absurd hc List.not_mem_nil, fun w hw => ?_⟩
      rcases mem_consWord hw with rfl | hw
      · exact hword
      · exact hwords w hw
    · rename_i hblank
      refine ⟨fun d hd => ?_, hwords⟩
      rcases List.mem_cons.mp hd with rfl | hd
      · exact Bool.eq_false_iff.mpr hblank
      · exact hword d hd

theorem not_isBlank_of_mem_words {s w : List Char} (h : w ∈ words s) :
    ∀ c ∈ w, isBlank c = false := by
  obtain ⟨hword, hwords⟩ := not_isBlank_of_wordSplit s
  rw [words] at h
  rcases mem_consWord h with rfl | h
  · exact hword
  · exact hwords w h

theorem spaced_unwords {ws : List (List Char)} (h : ∀ w ∈ ws, ∀ c ∈ w, isBlank c = false) :
    Spaced (unwords ws) := by
  have hword {w : List Char} (hw : ∀ c ∈ w, isBlank c = false) : Spaced w := by
    intro c hc hblank
    rw [hw c hc] at hblank
    cases hblank
  fun_induction unwords ws with
  | case1 => exact fun c hc => absurd hc List.not_mem_nil
  | case2 w => exact hword (h w (List.mem_cons_self ..))
  | case3 w rest hne ih =>
    exact (hword (h w (List.mem_cons_self ..))).append
      (ih fun w hw => h w (List.mem_cons_of_mem _ hw)).cons_space

theorem spaced_squeeze (s : List Char) : Spaced (squeeze s) :=
  spaced_unwords fun _ hw => not_isBlank_of_mem_words hw

end Text

/-! ## Names in a grammar tree -/

namespace Grammar

open Text (Spaced)

theorem spaced_operatorName (s : List Char) : Spaced (operatorName s) := by
  have hword : Spaced operatorWord := Text.spaced_of_all (by decide)
  have hrest := Text.spaced_squeeze (s.drop operatorWord.length)
  rw [operatorName]
  split
  · exact hword.append hrest.cons_space
  · exact hword.append (hrest.filter _)

theorem Node.spaced_ownName? {source : Bytes} {n : Node} {name : String}
    (h : n.ownName? source = some name) : Spaced name.toList := by
  rw [ownName?] at h
  split at h
  · obtain rfl := Option.some.inj h
    rw [String.toList_ofList]
    exact spaced_operatorName _
  · split at h
    · obtain rfl := Option.some.inj h
      rw [String.toList_ofList]
      exact spaced_operatorName _
    · split at h
      · obtain rfl := Option.some.inj h
        rw [String.toList_ofList]
        exact Text.spaced_squeeze _
      · cases h

/-- Whatever wraps or qualifies it, the name is one that a node itself spells. -/
theorem Node.spaced_declaredName? {source : Bytes} {n : Node} {name : String}
    (h : n.declaredName? source = some name) : Spaced name.toList := by
  fun_induction declaredName? source n with
  | case1 n hinner m hm ih => exact ih h
  | case2 n hinner hnone => cases h
  | case3 n hinner => exact spaced_ownName? h

theorem Source.spaced_declared? {s : Source} {n : Node} {d : Declaration Nat}
    (h : s.declared? n = some d) : Spaced d.name.toList := by
  rcases s.declared?_cases h with ⟨-, rfl⟩ | ⟨-, declarator, name, -, hname, rfl⟩ |
    ⟨-, declarator, name, -, -, hname, rfl⟩
  · change Spaced lambdaName.toList
    exact Text.spaced_of_all (by decide)
  · exact Node.spaced_declaredName? hname
  · exact Node.spaced_declaredName? hname

theorem Source.spaced_of_mem_declarations {s : Source} {root : Node}
    {f : Declaration Cyclometry.Node} (h : f ∈ (s.node root).declarations) :
    Spaced f.name.toList := by
  obtain ⟨m, hm, hf⟩ := List.mem_filterMap.mp h
  rw [preorder_node] at hm
  obtain ⟨n, -, rfl⟩ := List.mem_map.mp hm
  rw [declared_node] at hf
  obtain ⟨d, hd, rfl⟩ := Option.map_eq_some_iff.mp hf
  exact spaced_declared? hd

end Grammar

/-! ## Names in a tally -/

namespace Walk

theorem tally_remark (remarkId : Nat) (s : State) (r : FunctionResult) :
    (s.remark remarkId r).1.tally = s.tally := by
  rw [State.remark]
  split
  · rfl
  · split
    · rfl
    · split
      · rfl
      · rfl

variable (policy : Policy) (remarkId : Nat)

/-- A visit leaves the tally alone or records the name of its declaration. -/
theorem tally_visit (f : Declaration Node) (s : State) :
    (visit policy remarkId f s).1.tally = s.tally ∨
      ∃ complexity, (visit policy remarkId f s).1.tally = s.tally.record f.name complexity := by
  rcases visit_cases policy remarkId f s with ⟨-, hv⟩ | ⟨-, e, hv⟩ | ⟨l, -, -, hv⟩ |
    ⟨l, -, -, -, hv⟩ | ⟨l, body, -, -, -, hv⟩
  · exact .inl (by rw [hv])
  · exact .inl (by rw [hv]; rfl)
  · exact .inl (by rw [hv]; rfl)
  · exact .inl (by rw [hv]; rfl)
  · exact .inr ⟨_, by rw [hv, tally_remark]; rfl⟩

/-- What is true of the names in a tally and of the names of some declarations is true of the names
in the tally after visiting them, however far the visits come. -/
theorem tally_visitAll {p : String → Prop} {fs : List (Declaration Node)}
    (hfs : ∀ f ∈ fs, p f.name) {s : State} (hs : ∀ entry ∈ s.tally.entries, p entry.1) :
    ∀ entry ∈ (visitAll policy remarkId fs s).1.tally.entries, p entry.1 := by
  induction fs generalizing s with
  | nil => exact hs
  | cons f fs ih =>
    obtain ⟨hf, hrest⟩ := List.forall_mem_cons.mp hfs
    have hvisit : ∀ entry ∈ (visit policy remarkId f s).1.tally.entries, p entry.1 := by
      intro entry hentry
      rcases tally_visit policy remarkId f s with h | ⟨complexity, h⟩
      · rw [h] at hentry
        exact hs entry hentry
      · rw [h] at hentry
        rcases Tally.mem_of_mem_insertEntry hentry with rfl | hentry
        · exact hf
        · exact hs entry hentry
    rw [visitAll]
    split
    · rename_i hv
      rw [hv] at hvisit
      exact hvisit
    · rename_i hv
      rw [hv] at hvisit
      exact ih hrest hvisit

end Walk

theorem Walker.tally_walk_spaced (w : Walker) (s : Grammar.Source) (root : Grammar.Node)
    (diagnostics : Option Diagnostics) :
    ∀ entry ∈ (w.walk (some (s.node root)) .empty diagnostics).1.tally.entries,
      Text.Spaced entry.1.toList := by
  rw [walk_eq_visitAll w (s.complete_node root)]
  exact Walk.tally_visitAll _ _ (p := fun name => Text.Spaced name.toList)
    (fun f hf => Grammar.Source.spaced_of_mem_declarations hf)
    fun entry hentry => absurd hentry List.not_mem_nil

end Cyclometry
