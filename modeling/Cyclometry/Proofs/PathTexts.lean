import Cyclometry.Path.Basic

/-!
# The texts of paths

The text of a path consists of its root mark and of its parts with slashes between them.  If the
parts are components without slashes, the path can be read back from its text
(`Path.ofString_text`).  All that stands between the slashes of the text beside the parts themselves
are pieces in front of them that lead nowhere (`Path.pieces_text`).
-/

namespace Cyclometry

theorem Text.splitOn_append_cons {α : Type} [BEq α] [LawfulBEq α] (sep : α) (xs ys : List α) :
    splitOn sep (xs ++ sep :: ys) = splitOn sep xs ++ splitOn sep ys := by
  rw [splitOn_eq, splitOn_eq, splitOn_eq, List.splitOn_append_cons_self]

theorem Text.toList_joinTexts (sep : String) (parts : List String) :
    (joinTexts sep parts).toList = joinWith sep.toList (parts.map String.toList) := by
  induction parts with
  | nil => rfl
  | cons part rest ih =>
    cases rest with
    | nil => rfl
    | cons next more =>
      rw [joinTexts, String.toList_append, String.toList_append, ih]
      · rfl
      · exact List.cons_ne_nil next more

namespace Path

/-- The parts of the path are components, and there is no slash within them. -/
def Clean (p : Path) : Prop :=
  ∀ part ∈ p.parts, isComponent part = true ∧ '/' ∉ part.toList

theorem isComponent_iff {piece : String} :
    isComponent piece = true ↔ piece ≠ "" ∧ piece ≠ "." := by
  simp [isComponent]

theorem slash_not_mem_of_mem_pieces {s piece : String} (h : piece ∈ pieces s) :
    '/' ∉ piece.toList := by
  obtain ⟨chars, hchars, rfl⟩ := List.mem_map.mp h
  rw [String.toList_ofList]
  exact Text.not_mem_of_mem_splitOn hchars

/-- A path that has been read is clean. -/
theorem clean_ofString (s : String) : (ofString s).Clean := by
  intro part hpart
  obtain ⟨hpiece, hcomponent⟩ := List.mem_filter.mp hpart
  exact ⟨hcomponent, slash_not_mem_of_mem_pieces hpiece⟩

/-! ## What stands between the slashes -/

theorem pieces_empty : pieces "" = [""] := by
  simp [pieces, Text.splitOn]

theorem pieces_append_slash (s t : String) : pieces (s ++ "/" ++ t) = pieces s ++ pieces t := by
  have hchars : (s ++ "/" ++ t).toList = s.toList ++ '/' :: t.toList := by simp
  rw [pieces, hchars, Text.splitOn_append_cons, List.map_append]
  rfl

theorem pieces_slash_append (t : String) : pieces ("/" ++ t) = "" :: pieces t := by
  have h := pieces_append_slash "" t
  rwa [pieces_empty, String.empty_append] at h

theorem pieces_joinTexts {parts : List String} (hne : parts ≠ [])
    (h : ∀ part ∈ parts, '/' ∉ part.toList) : pieces (Text.joinTexts "/" parts) = parts := by
  have hslash : ∀ chars ∈ parts.map String.toList, '/' ∉ chars := by
    intro chars hchars
    obtain ⟨part, hpart, rfl⟩ := List.mem_map.mp hchars
    exact h part hpart
  have hjoin : (Text.joinTexts "/" parts).toList = Text.joinWith ['/'] (parts.map String.toList) :=
    Text.toList_joinTexts "/" parts
  rw [pieces, hjoin, Text.splitOn_joinWith (by simpa using hne) hslash]
  simp

theorem text_of_parts {p : Path} (h : p.parts ≠ []) :
    p.text = p.root.text ++ Text.joinTexts "/" p.parts := by
  rw [text, if_neg fun hbare => h hbare.2]

/-- The pieces of a root mark in front of some text. -/
theorem exists_stays (root : Root) (t : String) :
    ∃ stays : List String, (∀ stay ∈ stays, isComponent stay = false) ∧
      pieces (root.text ++ t) = stays ++ pieces t := by
  cases root with
  | relative => exact ⟨[], by simp, by rw [Root.text, String.empty_append]; rfl⟩
  | slash => exact ⟨[""], by simp [isComponent], pieces_slash_append t⟩
  | doubleSlash =>
    have hmark : Root.doubleSlash.text ++ t = "/" ++ ("/" ++ t) := by
      rw [← String.append_assoc]
      rfl
    refine ⟨["", ""], by simp [isComponent], ?_⟩
    rw [hmark, pieces_slash_append, pieces_slash_append]
    rfl

/-- **Between the slashes of a text are the parts of the path**, behind pieces that lead nowhere. -/
theorem pieces_text {p : Path} (h : p.Clean) :
    ∃ stays : List String, (∀ stay ∈ stays, isComponent stay = false) ∧
      pieces p.text = stays ++ p.parts := by
  by_cases hparts : p.parts = []
  · rw [hparts]
    by_cases hroot : p.root = .relative
    · refine ⟨["."], by simp [isComponent], ?_⟩
      rw [text, if_pos ⟨hroot, hparts⟩]
      decide +kernel
    · obtain ⟨stays, hstays, hpieces⟩ := exists_stays p.root ""
      refine ⟨stays ++ [""], ?_, ?_⟩
      · intro stay hstay
        rcases List.mem_append.mp hstay with hstay | hstay
        · exact hstays stay hstay
        · rw [List.mem_singleton.mp hstay]
          rfl
      · rw [text, if_neg fun hbare => hroot hbare.1, hparts, List.append_nil, ← pieces_empty]
        exact hpieces
  · obtain ⟨stays, hstays, hpieces⟩ := exists_stays p.root (Text.joinTexts "/" p.parts)
    refine ⟨stays, hstays, ?_⟩
    rw [text_of_parts hparts, hpieces, pieces_joinTexts hparts fun part hpart => (h part hpart).2]

theorem filter_pieces_text {p : Path} (h : p.Clean) :
    (pieces p.text).filter isComponent = p.parts := by
  obtain ⟨stays, hstays, hpieces⟩ := pieces_text h
  have hnone : stays.filter isComponent = [] := by
    refine List.filter_eq_nil_iff.mpr fun stay hstay => ?_
    simp [hstays stay hstay]
  have hall : p.parts.filter isComponent = p.parts :=
    List.filter_eq_self.mpr fun part hpart => (h part hpart).1
  rw [hpieces, List.filter_append, hnone, hall, List.nil_append]

/-! ## Reading a text back -/

theorem Root.ofChars_append (root : Root) {rest : List Char} (h : ∀ c ∈ rest.head?, c ≠ '/') :
    Root.ofChars (root.text.toList ++ rest) = root := by
  have hslash : Root.slash.text.toList = ['/'] := by decide
  have hdouble : Root.doubleSlash.text.toList = ['/', '/'] := by decide
  cases rest with
  | nil =>
    cases root with
    | relative => rfl
    | slash => rw [hslash]; rfl
    | doubleSlash => rw [hdouble]; rfl
  | cons c rest =>
    have hc : c ≠ '/' := h c rfl
    cases root with
    | relative => simp [Root.text, Root.ofChars, hc]
    | slash => simp [hslash, Root.ofChars, hc]
    | doubleSlash => simp [hdouble, Root.ofChars, hc]

/-- A path is rooted if it begins with a slash. -/
theorem Root.ofChars_ne_relative_iff {chars : List Char} :
    Root.ofChars chars ≠ .relative ↔ ['/'] <+: chars := by
  cases chars with
  | nil => simp [Root.ofChars]
  | cons c rest =>
    by_cases hc : c = '/'
    · subst hc
      simp only [List.cons_prefix_cons, List.nil_prefix, and_self, iff_true]
      rw [Root.ofChars.eq_def]
      split <;> simp_all
    · have hfront : ¬ ['/'] <+: c :: rest := by simp [Ne.symm hc]
      simp [Root.ofChars, hc, hfront]

/-- Parts in a row begin with a character of the first one. -/
theorem head?_joinTexts {parts : List String} (hne : parts ≠ [])
    (h : ∀ part ∈ parts, isComponent part = true ∧ '/' ∉ part.toList) :
    ∃ c, (Text.joinTexts "/" parts).toList.head? = some c ∧ c ≠ '/' := by
  obtain ⟨part, rest, rfl⟩ := List.exists_cons_of_ne_nil hne
  obtain ⟨hcomponent, hslash⟩ := h part List.mem_cons_self
  have hchars : part.toList ≠ [] := by
    intro hnil
    exact (isComponent_iff.mp hcomponent).1 (String.toList_inj.mp hnil)
  obtain ⟨c, chars, hpart⟩ := List.exists_cons_of_ne_nil hchars
  refine ⟨c, ?_, ?_⟩
  · cases rest with
    | nil => simp [Text.joinTexts, hpart]
    | cons next more => simp [Text.joinTexts, hpart]
  · rintro rfl
    exact hslash (hpart ▸ List.mem_cons_self)

/-- A clean path begins with its root mark, whatever comes behind its parts. -/
theorem ofChars_text_append {p : Path} (h : p.Clean) (hne : p.parts ≠ []) (rest : List Char) :
    Root.ofChars (p.text.toList ++ rest) = p.root := by
  obtain ⟨c, hhead, hc⟩ := head?_joinTexts hne h
  rw [text_of_parts hne, String.toList_append, List.append_assoc]
  refine Root.ofChars_append p.root fun d hd => ?_
  rw [List.head?_append, hhead] at hd
  exact Option.some.inj hd ▸ hc

theorem ofChars_text {p : Path} (h : p.Clean) : Root.ofChars p.text.toList = p.root := by
  by_cases hne : p.parts = []
  · by_cases hroot : p.root = .relative
    · rw [text, if_pos ⟨hroot, hne⟩, hroot]
      decide
    · have hmark : Root.ofChars (p.root.text.toList ++ []) = p.root :=
        Root.ofChars_append p.root (by simp)
      rw [text, if_neg fun hbare => hroot hbare.1, hne]
      simpa [Text.joinTexts] using hmark
  · simpa using ofChars_text_append h hne []

/-- **A clean path is read back from its text.** -/
theorem ofString_text {p : Path} (h : p.Clean) : ofString p.text = p := by
  rw [ofString, ofChars_text h, filter_pieces_text h]

end Path

end Cyclometry
