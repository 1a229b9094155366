/-!
# Splitting at a separator

`splitOn` divides a list at every occurrence of a separator and `joinWith` puts it back.
Neighbouring separators have an empty part between them, so splitting loses nothing.
-/

namespace Cyclometry.Text

variable {α : Type}

/-- Put one element of the text in front of its parts. -/
def consPart [BEq α] (sep a : α) (parts : List (List α)) : List (List α) :=
  if a == sep then [] :: parts
  else
    match parts with
    | [] => [[a]]
    | part :: rest => (a :: part) :: rest

/-- The parts between the separators; there is one more of them than separators. -/
def splitOn [BEq α] (sep : α) (s : List α) : List (List α) :=
  s.foldr (consPart sep) [[]]

/-- The parts with a separator between neighbours. -/
def joinWith (sep : List α) : List (List α) → List α
  | [] => []
  | [part] => part
  | part :: rest => part ++ sep ++ joinWith sep rest

/-- Texts with a separator between neighbours. -/
def joinTexts (sep : String) : List String → String
  | [] => ""
  | [part] => part
  | part :: rest => part ++ sep ++ joinTexts sep rest

/-! ## Splitting and joining undo each other -/

theorem splitOn_eq [BEq α] (sep : α) (s : List α) : splitOn sep s = s.splitOn sep := by
  induction s with
  | nil => rw [List.splitOn_nil, splitOn, List.foldr_nil]
  | cons a s ih =>
    change consPart sep a (splitOn sep s) = _
    obtain ⟨part, rest, h⟩ := List.exists_cons_of_ne_nil (List.splitOn_ne_nil sep s)
    rw [ih, List.splitOn_cons_eq_if_modifyHead, h]
    rfl

theorem joinWith_eq (sep : List α) (parts : List (List α)) :
    joinWith sep parts = sep.intercalate parts := by
  fun_induction joinWith sep parts with
  | case1 => rw [List.intercalate_nil]
  | case2 part => rw [List.intercalate_singleton]
  | case3 part rest hne ih => rw [ih, List.intercalate_cons_of_ne_nil hne]

theorem splitOn_ne_nil [BEq α] (sep : α) (s : List α) : splitOn sep s ≠ [] := by
  rw [splitOn_eq]
  exact List.splitOn_ne_nil sep s

/-- A run of elements of one kind is taken whole, and no further than that. -/
theorem span_append {p : α → Bool} {xs rest : List α} (hxs : ∀ a ∈ xs, p a = true)
    (hrest : ∀ a ∈ rest.head?, p a = false) :
    (xs ++ rest).takeWhile p = xs ∧ (xs ++ rest).dropWhile p = rest := by
  have hnone : rest.takeWhile p = [] ∧ rest.dropWhile p = rest := by
    cases rest with
    | nil => exact ⟨rfl, rfl⟩
    | cons a rest => simp [hrest a rfl]
  rw [List.takeWhile_append_of_pos hxs, List.dropWhile_append_of_pos hxs, hnone.1, hnone.2,
    List.append_nil]
  exact ⟨rfl, rfl⟩

variable [BEq α] [LawfulBEq α]

theorem joinWith_splitOn (sep : α) (s : List α) : joinWith [sep] (splitOn sep s) = s := by
  rw [splitOn_eq, joinWith_eq, List.intercalate_splitOn]

theorem splitOn_joinWith {sep : α} {parts : List (List α)} (hne : parts ≠ [])
    (h : ∀ part ∈ parts, sep ∉ part) : splitOn sep (joinWith [sep] parts) = parts := by
  rw [splitOn_eq, joinWith_eq, List.splitOn_intercalate sep h hne]

/-- Parts that each have a separator behind them are found again, with nothing behind the last. -/
theorem splitOn_flatMap {sep : α} {parts : List (List α)} (h : ∀ part ∈ parts, sep ∉ part) :
    splitOn sep (parts.flatMap (· ++ [sep])) = parts ++ [[]] := by
  have hjoin : parts.flatMap (· ++ [sep]) = joinWith [sep] (parts ++ [[]]) := by
    clear h
    induction parts with
    | nil => rfl
    | cons part parts ih =>
      rw [List.flatMap_cons, ih, List.cons_append, joinWith]
      simp
  rw [hjoin]
  refine splitOn_joinWith (by simp) fun part hpart => ?_
  rcases List.mem_append.mp hpart with hpart | hpart
  · exact h part hpart
  · obtain rfl := List.mem_singleton.mp hpart
    exact List.not_mem_nil

theorem not_mem_of_mem_splitOn {sep : α} {s part : List α} (h : part ∈ splitOn sep s) :
    sep ∉ part := by
  rw [splitOn_eq] at h
  induction s generalizing part with
  | nil =>
    obtain rfl := List.mem_singleton.mp h
    exact List.not_mem_nil
  | cons a s ih =>
    obtain ⟨first, rest, hparts⟩ := List.exists_cons_of_ne_nil (List.splitOn_ne_nil sep s)
    rw [hparts] at ih
    rw [List.splitOn_cons_eq_if_modifyHead, hparts, List.modifyHead_cons] at h
    split at h
    · rcases List.mem_cons.mp h with rfl | h
      · exact List.not_mem_nil
      · exact ih h
    · rename_i hne
      rcases List.mem_cons.mp h with rfl | h
      · intro hmem
        rcases List.mem_cons.mp hmem with heq | hmem
        · exact hne (beq_iff_eq.mpr heq.symm)
        · exact ih (List.mem_cons_self ..) hmem
      · exact ih (List.mem_cons_of_mem first h)

end Cyclometry.Text
