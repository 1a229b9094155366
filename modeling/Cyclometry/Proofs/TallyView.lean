import Mathlib.Data.List.Induction
import Cyclometry.Tally

/-!
# A tally as a finite map

Recording gives one name a value and leaves every other name alone (`get?_record`).  It adds a
name exactly if the name is new, and exactly if it is not, the log gets a row (`size_record`,
`length_recordLog`).  So after several records a name has the value that was recorded for it
last (`get?_recordAll`).
-/

namespace Cyclometry.Tally

/-- The value that was recorded for a name last. -/
def lastOf (name : String) (records : List (String × Int)) : Option Int :=
  valueIn records.reverse name

theorem find?_insertEntry (name : String) (complexity : Int) (entries : List (String × Int))
    (x : String) :
    (insertEntry name complexity entries).find? (fun entry => entry.1 == x) =
      if name = x then some (name, complexity) else entries.find? fun entry => entry.1 == x := by
  induction entries with
  | nil =>
    rw [insertEntry]
    by_cases hx : name = x <;> simp [hx]
  | cons entry rest ih =>
    rw [insertEntry]
    split
    · by_cases hx : name = x <;> simp [hx]
    · split
      · rename_i heq
        by_cases hx : name = x
        · simp [hx]
        · have hx' : entry.1 ≠ x := heq ▸ hx
          simp [hx, hx']
      · rename_i hne
        by_cases he : entry.1 = x
        · have hx : name ≠ x := fun hx => hne (hx.trans he.symm)
          simp [he, hx]
        · rw [List.find?_cons_of_neg (by simpa using he), ih,
            List.find?_cons_of_neg (by simpa using he)]

/-- Recording gives a name its value and leaves the others alone. -/
theorem get?_record (t : Tally) (name : String) (complexity : Int) (x : String) :
    (t.record name complexity).get? x = if name = x then some complexity else t.get? x := by
  rw [get?, valueIn, record, find?_insertEntry]
  by_cases hx : name = x
  · rw [if_pos hx, if_pos hx, Option.map_some]
  · rw [if_neg hx, if_neg hx, get?, valueIn]

theorem get?_eq_none_of_lt {name : String} {entries : List (String × Int)}
    (h : ∀ entry ∈ entries, name < entry.1) :
    entries.find? (fun entry => entry.1 == name) = none := by
  refine List.find?_eq_none.2 fun entry hmem heq => ?_
  have hlt := h entry hmem
  rw [beq_iff_eq.1 heq] at hlt
  exact String.lt_irrefl name hlt

/-- In increasing entries, an insertion replaces an entry exactly if the name is there. -/
theorem length_insertEntry (name : String) (complexity : Int) {entries : List (String × Int)}
    (h : entries.Pairwise fun a b => a.1 < b.1) :
    (insertEntry name complexity entries).length =
      if (entries.find? fun entry => entry.1 == name).isSome then entries.length
      else entries.length + 1 := by
  induction entries with
  | nil => rfl
  | cons entry rest ih =>
    obtain ⟨hfirst, hrest⟩ := List.pairwise_cons.1 h
    rw [insertEntry]
    split
    · rename_i hlt
      have hnone : (entry :: rest).find? (fun entry => entry.1 == name) = none := by
        refine get?_eq_none_of_lt fun e he => ?_
        rcases List.mem_cons.1 he with rfl | he
        · exact hlt
        · exact String.lt_trans hlt (hfirst e he)
      rw [hnone]
      rfl
    · split
      · rename_i heq
        rw [List.find?_cons_of_pos (by simp [heq])]
        rfl
      · rename_i hne
        rw [List.find?_cons_of_neg (by simpa using Ne.symm hne), List.length_cons,
          List.length_cons, ih hrest]
        split <;> rfl

theorem size_record (t : Tally) (name : String) (complexity : Int) :
    (t.record name complexity).size = if t.contains name then t.size else t.size + 1 := by
  rw [size, record, length_insertEntry name complexity t.increasing, contains, get?,
    valueIn, Option.isSome_map, size]

theorem length_recordLog (t : Tally) (name : String) (complexity : Int) :
    (t.recordLog name complexity).length = if t.contains name then 1 else 0 := by
  rw [recordLog, contains]
  cases t.get? name <;> rfl

theorem recordAll_concat (t : Tally) (entries : List (String × Int)) (entry : String × Int) :
    t.recordAll (entries ++ [entry]) = (t.recordAll entries).record entry.1 entry.2 := by
  rw [recordAll, recordAll, List.foldl_append, List.foldl_cons, List.foldl_nil]

/-- **The last record wins**, and a name that is not recorded keeps its value. -/
theorem get?_recordAll (t : Tally) (entries : List (String × Int)) (x : String) :
    (t.recordAll entries).get? x = (lastOf x entries).or (t.get? x) := by
  induction entries using List.reverseRecOn with
  | nil => rfl
  | append_singleton entries entry ih =>
    rw [recordAll_concat, get?_record, lastOf, List.reverse_concat, valueIn]
    by_cases hx : entry.1 = x
    · rw [if_pos hx, List.find?_cons_of_pos (by simpa using hx)]
      rfl
    · rw [if_neg hx, List.find?_cons_of_neg (by simpa using hx), ih]
      rfl

end Cyclometry.Tally
