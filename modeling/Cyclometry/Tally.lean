import Cyclometry.Log
import Cyclometry.Number.Decimal
import Cyclometry.Text.Quoted
import Cyclometry.Text.Split

/-!
# The tally of a unit

Each function name has one complexity, the one recorded last.  Names are kept in increasing
order by code point, so that everything that is shown of a tally depends on its content alone.
-/

namespace Cyclometry

/-- Complexities by function name. -/
structure Tally where
  entries : List (String × Int)
  /-- Names increase, so no name occurs twice. -/
  increasing : entries.Pairwise fun a b => a.1 < b.1
  deriving DecidableEq, Repr

namespace Tally

/-- Nothing recorded yet. -/
def empty : Tally := ⟨[], .nil⟩

/-- Put an entry where its name belongs, in the place of an entry of that name. -/
def insertEntry (name : String) (complexity : Int) :
    List (String × Int) → List (String × Int)
  | [] => [(name, complexity)]
  | entry :: rest =>
    if name < entry.1 then (name, complexity) :: entry :: rest
    else if name = entry.1 then (name, complexity) :: rest
    else entry :: insertEntry name complexity rest

theorem mem_of_mem_insertEntry {name : String} {complexity : Int} {e : String × Int}
    {entries : List (String × Int)} (h : e ∈ insertEntry name complexity entries) :
    e = (name, complexity) ∨ e ∈ entries := by
  induction entries with
  | nil => exact .inl (List.mem_singleton.1 h)
  | cons entry rest ih =>
    rw [insertEntry] at h
    split at h
    · exact List.mem_cons.1 h
    · split at h
      · exact (List.mem_cons.1 h).imp_right (List.mem_cons_of_mem entry)
      · rcases List.mem_cons.1 h with rfl | h
        · exact .inr (List.mem_cons_self ..)
        · exact (ih h).imp_right (List.mem_cons_of_mem entry)

theorem increasing_insertEntry (name : String) (complexity : Int) {entries : List (String × Int)}
    (h : entries.Pairwise fun a b => a.1 < b.1) :
    (insertEntry name complexity entries).Pairwise fun a b => a.1 < b.1 := by
  induction entries with
  | nil => exact List.pairwise_singleton ..
  | cons entry rest ih =>
    obtain ⟨hfirst, hrest⟩ := List.pairwise_cons.1 h
    rw [insertEntry]
    split
    · rename_i hlt
      refine List.pairwise_cons.2 ⟨fun e he => ?_, h⟩
      rcases List.mem_cons.1 he with rfl | he
      · exact hlt
      · exact String.lt_trans hlt (hfirst e he)
    · rename_i hnlt
      split
      · rename_i heq
        exact List.pairwise_cons.2 ⟨fun e he => heq ▸ hfirst e he, hrest⟩
      · rename_i hne
        have hlt : entry.1 < name := Decidable.byContradiction fun hle =>
          hne (String.le_antisymm (String.not_lt.1 hle) (String.not_lt.1 hnlt))
        refine List.pairwise_cons.2 ⟨fun e he => ?_, ih hrest⟩
        rcases mem_of_mem_insertEntry he with rfl | he
        · exact hlt
        · exact hfirst e he

/-- The value of a name in a list of entries. -/
def valueIn (entries : List (String × Int)) (name : String) : Option Int :=
  (entries.find? fun entry => entry.1 == name).map (·.2)

/-- The complexity of a name. -/
def get? (t : Tally) (name : String) : Option Int := valueIn t.entries name

/-- The name has been recorded. -/
def contains (t : Tally) (name : String) : Bool := (t.get? name).isSome

/-- The number of names. -/
def size (t : Tally) : Nat := t.entries.length

/-- The names in increasing order. -/
def names (t : Tally) : List String := t.entries.map (·.1)

/-- Record the complexity of a function. -/
def record (t : Tally) (name : String) (complexity : Int) : Tally :=
  ⟨insertEntry name complexity t.entries, increasing_insertEntry name complexity t.increasing⟩

/-- Record several functions, one after the other. -/
def recordAll (t : Tally) (entries : List (String × Int)) : Tally :=
  entries.foldl (fun t entry => t.record entry.1 entry.2) t

/-- The row that the log gets when a name is recorded again. -/
def recordLog (t : Tally) (name : String) (complexity : Int) : List Log.Row :=
  match t.get? name with
  | none => []
  | some earlier =>
    [⟨.debug, .results, "Function name " ++ Text.quoted name ++ " recorded again; " ++
      Decimal.ofInt complexity ++ " replaces " ++ Decimal.ofInt earlier⟩]

/-- A tally as text. -/
def text (t : Tally) : String :=
  let shown := t.entries.map fun entry => Text.quoted entry.1 ++ ": " ++ Decimal.ofInt entry.2
  "ComplexityMap(\x7b" ++ Text.joinTexts ", " shown ++ "\x7d)"

end Tally

end Cyclometry
