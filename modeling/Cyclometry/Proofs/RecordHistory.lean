import Mathlib.Data.List.Dedup
import Mathlib.Data.List.Sort
import Cyclometry.Proofs.TallyView
import Cyclometry.Report
import Cyclometry.Summary

/-!
# The history of a tally cannot be seen

A tally keeps its entries in the order of their names.  The plain way to keep them is a store in
the order of first appearance, in which a name that is recorded again gets its new value in its old
place (`Tally.stored`), and which is sorted whenever something of it is shown.  Both come to the
same (`entries_eq_mergeSort`), because both list every name once, with the value that was recorded
for it last (`Lists`).

Two tallies that give every name the same value are equal (`eq_of_get?_eq`).  So what is shown of a
tally tells what was recorded last for each name, and nothing else about the records
(`recordAll_view`).
-/

namespace Cyclometry.Tally

/-! ## Lists of last values -/

/-- The entries list every recorded name once, with the value that was recorded for it last. -/
structure Lists (entries records : List (String × Int)) : Prop where
  nodup : (entries.map (·.1)).Nodup
  value : ∀ name, valueIn entries name = lastOf name records

section Lists

variable {entries entries' records : List (String × Int)} {name : String} {complexity : Int}

/-- Where no name occurs twice, an entry is what is found under its name. -/
theorem mem_iff_valueIn (h : (entries.map (·.1)).Nodup) :
    (name, complexity) ∈ entries ↔ valueIn entries name = some complexity := by
  induction entries with
  | nil => simp [valueIn]
  | cons entry rest ih =>
    obtain ⟨hfirst, hrest⟩ := List.nodup_cons.mp h
    by_cases hname : entry.1 = name
    · -- The name is not found again behind its entry.
      have hnot : (name, complexity) ∉ rest := fun hmem =>
        hfirst (List.mem_map.mpr ⟨_, hmem, hname.symm⟩)
      rw [valueIn, List.find?_cons_of_pos (by simpa using hname), List.mem_cons]
      constructor
      · rintro (heq | hmem)
        · rw [← heq, Option.map_some]
        · exact absurd hmem hnot
      · intro hvalue
        exact .inl (Prod.ext hname.symm (Option.some.inj hvalue).symm)
    · have hne : (name, complexity) ≠ entry := fun heq => hname (congrArg Prod.fst heq).symm
      rw [valueIn, List.find?_cons_of_neg (by simpa using hname), List.mem_cons,
        or_iff_right hne, ih hrest]
      rfl

theorem Lists.mem_iff (h : Lists entries records) :
    (name, complexity) ∈ entries ↔ lastOf name records = some complexity := by
  rw [mem_iff_valueIn h.nodup, h.value]

theorem Lists.perm (h : Lists entries records) (h' : Lists entries' records) :
    entries.Perm entries' := by
  refine (List.perm_ext_iff_of_nodup h.nodup.of_map h'.nodup.of_map).mpr ?_
  rintro ⟨name, complexity⟩
  rw [h.mem_iff, h'.mem_iff]

theorem lastOf_concat (x : String) (records : List (String × Int)) (record : String × Int) :
    lastOf x (records ++ [record]) = if record.1 = x then some record.2 else lastOf x records := by
  rw [lastOf, List.reverse_concat, valueIn]
  by_cases hx : record.1 = x
  · rw [if_pos hx, List.find?_cons_of_pos (by simpa using hx)]
    rfl
  · rw [if_neg hx, List.find?_cons_of_neg (by simpa using hx)]
    rfl

/-- A name has a last value exactly if it was recorded. -/
theorem isSome_lastOf_iff : (lastOf name records).isSome = true ↔ name ∈ records.map (·.1) := by
  rw [lastOf, valueIn, Option.isSome_map, List.find?_isSome]
  simp only [List.mem_reverse, beq_iff_eq, List.mem_map]

theorem Lists.mem_names_iff (h : Lists entries records) :
    name ∈ entries.map (·.1) ↔ name ∈ records.map (·.1) := by
  have hrecorded : name ∈ records.map (·.1) ↔ (lastOf name records).isSome = true :=
    isSome_lastOf_iff.symm
  rw [hrecorded, Option.isSome_iff_exists]
  constructor
  · intro hmem
    obtain ⟨⟨_, complexity⟩, hentry, rfl⟩ := List.mem_map.mp hmem
    exact ⟨complexity, h.mem_iff.mp hentry⟩
  · rintro ⟨complexity, hlast⟩
    exact List.mem_map.mpr ⟨(name, complexity), h.mem_iff.mpr hlast, rfl⟩

end Lists

/-! ## The two ways to keep entries -/

/-- Give a name its value in the place where it stands, or at the end if it is new. -/
def store (name : String) (complexity : Int) : List (String × Int) → List (String × Int)
  | [] => [(name, complexity)]
  | entry :: rest =>
    if entry.1 = name then (name, complexity) :: rest else entry :: store name complexity rest

/-- The store in the order of first appearance that some records lead to. -/
def stored (records : List (String × Int)) : List (String × Int) :=
  records.foldl (fun kept record => store record.1 record.2 kept) []

theorem valueIn_store (name : String) (complexity : Int) (kept : List (String × Int)) (x : String) :
    valueIn (store name complexity kept) x =
      if name = x then some complexity else valueIn kept x := by
  induction kept with
  | nil => by_cases hx : name = x <;> simp [store, valueIn, hx]
  | cons entry rest ih =>
    rw [store]
    by_cases hname : entry.1 = name
    · rw [if_pos hname]
      by_cases hx : name = x
      · simp [valueIn, hx]
      · have hentry : entry.1 ≠ x := hname ▸ hx
        simp [valueIn, hx, hentry]
    · rw [if_neg hname]
      by_cases hentry : entry.1 = x
      · have hx : name ≠ x := fun hx => hname (hentry.trans hx.symm)
        simp [valueIn, hentry, hx]
      · rw [valueIn, List.find?_cons_of_neg (by simpa using hentry), ← valueIn, ih, valueIn,
          valueIn, List.find?_cons_of_neg (by simpa using hentry)]

/-- A record leaves the names of a store alone or adds its own at the end. -/
theorem names_store (name : String) (complexity : Int) (kept : List (String × Int)) :
    (store name complexity kept).map (·.1) =
      if name ∈ kept.map (·.1) then kept.map (·.1) else kept.map (·.1) ++ [name] := by
  induction kept with
  | nil => rfl
  | cons entry rest ih =>
    rw [store]
    by_cases hname : entry.1 = name
    · simp [hname]
    · have hmem : name ∈ (entry :: rest).map (·.1) ↔ name ∈ rest.map (·.1) := by
        rw [List.map_cons, List.mem_cons, or_iff_right (Ne.symm hname)]
      rw [if_neg hname, List.map_cons, ih]
      by_cases hold : name ∈ rest.map (·.1)
      · rw [if_pos hold, if_pos (hmem.mpr hold), List.map_cons]
      · rw [if_neg hold, if_neg (mt hmem.mp hold), List.map_cons, List.cons_append]

/-- The store lists the last values.  The induction is on the records, the last one first. -/
theorem lists_stored (records : List (String × Int)) : Lists (stored records) records := by
  induction records using List.reverseRecOn with
  | nil => exact ⟨List.nodup_nil, fun _ => rfl⟩
  | append_singleton records record ih =>
    have hstored : stored (records ++ [record]) = store record.1 record.2 (stored records) := by
      rw [stored, List.foldl_append]
      rfl
    rw [hstored]
    constructor
    · rw [names_store]
      split
      · exact ih.nodup
      · rename_i hnew
        exact List.nodup_append.mpr ⟨ih.nodup, List.nodup_singleton _, fun x hx y hy heq =>
          hnew (List.mem_singleton.mp hy ▸ heq ▸ hx)⟩
    · intro name
      rw [valueIn_store, lastOf_concat, ih.value]

theorem nodup_names (t : Tally) : t.names.Nodup := by
  rw [names, List.Nodup, List.pairwise_map]
  refine t.increasing.imp ?_
  intro a b hlt heq
  exact String.lt_irrefl b.1 (heq ▸ hlt)

theorem lists_entries (records : List (String × Int)) :
    Lists (empty.recordAll records).entries records where
  nodup := nodup_names _
  value name := by
    have hget : (empty.recordAll records).get? name = (lastOf name records).or none :=
      get?_recordAll empty records name
    rw [Option.or_none] at hget
    exact hget

/-! ## Sorting -/

/-- Pairs go by the name, and by the value if the names are equal. -/
def pairLE (a b : String × Int) : Bool :=
  decide (a.1 < b.1) || (a.1 == b.1 && decide (a.2 ≤ b.2))

theorem pairLE_iff {a b : String × Int} :
    pairLE a b = true ↔ a.1 < b.1 ∨ a.1 = b.1 ∧ a.2 ≤ b.2 := by
  simp [pairLE]

theorem pairLE_trans (a b c : String × Int) (hab : pairLE a b = true) (hbc : pairLE b c = true) :
    pairLE a c = true := by
  rw [pairLE_iff] at hab hbc ⊢
  rcases hab with hab | ⟨hab, hab'⟩
  · rcases hbc with hbc | ⟨hbc, -⟩
    · exact .inl (String.lt_trans hab hbc)
    · exact .inl (hbc ▸ hab)
  · rcases hbc with hbc | ⟨hbc, hbc'⟩
    · exact .inl (hab ▸ hbc)
    · exact .inr ⟨hab.trans hbc, Int.le_trans hab' hbc'⟩

theorem pairLE_total (a b : String × Int) : (pairLE a b || pairLE b a) = true := by
  rw [Bool.or_eq_true, pairLE_iff, pairLE_iff]
  by_cases hlt : a.1 < b.1
  · exact .inl (.inl hlt)
  · by_cases hgt : b.1 < a.1
    · exact .inr (.inl hgt)
    · have heq : a.1 = b.1 := String.le_antisymm (String.not_lt.mp hgt) (String.not_lt.mp hlt)
      rcases Int.le_total a.2 b.2 with hle | hle
      · exact .inl (.inr ⟨heq, hle⟩)
      · exact .inr (.inr ⟨heq.symm, hle⟩)

theorem pairLE_antisymm {a b : String × Int} (hab : pairLE a b = true) (hba : pairLE b a = true) :
    a = b := by
  rw [pairLE_iff] at hab hba
  rcases hab with hab | ⟨hab, hab'⟩
  · rcases hba with hba | ⟨hba, -⟩
    · exact absurd (String.lt_trans hab hba) (String.lt_irrefl _)
    · exact absurd (hba ▸ hab) (String.lt_irrefl _)
  · rcases hba with hba | ⟨-, hba'⟩
    · exact absurd (hab ▸ hba) (String.lt_irrefl _)
    · exact Prod.ext hab (Int.le_antisymm hab' hba')

/-- **A tally is a sorted store.**  Its entries are those of the store, sorted as pairs. -/
theorem entries_eq_mergeSort (records : List (String × Int)) :
    (empty.recordAll records).entries = (stored records).mergeSort pairLE := by
  have hperm := (lists_entries records).perm (lists_stored records)
  have hentries : (empty.recordAll records).entries.Pairwise fun a b => pairLE a b = true :=
    (empty.recordAll records).increasing.imp fun hlt => pairLE_iff.mpr (.inl hlt)
  have hsorted : ((stored records).mergeSort pairLE).Pairwise fun a b => pairLE a b = true :=
    List.pairwise_mergeSort pairLE_trans pairLE_total _
  exact List.Perm.eq_of_pairwise (fun _ _ _ _ => pairLE_antisymm) hentries hsorted
    (hperm.trans (List.mergeSort_perm _ _).symm)

/-- Its names are those of the store, sorted alone. -/
theorem names_eq_mergeSort (records : List (String × Int)) :
    (empty.recordAll records).names =
      ((stored records).map (·.1)).mergeSort fun a b => decide (a ≤ b) := by
  have hperm := ((lists_entries records).perm (lists_stored records)).map (·.1)
  have hnames : (empty.recordAll records).names.Pairwise (· ≤ ·) := by
    rw [names, List.pairwise_map]
    refine (empty.recordAll records).increasing.imp ?_
    intro a b hlt
    exact String.not_lt.mp fun hgt => String.lt_irrefl _ (String.lt_trans hlt hgt)
  have hsorted : (((stored records).map (·.1)).mergeSort fun a b => decide (a ≤ b)).Pairwise
      (· ≤ ·) := by
    have htrans (a b c : String) (hab : decide (a ≤ b) = true) (hbc : decide (b ≤ c) = true) :
        decide (a ≤ c) = true :=
      decide_eq_true (String.le_trans (of_decide_eq_true hab) (of_decide_eq_true hbc))
    have htotal (a b : String) : (decide (a ≤ b) || decide (b ≤ a)) = true := by
      rw [Bool.or_eq_true, decide_eq_true_iff, decide_eq_true_iff]
      exact String.le_total a b
    exact (List.pairwise_mergeSort htrans htotal _).imp of_decide_eq_true
  exact List.Perm.eq_of_pairwise (fun _ _ _ _ => String.le_antisymm) hnames hsorted
    (hperm.trans (List.mergeSort_perm _ _).symm)

/-! ## What can be seen -/

/-- The code points of a text. -/
def codePoints (s : String) : List Nat := s.toList.map Char.toNat

/-- Texts go by their code points. -/
theorem codePoints_lt {a b : String} (h : a < b) : codePoints a < codePoints b := by
  have hlex : List.Lex (· < ·) a.toList b.toList := h
  rw [codePoints, codePoints]
  generalize a.toList = s, b.toList = t at hlex ⊢
  induction hlex with
  | nil => exact List.Lex.nil
  | cons _ ih => exact List.Lex.cons ih
  | rel hlt => exact List.Lex.rel hlt

/-- Two tallies that give every name the same value are equal. -/
theorem eq_of_get?_eq {t t' : Tally} (h : ∀ name, t.get? name = t'.get? name) : t = t' := by
  have hperm : t.entries.Perm t'.entries := by
    refine (List.perm_ext_iff_of_nodup t.nodup_names.of_map t'.nodup_names.of_map).mpr ?_
    rintro ⟨name, complexity⟩
    rw [mem_iff_valueIn t.nodup_names, mem_iff_valueIn t'.nodup_names]
    exact Eq.congr_left (h name)
  have hentries : t.entries = t'.entries := List.Perm.eq_of_pairwise
    (fun _ _ _ _ hab hba => absurd (String.lt_trans hab hba) (String.lt_irrefl _))
    t.increasing t'.increasing hperm
  cases t
  cases t'
  exact Tally.mk.injEq .. ▸ hentries

/-- A tally as data has its entries as fields, in their order. -/
theorem tallyValue_eq (t : Tally) : Summary.tallyValue t =
    .map (t.entries.map fun entry => (.text entry.1, .int entry.2)) := by
  rw [Summary.tallyValue, Summary.object, List.map_map]
  rfl

theorem get?_tallyValue (t : Tally) (name : String) :
    (Summary.tallyValue t).field? name = (t.get? name).map .int := by
  rw [tallyValue_eq, Value.field?, Fields.get?, Fields.find?, List.find?_map, get?, valueIn,
    Option.map_map, Option.map_map]
  rfl

/-- **What a tally shows.**  After any records, the entries, the names, the tally as data, the size
and the look-ups describe one finite map: each recorded name has the value that was recorded for it
last, and occurs once.  Names increase by code point.  The entries are those of the store in the
order of first appearance, sorted as pairs, and the names are its names, sorted alone.

Two lists of records are shown in the same way, also as text and in a report, exactly if they give
every name the same last value. -/
theorem recordAll_view (records : List (String × Int)) :
    let t : Tally := empty.recordAll records
    (∀ name complexity, (name, complexity) ∈ t.entries ↔ lastOf name records = some complexity) ∧
    (∀ name, t.get? name = lastOf name records) ∧
    (∀ name, t.contains name = true ↔ name ∈ records.map (·.1)) ∧
    (∀ name, (Summary.tallyValue t).field? name = (lastOf name records).map .int) ∧
    Summary.tallyValue t = .map (t.entries.map fun entry => (.text entry.1, .int entry.2)) ∧
    t.names = t.entries.map (·.1) ∧
    (∀ name, t.names.count name = if name ∈ records.map (·.1) then 1 else 0) ∧
    t.size = (records.map (·.1)).dedup.length ∧
    t.names.Pairwise (fun a b => codePoints a < codePoints b) ∧
    t.entries = (stored records).mergeSort pairLE ∧
    t.names = ((stored records).map (·.1)).mergeSort (fun a b => decide (a ≤ b)) ∧
    ∀ records',
      let t' : Tally := empty.recordAll records'
      (∀ name, lastOf name records = lastOf name records') ↔
        t.entries = t'.entries ∧ t.names = t'.names ∧ t.text = t'.text ∧
          Summary.tallyValue t = Summary.tallyValue t' ∧ Report.text t = Report.text t' := by
  intro t
  have hlists : Lists t.entries records := lists_entries records
  have hget (name : String) : t.get? name = lastOf name records := hlists.value name
  have hmem (name : String) : name ∈ t.names ↔ name ∈ records.map (·.1) := hlists.mem_names_iff
  refine ⟨fun name complexity => hlists.mem_iff, hget, fun name => ?_, fun name => ?_,
    tallyValue_eq t, rfl, fun name => ?_, ?_, ?_, entries_eq_mergeSort records,
    names_eq_mergeSort records, fun records' => ?_⟩
  · rw [contains, hget, isSome_lastOf_iff]
  · rw [get?_tallyValue, hget]
  · rw [t.nodup_names.count]
    simp only [hmem]
  · have hperm : t.names.Perm (records.map (·.1)).dedup := by
      refine (List.perm_ext_iff_of_nodup t.nodup_names (List.nodup_dedup _)).mpr fun name => ?_
      rw [List.mem_dedup, hmem]
    rw [← hperm.length_eq, size, names, List.length_map]
  · rw [names, List.pairwise_map]
    exact t.increasing.imp codePoints_lt
  · intro t'
    have hget' (name : String) : t'.get? name = lastOf name records' :=
      (lists_entries records').value name
    constructor
    · intro hlast
      have heq : t = t' := eq_of_get?_eq fun name => by rw [hget, hget', hlast]
      rw [heq]
      exact ⟨rfl, rfl, rfl, rfl, rfl⟩
    · rintro ⟨hentries, -⟩ name
      rw [← hget, ← hget', get?, get?, hentries]

/-- Names with a letter beyond the Basic Multilingual Plane, one in front of it, and one that begins
another; two of them are recorded more than once, in two orders. -/
theorem recordAll_view_orders :
    let t := empty.recordAll [("b", 7), ("\uffff", 3), ("b", 1), ("😀", 2), ("bb", 4), ("b", 5)]
    let t' := empty.recordAll [("😀", 9), ("bb", 4), ("b", 5), ("😀", 2), ("\uffff", 3)]
    t.entries = [("b", 5), ("bb", 4), ("\uffff", 3), ("😀", 2)] ∧
    t.names.Pairwise (fun a b => codePoints a < codePoints b) ∧
    t.entries = t'.entries ∧ Report.text t = Report.text t' := by
  intro t t'
  obtain ⟨-, -, -, -, -, -, -, -, hincreasing, -, -, hsame⟩ :=
    recordAll_view [("b", 7), ("\uffff", 3), ("b", 1), ("😀", 2), ("bb", 4), ("b", 5)]
  have hlast : ∀ name,
      lastOf name [("b", 7), ("\uffff", 3), ("b", 1), ("😀", 2), ("bb", 4), ("b", 5)] =
        lastOf name [("😀", 9), ("bb", 4), ("b", 5), ("😀", 2), ("\uffff", 3)] := by
    intro name
    by_cases hb : "b" = name
    · subst hb
      decide
    · by_cases hlong : "bb" = name
      · subst hlong
        decide
      · by_cases hlate : "\uffff" = name
        · subst hlate
          decide
        · by_cases hface : "😀" = name
          · subst hface
            decide
          · simp [lastOf, valueIn, hb, hlong, hlate, hface]
  obtain ⟨hentries, -, -, -, hreport⟩ := (hsame _).mp hlast
  exact ⟨by decide +kernel, hincreasing, hentries, hreport⟩

end Cyclometry.Tally
