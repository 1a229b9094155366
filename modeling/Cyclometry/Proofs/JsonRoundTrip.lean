import Mathlib.Data.List.Nodup
import Cyclometry.Proofs.JsonTokens
import Cyclometry.Proofs.LoadedSettings
import Cyclometry.Proofs.Utf8RoundTrip

/-!
# Written JSON is read back

`read_write`: reading undoes writing, for values nested in any way.  The values are those without
numbers other than short integers and without a name twice in an object (`Plain`); nothing else is
lost, not even the order of the members.

The invariant of the recursion is `Reads`: a value is read back wherever it stands in a text.  A
configuration file may be nested only so deep, and a written value is nested no deeper than the
value itself (`Plain.fits`).  Since it is written in ASCII on lines that end with a line feed, it
can be such a file (`valueOf_write`).
-/

namespace Cyclometry.Json

/-! ## Values -/

/-- Values that are read back as they were written: their only numbers are short integers, and no
name occurs twice in an object.  Lists and objects are nested at most so deep. -/
inductive Plain : Nat → Value → Prop
  | null {depth : Nat} : Plain depth .null
  | bool {depth : Nat} (b : Bool) : Plain depth (.bool b)
  | int {depth : Nat} {n : Int} (h : Decimal.isShort n = true) : Plain depth (.int n)
  | text {depth : Nat} (s : String) : Plain depth (.text s)
  | list {depth : Nat} {items : List Value} (h : ∀ item ∈ items, Plain depth item) :
      Plain (depth + 1) (.list items)
  | map {depth : Nat} {members : List (String × Value)} (hnames : (members.map Prod.fst).Nodup)
      (h : ∀ member ∈ members, Plain depth member.2) :
      Plain (depth + 1) (.map (Settings.named members))

/-- A member of an object at a level. -/
def writeMember (level : Nat) (member : String × Value) : List Char :=
  writeText member.1 ++ ':' :: ' ' :: writeAt level member.2

theorem writeItems_eq (level : Nat) (items : List Value) :
    writeItems level items = items.map (writeAt level) := by
  induction items with
  | nil => rfl
  | cons item items ih => rw [writeItems, ih, List.map_cons]

theorem writeFields_eq (level : Nat) (members : List (String × Value)) :
    writeFields level (Settings.named members) = members.map (writeMember level) := by
  induction members with
  | nil => rfl
  | cons member members ih =>
    rw [Settings.named, List.map_cons, ← Settings.named, writeFields, ih, List.map_cons]
    rfl

theorem writeAt_text (level : Nat) (s : String) : writeAt level (.text s) = writeText s := rfl

theorem writeAt_list (level : Nat) (items : List Value) :
    writeAt level (.list items) = block level '[' ']' (items.map (writeAt (level + 1))) :=
  congrArg (block level '[' ']') (writeItems_eq (level + 1) items)

theorem writeAt_map (level : Nat) (members : List (String × Value)) :
    writeAt level (.map (Settings.named members)) =
      block level '{' '}' (members.map (writeMember (level + 1))) :=
  congrArg (block level '{' '}') (writeFields_eq (level + 1) members)

theorem block_cons (level : Nat) (opening closing : Char) (part : List Char)
    (parts : List (List Char)) :
    block level opening closing (part :: parts) = opening :: (newline (level + 1) ++
      (Text.joinWith (',' :: newline (level + 1)) (part :: parts) ++
        (newline level ++ [closing]))) := by
  simp only [block, List.cons_append, List.append_assoc]

theorem writeMember_begins (level : Nat) (member : String × Value) :
    ∃ c cs, writeMember level member = c :: cs ∧ 0x20 < c.toNat := ⟨'"', _, rfl, by decide⟩

theorem joinWith_cons_cons (sep part next : List Char) (parts : List (List Char)) :
    Text.joinWith sep (part :: next :: parts) =
      part ++ (sep ++ Text.joinWith sep (next :: parts)) := by
  rw [Text.joinWith, List.append_assoc]
  exact List.cons_ne_nil _ _

theorem head_joinWith (sep part : List Char) (parts : List (List Char)) :
    ∃ more, Text.joinWith sep (part :: parts) = part ++ more := by
  cases parts with
  | nil => exact ⟨[], (List.append_nil part).symm⟩
  | cons next parts => exact ⟨_, joinWith_cons_cons sep part next parts⟩

/-- A value begins with a visible character, which does not end a list. -/
theorem Plain.writeAt_eq_cons {depth : Nat} {v : Value} (h : Plain depth v) (level : Nat) :
    ∃ c cs, writeAt level v = c :: cs ∧ (0x20 < c.toNat ∧ c.toNat < 0x7f) ∧ c ≠ ']' := by
  have hblock (opening closing : Char) (parts : List (List Char)) :
      ∃ cs, block level opening closing parts = opening :: cs := by
    cases parts with
    | nil => exact ⟨_, rfl⟩
    | cons part parts => exact ⟨_, block_cons level opening closing part parts⟩
  cases h with
  | null => exact ⟨'n', _, rfl, by decide⟩
  | bool b =>
    cases b with
    | false => exact ⟨'f', _, rfl, by decide⟩
    | true => exact ⟨'t', _, rfl, by decide⟩
  | @int _ n hn =>
    obtain ⟨c, cs, hc, htext | htext⟩ := exists_digit_ofInt n
    · have hrange : 48 ≤ c.toNat ∧ c.toNat ≤ 57 := by
        simpa [Char.isDigit, UInt32.le_iff_toNat_le] using hc
      refine ⟨c, cs, htext, by omega, ?_⟩
      rintro rfl
      cases hc
    · exact ⟨'-', _, htext, by decide⟩
  | text s => exact ⟨'"', _, rfl, by decide⟩
  | list h =>
    obtain ⟨cs, hcs⟩ := hblock '[' ']' (writeItems (level + 1) _)
    exact ⟨'[', cs, hcs, by decide⟩
  | map hnames h =>
    obtain ⟨cs, hcs⟩ := hblock '{' '}' (writeFields (level + 1) _)
    exact ⟨'{', cs, hcs, by decide⟩

theorem Plain.begins {depth : Nat} {v : Value} (h : Plain depth v) (level : Nat) :
    ∃ c cs, writeAt level v = c :: cs ∧ 0x20 < c.toNat := by
  obtain ⟨c, cs, hwrite, ⟨hc, -⟩, -⟩ := h.writeAt_eq_cons level
  exact ⟨c, cs, hwrite, hc⟩

/-! ### Reading at any place -/

/-- The written value is read back wherever it stands, if the next part of a text or its end
follows.  The room for nested calls is twice what is read. -/
def Reads (v : Value) : Prop :=
  ∀ (level position fuel : Nat) (rest : List Char), Closes rest →
    2 * (writeAt level v).length ≤ fuel →
    ∃ next, readValue fuel ⟨position, writeAt level v ++ rest⟩ = .ok (v, ⟨next, rest⟩)

theorem isBlank_of_mem_newline {level : Nat} {c : Char} (h : c ∈ newline level) :
    isBlank c = true := by
  rcases List.mem_cons.mp h with rfl | h
  · rfl
  · obtain rfl := List.eq_of_mem_replicate h
    rfl

theorem isBlank_eq_false {c : Char} (h : 0x20 < c.toNat) : isBlank c = false := by
  have hne {d : Char} (hd : d.toNat ≤ 0x20) : (c == d) = false := by
    rw [beq_eq_false_iff_ne]
    rintro rfl
    omega
  simp only [isBlank, hne (d := ' ') (by decide), hne (d := '\t') (by decide),
    hne (d := '\n') (by decide), hne (d := '\r') (by decide), Bool.or_self]

theorem skipBlanks_newline (level position : Nat) {c : Char} {rest : List Char}
    (hc : isBlank c = false) :
    skipBlanks ⟨position, newline level ++ c :: rest⟩ =
      ⟨position + (newline level).length, c :: rest⟩ := by
  refine skipBlanks_append (fun _ => isBlank_of_mem_newline) ?_ position
  rintro _ ⟨⟩
  exact hc

theorem skipBlanks_cons (position : Nat) {c : Char} {rest : List Char} (hc : isBlank c = false) :
    skipBlanks ⟨position, c :: rest⟩ = ⟨position, c :: rest⟩ := by
  rw [skipBlanks, List.takeWhile_cons_of_neg (by simp [hc])]
  rfl

/-- The first of several parts is found behind the blanks of its line. -/
theorem skipBlanks_joinWith (level position : Nat) (sep : List Char) {part : List Char}
    (hpart : ∃ c cs, part = c :: cs ∧ 0x20 < c.toNat) (parts : List (List Char))
    (rest : List Char) :
    skipBlanks ⟨position, newline level ++ (Text.joinWith sep (part :: parts) ++ rest)⟩ =
      ⟨position + (newline level).length, Text.joinWith sep (part :: parts) ++ rest⟩ := by
  obtain ⟨c, cs, rfl, hc⟩ := hpart
  obtain ⟨more, hmore⟩ := head_joinWith sep (c :: cs) parts
  rw [hmore, List.cons_append, List.cons_append, skipBlanks_newline level _ (isBlank_eq_false hc)]

theorem closes_newline (level : Nat) (rest : List Char) : Closes (newline level ++ rest) :=
  closes_cons_iff.mpr (.inr rfl)

/-- Nothing but a text, an object or a list begins with a bracket or a quote. -/
theorem readValue_eq_readAtom (fuel position : Nat) {c : Char} {rest : List Char}
    (hc : c ≠ '"' ∧ c ≠ '{' ∧ c ≠ '[') :
    readValue (fuel + 1) ⟨position, c :: rest⟩ = readAtom ⟨position, c :: rest⟩ := by
  obtain ⟨hquote, hbrace, hbracket⟩ := hc
  rw [readValue]
  split
  · rename_i h
    exact absurd (List.cons.inj h).1 hquote
  · rename_i h
    exact absurd (List.cons.inj h).1 hbrace
  · rename_i h
    exact absurd (List.cons.inj h).1 hbracket
  · rfl

theorem reads_text (s : String) : Reads (.text s) := by
  intro level position fuel rest _ hfuel
  obtain ⟨fuel, rfl⟩ : ∃ n, fuel = n + 1 := Nat.exists_eq_add_one.mpr (by
    simp only [writeAt_text, writeText, List.cons_append, List.length_cons] at hfuel
    omega)
  obtain ⟨next, hnext⟩ := readText_writeChars position [] s.toList rest (position + 1)
  refine ⟨next, ?_⟩
  simp only [writeAt_text, writeText, List.cons_append, List.append_assoc, List.nil_append,
    readValue, Input.advance_one, hnext]
  simp [bind, Except.bind, pure, Except.pure]

theorem reads_of_readAtom {v : Value}
    (hfirst : ∀ level, ∃ c cs, writeAt level v = c :: cs ∧ c ≠ '"' ∧ c ≠ '{' ∧ c ≠ '[')
    (hatom : ∀ level position rest, Closes rest →
      ∃ next, readAtom ⟨position, writeAt level v ++ rest⟩ = .ok (v, ⟨next, rest⟩)) :
    Reads v := by
  intro level position fuel rest hrest hfuel
  obtain ⟨c, cs, hwrite, hc⟩ := hfirst level
  obtain ⟨next, hnext⟩ := hatom level position rest hrest
  obtain ⟨fuel, rfl⟩ : ∃ n, fuel = n + 1 := Nat.exists_eq_add_one.mpr (by
    rw [hwrite, List.length_cons] at hfuel
    omega)
  refine ⟨next, ?_⟩
  rw [hwrite, List.cons_append] at hnext ⊢
  rw [readValue_eq_readAtom fuel position hc, hnext]

theorem reads_null : Reads .null :=
  reads_of_readAtom (fun _ => ⟨'n', _, rfl, by decide⟩) fun _ position _ _ => ⟨position + 4, rfl⟩

theorem reads_bool (b : Bool) : Reads (.bool b) := by
  cases b with
  | false =>
    exact reads_of_readAtom (fun _ => ⟨'f', _, rfl, by decide⟩)
      fun _ position _ _ => ⟨position + 5, rfl⟩
  | true =>
    exact reads_of_readAtom (fun _ => ⟨'t', _, rfl, by decide⟩)
      fun _ position _ _ => ⟨position + 4, rfl⟩

theorem reads_int {n : Int} (hn : Decimal.isShort n = true) : Reads (.int n) := by
  refine reads_of_readAtom (fun level => ?_) fun _ position _ hrest =>
    readAtom_ofInt hn hrest position
  obtain ⟨c, cs, hc, htext | htext⟩ := exists_digit_ofInt n
  · refine ⟨c, cs, htext, ?_, ?_, ?_⟩
    all_goals
      rintro rfl
      cases hc
  · exact ⟨'-', _, htext, by decide⟩

/-- The items of a list are read back one after the other. -/
theorem readItems_writeAt {depth : Nat} {item : Value} {items : List Value}
    (hplain : ∀ v ∈ item :: items, Plain depth v) (hreads : ∀ v ∈ item :: items, Reads v)
    (level outer position fuel : Nat) (done : List Value) (rest : List Char)
    (hfuel : 2 * (Text.joinWith (',' :: newline level)
      ((item :: items).map (writeAt level))).length + 1 ≤ fuel) :
    ∃ next, readItems fuel done ⟨position, Text.joinWith (',' :: newline level)
        ((item :: items).map (writeAt level)) ++ (newline outer ++ ']' :: rest)⟩ =
      .ok (.list (done.reverse ++ item :: items), ⟨next, rest⟩) := by
  induction items generalizing item done position fuel with
  | nil =>
    obtain ⟨fuel, rfl⟩ : ∃ n, fuel = n + 1 := Nat.exists_eq_add_one.mpr (by omega)
    obtain ⟨next, hnext⟩ := hreads item List.mem_cons_self level position fuel
      (newline outer ++ ']' :: rest) (closes_newline outer _) (by
        rw [List.map_singleton, Text.joinWith] at hfuel
        omega)
    refine ⟨next + (newline outer).length + 1, ?_⟩
    rw [List.map_singleton, Text.joinWith, readItems, hnext]
    simp only [bind, Except.bind, skipBlanks_newline outer next (c := ']') rfl, Input.advance_one,
      List.reverse_cons]
  | cons second items ih =>
    obtain ⟨fuel, rfl⟩ : ∃ n, fuel = n + 1 := Nat.exists_eq_add_one.mpr (by omega)
    rw [List.map_cons, List.map_cons, joinWith_cons_cons, ← List.map_cons] at hfuel ⊢
    obtain ⟨next, hnext⟩ := hreads item List.mem_cons_self level position fuel
      (',' :: (newline level ++ (Text.joinWith (',' :: newline level)
        ((second :: items).map (writeAt level)) ++ (newline outer ++ ']' :: rest))))
      (closes_cons_iff.mpr (.inl rfl)) (by
        rw [List.length_append] at hfuel
        omega)
    obtain ⟨last, hlast⟩ := ih (fun v hv => hplain v (List.mem_cons_of_mem item hv))
      (fun v hv => hreads v (List.mem_cons_of_mem item hv))
      (next + 1 + (newline level).length) fuel (item :: done) (by
        rw [List.length_append, List.length_append] at hfuel
        simp only [List.length_cons] at hfuel ⊢
        omega)
    refine ⟨last, ?_⟩
    rw [readItems, List.append_assoc, List.append_assoc, List.cons_append, hnext]
    simp only [bind, Except.bind, skipBlanks_cons next (c := ',') rfl, Input.advance_one]
    rw [List.map_cons, skipBlanks_joinWith level _ _ ((hplain second (by simp)).begins level),
      ← List.map_cons, hlast, List.reverse_cons, List.append_assoc]
    rfl

theorem set_named {done : List (String × Value)} {name : String}
    (h : name ∉ done.map Prod.fst) (v : Value) :
    Fields.set (Settings.named done) (.text name) v = Settings.named (done ++ [(name, v)]) := by
  induction done with
  | nil => rfl
  | cons member done ih =>
    rw [List.map_cons, List.mem_cons, not_or] at h
    have hother : ¬ (Value.text member.1).sameKey (.text name) = true := by
      rw [Value.sameKey_text_iff, Value.text.injEq]
      exact fun heq => h.1 heq.symm
    rw [Settings.named, List.map_cons, ← Settings.named, Fields.set, if_neg hother, ih h.2]
    rfl

theorem name_not_mem {done members : List (String × Value)} {member : String × Value}
    (h : ((done ++ member :: members).map Prod.fst).Nodup) : member.1 ∉ done.map Prod.fst := by
  rw [List.map_append, List.nodup_append] at h
  intro hmem
  exact h.2.2 _ hmem _ List.mem_cons_self rfl

/-- A member of an object is read back, and then it depends on the next character how it goes on. -/
theorem readMembers_writeMember {depth : Nat} {member : String × Value}
    (hplain : Plain depth member.2) (hreads : Reads member.2) (level position fuel : Nat)
    (done : Fields) {rest : List Char} (hrest : Closes rest)
    (hfuel : 2 * (writeMember level member).length ≤ fuel) :
    ∃ next,
      (∀ c more, skipBlanks ⟨next, rest⟩ = ⟨c, '}' :: more⟩ →
        readMembers (fuel + 1) done ⟨position, writeMember level member ++ rest⟩ =
          .ok (.map (done.set (.text member.1) member.2), ⟨c + 1, more⟩)) ∧
      (∀ c more, skipBlanks ⟨next, rest⟩ = ⟨c, ',' :: more⟩ →
        readMembers (fuel + 1) done ⟨position, writeMember level member ++ rest⟩ =
          readMembers fuel (done.set (.text member.1) member.2) (skipBlanks ⟨c + 1, more⟩)) := by
  obtain ⟨name, v⟩ := member
  obtain ⟨colon, hname⟩ := readText_writeChars position [] name.toList
    (':' :: ' ' :: (writeAt level v ++ rest)) (position + 1)
  have hblank : skipBlanks ⟨colon + 1, ' ' :: (writeAt level v ++ rest)⟩ =
      ⟨colon + 2, writeAt level v ++ rest⟩ := by
    obtain ⟨c, cs, hwrite, hc⟩ := hplain.begins level
    rw [hwrite]
    exact skipBlanks_append (by simp [isBlank] : ∀ c ∈ [' '], isBlank c = true)
      (by simp [isBlank_eq_false hc]) (colon + 1)
  obtain ⟨next, hvalue⟩ := hreads level (colon + 2) fuel rest hrest (by
    simp only [writeMember, List.length_append, List.length_cons] at hfuel ⊢
    omega)
  refine ⟨next, ?_⟩
  constructor
  all_goals
    intro c more hskip
    simp only [writeMember, writeText, List.cons_append, List.append_assoc, List.nil_append,
      readMembers, Input.advance_one, hname, bind, Except.bind,
      skipBlanks_cons colon (c := ':') rfl, hblank, hvalue, hskip, String.ofList_toList,
      List.reverse_nil]

/-- The members of an object are read back one after the other. -/
theorem readMembers_writeMembers {depth : Nat} {member : String × Value}
    {members : List (String × Value)} (done : List (String × Value))
    (hplain : ∀ m ∈ member :: members, Plain depth m.2)
    (hreads : ∀ m ∈ member :: members, Reads m.2)
    (hnames : ((done ++ member :: members).map Prod.fst).Nodup)
    (level outer position fuel : Nat) (rest : List Char)
    (hfuel : 2 * (Text.joinWith (',' :: newline level)
      ((member :: members).map (writeMember level))).length + 1 ≤ fuel) :
    ∃ next, readMembers fuel (Settings.named done) ⟨position, Text.joinWith (',' :: newline level)
        ((member :: members).map (writeMember level)) ++ (newline outer ++ '}' :: rest)⟩ =
      .ok (.map (Settings.named (done ++ member :: members)), ⟨next, rest⟩) := by
  induction members generalizing member done position fuel with
  | nil =>
    obtain ⟨fuel, rfl⟩ : ∃ n, fuel = n + 1 := Nat.exists_eq_add_one.mpr (by omega)
    rw [List.map_singleton, Text.joinWith] at hfuel ⊢
    obtain ⟨next, hlast, -⟩ := readMembers_writeMember (hplain member List.mem_cons_self)
      (hreads member List.mem_cons_self) level position fuel (Settings.named done)
      (closes_newline outer ('}' :: rest)) (by omega)
    refine ⟨next + (newline outer).length + 1, ?_⟩
    rw [hlast _ rest (skipBlanks_newline outer next rfl), set_named (name_not_mem hnames)]
  | cons second members ih =>
    obtain ⟨fuel, rfl⟩ : ∃ n, fuel = n + 1 := Nat.exists_eq_add_one.mpr (by omega)
    rw [List.map_cons, List.map_cons, joinWith_cons_cons, ← List.map_cons] at hfuel ⊢
    rw [List.length_append] at hfuel
    obtain ⟨next, -, hnext⟩ := readMembers_writeMember (hplain member List.mem_cons_self)
      (hreads member List.mem_cons_self) level position fuel (Settings.named done)
      (closes_cons_iff.mpr (.inl rfl)) (by omega)
    obtain ⟨last, hlast⟩ := ih (done ++ [member])
      (fun m hm => hplain m (List.mem_cons_of_mem member hm))
      (fun m hm => hreads m (List.mem_cons_of_mem member hm))
      (by rw [List.append_assoc]; exact hnames) (next + 1 + (newline level).length) fuel (by
        rw [List.length_append] at hfuel
        simp only [List.length_cons] at hfuel ⊢
        omega)
    refine ⟨last, ?_⟩
    rw [List.append_assoc, List.append_assoc, List.cons_append,
      hnext _ _ (skipBlanks_cons next rfl), List.map_cons,
      skipBlanks_joinWith level _ _ (writeMember_begins level second), ← List.map_cons,
      set_named (name_not_mem hnames), hlast, List.append_assoc]
    rfl

theorem head?_eq_of_joinWith {sep part rest more : List Char} {parts : List (List Char)} {c : Char}
    (hpart : ∃ c cs, part = c :: cs ∧ 0x20 < c.toNat)
    (h : Text.joinWith sep (part :: parts) ++ rest = c :: more) : part.head? = some c := by
  obtain ⟨first, cs, rfl, -⟩ := hpart
  obtain ⟨tail, htail⟩ := head_joinWith sep (first :: cs) parts
  rw [htail] at h
  exact congrArg some (List.cons.inj h).1

theorem readValue_list (position fuel level : Nat) (sep : List Char) {part : List Char}
    (hpart : ∃ c cs, part = c :: cs ∧ 0x20 < c.toNat) (hclosing : part.head? ≠ some ']')
    (parts : List (List Char)) (rest : List Char) :
    readValue (fuel + 1) ⟨position, '[' :: (newline level ++
        (Text.joinWith sep (part :: parts) ++ rest))⟩ =
      readItems fuel [] ⟨position + 1 + (newline level).length,
        Text.joinWith sep (part :: parts) ++ rest⟩ := by
  rw [readValue]
  simp only [Input.advance_one, skipBlanks_joinWith level _ sep hpart]
  split
  · rename_i h
    exact absurd (head?_eq_of_joinWith hpart h) hclosing
  · rfl

theorem readValue_map (position fuel level : Nat) (sep : List Char) {part : List Char}
    (hpart : ∃ c cs, part = c :: cs ∧ 0x20 < c.toNat) (hclosing : part.head? ≠ some '}')
    (parts : List (List Char)) (rest : List Char) :
    readValue (fuel + 1) ⟨position, '{' :: (newline level ++
        (Text.joinWith sep (part :: parts) ++ rest))⟩ =
      readMembers fuel [] ⟨position + 1 + (newline level).length,
        Text.joinWith sep (part :: parts) ++ rest⟩ := by
  rw [readValue]
  simp only [Input.advance_one, skipBlanks_joinWith level _ sep hpart]
  split
  · rename_i h
    exact absurd (head?_eq_of_joinWith hpart h) hclosing
  · rfl

/-- A block leaves room for the calls that read its parts. -/
theorem length_block_cons (level : Nat) (opening closing : Char) (part : List Char)
    (parts : List (List Char)) :
    (Text.joinWith (',' :: newline (level + 1)) (part :: parts)).length + 4 ≤
      (block level opening closing (part :: parts)).length := by
  rw [block_cons]
  simp only [newline, List.length_cons, List.length_append, List.length_nil]
  omega

theorem reads_list {depth : Nat} {items : List Value} (hplain : ∀ item ∈ items, Plain depth item)
    (hreads : ∀ item ∈ items, Reads item) : Reads (.list items) := by
  intro level position fuel rest _ hfuel
  rw [writeAt_list] at hfuel ⊢
  cases items with
  | nil =>
    obtain ⟨fuel, rfl⟩ : ∃ n, fuel = n + 1 := Nat.exists_eq_add_one.mpr (by
      simp only [List.map_nil, block, List.length_cons] at hfuel
      omega)
    refine ⟨position + 2, ?_⟩
    simp only [List.map_nil, block, List.cons_append, List.nil_append, readValue,
      Input.advance_one, skipBlanks_cons (position + 1) (c := ']') rfl]
  | cons item items =>
    have hlength := length_block_cons level '[' ']' (writeAt (level + 1) item)
      (items.map (writeAt (level + 1)))
    rw [List.map_cons] at hfuel ⊢
    obtain ⟨fuel, rfl⟩ : ∃ n, fuel = n + 1 := Nat.exists_eq_add_one.mpr (by omega)
    obtain ⟨next, hnext⟩ := readItems_writeAt hplain hreads (level + 1) level
      (position + 1 + (newline (level + 1)).length) fuel [] rest (by
        rw [List.map_cons]
        omega)
    refine ⟨next, ?_⟩
    obtain ⟨c, cs, hwrite, -, hclosing⟩ :=
      (hplain item List.mem_cons_self).writeAt_eq_cons (level + 1)
    rw [block_cons, List.cons_append, List.append_assoc, List.append_assoc, List.append_assoc,
      readValue_list _ _ _ _ ((hplain item List.mem_cons_self).begins _)
        (by simp [hwrite, hclosing])]
    exact hnext

theorem reads_map {depth : Nat} {members : List (String × Value)}
    (hnames : (members.map Prod.fst).Nodup) (hplain : ∀ member ∈ members, Plain depth member.2)
    (hreads : ∀ member ∈ members, Reads member.2) : Reads (.map (Settings.named members)) := by
  intro level position fuel rest _ hfuel
  rw [writeAt_map] at hfuel ⊢
  cases members with
  | nil =>
    obtain ⟨fuel, rfl⟩ : ∃ n, fuel = n + 1 := Nat.exists_eq_add_one.mpr (by
      simp only [List.map_nil, block, List.length_cons] at hfuel
      omega)
    refine ⟨position + 2, ?_⟩
    simp only [List.map_nil, block, List.cons_append, List.nil_append, readValue,
      Input.advance_one, skipBlanks_cons (position + 1) (c := '}') rfl]
    rfl
  | cons member members =>
    have hlength := length_block_cons level '{' '}' (writeMember (level + 1) member)
      (members.map (writeMember (level + 1)))
    rw [List.map_cons] at hfuel ⊢
    obtain ⟨fuel, rfl⟩ : ∃ n, fuel = n + 1 := Nat.exists_eq_add_one.mpr (by omega)
    obtain ⟨next, hnext⟩ := readMembers_writeMembers [] hplain hreads hnames (level + 1)
      level (position + 1 + (newline (level + 1)).length) fuel rest (by
        rw [List.map_cons]
        omega)
    refine ⟨next, ?_⟩
    rw [block_cons, List.cons_append, List.append_assoc, List.append_assoc, List.append_assoc,
      readValue_map _ _ _ _ (writeMember_begins _ member) (by simp [writeMember, writeText])]
    exact hnext

/-- **A written value is read back at every place.** -/
theorem Plain.reads {depth : Nat} {v : Value} (h : Plain depth v) : Reads v := by
  induction h with
  | null => exact reads_null
  | bool b => exact reads_bool b
  | int hn => exact reads_int hn
  | text s => exact reads_text s
  | list hitems ih => exact reads_list hitems ih
  | map hnames hmembers ih => exact reads_map hnames hmembers ih

/-- **What is written is read back.** -/
theorem read_write {depth : Nat} {v : Value} (h : Plain depth v) :
    read (write v).toList = .ok v := by
  obtain ⟨c, cs, hwrite, ⟨hvisible, hascii⟩, -⟩ := h.writeAt_eq_cons 0
  have hmark : (writeAt 0 v).head? ≠ some (Char.ofNat 0xfeff) := by
    rw [hwrite, List.head?_cons]
    rintro ⟨⟩
    exact absurd hascii (by decide)
  have hstart : skipBlanks ⟨0, writeAt 0 v⟩ = ⟨0, writeAt 0 v⟩ := by
    rw [hwrite, skipBlanks_cons 0 (isBlank_eq_false hvisible)]
  obtain ⟨next, hnext⟩ := h.reads 0 0 (2 * (writeAt 0 v).length + 2) [] closes_nil (by omega)
  rw [List.append_nil] at hnext
  rw [write, String.toList_ofList, read, if_neg hmark, hstart, hnext]
  rfl

/-! ## Nesting -/

section Nesting

open Settings (deepPlace?)

/-- A text opens and closes brackets in pairs, and never more of them at once than there is room
for. -/
def Fits (room : Nat) (s : List Char) : Prop :=
  ∀ place rest, deepPlace? room false place (s ++ rest) =
    deepPlace? room false (place + s.length) rest

theorem Fits.append {room : Nat} {s t : List Char} (hs : Fits room s) (ht : Fits room t) :
    Fits room (s ++ t) := by
  intro place rest
  rw [List.append_assoc, hs, ht, List.length_append, Nat.add_assoc]

theorem fits_nil (room : Nat) : Fits room [] := fun _ _ => rfl

/-- The character is neither a bracket nor a quote. -/
def isLight (c : Char) : Bool := !(['[', ']', '{', '}', '"'].contains c)

theorem deepPlace?_light {c : Char} (hc : isLight c = true) (room place : Nat) (rest : List Char) :
    deepPlace? room false place (c :: rest) = deepPlace? room false (place + 1) rest := by
  have hlight : c ≠ '[' ∧ c ≠ ']' ∧ c ≠ '{' ∧ c ≠ '}' ∧ c ≠ '"' := by simpa [isLight] using hc
  have hquote : (c == '"') = false := beq_eq_false_iff_ne.mpr hlight.2.2.2.2
  cases room <;> simp [deepPlace?, hlight, hquote]

theorem deepPlace?_quote (room place : Nat) (rest : List Char) :
    deepPlace? room false place ('"' :: rest) = deepPlace? room true (place + 1) rest := by
  cases room <;> rfl

theorem deepPlace?_opening {c : Char} (hc : c = '[' ∨ c = '{') (room place : Nat)
    (rest : List Char) :
    deepPlace? (room + 1) false place (c :: rest) = deepPlace? room false (place + 1) rest := by
  rcases hc with rfl | rfl <;> rfl

theorem deepPlace?_closing {c : Char} (hc : c = ']' ∨ c = '}') (room place : Nat)
    (rest : List Char) :
    deepPlace? room false place (c :: rest) = deepPlace? (room + 1) false (place + 1) rest := by
  rcases hc with rfl | rfl <;> cases room <;> rfl

theorem fits_of_isLight {room : Nat} {s : List Char} (h : s.all isLight = true) :
    Fits room s := by
  induction s with
  | nil => exact fits_nil room
  | cons c s ih =>
    rw [List.all_cons, Bool.and_eq_true] at h
    intro place rest
    rw [List.cons_append, deepPlace?_light h.1, ih h.2, List.length_cons, Nat.add_assoc,
      Nat.add_comm 1]

/-- What stands behind a backslash does not count. -/
theorem deepPlace?_escaped (room place : Nat) (c : Char) (rest : List Char) :
    deepPlace? room true place ('\\' :: c :: rest) = deepPlace? room true (place + 2) rest := rfl

theorem deepPlace?_endQuote (room place : Nat) (rest : List Char) :
    deepPlace? room true place ('"' :: rest) = deepPlace? room false (place + 1) rest := rfl

/-- Within quotes only a quote and a backslash count. -/
theorem deepPlace?_quoted {s : List Char} (h : ∀ c ∈ s, c ≠ '"' ∧ c ≠ '\\') (room place : Nat)
    (rest : List Char) :
    deepPlace? room true place (s ++ rest) = deepPlace? room true (place + s.length) rest := by
  induction s generalizing place with
  | nil => rfl
  | cons c s ih =>
    obtain ⟨⟨hquote, hslash⟩, hs⟩ := List.forall_mem_cons.mp h
    rw [List.cons_append, deepPlace?, bne_iff_ne.mpr hquote, ih hs, List.length_cons,
      Nat.add_assoc, Nat.add_comm 1]
    exact fun _ _ heq _ => hslash heq

theorem digitChar_ne : ∀ d, d < 16 → Nat.digitChar d ≠ '"' ∧ Nat.digitChar d ≠ '\\' := by
  decide

theorem deepPlace?_unitEscape {n : Nat} (hn : n < 0x10000) (room place : Nat) (rest : List Char) :
    deepPlace? room true place (unitEscape n ++ rest) =
      deepPlace? room true (place + (unitEscape n).length) rest := by
  have hdigits : ∀ c ∈ Text.Quoted.hex 4 n, c ≠ '"' ∧ c ≠ '\\' := by
    rw [hex_four hn]
    simp only [List.forall_mem_cons]
    exact ⟨digitChar_ne _ (by omega), digitChar_ne _ (by omega), digitChar_ne _ (by omega),
      digitChar_ne _ (by omega), fun _ h => absurd h List.not_mem_nil⟩
  rw [unitEscape, List.cons_append, List.cons_append, deepPlace?_escaped, deepPlace?_quoted hdigits,
    List.length_cons, List.length_cons, Nat.add_assoc, Nat.add_comm 2]

theorem deepPlace?_writeChar (c : Char) (room place : Nat) (rest : List Char) :
    deepPlace? room true place (writeChar c ++ rest) =
      deepPlace? room true (place + (writeChar c).length) rest := by
  cases writeChar_form c with
  | short hletter hmeant hwrite =>
    rw [hwrite]
    exact deepPlace?_escaped room place _ rest
  | plain hquote hslash hrange hwrite =>
    rw [hwrite]
    exact deepPlace?_quoted (List.forall_mem_singleton.mpr ⟨hquote, hslash⟩) room place rest
  | unit hsmall hwrite =>
    rw [hwrite]
    exact deepPlace?_unitEscape hsmall room place rest
  | pair hhigh hlow hvalue hwrite =>
    rw [hwrite, List.append_assoc, deepPlace?_unitEscape (by omega),
      deepPlace?_unitEscape (by omega), List.length_append, Nat.add_assoc]

theorem fits_writeText (room : Nat) (s : String) : Fits room (writeText s) := by
  intro place rest
  have hchars : ∀ (cs : List Char) place, deepPlace? room true place
      (cs.flatMap writeChar ++ '"' :: rest) =
        deepPlace? room false (place + (cs.flatMap writeChar).length + 1) rest := by
    intro cs
    induction cs with
    | nil =>
      intro place
      rw [List.flatMap_nil, List.nil_append, deepPlace?_endQuote]
      rfl
    | cons c cs ih =>
      intro place
      rw [List.flatMap_cons, List.append_assoc, deepPlace?_writeChar, ih, List.length_append,
        Nat.add_assoc place]
  simp only [writeText, List.cons_append, List.append_assoc, List.nil_append, deepPlace?_quote,
    hchars, List.length_cons, List.length_append, List.length_nil]
  congr 1
  omega

theorem fits_newline (room level : Nat) : Fits room (newline level) := by
  refine fits_of_isLight (List.all_eq_true.mpr fun c hc => ?_)
  rcases List.mem_cons.mp hc with rfl | hc
  · decide
  · obtain rfl := List.eq_of_mem_replicate hc
    decide

theorem fits_joinWith {room : Nat} {sep : List Char} (hsep : Fits room sep)
    {parts : List (List Char)} (h : ∀ part ∈ parts, Fits room part) :
    Fits room (Text.joinWith sep parts) := by
  induction parts with
  | nil => exact fits_nil room
  | cons part parts ih =>
    obtain ⟨hpart, hparts⟩ := List.forall_mem_cons.mp h
    cases parts with
    | nil => exact hpart
    | cons next parts =>
      rw [joinWith_cons_cons]
      exact hpart.append (hsep.append (ih hparts))

/-- Brackets take one level more than what stands between them. -/
theorem fits_block {room : Nat} {opening closing : Char} (hopening : opening = '[' ∨ opening = '{')
    (hclosing : closing = ']' ∨ closing = '}') {parts : List (List Char)}
    (h : ∀ part ∈ parts, Fits room part) (level : Nat) :
    Fits (room + 1) (block level opening closing parts) := by
  have hbetween {s : List Char} (hs : Fits room s) :
      Fits (room + 1) (opening :: (s ++ [closing])) := by
    intro place rest
    rw [List.cons_append, List.append_assoc, deepPlace?_opening hopening, hs, List.cons_append,
      deepPlace?_closing hclosing, List.length_cons, List.length_append]
    simp only [List.nil_append, List.length_cons, List.length_nil]
    congr 1
    omega
  cases parts with
  | nil => exact hbetween (fits_nil room)
  | cons part parts =>
    have hcomma : Fits room (',' :: newline (level + 1)) :=
      (fits_of_isLight (s := [',']) rfl).append (fits_newline room (level + 1))
    rw [block_cons, ← List.append_assoc, ← List.append_assoc]
    exact hbetween (((fits_newline room _).append (fits_joinWith hcomma h)).append
      (fits_newline room level))

/-- A written value is nested as deep as the value. -/
theorem Plain.fits {depth : Nat} {v : Value} (h : Plain depth v) {room : Nat} (hroom : depth ≤ room)
    (level : Nat) : Fits room (writeAt level v) := by
  induction h generalizing room level with
  | null => exact fits_of_isLight rfl
  | bool b =>
    cases b with
    | false => exact fits_of_isLight rfl
    | true => exact fits_of_isLight rfl
  | @int _ n hn =>
    refine fits_of_isLight (List.all_eq_true.mpr fun c hc => ?_)
    have hlight : ['[', ']', '{', '}', '"'].all (fun c => !c.isDigit && c != '-') = true := by
      decide
    rw [isLight, Bool.not_eq_true', ← Bool.not_eq_true, List.contains_iff_mem]
    intro hmem
    have hc' := List.all_eq_true.mp hlight c hmem
    rw [Bool.and_eq_true, Bool.not_eq_true', bne_iff_ne] at hc'
    exact Report.not_mem_ofInt hc'.1 hc'.2 n hc
  | text s => exact fits_writeText room s
  | list hitems ih =>
    obtain ⟨room, rfl⟩ : ∃ n, room = n + 1 := Nat.exists_eq_add_one.mpr (by omega)
    rw [writeAt_list]
    refine fits_block (.inl rfl) (.inl rfl) (List.forall_mem_map.mpr fun item hitem => ?_) level
    exact ih item hitem (Nat.le_of_succ_le_succ hroom) (level + 1)
  | map hnames hmembers ih =>
    obtain ⟨room, rfl⟩ : ∃ n, room = n + 1 := Nat.exists_eq_add_one.mpr (by omega)
    rw [writeAt_map]
    refine fits_block (.inr rfl) (.inr rfl) (List.forall_mem_map.mpr fun member hmember => ?_) level
    have hcolon : Fits room [':', ' '] := fits_of_isLight rfl
    exact (fits_writeText room member.1).append
      (hcolon.append (ih member hmember (Nat.le_of_succ_le_succ hroom) (level + 1)))

/-- **A configuration file with the text of a value is read as that value.** -/
theorem readJson_write {depth : Nat} {v : Value} (h : Plain depth v)
    (hdepth : depth ≤ Settings.maxJsonNesting) (path : String) :
    Settings.readJson path (write v).toList = .ok v := by
  have hdeep : deepPlace? Settings.maxJsonNesting false 0 (write v).toList = none := by
    have hfits := h.fits hdepth 0 0 []
    rw [List.append_nil] at hfits
    rw [write, String.toList_ofList, hfits]
    rfl
  simp only [Settings.readJson, read_write h, hdeep]
  rfl

end Nesting

/-! ## Characters -/

section Characters

/-- A line feed, or a visible ASCII character or blank. -/
def isWritten (c : Char) : Bool := c == '\n' || decide (0x20 ≤ c.toNat ∧ c.toNat < 0x7f)

theorem isWritten_of_range {c : Char} (h : 0x20 ≤ c.toNat ∧ c.toNat < 0x7f) :
    isWritten c = true := by
  rw [isWritten, decide_eq_true h, Bool.or_true]

theorem isWritten_digitChar : ∀ d, d < 16 → isWritten (Nat.digitChar d) = true := by
  decide

theorem isWritten_unitEscape {n : Nat} (hn : n < 0x10000) :
    (unitEscape n).all isWritten = true := by
  rw [unitEscape, hex_four hn]
  simp only [List.all_cons, List.all_nil, isWritten_digitChar (n / 4096) (by omega),
    isWritten_digitChar (n / 256 % 16) (by omega), isWritten_digitChar (n / 16 % 16) (by omega),
    isWritten_digitChar (n % 16) (by omega)]
  rfl

theorem isWritten_writeChar (c : Char) : (writeChar c).all isWritten = true := by
  cases writeChar_form c with
  | @short letter hletter hmeant hwrite =>
    have hletters : escapeLetters.all isWritten = true := by decide
    rw [hwrite, List.all_cons, List.all_cons, List.all_eq_true.mp hletters letter hletter]
    rfl
  | plain hquote hslash hrange hwrite =>
    rw [hwrite, List.all_cons, isWritten_of_range hrange]
    rfl
  | unit hsmall hwrite =>
    rw [hwrite]
    exact isWritten_unitEscape hsmall
  | pair hhigh hlow hvalue hwrite =>
    rw [hwrite, List.all_append, isWritten_unitEscape (by omega), isWritten_unitEscape (by omega)]
    rfl

theorem isWritten_writeText (s : String) : (writeText s).all isWritten = true := by
  have hchars : (s.toList.flatMap writeChar).all isWritten = true := by
    rw [List.all_flatMap, List.all_eq_true]
    exact fun c _ => isWritten_writeChar c
  rw [writeText, List.cons_append, List.all_cons, List.all_append, hchars]
  rfl

theorem isWritten_newline (level : Nat) : (newline level).all isWritten = true := by
  rw [newline, List.all_cons, List.all_replicate]
  split <;> rfl

theorem isWritten_joinWith {sep : List Char} (hsep : sep.all isWritten = true)
    {parts : List (List Char)} (h : ∀ part ∈ parts, part.all isWritten = true) :
    (Text.joinWith sep parts).all isWritten = true := by
  induction parts with
  | nil => rfl
  | cons part parts ih =>
    obtain ⟨hpart, hparts⟩ := List.forall_mem_cons.mp h
    cases parts with
    | nil => exact hpart
    | cons next parts => rw [joinWith_cons_cons, List.all_append, List.all_append, hpart, hsep,
        ih hparts, Bool.and_self, Bool.and_self]

theorem isWritten_block {opening closing : Char} (hopening : isWritten opening = true)
    (hclosing : isWritten closing = true) {parts : List (List Char)}
    (h : ∀ part ∈ parts, part.all isWritten = true) (level : Nat) :
    (block level opening closing parts).all isWritten = true := by
  cases parts with
  | nil => simp [block, hopening, hclosing]
  | cons part parts =>
    have hcomma : (',' :: newline (level + 1)).all isWritten = true := by
      rw [List.all_cons, isWritten_newline]
      rfl
    simp [block_cons, hopening, hclosing, isWritten_newline, isWritten_joinWith hcomma h]

theorem Plain.isWritten {depth : Nat} {v : Value} (h : Plain depth v) (level : Nat) :
    (writeAt level v).all isWritten = true := by
  induction h generalizing level with
  | null => rfl
  | bool b => cases b <;> rfl
  | @int _ n hn =>
    rw [List.all_eq_true]
    intro c hc
    refine isWritten_of_range ?_
    by_cases hsign : c = '-'
    · subst hsign
      decide
    · have hdigit : c.isDigit = true := by
        by_contra hdigit
        exact Report.not_mem_ofInt (Bool.not_eq_true _ ▸ hdigit) hsign n hc
      have hrange : 48 ≤ c.toNat ∧ c.toNat ≤ 57 := by
        simpa [Char.isDigit, UInt32.le_iff_toNat_le] using hdigit
      omega
  | text s => exact isWritten_writeText s
  | list hitems ih =>
    rw [writeAt_list]
    refine isWritten_block rfl rfl (List.forall_mem_map.mpr fun item hitem => ?_) level
    exact ih item hitem (level + 1)
  | map hnames hmembers ih =>
    rw [writeAt_map]
    refine isWritten_block rfl rfl (List.forall_mem_map.mpr fun member hmember => ?_) level
    rw [writeMember, List.all_append, isWritten_writeText, List.all_cons, List.all_cons,
      ih member hmember (level + 1)]
    rfl

theorem unifyNewlines_eq {s : List Char} (h : '\r' ∉ s) : Settings.unifyNewlines s = s := by
  induction s with
  | nil => rfl
  | cons c s ih =>
    rw [List.mem_cons, not_or] at h
    rw [Settings.unifyNewlines, ih h.2]
    · intro _ heq
      exact absurd heq.symm h.1
    · intro heq
      exact absurd heq.symm h.1

/-- **A file with the text of a value is a configuration file with this value.** -/
theorem valueOf_write {depth : Nat} {v : Value} (h : Plain depth v)
    (hdepth : depth ≤ Settings.maxJsonNesting) {path : String}
    (hpath : Settings.isJson path = true) :
    Settings.valueOf path (bytesOf (write v)) = .ok v := by
  have hwritten : ∀ c ∈ (write v).toList, Json.isWritten c = true := by
    rw [write, String.toList_ofList]
    exact List.all_eq_true.mp (h.isWritten 0)
  have hreturn : '\r' ∉ (write v).toList := by
    intro hmem
    have := hwritten _ hmem
    cases this
  rw [Settings.valueOf, bytesOf, Utf8.decode?_encode]
  dsimp only
  rw [if_pos hpath, unifyNewlines_eq hreturn, readJson_write h hdepth]

end Characters

end Cyclometry.Json
