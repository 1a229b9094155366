import Mathlib.Data.List.Pairwise
import Cyclometry.Proofs.Fallible
import Cyclometry.Settings

/-!
# The keys of what is read

A mapping that is read from a file has no key twice: of several fields of one key, the last one
gives the value and the first one the place (`Json.wellKeyed_read`, `Yaml.wellKeyed_read`).  So it
makes sense to speak of *the* value that a file gives to a name.

Both readers build a mapping by `assign`, which keeps its keys apart.  The rest is an invariant of
the reader: for JSON of the recursion on the text, for YAML of the work on the document, in which
collections wait for their parts (`Yaml.Keeps`).
-/

namespace Cyclometry

/-! ## Giving keys their values -/

section Assign

variable {κ α : Type} (same : κ → κ → Bool)

/-- Give a key a value.  A key that is there stays where and as it is. -/
def assign : List (κ × α) → κ → α → List (κ × α)
  | [], key, value => [(key, value)]
  | field :: rest, key, value =>
    if same field.1 key then (field.1, value) :: rest else field :: assign rest key value

/-- No key is the same as one in front of it. -/
def Apart (fields : List (κ × α)) : Prop := fields.Pairwise fun a b => same a.1 b.1 = false

variable {same}

theorem mem_assign {fields : List (κ × α)} {key : κ} {value : α} {field : κ × α}
    (h : field ∈ assign same fields key value) :
    (field.1 = key ∨ ∃ old ∈ fields, field.1 = old.1) ∧ (field.2 = value ∨ field ∈ fields) := by
  induction fields with
  | nil =>
    obtain rfl := List.mem_singleton.mp h
    exact ⟨.inl rfl, .inl rfl⟩
  | cons first rest ih =>
    rw [assign] at h
    split at h
    · rcases List.mem_cons.mp h with rfl | h
      · exact ⟨.inr ⟨first, List.mem_cons_self, rfl⟩, .inl rfl⟩
      · have hmem := List.mem_cons_of_mem first h
        exact ⟨.inr ⟨field, hmem, rfl⟩, .inr hmem⟩
    · rcases List.mem_cons.mp h with rfl | h
      · exact ⟨.inr ⟨field, List.mem_cons_self, rfl⟩, .inr List.mem_cons_self⟩
      · obtain ⟨hkey, hvalue⟩ := ih h
        refine ⟨hkey.imp_right ?_, hvalue.imp_right (List.mem_cons_of_mem first)⟩
        rintro ⟨old, hold, heq⟩
        exact ⟨old, List.mem_cons_of_mem first hold, heq⟩

theorem Apart.assign {fields : List (κ × α)} (h : Apart same fields) (key : κ) (value : α) :
    Apart same (assign same fields key value) := by
  induction fields with
  | nil => exact List.pairwise_singleton _ _
  | cons first rest ih =>
    obtain ⟨hfirst, hrest⟩ := List.pairwise_cons.mp h
    rw [Cyclometry.assign]
    split
    · exact List.pairwise_cons.mpr ⟨hfirst, hrest⟩
    · rename_i hne
      refine List.pairwise_cons.mpr ⟨fun field hfield => ?_, ih hrest⟩
      rcases (mem_assign hfield).1 with heq | ⟨old, hold, heq⟩
      · rw [heq]
        exact Bool.not_eq_true _ ▸ hne
      · rw [heq]
        exact hfirst old hold

end Assign

theorem Fields.set_eq_assign (fields : Fields) (key value : Value) :
    fields.set key value = assign Value.sameKey fields key value := by
  induction fields with
  | nil => rfl
  | cons field rest ih => rw [set, assign, ih]

/-! ## Values without repeated keys -/

namespace Value

theorem sameKey_text_iff {key : Value} {name : String} :
    key.sameKey (.text name) = true ↔ key = .text name := by
  cases key <;> simp [sameKey, toInt?]

theorem not_isMap_of_isKey {key : Value} (h : key.isKey = true) : key.isMap = false := by
  cases key with
  | map fields => cases h
  | _ => rfl

/-- The keys of a mapping may be keys and are apart, and so are those of every mapping that is a
value in it. -/
inductive WellKeyed : Value → Prop
  | plain {v : Value} (h : v.isMap = false) : WellKeyed v
  | map {fields : Fields} (hkeys : ∀ field ∈ fields, field.1.isKey = true)
      (hapart : Apart sameKey fields) (hvalues : ∀ field ∈ fields, WellKeyed field.2) :
      WellKeyed (.map fields)

namespace WellKeyed

variable {fields : Fields}

theorem isKey (h : WellKeyed (.map fields)) : ∀ field ∈ fields, field.1.isKey = true := by
  cases h with
  | plain h => cases h
  | map hkeys _ _ => exact hkeys

theorem apart (h : WellKeyed (.map fields)) : Apart sameKey fields := by
  cases h with
  | plain h => cases h
  | map _ hapart _ => exact hapart

theorem value (h : WellKeyed (.map fields)) : ∀ field ∈ fields, WellKeyed field.2 := by
  cases h with
  | plain h => cases h
  | map _ _ hvalues => exact hvalues

theorem empty : WellKeyed (.map []) :=
  .map (fun _ h => absurd h List.not_mem_nil) List.Pairwise.nil fun _ h => absurd h List.not_mem_nil

theorem cons {key v : Value} (hkey : key.isKey = true)
    (hapart : ∀ field ∈ fields, key.sameKey field.1 = false) (hv : WellKeyed v)
    (hfields : WellKeyed (.map fields)) : WellKeyed (.map ((key, v) :: fields)) :=
  .map (List.forall_mem_cons.mpr ⟨hkey, hfields.isKey⟩)
    (List.pairwise_cons.mpr ⟨hapart, hfields.apart⟩)
    (List.forall_mem_cons.mpr ⟨hv, hfields.value⟩)

theorem tail {field : Value × Value} (h : WellKeyed (.map (field :: fields))) :
    WellKeyed (.map fields) :=
  .map (List.forall_mem_cons.mp h.isKey).2 (List.pairwise_cons.mp h.apart).2
    (List.forall_mem_cons.mp h.value).2

theorem set (h : WellKeyed (.map fields)) {key v : Value} (hkey : key.isKey = true)
    (hv : WellKeyed v) : WellKeyed (.map (fields.set key v)) := by
  rw [Fields.set_eq_assign]
  refine .map (fun field hfield => ?_) (h.apart.assign key v) fun field hfield => ?_
  · rcases (mem_assign hfield).1 with heq | ⟨old, hold, heq⟩
    · rw [heq]
      exact hkey
    · rw [heq]
      exact h.isKey old hold
  · rcases (mem_assign hfield).2 with heq | hmem
    · rw [heq]
      exact hv
    · exact h.value field hmem

end WellKeyed

end Value

/-! ## JSON -/

namespace Json

open Value (WellKeyed)

theorem wellKeyed_readAtom {i j : Input} {v : Value} (h : readAtom i = .ok (v, j)) :
    WellKeyed v := by
  have hwords : words.all (fun word => !word.2.isMap) = true := rfl
  rw [readAtom] at h
  split at h
  · rename_i word value hfind
    obtain rfl : value = v := congrArg Prod.fst (Except.ok.inj h)
    have hword := List.all_eq_true.mp hwords _ (List.mem_of_find?_eq_some hfind)
    exact .plain (by simpa using hword)
  · split at h
    · rename_i n hn
      rw [Numeral.value] at h
      split at h
      · split at h
        · obtain rfl := congrArg Prod.fst (Except.ok.inj h)
          exact .plain rfl
        · cases h
      · obtain rfl := congrArg Prod.fst (Except.ok.inj h)
        exact .plain rfl
    · cases h

/-- Whatever is read has its keys apart.  The induction is on the room that is left for nested
values, for all three readers at once. -/
theorem wellKeyed_readValue (fuel : Nat) :
    (∀ i j v, readValue fuel i = .ok (v, j) → WellKeyed v) ∧
    (∀ done i j v, readItems fuel done i = .ok (v, j) → WellKeyed v) ∧
    (∀ done i j v, WellKeyed (.map done) → readMembers fuel done i = .ok (v, j) →
      WellKeyed v) := by
  induction fuel with
  | zero =>
    exact ⟨fun i j v h => (nomatch h), fun done i j v h => (nomatch h),
      fun done i j v _ h => (nomatch h)⟩
  | succ fuel ih =>
    obtain ⟨hvalue, hitems, hmembers⟩ := ih
    refine ⟨fun i j v h => ?_, fun done i j v h => ?_, fun done i j v hdone h => ?_⟩
    · rw [readValue] at h
      split at h
      · obtain ⟨⟨s, next⟩, -, h⟩ := exists_of_bind_eq_ok h
        cases h
        exact .plain rfl
      · dsimp only at h
        split at h
        · cases h
          exact .empty
        · exact hmembers [] _ _ _ .empty h
      · dsimp only at h
        split at h
        · cases h
          exact .plain rfl
        · exact hitems [] _ _ _ h
      · exact wellKeyed_readAtom h
    · rw [readItems] at h
      obtain ⟨⟨item, next⟩, -, h⟩ := exists_of_bind_eq_ok h
      dsimp only at h
      split at h
      · cases h
        exact .plain rfl
      · exact hitems _ _ _ _ h
      · cases h
    · rw [readMembers] at h
      split at h
      · obtain ⟨⟨name, next⟩, -, h⟩ := exists_of_bind_eq_ok h
        dsimp only at h
        split at h
        · obtain ⟨⟨value, next⟩, hread, h⟩ := exists_of_bind_eq_ok h
          have hkey : (Value.text name).isKey = true := rfl
          have hset := hdone.set hkey (hvalue _ _ _ hread)
          dsimp only at h
          split at h
          · cases h
            exact hset
          · exact hmembers _ _ _ _ hset h
          · cases h
        · cases h
      · cases h

/-- **A JSON text gives no key twice.** -/
theorem wellKeyed_read {source : List Char} {v : Value} (h : read source = .ok v) :
    WellKeyed v := by
  rw [read] at h
  split at h
  · cases h
  · obtain ⟨⟨value, next⟩, hread, h⟩ := exists_of_bind_eq_ok h
    dsimp only at h
    split at h
    · cases h
      exact (wellKeyed_readValue _).1 _ _ _ hread
    · cases h

end Json

/-! ## YAML -/

namespace Yaml

open Value (WellKeyed)

theorem setField_eq_assign (fields : List (Value × Part)) (key : Value) (part : Part) :
    setField fields key part = assign Value.sameKey fields key part := by
  induction fields with
  | nil => rfl
  | cons field rest ih => rw [setField, assign, ih]

theorem stampValue_isKey {text : String} {v : Value} (h : stampValue text = .ok v) :
    v.isKey = true := by
  rw [stampValue] at h
  split at h
  · cases h
  · split at h
    · cases h
    · split at h
      · cases h
        rfl
      · dsimp only at h
        split at h
        · cases h
        · cases h
          rfl

theorem scalarValue_isKey {tag : Tag} {text : String} {v : Value}
    (h : scalarValue tag text = .ok v) : v.isKey = true := by
  have hmap {α : Type} {make : α → Value} {x : Except Fault α} (hmake : ∀ a, (make a).isKey = true)
      (h : x.map make = .ok v) : v.isKey = true := by
    cases x with
    | error fault => cases h
    | ok a =>
      cases h
      exact hmake a
  unfold scalarValue at h
  split at h
  · cases h
    rfl
  · exact hmap (fun _ => rfl) h
  · exact hmap (fun _ => rfl) h
  · exact hmap (fun _ => rfl) h
  · exact stampValue_isKey h
  · cases h
    rfl
  · split at h
    · split at h
      · cases h
        rfl
      · cases h
    · cases h
  · cases h

theorem atomValue_isKey {g : Graph} {id : NodeId} {v : Value} (h : atomValue g id = .ok v) :
    v.isKey = true := by
  rw [atomValue] at h
  split at h
  · cases h
  · obtain ⟨text, -, h⟩ := exists_of_bind_eq_ok h
    split at h
    · cases h
    · exact scalarValue_isKey h

theorem marked_isKey {g : Graph} {id : NodeId} {v : Value} (h : v.isKey = true) :
    (marked g id v).isKey = true := by
  unfold marked
  split
  · split
    · rfl
    · exact h
  · exact h

/-- The part is a collection, or may be a key. -/
def Part.Plain : Part → Prop
  | .value v => v.isKey = true
  | .collection _ => True

/-- Some fields have keys and plain parts. -/
def PlainFields (fields : List (Value × Part)) : Prop :=
  ∀ field ∈ fields, field.1.isKey = true ∧ field.2.Plain

/-- The keys of the collection may be keys and are apart, if it is a mapping. -/
def Shape.Sound : Shape → Prop
  | .map fields => Apart Value.sameKey fields ∧ PlainFields fields
  | _ => True

/-- What has been made so far is sound. -/
structure Builder.Sound (b : Builder) : Prop where
  parts : ∀ (id : NodeId) (p : Part), b.parts[id]? = some (some p) → p.Plain
  shapes : ∀ (id : NodeId) (s : Shape), b.shapes[id]? = some (some s) → s.Sound

namespace Builder

theorem sound_start (g : Graph) : Sound (start g) := by
  constructor
  · intro id p h
    rw [start, Array.getElem?_replicate] at h
    split at h
    · cases h
    · cases h
  · intro id s h
    rw [start, Array.getElem?_replicate] at h
    split at h
    · cases h
    · cases h

theorem of_getElem?_setIfInBounds {α : Type} {xs : Array (Option α)} {i j : Nat} {a b : α}
    (h : (xs.setIfInBounds i (some a))[j]? = some (some b)) : b = a ∨ xs[j]? = some (some b) := by
  rw [Array.getElem?_setIfInBounds] at h
  split at h
  · split at h
    · cases h
      exact .inl rfl
    · cases h
  · exact .inr h

theorem Sound.setPart {b : Builder} (h : b.Sound) {p : Part} (hp : p.Plain) (id : NodeId)
    (waiting : List NodeId) :
    Sound { b with parts := b.parts.setIfInBounds id (some p), waiting } := by
  refine ⟨fun other q hq => ?_, h.shapes⟩
  rcases of_getElem?_setIfInBounds hq with rfl | hq
  · exact hp
  · exact h.parts other q hq

theorem Sound.setShape {b : Builder} (h : b.Sound) {s : Shape} (hs : s.Sound) (id : NodeId) :
    Sound { b with shapes := b.shapes.setIfInBounds id (some s) } := by
  refine ⟨h.parts, fun other t ht => ?_⟩
  rcases of_getElem?_setIfInBounds ht with rfl | ht
  · exact hs
  · exact h.shapes other t ht

end Builder

/-! ### Each step of the work keeps what has been made sound -/

open Builder (Sound)

theorem keeps_part (id : NodeId) : Keeps Sound Part.Plain (part id) := by
  refine keeps_get.bind fun b hb => ?_
  split
  · rename_i p hp
    exact keeps_pure (hb.parts id p (Option.join_eq_some_iff.mp hp))
  · split
    · have hplain : (Part.collection id).Plain := trivial
      exact (keeps_set (hb.setPart hplain id _)).bind fun _ _ => keeps_pure hplain
    · refine keeps_lift.bind fun v hv => ?_
      have hplain : (Part.value (marked b.graph id v)).Plain :=
        marked_isKey (atomValue_isKey hv)
      exact (keeps_set (hb.setPart hplain id _)).bind fun _ _ => keeps_pure hplain

theorem keeps_keyPart (id : NodeId) : Keeps Sound (fun key => key.isKey = true) (keyPart id) := by
  refine (keeps_part id).bind fun p hp => ?_
  cases p with
  | value v => exact keeps_pure hp
  | collection inner => exact keeps_throw

/-- The fields of a mapping are built one by one, so that their keys stay apart. -/
theorem apart_foldl_setField {parts done : List (Value × Part)} (hdone : Apart Value.sameKey done)
    (hplain : PlainFields done) (hparts : PlainFields parts) :
    let fields := parts.foldl (fun done field => setField done field.1 field.2) done
    Apart Value.sameKey fields ∧ PlainFields fields := by
  induction parts generalizing done with
  | nil => exact ⟨hdone, hplain⟩
  | cons field parts ih =>
    obtain ⟨hfield, hrest⟩ := List.forall_mem_cons.mp hparts
    refine ih ?_ ?_ hrest
    · change Apart Value.sameKey (setField done field.1 field.2)
      rw [setField_eq_assign]
      exact hdone.assign _ _
    · intro other hother
      change other ∈ setField done field.1 field.2 at hother
      rw [setField_eq_assign] at hother
      obtain ⟨hkey, hpart⟩ := mem_assign hother
      constructor
      · rcases hkey with heq | ⟨old, hold, heq⟩
        · rw [heq]
          exact hfield.1
        · rw [heq]
          exact (hplain old hold).1
      · rcases hpart with heq | hmem
        · rw [heq]
          exact hfield.2
        · exact (hplain other hmem).2

theorem keeps_mappingParts (id : NodeId) :
    Keeps Sound (fun fields => Apart Value.sameKey fields ∧ PlainFields fields)
      (mappingParts id) := by
  refine keeps_get.bind fun b hb => keeps_lift.bind fun flat _ => ?_
  have hset : Sound { b with graph := flat.1 } := ⟨hb.parts, hb.shapes⟩
  refine (keeps_set hset).bind fun _ _ => ?_
  have hfield (field : NodeField) :
      Keeps Sound (fun made : Value × Part => made.1.isKey = true ∧ made.2.Plain) (do
        let k ← keyPart field.1
        let p ← part field.2
        pure (k, p)) :=
    (keeps_keyPart field.1).bind fun k hk => (keeps_part field.2).bind fun p hp =>
      keeps_pure ⟨hk, hp⟩
  refine (keeps_mapM hfield flat.2).bind fun parts hparts => keeps_pure ?_
  exact apart_foldl_setField List.Pairwise.nil (fun _ h => absurd h List.not_mem_nil) hparts

theorem keeps_sequenceItems (id : NodeId) : Keeps Sound (fun _ => True) (sequenceItems id) := by
  refine keeps_get.bind fun b _ => ?_
  split
  · exact keeps_pure trivial
  · exact keeps_throw

theorem keeps_pairParts (id : NodeId) : Keeps Sound (fun _ => True) (pairParts id) := by
  refine keeps_get.bind fun b _ => ?_
  split
  · rename_i field _
    exact (keeps_part field.1).bind fun k _ => (keeps_part field.2).bind fun v _ =>
      keeps_pure trivial
  · exact keeps_throw

theorem keeps_shape (id : NodeId) : Keeps Sound Shape.Sound (shape id) := by
  refine keeps_get.bind fun b _ => ?_
  split
  · exact (keeps_sequenceItems id).bind fun items _ =>
      (keeps_mapM keeps_part items).bind fun _ _ => keeps_pure trivial
  · exact (keeps_mappingParts id).bind fun fields hfields => keeps_pure hfields
  · exact (keeps_mappingParts id).bind fun fields _ => keeps_pure trivial
  · exact (keeps_sequenceItems id).bind fun items _ =>
      (keeps_mapM keeps_pairParts items).bind fun _ _ => keeps_pure trivial

theorem keeps_finish (id : NodeId) : Keeps Sound (fun _ => True) (finish id) :=
  (keeps_shape id).bind fun _ hs => keeps_modify fun _ hb => hb.setShape hs id

theorem keeps_finishAll (rounds : Nat) : Keeps Sound (fun _ => True) (finishAll rounds) := by
  induction rounds with
  | zero => exact keeps_pure trivial
  | succ rounds ih =>
    refine keeps_get.bind fun b _ => ?_
    dsimp only
    split
    · exact keeps_pure trivial
    · exact (keeps_modify fun b hb => ⟨hb.parts, hb.shapes⟩).bind fun _ _ =>
        (keeps_forM keeps_finish _).bind fun _ _ => ih

/-! ### Laying out -/

/-- Every collection is laid out so that its keys are apart. -/
def LaidOut (layers : Array Layer) : Prop :=
  ∀ (id : NodeId) (layer : Layer), layers[id]? = some layer → WellKeyed layer.value

theorem LaidOut.getD {layers : Array Layer} (h : LaidOut layers) (id : NodeId) :
    WellKeyed (layers[id]?.getD Layer.none).value := by
  cases hlayer : layers[id]? with
  | none => exact .plain rfl
  | some layer => exact h id layer hlayer

theorem LaidOut.part {layers : Array Layer} (h : LaidOut layers) {p : Part} (hp : p.Plain) :
    WellKeyed (p.layer layers).value := by
  cases p with
  | value v => exact .plain (Value.not_isMap_of_isKey hp)
  | collection id => exact h.getD id

theorem LaidOut.shape {layers : Array Layer} (h : LaidOut layers) {s : Shape} (hs : s.Sound) :
    WellKeyed (s.layer layers).value := by
  cases s with
  | list items => exact .plain rfl
  | pairs items => exact .plain rfl
  | set members => exact .plain rfl
  | map fields =>
    obtain ⟨hapart, hplain⟩ := hs
    simp only [Shape.layer, List.map_map]
    refine .map ?_ (List.pairwise_map.mpr hapart) ?_
    · intro field hfield
      obtain ⟨made, hmade, rfl⟩ := List.mem_map.mp hfield
      exact (hplain made hmade).1
    · intro field hfield
      obtain ⟨made, hmade, rfl⟩ := List.mem_map.mp hfield
      exact h.part (hplain made hmade).2

theorem LaidOut.deepen {layers : Array Layer} (h : LaidOut layers)
    {shapes : Array (Option Shape)}
    (hshapes : ∀ (id : NodeId) (s : Shape), shapes[id]? = some (some s) → s.Sound) :
    LaidOut (deepen shapes layers) := by
  intro id layer hlayer
  rw [Yaml.deepen, Array.getElem?_mapIdx] at hlayer
  obtain ⟨old, hold, rfl⟩ := Option.map_eq_some_iff.mp hlayer
  split
  · exact h id old hold
  · split
    · rename_i s hs
      exact h.shape (hshapes id s (Option.join_eq_some_iff.mp hs))
    · exact h id old hold

theorem wellKeyed_layOut {shapes : Array (Option Shape)}
    (hshapes : ∀ (id : NodeId) (s : Shape), shapes[id]? = some (some s) → s.Sound) (id : NodeId)
    (depth : Nat) {layers : Array Layer} (h : LaidOut layers) :
    WellKeyed (layOut shapes id depth layers) := by
  induction depth generalizing layers with
  | zero => exact h.getD id
  | succ depth ih =>
    rw [layOut]
    split
    · exact h.getD id
    · exact ih (h.deepen hshapes)

theorem Document.wellKeyed_value {d : Document} {v : Value} (h : d.value = .ok v) :
    WellKeyed v := by
  rw [Document.value] at h
  obtain ⟨⟨p, b⟩, hbuild, h⟩ := exists_of_bind_eq_ok h
  have hkeeps : Keeps Sound Part.Plain (do
      let p ← part d.root
      finishAll (d.graph.nodes.size + 1)
      pure p) :=
    (keeps_part d.root).bind fun p hp => (keeps_finishAll _).bind fun _ _ => keeps_pure hp
  obtain ⟨hb, hp⟩ := hkeeps _ (Builder.sound_start d.graph) p b hbuild
  cases p with
  | value w =>
    cases h
    exact .plain (Value.not_isMap_of_isKey hp)
  | collection id =>
    cases h
    refine wellKeyed_layOut hb.shapes id _ fun other layer hlayer => ?_
    rw [Array.getElem?_replicate] at hlayer
    split at hlayer
    · cases hlayer
      exact .plain rfl
    · cases hlayer

/-- **A YAML document gives no key twice.** -/
theorem wellKeyed_read {source : List Char} {v : Value} (h : read source = .ok v) :
    WellKeyed v := by
  rw [read] at h
  obtain ⟨document, -, h⟩ := exists_of_bind_eq_ok h
  cases document with
  | none =>
    cases h
    exact .plain rfl
  | some d => exact d.wellKeyed_value h

end Yaml

end Cyclometry
