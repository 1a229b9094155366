import Cyclometry.Proofs.DistinctKeys
import Cyclometry.Proofs.KeyIdentity

/-!
# Merging mappings

Mappings are merged leaf by leaf.  What the merged mapping has at a path of keys is what the
overriding one has there, but where both have mappings these are merged in turn; and where the
overriding one has nothing, the base is left alone as long as the path has been leading through
mappings on both sides (`Settings.lookup?_mergeFields_of_some`,
`Settings.lookup?_mergeFields_of_none`).  Both follow from what a merge does at one level: to the
value of each key (`Settings.find?_mergeFields`) and to the list of keys
(`Settings.keys_mergeFields`).  A mapping is determined by the two (`Fields.ext_of_keys`), so
merging the same thing again changes nothing (`Settings.mergeFields_again`).
-/

namespace Cyclometry

/-! ## Values of keys -/

namespace Fields

/-- The keys of a mapping in order. -/
def keys (fields : Fields) : List Value := fields.map (·.1)

theorem keys_cons (field : Value × Value) (rest : Fields) :
    keys (field :: rest) = field.1 :: keys rest := rfl

theorem find?_cons (field : Value × Value) (rest : Fields) (key : Value) :
    find? (field :: rest) key = if field.1.sameKey key then some field.2 else rest.find? key := by
  rw [find?, List.find?_cons]
  cases field.1.sameKey key <;> rfl

theorem find?_eq_none_iff {fields : Fields} {key : Value} :
    fields.find? key = none ↔ ∀ field ∈ fields, field.1.sameKey key = false := by
  simp [find?]

theorem mem_of_find? {fields : Fields} {key v : Value} (h : fields.find? key = some v) :
    ∃ other, other.sameKey key = true ∧ (other, v) ∈ fields := by
  obtain ⟨field, hfind, rfl⟩ := Option.map_eq_some_iff.mp h
  exact ⟨field.1, by simpa using List.find?_some hfind, List.mem_of_find?_eq_some hfind⟩

theorem find?_congr {key other : Value} (h : key.sameKey other = true) (fields : Fields) :
    fields.find? key = fields.find? other := by
  have hsame (a : Value) : a.sameKey key = a.sameKey other := by
    rw [Value.sameKey_comm, Value.sameKey_congr h, Value.sameKey_comm]
  simp only [find?, hsame]

/-- The key of a field is not among those behind it. -/
theorem find?_rest {field : Value × Value} {rest : Fields} (h : Apart Value.sameKey (field :: rest))
    {key : Value} (hkey : field.1.sameKey key = true) : rest.find? key = none := by
  refine find?_eq_none_iff.mpr fun other hother => ?_
  rw [Value.sameKey_comm, ← Value.sameKey_congr hkey]
  exact (List.pairwise_cons.mp h).1 other hother

theorem find?_set (fields : Fields) (key value other : Value) :
    (fields.set key value).find? other =
      if key.sameKey other then some value else fields.find? other := by
  induction fields with
  | nil => rw [set, find?_cons]
  | cons field rest ih =>
    rw [set]
    by_cases hkey : field.1.sameKey key = true
    · rw [if_pos hkey, find?_cons, find?_cons, Value.sameKey_congr hkey]
      by_cases hother : key.sameKey other = true
      · rw [if_pos hother, if_pos hother]
      · rw [if_neg hother, if_neg hother, if_neg hother]
    · rw [if_neg hkey, find?_cons, find?_cons, ih]
      by_cases hfield : field.1.sameKey other = true
      · have hother : ¬ key.sameKey other = true := by
          rw [Value.sameKey_comm, ← Value.sameKey_congr hfield]
          exact hkey
        rw [if_pos hfield, if_pos hfield, if_neg hother]
      · rw [if_neg hfield, if_neg hfield]

theorem keys_set (fields : Fields) (key value : Value) :
    (fields.set key value).keys =
      if (fields.find? key).isSome then fields.keys else fields.keys ++ [key] := by
  induction fields with
  | nil => rfl
  | cons field rest ih =>
    rw [set, find?_cons]
    by_cases hkey : field.1.sameKey key = true
    · rw [if_pos hkey, if_pos hkey]
      rfl
    · rw [if_neg hkey, if_neg hkey]
      rw [keys_cons, ih, keys_cons, apply_ite (List.cons field.1)]
      rfl

/-- **A mapping is determined by its keys and their values.** -/
theorem ext_of_keys {xs ys : Fields} (hxs : Apart Value.sameKey xs) (hys : Apart Value.sameKey ys)
    (hself : ∀ key ∈ xs.keys, key.isKey = true) (hkeys : xs.keys = ys.keys)
    (hfind : ∀ key, xs.find? key = ys.find? key) : xs = ys := by
  induction xs generalizing ys with
  | nil => exact (List.map_eq_nil_iff.mp hkeys.symm).symm
  | cons x xs ih =>
    cases ys with
    | nil => cases hkeys
    | cons y ys =>
      rw [keys_cons] at hself
      rw [keys_cons, keys_cons] at hkeys
      obtain ⟨hkey, hrest⟩ := List.cons.inj hkeys
      obtain ⟨hself, hselfs⟩ := List.forall_mem_cons.mp hself
      have hsame : x.1.sameKey x.1 = true := Value.sameKey_self hself
      have hvalue : x.2 = y.2 := by
        have hfirst := hfind x.1
        rw [find?_cons, find?_cons, ← hkey, if_pos hsame, if_pos hsame] at hfirst
        exact Option.some.inj hfirst
      have htail (key : Value) : Fields.find? xs key = Fields.find? ys key := by
        by_cases hx : x.1.sameKey key = true
        · rw [find?_rest hxs hx, find?_rest hys (hkey ▸ hx)]
        · have hother := hfind key
          rwa [find?_cons, find?_cons, ← hkey, if_neg hx, if_neg hx] at hother
      rw [Prod.ext hkey hvalue,
        ih (List.pairwise_cons.mp hxs).2 (List.pairwise_cons.mp hys).2 hselfs hrest htail]

end Fields

/-! ## One level of a merge -/

namespace Settings

theorem mergeValue_of_not_maps {old : Option Value} {v : Value}
    (h : v.isMap = false ∨ ∀ w, old = some w → w.isMap = false) : mergeValue old v = v := by
  cases v with
  | map fields =>
    rcases old with _ | w
    · rfl
    · have hw : w.isMap = false := (h.resolve_left Bool.true_eq_false.mp) w rfl
      cases w with
      | map base => cases hw
      | _ => rfl
  | _ => rfl

/-- The value of each key after a merge. -/
theorem find?_mergeFields {o : Fields} (h : Apart Value.sameKey o) (b : Fields) (key : Value) :
    Fields.find? (mergeFields b o) key =
      ((Fields.find? o key).map (mergeValue (Fields.find? b key))).or (Fields.find? b key) := by
  induction o generalizing b with
  | nil => rfl
  | cons field rest ih =>
    obtain ⟨k, v⟩ := field
    rw [mergeFields, ih (List.pairwise_cons.mp h).2, Fields.find?_set, Fields.find?_cons]
    by_cases hkey : k.sameKey key = true
    · rw [if_pos hkey, if_pos hkey, Fields.find?_rest h hkey, Fields.find?_congr hkey]
      rfl
    · rw [if_neg hkey, if_neg hkey]

/-- **The keys of the base keep their places, and new ones follow in their own order.** -/
theorem keys_mergeFields {o : Fields} (h : Apart Value.sameKey o) (b : Fields) :
    Fields.keys (mergeFields b o) =
      b.keys ++ o.keys.filter fun key => (b.find? key).isNone := by
  induction o generalizing b with
  | nil => exact (List.append_nil b.keys).symm
  | cons field rest ih =>
    obtain ⟨k, v⟩ := field
    obtain ⟨hfirst, hrest⟩ := List.pairwise_cons.mp h
    have hsame : ∀ key ∈ Fields.keys rest, ∀ new,
        (Fields.find? (Fields.set b k new) key).isNone = (Fields.find? b key).isNone := by
      intro key hkey new
      obtain ⟨field, hfield, rfl⟩ := List.mem_map.mp hkey
      rw [Fields.find?_set, hfirst field hfield]
      rfl
    rw [mergeFields, ih hrest, List.filter_congr fun key hkey => hsame key hkey _, Fields.keys_set,
      Fields.keys_cons, List.filter_cons]
    cases hb : Fields.find? b k with
    | none => simp
    | some old => simp

theorem apart_mergeFields {b : Fields} (h : Apart Value.sameKey b) (o : Fields) :
    Apart Value.sameKey (mergeFields b o) := by
  induction o generalizing b with
  | nil => exact h
  | cons field rest ih =>
    rw [mergeFields]
    refine ih ?_
    rw [Fields.set_eq_assign]
    exact h.assign _ _

end Settings

/-! ## Paths of keys -/

/-- What a value has at a path of keys. -/
def Value.lookup? (v : Value) : List Value → Option Value
  | [] => some v
  | key :: rest =>
    match v with
    | map fields => (Fields.find? fields key).bind fun inner => inner.lookup? rest
    | _ => none

namespace Value

theorem lookup?_map_cons (fields : Fields) (key : Value) (rest : List Value) :
    (map fields).lookup? (key :: rest) =
      (Fields.find? fields key).bind fun inner => inner.lookup? rest := rfl

theorem lookup?_cons_of_not_isMap {v : Value} (h : v.isMap = false) (key : Value)
    (rest : List Value) : v.lookup? (key :: rest) = none := by
  cases v with
  | map fields => cases h
  | _ => rfl

theorem lookup?_append (v : Value) (path more : List Value) :
    v.lookup? (path ++ more) = (v.lookup? path).bind fun inner => inner.lookup? more := by
  induction path generalizing v with
  | nil => rfl
  | cons key rest ih =>
    cases v with
    | map fields =>
      rw [List.cons_append, lookup?_map_cons, lookup?_map_cons, Option.bind_assoc]
      exact Option.bind_congr fun inner _ => ih inner
    | _ => rfl

theorem WellKeyed.isKey_of_mem {fields : Fields} (h : WellKeyed (.map fields)) :
    ∀ key ∈ fields.keys, key.isKey = true := by
  intro key hkey
  obtain ⟨field, hfield, rfl⟩ := List.mem_map.mp hkey
  exact h.isKey field hfield

theorem WellKeyed.find? {fields : Fields} (h : WellKeyed (.map fields)) {key v : Value}
    (hv : Fields.find? fields key = some v) : WellKeyed v := by
  obtain ⟨other, -, hmem⟩ := Fields.mem_of_find? hv
  exact h.value _ hmem

theorem WellKeyed.lookup? {v w : Value} (h : WellKeyed v) {path : List Value}
    (hw : v.lookup? path = some w) : WellKeyed w := by
  induction path generalizing v with
  | nil => exact Option.some.inj hw ▸ h
  | cons key rest ih =>
    cases v with
    | map fields =>
      obtain ⟨inner, hinner, hw⟩ := Option.bind_eq_some_iff.mp hw
      exact ih (h.find? hinner) hw
    | _ => cases hw

theorem isMap_of_lookup?_cons {v w key : Value} {rest : List Value}
    (h : v.lookup? (key :: rest) = some w) : v.isMap = true := by
  by_contra hv
  rw [lookup?_cons_of_not_isMap (Bool.not_eq_true _ ▸ hv)] at h
  cases h

theorem exists_map {v : Value} (h : v.isMap = true) : ∃ fields, v = map fields := by
  cases v with
  | map fields => exact ⟨fields, rfl⟩
  | _ => cases h

/-- `reached` is the longest part in front of the path at which the value has something. -/
structure Reaches (v : Value) (path reached : List Value) : Prop where
  inFront : reached <+: path
  found : (v.lookup? reached).isSome = true
  longest : ∀ other, other <+: path → (v.lookup? other).isSome = true →
    other.length ≤ reached.length

theorem exists_reaches (v : Value) (path : List Value) : ∃ reached, v.Reaches path reached := by
  have hnone {v : Value} {key : Value} {rest : List Value}
      (h : ∀ more, v.lookup? (key :: more) = none) : v.Reaches (key :: rest) [] := by
    refine ⟨List.nil_prefix, rfl, fun other hother hsome => ?_⟩
    rcases List.prefix_cons_iff.mp hother with rfl | ⟨more, rfl, -⟩
    · exact Nat.le_refl 0
    · rw [h more] at hsome
      cases hsome
  induction path generalizing v with
  | nil =>
    refine ⟨[], List.nil_prefix, rfl, fun other hother _ => ?_⟩
    rw [List.prefix_nil.mp hother]
  | cons key rest ih =>
    cases hmap : v.isMap with
    | false => exact ⟨[], hnone fun more => lookup?_cons_of_not_isMap hmap key more⟩
    | true =>
      obtain ⟨fields, rfl⟩ := exists_map hmap
      cases hfind : Fields.find? fields key with
      | none =>
        refine ⟨[], hnone fun more => ?_⟩
        rw [lookup?_map_cons, hfind]
        rfl
      | some inner =>
        have hinner (more : List Value) :
            (map fields).lookup? (key :: more) = inner.lookup? more := by
          rw [lookup?_map_cons, hfind]
          rfl
        obtain ⟨reached, hfront, hfound, hlongest⟩ := ih inner
        refine ⟨key :: reached, List.cons_prefix_cons.mpr ⟨rfl, hfront⟩, by rwa [hinner], ?_⟩
        intro other hother hsome
        rcases List.prefix_cons_iff.mp hother with rfl | ⟨more, rfl, hmore⟩
        · exact Nat.zero_le _
        · rw [hinner] at hsome
          exact Nat.succ_le_succ (hlongest more hmore hsome)

/-- Going one key further where there is something does not change how far the path leads. -/
theorem Reaches.tail {fields : Fields} {key inner : Value} {rest reached : List Value}
    (h : (map fields).Reaches (key :: rest) reached)
    (hinner : Fields.find? fields key = some inner) :
    ∃ more, reached = key :: more ∧ inner.Reaches rest more := by
  have hlookup (more : List Value) : (map fields).lookup? (key :: more) = inner.lookup? more := by
    rw [lookup?_map_cons, hinner]
    rfl
  have hone := h.longest [key] ⟨rest, rfl⟩ (by rw [hlookup]; rfl)
  rcases List.prefix_cons_iff.mp h.inFront with rfl | ⟨more, rfl, hmore⟩
  · exact absurd hone (by simp)
  · refine ⟨more, rfl, hmore, hlookup more ▸ h.found, fun other hother hsome => ?_⟩
    have hle := h.longest (key :: other) (List.cons_prefix_cons.mpr ⟨rfl, hother⟩)
      (by rwa [hlookup])
    exact Nat.le_of_succ_le_succ hle

/-- Nothing can be reached through a key that is not there. -/
theorem Reaches.eq_nil {fields : Fields} {key : Value} {rest reached : List Value}
    (h : (map fields).Reaches (key :: rest) reached) (hnone : Fields.find? fields key = none) :
    reached = [] := by
  rcases List.prefix_cons_iff.mp h.inFront with rfl | ⟨more, rfl, -⟩
  · rfl
  · have hfound := h.found
    rw [lookup?_map_cons, hnone] at hfound
    cases hfound

end Value

namespace Settings

open Value (WellKeyed)

/-! ## A merge at every path -/

/-- Both mappings have a mapping at the path. -/
def BothMap (b o : Fields) (path : List Value) : Prop :=
  ∃ fb fo, (Value.map b).lookup? path = some (.map fb) ∧ (Value.map o).lookup? path = some (.map fo)

theorem bothMap_cons_iff {b o : Fields} {key : Value} {rest : List Value} :
    BothMap b o (key :: rest) ↔ ∃ b' o', Fields.find? b key = some (.map b') ∧
      Fields.find? o key = some (.map o') ∧ BothMap b' o' rest := by
  have hstep {fields inner : Fields}
      (h : (Value.map fields).lookup? (key :: rest) = some (.map inner)) :
      ∃ fields', Fields.find? fields key = some (.map fields') ∧
        (Value.map fields').lookup? rest = some (.map inner) := by
    obtain ⟨v, hfind, hv⟩ := Option.bind_eq_some_iff.mp h
    have hmap : v.isMap = true := by
      cases rest with
      | nil => exact Option.some.inj hv ▸ rfl
      | cons next more => exact Value.isMap_of_lookup?_cons hv
    obtain ⟨fields', rfl⟩ := Value.exists_map hmap
    exact ⟨fields', hfind, hv⟩
  constructor
  · rintro ⟨fb, fo, hb, ho⟩
    obtain ⟨b', hb', hb⟩ := hstep hb
    obtain ⟨o', ho', ho⟩ := hstep ho
    exact ⟨b', o', hb', ho', fb, fo, hb, ho⟩
  · rintro ⟨b', o', hb', ho', fb, fo, hb, ho⟩
    refine ⟨fb, fo, ?_, ?_⟩
    · rw [Value.lookup?_map_cons, hb']
      exact hb
    · rw [Value.lookup?_map_cons, ho']
      exact ho

/-- One step down into a merged mapping: into the merge of two mappings, or else into what the
overriding mapping has, or else into what the base has. -/
theorem lookup?_mergeFields_cons {o : Fields} (ho : Apart Value.sameKey o) (b : Fields)
    (key : Value) (rest : List Value) :
    (∃ b' o', Fields.find? b key = some (.map b') ∧ Fields.find? o key = some (.map o') ∧
      (Value.map (mergeFields b o)).lookup? (key :: rest) =
        (Value.map (mergeFields b' o')).lookup? rest) ∨
    ((∃ v, Fields.find? o key = some v) ∧ (∀ more, ¬ BothMap b o (key :: more)) ∧
      (Value.map (mergeFields b o)).lookup? (key :: rest) =
        (Value.map o).lookup? (key :: rest)) ∨
    (Fields.find? o key = none ∧
      (Value.map (mergeFields b o)).lookup? (key :: rest) =
        (Value.map b).lookup? (key :: rest)) := by
  simp only [Value.lookup?_map_cons, find?_mergeFields ho]
  cases hv : Fields.find? o key with
  | none => exact .inr (.inr ⟨rfl, rfl⟩)
  | some v =>
    by_cases hboth : ∃ b' o', Fields.find? b key = some (.map b') ∧ v = .map o'
    · obtain ⟨b', o', hb, rfl⟩ := hboth
      exact .inl ⟨b', o', hb, rfl, by rw [hb]; rfl⟩
    · have hkeep : mergeValue (Fields.find? b key) v = v := by
        refine mergeValue_of_not_maps ?_
        cases hmap : v.isMap with
        | false => exact .inl rfl
        | true =>
          right
          intro w hw
          by_contra hwmap
          obtain ⟨o', rfl⟩ := Value.exists_map hmap
          obtain ⟨b', rfl⟩ := Value.exists_map (Bool.eq_true_of_not_eq_false hwmap)
          exact hboth ⟨b', o', hw, rfl⟩
      refine .inr (.inl ⟨⟨v, rfl⟩, fun more hmore => ?_, ?_⟩)
      · obtain ⟨b', o', hb, ho', -⟩ := bothMap_cons_iff.mp hmore
        exact hboth ⟨b', o', hb, Option.some.inj (hv.symm.trans ho')⟩
      · rw [Option.map_some, Option.some_or, hkeep]

/-- **What the overriding mapping has counts**, and mappings on both sides are merged in turn.  The
induction is on the path, one level deeper on both sides at each step. -/
theorem lookup?_mergeFields_of_some {o : Fields} (ho : WellKeyed (.map o)) (b : Fields)
    {path : List Value} {v : Value} (h : (Value.map o).lookup? path = some v) :
    (∀ fb fo, (Value.map b).lookup? path = some (.map fb) → v = .map fo →
      (Value.map (mergeFields b o)).lookup? path = some (.map (mergeFields fb fo))) ∧
    (¬ BothMap b o path → (Value.map (mergeFields b o)).lookup? path = some v) := by
  induction path generalizing b o with
  | nil =>
    obtain rfl := Option.some.inj h
    constructor
    · intro fb fo hb hv
      obtain rfl := Value.map.inj (Option.some.inj hb)
      obtain rfl := Value.map.inj hv
      rfl
    · intro hboth
      exact absurd ⟨b, o, rfl, rfl⟩ hboth
  | cons key rest ih =>
    rcases lookup?_mergeFields_cons ho.apart b key rest with
      ⟨b', o', hb', ho', hmerged⟩ | ⟨-, hboth, hmerged⟩ | ⟨hnone, -⟩
    · rw [Value.lookup?_map_cons, ho'] at h
      obtain ⟨hmaps, hplain⟩ := ih (ho.find? ho') b' h
      rw [hmerged]
      constructor
      · intro fb fo hb hv
        rw [Value.lookup?_map_cons, hb'] at hb
        exact hmaps fb fo hb hv
      · intro hnot
        exact hplain fun hboth => hnot (bothMap_cons_iff.mpr ⟨b', o', hb', ho', hboth⟩)
    · rw [hmerged]
      constructor
      · intro fb fo hb hv
        exact absurd ⟨fb, fo, hb, hv ▸ h⟩ (hboth rest)
      · intro _
        exact h
    · rw [Value.lookup?_map_cons, hnone] at h
      cases h

/-- **What the overriding mapping does not have is as in the base**, if both have mappings as far as
the path leads in the overriding one; otherwise nothing is there. -/
theorem lookup?_mergeFields_of_none {o : Fields} (ho : WellKeyed (.map o)) (b : Fields)
    {path reached : List Value} (h : (Value.map o).lookup? path = none)
    (hreached : (Value.map o).Reaches path reached) :
    (BothMap b o reached →
      (Value.map (mergeFields b o)).lookup? path = (Value.map b).lookup? path) ∧
    (¬ BothMap b o reached → (Value.map (mergeFields b o)).lookup? path = none) := by
  induction path generalizing b o reached with
  | nil => cases h
  | cons key rest ih =>
    rcases lookup?_mergeFields_cons ho.apart b key rest with
      ⟨b', o', hb', ho', hmerged⟩ | ⟨⟨v, hv⟩, hboth, hmerged⟩ | ⟨hnone, hmerged⟩
    · rw [Value.lookup?_map_cons, ho'] at h
      obtain ⟨more, rfl, hmore⟩ := hreached.tail ho'
      obtain ⟨hmaps, hplain⟩ := ih (ho.find? ho') b' h hmore
      rw [hmerged, Value.lookup?_map_cons, hb']
      constructor
      · intro hboth
        obtain ⟨b'', o'', hb'', ho'', hboth⟩ := bothMap_cons_iff.mp hboth
        obtain rfl := Value.map.inj (Option.some.inj (hb'.symm.trans hb''))
        obtain rfl := Value.map.inj (Option.some.inj (ho'.symm.trans ho''))
        exact hmaps hboth
      · intro hnot
        exact hplain fun hboth => hnot (bothMap_cons_iff.mpr ⟨b', o', hb', ho', hboth⟩)
    · obtain ⟨more, rfl, -⟩ := hreached.tail hv
      rw [hmerged]
      exact ⟨fun hmaps => absurd hmaps (hboth more), fun _ => h⟩
    · obtain rfl := hreached.eq_nil hnone
      rw [hmerged]
      exact ⟨fun _ => rfl, fun hnot => absurd ⟨b, o, rfl, rfl⟩ hnot⟩

/-! ## Merging the same again -/

/-- A merge whose keys are all there and whose values are there already changes nothing. -/
theorem mergeFields_eq_self {b o : Fields} (hb : Apart Value.sameKey b)
    (hself : ∀ key ∈ b.keys, key.isKey = true) (ho : WellKeyed (.map o))
    (h : ∀ key v, Fields.find? o key = some v →
      ∃ old, Fields.find? b key = some old ∧ mergeValue (some old) v = old) :
    mergeFields b o = b := by
  have hold : ∀ key ∈ Fields.keys o, (Fields.find? b key).isNone = false := by
    intro key hkey
    cases hv : Fields.find? o key with
    | none =>
      obtain ⟨field, hfield, rfl⟩ := List.mem_map.mp hkey
      have hsame := Value.sameKey_self (ho.isKey field hfield)
      rw [Fields.find?_eq_none_iff.mp hv field hfield] at hsame
      cases hsame
    | some v =>
      obtain ⟨old, hfind, -⟩ := h key v hv
      rw [hfind]
      rfl
  have hkeys : Fields.keys (mergeFields b o) = b.keys := by
    rw [keys_mergeFields ho.apart, List.filter_eq_nil_iff.mpr, List.append_nil]
    intro key hkey
    rw [hold key hkey]
    exact Bool.false_ne_true
  refine Fields.ext_of_keys (apart_mergeFields hb o) hb (hkeys ▸ hself) hkeys fun key => ?_
  rw [find?_mergeFields ho.apart]
  cases hv : Fields.find? o key with
  | none => rfl
  | some v =>
    obtain ⟨old, hfind, hmerge⟩ := h key v hv
    rw [hfind, Option.map_some, hmerge]
    rfl

theorem isKey_of_mem_keys_mergeFields {b o : Fields} (hb : WellKeyed (.map b))
    (ho : WellKeyed (.map o)) :
    ∀ key ∈ Fields.keys (mergeFields b o), key.isKey = true := by
  intro key hkey
  rw [keys_mergeFields ho.apart] at hkey
  rcases List.mem_append.mp hkey with hkey | hkey
  · exact hb.isKey_of_mem key hkey
  · exact ho.isKey_of_mem key (List.mem_filter.mp hkey).1

/-- The induction is on the nesting of the value that is merged twice. -/
theorem mergeValue_again {v : Value} (hv : WellKeyed v) {old : Option Value}
    (hold : ∀ w, old = some w → WellKeyed w) :
    mergeValue (some (mergeValue old v)) v = mergeValue old v := by
  induction hv generalizing old with
  | plain h => rw [mergeValue_of_not_maps (.inl h), mergeValue_of_not_maps (.inl h)]
  | @map fields hkeys hapart hvalues ih =>
    have hfields : WellKeyed (.map fields) := .map hkeys hapart hvalues
    by_cases hbase : ∃ base, old = some (.map base)
    · -- Each field of the merged mapping is itself the result of a merge.
      obtain ⟨base, rfl⟩ := hbase
      have hnested : WellKeyed (.map base) := hold _ rfl
      refine congrArg Value.map (mergeFields_eq_self (apart_mergeFields hnested.apart fields)
        (isKey_of_mem_keys_mergeFields hnested hfields) hfields fun key v hfind => ?_)
      obtain ⟨other, -, hmem⟩ := Fields.mem_of_find? hfind
      refine ⟨mergeValue (Fields.find? base key) v, ?_, ?_⟩
      · rw [find?_mergeFields hapart, hfind]
        rfl
      · exact ih _ hmem fun w hw => hnested.find? hw
    · -- The mapping has taken the place of what was there, and is now merged with itself.
      have hnone : ∀ w, old = some w → w.isMap = false := by
        intro w hw
        by_contra hmap
        obtain ⟨base, rfl⟩ := Value.exists_map (Bool.eq_true_of_not_eq_false hmap)
        exact hbase ⟨base, hw⟩
      rw [mergeValue_of_not_maps (.inr hnone)]
      refine congrArg Value.map
        (mergeFields_eq_self hapart hfields.isKey_of_mem hfields fun key v hfind => ?_)
      obtain ⟨other, -, hmem⟩ := Fields.mem_of_find? hfind
      have hfirst : mergeValue none v = v := mergeValue_of_not_maps (.inr fun w hw => by cases hw)
      have hself : mergeValue (some (mergeValue none v)) v = mergeValue none v :=
        ih _ hmem fun w hw => by cases hw
      rw [hfirst] at hself
      exact ⟨v, hfind, hself⟩

/-- **Merging the same again changes nothing.** -/
theorem mergeFields_again {b o : Fields} (hb : WellKeyed (.map b)) (ho : WellKeyed (.map o)) :
    mergeFields (mergeFields b o) o = mergeFields b o := by
  have hsome : ∀ w, some (Value.map b) = some w → WellKeyed w := by
    rintro w ⟨⟩
    exact hb
  exact Value.map.inj (mergeValue_again ho hsome)

theorem mergeFields_nil_left {o : Fields} (h : WellKeyed (.map o)) : mergeFields [] o = o := by
  have hnone (key : Value) : Fields.find? [] key = none := rfl
  have hkeys : Fields.keys (mergeFields [] o) = o.keys := by
    rw [keys_mergeFields h.apart]
    exact List.filter_eq_self.mpr fun _ _ => rfl
  refine Fields.ext_of_keys (apart_mergeFields List.Pairwise.nil o) h.apart ?_ hkeys fun key => ?_
  · rw [hkeys]
    exact h.isKey_of_mem
  · rw [find?_mergeFields h.apart, hnone, Option.or_none]
    cases Fields.find? o key with
    | none => rfl
    | some v => rw [Option.map_some, mergeValue_of_not_maps (.inr fun w hw => by cases hw)]

/-! ## Room for a merge

A merge needs room for every level below the first one on which both mappings have mappings
(`HasRoom`).  One of the defaults or of the options of a request is never deep, so there always is.
-/

/-- There is room for merging two mappings: they have mappings on both sides only at paths of so
many keys. -/
def HasRoom (room : Nat) (b o : Fields) : Prop := ∀ path, BothMap b o path → path.length ≤ room

/-- There is room for merging a value into what was there. -/
def HasRoomFor (room : Nat) (old : Option Value) (v : Value) : Prop :=
  ∀ b o, old = some (.map b) → v = .map o → ∃ less, room = less + 1 ∧ HasRoom less b o

/-- There is room for merging mappings if there is room for merging the value of each key. -/
theorem hasRoom_iff {room : Nat} {b o : Fields} :
    HasRoom room b o ↔
      ∀ key v, Fields.find? o key = some v → HasRoomFor room (Fields.find? b key) v := by
  constructor
  · rintro h key v hv b' o' hb' rfl
    have hdeeper (path : List Value) (hpath : BothMap b' o' path) : path.length + 1 ≤ room :=
      h (key :: path) (bothMap_cons_iff.mpr ⟨b', o', hb', hv, hpath⟩)
    have hone : 1 ≤ room := hdeeper [] ⟨b', o', rfl, rfl⟩
    obtain ⟨less, rfl⟩ := Nat.exists_eq_add_of_le' hone
    exact ⟨less, rfl, fun path hpath => Nat.le_of_succ_le_succ (hdeeper path hpath)⟩
  · intro h path hpath
    cases path with
    | nil => exact Nat.zero_le room
    | cons key rest =>
      obtain ⟨b', o', hb', ho', hrest⟩ := bothMap_cons_iff.mp hpath
      obtain ⟨less, rfl, hless⟩ := h key _ ho' b' o' hb' rfl
      exact Nat.succ_le_succ (hless rest hrest)

/-- Merging the first field leaves as much room for the others. -/
theorem hasRoom_cons_iff {room : Nat} {b rest : Fields} {key v : Value}
    (h : WellKeyed (.map ((key, v) :: rest))) (new : Value) :
    HasRoom room b ((key, v) :: rest) ↔
      HasRoomFor room (Fields.find? b key) v ∧ HasRoom room (Fields.set b key new) rest := by
  have hself : key.sameKey key = true := Value.sameKey_self (h.isKey _ List.mem_cons_self)
  have hrest {other w : Value} (hw : Fields.find? rest other = some w) :
      key.sameKey other = false := by
    by_contra hsame
    rw [Fields.find?_rest h.apart (Bool.eq_true_of_not_eq_false hsame)] at hw
    cases hw
  simp only [hasRoom_iff]
  constructor
  · intro hroom
    refine ⟨hroom key v ?_, fun other w hw => ?_⟩
    · rw [Fields.find?_cons, if_pos hself]
    · have hother := hrest hw
      rw [Fields.find?_set, hother]
      refine hroom other w ?_
      rw [Fields.find?_cons, hother]
      exact hw
  · rintro ⟨hfirst, hroom⟩ other w hw
    rw [Fields.find?_cons] at hw
    by_cases hsame : key.sameKey other = true
    · rw [if_pos hsame] at hw
      obtain rfl := Option.some.inj hw
      rwa [← Fields.find?_congr hsame]
    · rw [if_neg hsame] at hw
      have hother := hroom other w hw
      rwa [Fields.find?_set, if_neg hsame] at hother

/-- A merge with some room is the merge itself if the room is enough, and fails otherwise. -/
def AsRoomAllows (room : Nat) (b o : Fields) : Prop :=
  (HasRoom room b o → mergeFieldsWithin room b o = .ok (mergeFields b o)) ∧
  (¬ HasRoom room b o → mergeFieldsWithin room b o = .error .nestedTooDeep)

/-- The same for one value, where the values within it are merged with less room. -/
theorem mergeValueWithin_eq {room : Nat}
    (h : ∀ less, room = less + 1 → ∀ b o, WellKeyed (.map o) → AsRoomAllows less b o) {v : Value}
    (hv : WellKeyed v) (old : Option Value) :
    (HasRoomFor room old v → mergeValueWithin room old v = .ok (mergeValue old v)) ∧
    (¬ HasRoomFor room old v → mergeValueWithin room old v = .error .nestedTooDeep) := by
  by_cases hmaps : ∃ b o, old = some (.map b) ∧ v = .map o
  · obtain ⟨b, o, rfl, rfl⟩ := hmaps
    cases room with
    | zero =>
      refine ⟨fun hroom => ?_, fun _ => rfl⟩
      obtain ⟨less, hless, -⟩ := hroom b o rfl rfl
      cases hless
    | succ less =>
      obtain ⟨hok, hfault⟩ := h less rfl b o hv
      constructor
      · intro hroom
        obtain ⟨_, ⟨⟩, hless⟩ := hroom b o rfl rfl
        rw [mergeValueWithin, hok hless]
        rfl
      · intro hroom
        have hless : ¬ HasRoom less b o := by
          intro hless
          refine hroom fun b' o' hb' ho' => ⟨less, rfl, ?_⟩
          rwa [← Value.map.inj (Option.some.inj hb'), ← Value.map.inj ho']
        rw [mergeValueWithin, hfault hless]
        rfl
  · -- One of the two is no mapping, so nothing is merged and there is room for that.
    have hroom : HasRoomFor room old v := fun b o hb ho => absurd ⟨b, o, hb, ho⟩ hmaps
    refine ⟨fun _ => ?_, fun hnot => absurd hroom hnot⟩
    cases v with
    | map o =>
      rcases old with _ | w
      · cases room <;> rfl
      · cases w with
        | map b => exact absurd ⟨b, o, rfl, rfl⟩ hmaps
        | _ => cases room <;> rfl
    | _ => rfl

/-- The induction is on the room, and within it on the fields that are merged. -/
theorem mergeFieldsWithin_eq (room : Nat) (b : Fields) {o : Fields} (ho : WellKeyed (.map o)) :
    AsRoomAllows room b o := by
  induction room using Nat.strongRecOn generalizing b o with
  | ind room ih =>
    have hless (less : Nat) (hroom : room = less + 1) (b o : Fields)
        (ho : WellKeyed (.map o)) : AsRoomAllows less b o := ih less (by omega) b ho
    induction o generalizing b with
    | nil =>
      have hroom : HasRoom room b [] := hasRoom_iff.mpr fun key v hv => by cases hv
      exact ⟨fun _ => rfl, fun hnot => absurd hroom hnot⟩
    | cons field rest ihrest =>
      obtain ⟨key, v⟩ := field
      have hv : WellKeyed v := ho.value _ List.mem_cons_self
      obtain ⟨hok, hfault⟩ := mergeValueWithin_eq hless hv (Fields.find? b key)
      obtain ⟨hoks, hfaults⟩ :=
        ihrest (Fields.set b key (mergeValue (Fields.find? b key) v)) ho.tail
      constructor
      · intro hroom
        obtain ⟨hfirst, hothers⟩ := (hasRoom_cons_iff ho _).mp hroom
        rw [mergeFieldsWithin, hok hfirst, mergeFields]
        exact hoks hothers
      · intro hroom
        rw [mergeFieldsWithin]
        by_cases hfirst : HasRoomFor room (Fields.find? b key) v
        · rw [hok hfirst]
          exact hfaults fun hothers => hroom ((hasRoom_cons_iff ho _).mpr ⟨hfirst, hothers⟩)
        · rw [hfault hfirst]
          rfl

/-- A value is no mapping with a mapping in it. -/
def isFlat : Value → Bool
  | .map inner => inner.all fun field => !field.2.isMap
  | _ => true

/-- No value of a mapping has a mapping in it. -/
def isShallow (fields : Fields) : Bool := fields.all fun field => isFlat field.2

theorem length_le_of_isShallow {fields inner : Fields} (h : isShallow fields = true)
    {path : List Value} (hinner : (Value.map fields).lookup? path = some (.map inner)) :
    path.length ≤ 1 := by
  rcases path with _ | ⟨first, _ | ⟨second, rest⟩⟩
  · exact Nat.zero_le 1
  · exact Nat.le_refl 1
  · obtain ⟨v, hv, hinner⟩ := Option.bind_eq_some_iff.mp hinner
    obtain ⟨fields', rfl⟩ := Value.exists_map (Value.isMap_of_lookup?_cons hinner)
    obtain ⟨w, hw, hinner⟩ := Option.bind_eq_some_iff.mp hinner
    obtain ⟨_, -, hmem⟩ := Fields.mem_of_find? hv
    obtain ⟨_, -, hdeeper⟩ := Fields.mem_of_find? hw
    have hflat : isFlat (.map fields') = true := List.all_eq_true.mp h _ hmem
    have hplain : (!w.isMap) = true := List.all_eq_true.mp hflat _ hdeeper
    have hmap : w.isMap = true := by
      cases rest with
      | nil => exact Option.some.inj hinner ▸ rfl
      | cons third rest => exact Value.isMap_of_lookup?_cons hinner
    rw [hmap] at hplain
    cases hplain

/-- There is room for one more level wherever one of the mappings is shallow. -/
theorem hasRoom_of_isShallow {b o : Fields} (h : isShallow b = true ∨ isShallow o = true)
    (room : Nat) : HasRoom (room + 1) b o := by
  rintro path ⟨fb, fo, hfb, hfo⟩
  have hlength : path.length ≤ 1 := by
    rcases h with h | h
    · exact length_le_of_isShallow h hfb
    · exact length_le_of_isShallow h hfo
  omega

theorem overriddenBy_eq_merged {s : Settings} {fields : Fields} (hkeyed : WellKeyed (.map fields))
    (h : isShallow s.data = true ∨ isShallow fields = true) :
    s.overriddenBy fields = .ok (s.merged fields) := by
  have hroom : HasRoom maxMergeNesting s.data fields := hasRoom_of_isShallow h _
  rw [overriddenBy, (mergeFieldsWithin_eq _ _ hkeyed).1 hroom]
  rfl

/-- **There is always room for merging fields over the defaults.** -/
theorem overriddenBy_default {fields : Fields} (hkeyed : WellKeyed (.map fields)) :
    default.overriddenBy fields = .ok (ofFields fields) :=
  overriddenBy_eq_merged hkeyed (.inl rfl)

/-- Where both mappings have mappings, these can be merged in the room that is left. -/
theorem HasRoom.lookup? {room : Nat} {b o fb fo : Fields} (h : HasRoom room b o)
    {path : List Value} (hb : (Value.map b).lookup? path = some (.map fb))
    (ho : (Value.map o).lookup? path = some (.map fo)) :
    HasRoom (room - path.length) fb fo := by
  rintro more ⟨ib, io, hib, hio⟩
  have hlength := h (path ++ more) ⟨ib, io, ?_, ?_⟩
  · rw [List.length_append] at hlength
    omega
  · rw [Value.lookup?_append, hb]
    exact hib
  · rw [Value.lookup?_append, ho]
    exact hio

/-- Once merged, the mapping has a mapping wherever the overriding one has. -/
theorem bothMap_mergeFields_iff {b o : Fields} (ho : WellKeyed (.map o)) {path : List Value} :
    BothMap (mergeFields b o) o path ↔ ∃ fo, (Value.map o).lookup? path = some (.map fo) := by
  constructor
  · rintro ⟨-, fo, -, hfo⟩
    exact ⟨fo, hfo⟩
  · rintro ⟨fo, hfo⟩
    obtain ⟨hmaps, hplain⟩ := lookup?_mergeFields_of_some ho b hfo
    by_cases hboth : BothMap b o path
    · obtain ⟨fb, -, hfb, -⟩ := hboth
      exact ⟨_, fo, hmaps fb fo hfb rfl, hfo⟩
    · exact ⟨fo, fo, hplain hboth, hfo⟩

/-- What is at a path of a merged mapping, for all that the overriding mapping has and does not
have. -/
structure Leafwise (room : Nat) (b o merged : Fields) : Prop where
  counts : ∀ path v, (Value.map o).lookup? path = some v → ¬ BothMap b o path →
    (Value.map merged).lookup? path = some v
  merges : ∀ path (fb fo : Fields), (Value.map b).lookup? path = some (.map fb) →
    (Value.map o).lookup? path = some (.map fo) → ∃ inner : Fields,
      (Value.map merged).lookup? path = some (.map inner) ∧
      mergeFieldsWithin (room - path.length) fb fo = .ok inner ∧
      inner.keys = fb.keys ++ fo.keys.filter fun key => (fb.find? key).isNone
  leaves : ∀ path, (Value.map o).lookup? path = none →
    ∃ reached, (Value.map o).Reaches path reached ∧
      (BothMap b o reached →
        (Value.map merged).lookup? path = (Value.map b).lookup? path) ∧
      (¬ BothMap b o reached → (Value.map merged).lookup? path = none)

theorem leafwise_mergeFields {room : Nat} {b o : Fields} (ho : WellKeyed (.map o))
    (hroom : HasRoom room b o) : Leafwise room b o (mergeFields b o) := by
  constructor
  · intro path v hv
    exact (lookup?_mergeFields_of_some ho b hv).2
  · intro path fb fo hfb hfo
    have hkeyed : WellKeyed (.map fo) := ho.lookup? hfo
    exact ⟨_, (lookup?_mergeFields_of_some ho b hfo).1 fb fo hfb rfl,
      (mergeFieldsWithin_eq _ fb hkeyed).1 (hroom.lookup? hfb hfo),
      keys_mergeFields hkeyed.apart fb⟩
  · intro path hnone
    obtain ⟨reached, hreached⟩ := Value.exists_reaches (.map o) path
    exact ⟨reached, hreached, lookup?_mergeFields_of_none ho b hnone hreached⟩

/-- **Mappings are merged leaf by leaf.**  Two mappings can be merged exactly if there is room for
the levels on which both have mappings.  Then at every path of keys, what the overriding mapping has
there counts, but where both have mappings these are merged, with the keys of the base in their
places and new ones behind them; and where the overriding mapping has nothing, there is what the
base has if both have mappings as far as the path leads in the overriding one, and nothing
otherwise.  An empty mapping on either side changes nothing.  Neither does merging the same again,
for which there has to be room for all levels of the overriding mapping. -/
theorem mergeFieldsWithin_leafwise (room : Nat) {b o : Fields} (hb : WellKeyed (.map b))
    (ho : WellKeyed (.map o)) :
    (HasRoom room b o → ∃ merged, mergeFieldsWithin room b o = .ok merged ∧
      Leafwise room b o merged ∧
      ((∀ path fo, (Value.map o).lookup? path = some (.map fo) → path.length ≤ room) →
        mergeFieldsWithin room merged o = .ok merged) ∧
      ((∃ path fo, (Value.map o).lookup? path = some (.map fo) ∧ room < path.length) →
        mergeFieldsWithin room merged o = .error .nestedTooDeep)) ∧
    (¬ HasRoom room b o → mergeFieldsWithin room b o = .error .nestedTooDeep) ∧
    mergeFieldsWithin room b [] = .ok b ∧ mergeFieldsWithin room [] o = .ok o := by
  have hagain : HasRoom room (mergeFields b o) o ↔
      ∀ path fo, (Value.map o).lookup? path = some (.map fo) → path.length ≤ room := by
    simp only [HasRoom, bothMap_mergeFields_iff ho]
    exact ⟨fun h path fo hfo => h path ⟨fo, hfo⟩, fun h path ⟨fo, hfo⟩ => h path fo hfo⟩
  obtain ⟨hok, hfault⟩ := mergeFieldsWithin_eq room b ho
  obtain ⟨hokAgain, hfaultAgain⟩ := mergeFieldsWithin_eq room (mergeFields b o) ho
  refine ⟨fun hroom => ⟨_, hok hroom, leafwise_mergeFields ho hroom, fun h => ?_, ?_⟩, hfault,
    ?_, ?_⟩
  · rw [hokAgain (hagain.mpr h), mergeFields_again hb ho]
  · rintro ⟨path, fo, hfo, hlong⟩
    refine hfaultAgain fun hroom => ?_
    exact Nat.not_lt.mpr (hagain.mp hroom path fo hfo) hlong
  · rfl
  · have hempty : HasRoom room [] o :=
      hasRoom_iff.mpr fun key v _ base fields hbase => by cases hbase
    rw [(mergeFieldsWithin_eq room [] ho).1 hempty, mergeFields_nil_left ho]

/-- A mapping under the number one beside a plain value. -/
def numberedBase : Fields :=
  [(.int 1, .map [(.text "a", .int 1), (.text "b", .list [])]), (.text "x", .int 2)]

/-- A mapping in place of the plain value, and one under the truth value that equals one. -/
def numberedOverrides : Fields :=
  [(.text "x", .map []), (.bool true, .map [(.text "c", .int 3), (.text "b", .map [])])]

/-- There are mappings on both sides on the first level and the one below it. -/
theorem mergeFieldsWithin_leafwise_numberedKeys :
    mergeFieldsWithin 0 numberedBase numberedOverrides = .error .nestedTooDeep ∧
    ∃ merged, mergeFieldsWithin 1 numberedBase numberedOverrides = .ok merged ∧
      (Value.map merged).lookup? [.int 1, .text "a"] = some (.int 1) ∧
      (Value.map merged).lookup? [.int 1, .text "b"] = some (.map []) ∧
      (∃ inner : Fields, (Value.map merged).lookup? [.int 1] = some (.map inner) ∧
        inner.keys = [.text "a", .text "b", .text "c"]) ∧
      mergeFieldsWithin 1 merged numberedOverrides = .error .nestedTooDeep := by
  have hbase : WellKeyed (.map numberedBase) :=
    .cons rfl (by decide)
      (.cons rfl (by decide) (.plain rfl) (.cons rfl (by decide) (.plain rfl) .empty))
      (.cons rfl (by decide) (.plain rfl) .empty)
  have hover : WellKeyed (.map numberedOverrides) :=
    .cons rfl (by decide) .empty (.cons rfl (by decide)
      (.cons rfl (by decide) (.plain rfl) (.cons rfl (by decide) .empty .empty)) .empty)
  have hboth (path : List Value) (h : path <+: [.int 1]) :
      BothMap numberedBase numberedOverrides path := by
    rcases List.prefix_cons_iff.mp h with rfl | ⟨more, rfl, hmore⟩
    · exact ⟨_, _, rfl, rfl⟩
    · rw [List.prefix_nil.mp hmore]
      exact ⟨_, _, rfl, rfl⟩
  have hnone : ¬ HasRoom 0 numberedBase numberedOverrides := by
    intro hroom
    exact absurd (hroom _ (hboth [.int 1] (List.prefix_refl _))) (by decide)
  have hone : HasRoom 1 numberedBase numberedOverrides := hasRoom_of_isShallow (.inl rfl) 0
  obtain ⟨hok, -, -, -⟩ := mergeFieldsWithin_leafwise 1 hbase hover
  obtain ⟨merged, hmerged, hleaves, -, hagain⟩ := hok hone
  refine ⟨(mergeFieldsWithin_leafwise 0 hbase hover).2.1 hnone, merged, hmerged, ?_, ?_, ?_, ?_⟩
  · obtain ⟨reached, hreached, hkept, -⟩ := hleaves.leaves [.int 1, .text "a"] rfl
    have hfront : reached <+: [.int 1] ++ [.text "a"] := hreached.inFront
    rcases List.prefix_concat_iff.mp hfront with rfl | hfront
    · cases hreached.found
    · exact hkept (hboth reached hfront)
  · refine hleaves.counts [.int 1, .text "b"] _ rfl ?_
    rintro ⟨fb, fo, hfb, -⟩
    cases hfb
  · obtain ⟨inner, hlookup, -, hkeys⟩ := hleaves.merges [.int 1] _ _ rfl rfl
    exact ⟨inner, hlookup, hkeys⟩
  · exact hagain ⟨[.int 1, .text "b"], [], rfl, by decide⟩

end Settings

end Cyclometry
