import Mathlib.Data.Rat.Cast.Order
import Mathlib.Tactic.Ring
import Cyclometry.Value

/-!
# Which keys are the same

Two keys are the same exactly if they stand for one thing (`Value.sameKey_iff`): numbers of all
kinds for their exact value, moments with a known distance from universal time for their instant,
and all other keys for themselves.  So sameness is symmetric and transitive, and whatever may be a
key is the same as itself.
-/

namespace Cyclometry

namespace Double

/-- The exact value of a finite number. -/
def value (negative : Bool) (mantissa : Nat) (exponent : Int) : ℚ :=
  (signed negative (ratio mantissa exponent).1 : ℚ) / (ratio mantissa exponent).2

theorem ratio_pos (mantissa : Nat) (exponent : Int) : 0 < (ratio mantissa exponent).2 := by
  rw [ratio]
  split
  · exact Nat.one_pos
  · exact Nat.pow_pos (by decide)

theorem ratio_cast_ne_zero (mantissa : Nat) (exponent : Int) :
    ((ratio mantissa exponent).2 : ℚ) ≠ 0 := by
  exact_mod_cast (ratio_pos mantissa exponent).ne'

theorem same_finite_iff {s s' : Bool} {m m' : Nat} {e e' : Int} :
    (finite s m e).same (finite s' m' e') = true ↔ value s m e = value s' m' e' := by
  rw [value, value, div_eq_div_iff (ratio_cast_ne_zero m e) (ratio_cast_ne_zero m' e'), same,
    beq_iff_eq]
  exact_mod_cast Iff.rfl

theorem signed_mul (s : Bool) (d q : Nat) : signed s (d * q) = signed s q * (d : Int) := by
  cases s with
  | false => simp [signed, mul_comm]
  | true => simp [signed, mul_comm]

theorem dvd_signed_iff {s : Bool} {d n : Nat} : (d : Int) ∣ signed s n ↔ d ∣ n := by
  cases s with
  | false => exact Int.natCast_dvd_natCast
  | true => exact Int.dvd_neg.trans Int.natCast_dvd_natCast

theorem toInt?_finite_iff {s : Bool} {m : Nat} {e : Int} {n : Int} :
    (finite s m e).toInt? = some n ↔ value s m e = n := by
  have hpos := ratio_pos m e
  rw [value, div_eq_iff (ratio_cast_ne_zero m e), toInt?]
  dsimp only
  generalize (ratio m e).1 = num at *
  generalize (ratio m e).2 = den at *
  have hcast : (signed s num : ℚ) = (n : ℚ) * (den : ℚ) ↔ signed s num = n * (den : Int) := by
    exact_mod_cast Iff.rfl
  rw [hcast]
  by_cases hdvd : den ∣ num
  · obtain ⟨q, rfl⟩ := hdvd
    have hden : (den : Int) ≠ 0 := by exact_mod_cast hpos.ne'
    rw [if_pos (Nat.mul_mod_right den q), Nat.mul_div_cancel_left q hpos, signed_mul,
      Option.some_inj, mul_left_inj' hden]
  · rw [if_neg (mt Nat.dvd_of_mod_eq_zero hdvd)]
    refine iff_of_false (Option.some_ne_none n).symm fun h => hdvd ?_
    exact dvd_signed_iff.mp ⟨n, h.trans (mul_comm _ _)⟩

end Double

namespace Value

/-- The exact value of a number or truth value. -/
def number? : Value → Option ℚ
  | bool b => some (if b then 1 else 0)
  | int n => some n
  | float (.finite s m e) => some (Double.value s m e)
  | _ => none

/-- What a key stands for. -/
inductive Meaning
  | null
  | number (q : ℚ)
  | infinite (negative : Bool)
  | noNumber (mark : Nat)
  | text (s : String)
  | bytes (b : Bytes)
  | date (d : Date)
  | instant (n : Int)
  | moment (m : Moment)
  | pair (first second : Meaning)

/-- The key stands for a thing. -/
inductive StandsFor : Value → Meaning → Prop
  | null : StandsFor null .null
  | number {v : Value} {q : ℚ} (h : v.number? = some q) : StandsFor v (.number q)
  | infinite (s : Bool) : StandsFor (float (.infinite s)) (.infinite s)
  | noNumber (mark : Nat) : StandsFor (float (.nan mark)) (.noNumber mark)
  | text (s : String) : StandsFor (text s) (.text s)
  | bytes (b : Bytes) : StandsFor (bytes b) (.bytes b)
  | date (d : Date) : StandsFor (date d) (.date d)
  | instant {m : Moment} {n : Int} (h : m.instant? = some n) : StandsFor (moment m) (.instant n)
  | moment {m : Moment} (h : m.instant? = none) : StandsFor (moment m) (.moment m)
  | pair {a b : Value} {m n : Meaning} (ha : StandsFor a m) (hb : StandsFor b n) :
      StandsFor (pair a b) (.pair m n)

theorem StandsFor.unique {v : Value} {m n : Meaning} (hm : StandsFor v m) (hn : StandsFor v n) :
    m = n := by
  induction hm generalizing n with
  | number h =>
    cases hn with
    | number h' => rw [Option.some.inj (h.symm.trans h')]
    | _ => cases h
  | instant h =>
    cases hn with
    | instant h' => rw [Option.some.inj (h.symm.trans h')]
    | moment h' => cases h.symm.trans h'
    | number h' => cases h'
  | moment h =>
    cases hn with
    | instant h' => cases h.symm.trans h'
    | moment _ => rfl
    | number h' => cases h'
  | pair _ _ iha ihb =>
    cases hn with
    | pair ha hb => rw [iha ha, ihb hb]
    | number h' => cases h'
  | _ =>
    cases hn with
    | number h' => cases h'
    | _ => rfl

/-- Whatever may be a key stands for something. -/
theorem exists_standsFor {v : Value} (h : v.isKey = true) : ∃ m, StandsFor v m := by
  fun_induction isKey v with
  | case1 | case2 | case3 | case4 => cases h
  | case5 a b iha ihb =>
    obtain ⟨ha, hb⟩ := (Bool.and_eq_true _ _).mp h
    obtain ⟨m, hm⟩ := iha ha
    obtain ⟨n, hn⟩ := ihb hb
    exact ⟨_, .pair hm hn⟩
  | case6 v hlist hset hmap hcycle hpair =>
    cases v with
    | null => exact ⟨_, .null⟩
    | bool b => exact ⟨_, .number rfl⟩
    | int n => exact ⟨_, .number rfl⟩
    | float x =>
      cases x with
      | finite s m e => exact ⟨_, .number rfl⟩
      | infinite s => exact ⟨_, .infinite s⟩
      | nan mark => exact ⟨_, .noNumber mark⟩
    | text s => exact ⟨_, .text s⟩
    | bytes b => exact ⟨_, .bytes b⟩
    | date d => exact ⟨_, .date d⟩
    | moment m =>
      cases hm : m.instant? with
      | none => exact ⟨_, .moment hm⟩
      | some n => exact ⟨_, .instant hm⟩
    | list items => exact absurd rfl (hlist items)
    | pair a b => exact absurd rfl (hpair a b)
    | set members => exact absurd rfl (hset members)
    | map fields => exact absurd rfl (hmap fields)
    | cycle => exact absurd rfl hcycle

theorem toInt?_eq_some_iff {v : Value} {n : Int} :
    v.toInt? = some n ↔ v.number? = some (n : ℚ) := by
  cases v with
  | bool b =>
    have hcast : ((if b then 1 else 0 : Int) : ℚ) = if b then 1 else 0 := by cases b <;> rfl
    rw [toInt?, number?, Option.some_inj, Option.some_inj, ← hcast, Int.cast_inj]
  | int m => rw [toInt?, number?, Option.some_inj, Option.some_inj, Int.cast_inj]
  | float x =>
    cases x with
    | finite s m e => rw [toInt?, number?, Double.toInt?_finite_iff, Option.some_inj]
    | _ => simp [toInt?, number?, Double.toInt?]
  | _ => simp [toInt?, number?]

/-- All numbers but those of floating point are integers. -/
theorem exists_int_of_number? {v : Value} {q : ℚ} (h : v.number? = some q)
    (hfloat : ∀ x, v ≠ float x) : ∃ n : Int, q = n := by
  cases v with
  | bool b =>
    obtain rfl := Option.some.inj h
    cases b with
    | false => exact ⟨0, rfl⟩
    | true => exact ⟨1, rfl⟩
  | int n => exact ⟨n, (Option.some.inj h).symm⟩
  | float x => exact absurd rfl (hfloat x)
  | _ => cases h

theorem exists_standsFor_iff {a b : Value} {m n : Meaning} (ha : StandsFor a m)
    (hb : StandsFor b n) : (∃ k, StandsFor a k ∧ StandsFor b k) ↔ m = n := by
  constructor
  · rintro ⟨k, hak, hbk⟩
    exact (ha.unique hak).trans (hbk.unique hb)
  · rintro rfl
    exact ⟨m, ha, hb⟩

theorem same_iff {x y : Double} :
    x.same y = true ↔ ∃ m, StandsFor (float x) m ∧ StandsFor (float y) m := by
  have hfinite (s : Bool) (m : Nat) (e : Int) :
    StandsFor (float (.finite s m e)) (.number (Double.value s m e)) := .number rfl
  cases x with
  | finite s m e =>
    cases y with
    | finite s' m' e' =>
      rw [Double.same_finite_iff, exists_standsFor_iff (hfinite s m e) (hfinite s' m' e'),
        Meaning.number.injEq]
    | infinite s' => simp [exists_standsFor_iff (hfinite s m e) (.infinite s'), Double.same]
    | nan mark => simp [exists_standsFor_iff (hfinite s m e) (.noNumber mark), Double.same]
  | infinite s =>
    cases y with
    | finite s' m' e' =>
      simp [exists_standsFor_iff (.infinite s) (hfinite s' m' e'), Double.same]
    | infinite s' => simp [exists_standsFor_iff (.infinite s) (.infinite s'), Double.same]
    | nan mark => simp [exists_standsFor_iff (.infinite s) (.noNumber mark), Double.same]
  | nan mark =>
    cases y with
    | finite s' m' e' =>
      simp [exists_standsFor_iff (.noNumber mark) (hfinite s' m' e'), Double.same]
    | infinite s' => simp [exists_standsFor_iff (.noNumber mark) (.infinite s'), Double.same]
    | nan mark' => simp [exists_standsFor_iff (.noNumber mark) (.noNumber mark'), Double.same]

theorem sameTime_iff {m n : Moment} :
    m.sameTime n = true ↔ ∃ k, StandsFor (moment m) k ∧ StandsFor (moment n) k := by
  rw [Moment.sameTime]
  cases hm : m.instant? with
  | none =>
    cases hn : n.instant? with
    | none => simp [exists_standsFor_iff (.moment hm) (.moment hn)]
    | some t => simp [exists_standsFor_iff (.moment hm) (.instant hn)]
  | some t =>
    cases hn : n.instant? with
    | none => simp [exists_standsFor_iff (.instant hm) (.moment hn)]
    | some u => simp [exists_standsFor_iff (.instant hm) (.instant hn)]

/-- **Keys are the same if they stand for the same thing.** -/
theorem sameKey_iff {a b : Value} : a.sameKey b = true ↔ ∃ m, StandsFor a m ∧ StandsFor b m := by
  fun_induction sameKey a b with
  | case1 s t => simp [exists_standsFor_iff (.text s) (.text t)]
  | case2 => simpa using ⟨_, StandsFor.null⟩
  | case3 s t => simp [exists_standsFor_iff (.bytes s) (.bytes t)]
  | case4 d e => simp [exists_standsFor_iff (.date d) (.date e)]
  | case5 m n => exact sameTime_iff
  | case6 a b c d hac hbd =>
    rw [Bool.and_eq_true, hac, hbd]
    constructor
    · rintro ⟨⟨m, ha, hc⟩, n, hb, hd⟩
      exact ⟨.pair m n, .pair ha hb, .pair hc hd⟩
    · rintro ⟨k, hab, hcd⟩
      cases hab with
      | number h => cases h
      | pair ha hb =>
        cases hcd with
        | pair hc hd => exact ⟨⟨_, ha, hc⟩, _, hb, hd⟩
  | case7 x y => exact same_iff
  | case8 a b _ _ _ _ _ _ _ m n hb ha =>
    rw [exists_standsFor_iff (.number (toInt?_eq_some_iff.mp ha))
      (.number (toInt?_eq_some_iff.mp hb))]
    simp
  | case9 a b htext hnull hbytes hdate hmoment hpair hfloat hint =>
    refine iff_of_false Bool.false_ne_true ?_
    rintro ⟨k, ha, hb⟩
    cases ha with
    | null => cases hb with | null => exact hnull rfl rfl
    | @number _ q h =>
      cases hb with
      | number h' =>
        -- One of the two is no floating point number, so that both are integers.
        have hinteger : ∃ n : Int, q = n := by
          by_cases hx : ∃ x, a = float x
          · obtain ⟨x, rfl⟩ := hx
            exact exists_int_of_number? h' fun y hy => hfloat x y rfl hy
          · exact exists_int_of_number? h fun x hx' => hx ⟨x, hx'⟩
        obtain ⟨n, rfl⟩ := hinteger
        exact hint n n (toInt?_eq_some_iff.mpr h) (toInt?_eq_some_iff.mpr h')
    | infinite s => cases hb with | infinite => exact hfloat _ _ rfl rfl
    | noNumber mark => cases hb with | noNumber => exact hfloat _ _ rfl rfl
    | text s => cases hb with | text => exact htext _ _ rfl rfl
    | bytes b => cases hb with | bytes => exact hbytes _ _ rfl rfl
    | date d => cases hb with | date => exact hdate _ _ rfl rfl
    | instant h => cases hb with | instant => exact hmoment _ _ rfl rfl
    | moment h => cases hb with | moment => exact hmoment _ _ rfl rfl
    | pair _ _ => cases hb with | pair => exact hpair _ _ _ _ rfl rfl

theorem sameKey_self {key : Value} (h : key.isKey = true) : key.sameKey key = true := by
  obtain ⟨m, hm⟩ := exists_standsFor h
  exact sameKey_iff.mpr ⟨m, hm, hm⟩

theorem sameKey_comm (a b : Value) : a.sameKey b = b.sameKey a := by
  rw [Bool.eq_iff_iff, sameKey_iff, sameKey_iff]
  simp only [and_comm]

/-- Keys that are the same are so with all others. -/
theorem sameKey_congr {a b : Value} (h : a.sameKey b = true) (c : Value) :
    a.sameKey c = b.sameKey c := by
  obtain ⟨m, ha, hb⟩ := sameKey_iff.mp h
  have hsame {v : Value} (hv : StandsFor v m) : v.sameKey c = true ↔ StandsFor c m := by
    rw [sameKey_iff]
    constructor
    · rintro ⟨n, hn, hc⟩
      exact hv.unique hn ▸ hc
    · intro hc
      exact ⟨m, hv, hc⟩
  rw [Bool.eq_iff_iff, hsame ha, hsame hb]

end Value

end Cyclometry
