import Cyclometry.Number.Decimal

/-!
# Written numerals

The digits of a number are decimal digits and their values are those of the number
(`value_digitValues`), so a numeral that is not too long is read back (`read_digitValues`).
-/

namespace Cyclometry.Decimal

theorem isDigit_of_mem_digits {c : Char} {n : Nat} (h : c ∈ digits n) : c.isDigit = true :=
  Nat.isDigit_of_mem_toDigits (by decide) (by decide) h

theorem not_mem_digits {c : Char} (h : c.isDigit = false) (n : Nat) : c ∉ digits n := by
  intro hmem
  rw [isDigit_of_mem_digits hmem] at h
  cases h

/-- The digit values of a natural number. -/
def digitValues (n : Nat) : List Nat := (digits n).map fun c => c.toNat - 48

theorem value_digitValues (n : Nat) : value 10 (digitValues n) = n := by
  have h := Nat.ofDigitChars_ten_toDigits (n := n)
  rw [Nat.ofDigitChars_eq_foldl] at h
  rw [value, digitValues, List.foldl_map, digits]
  simpa [Nat.mul_comm] using h

theorem map_value_digitValues (ns : List Nat) : (ns.map digitValues).map (value 10) = ns := by
  rw [List.map_map]
  exact (List.map_congr_left fun n _ => value_digitValues n).trans (List.map_id ns)

/-- Only zero begins with a zero. -/
theorem head_digitValues (n : Nat) :
    ∃ d ds, digitValues n = d :: ds ∧ (d = 0 → n = 0 ∧ ds = []) := by
  induction n using Nat.strongRecOn with
  | ind n ih =>
    by_cases hn : n < 10
    · refine ⟨n, [], ?_, fun h => ⟨h, rfl⟩⟩
      rw [digitValues, digits, Nat.toDigits_of_lt_base hn, List.map_singleton,
        Nat.toNat_digitChar_sub_48_of_lt_ten hn]
    · obtain ⟨d, ds, hdigits, hzero⟩ := ih (n / 10) (by omega)
      refine ⟨d, ds ++ [n % 10], ?_, fun h => ?_⟩
      · rw [digitValues, digits] at hdigits ⊢
        rw [Nat.toDigits_of_base_le (by decide) (by omega), List.map_append, hdigits,
          List.map_singleton, Nat.toNat_digitChar_sub_48_of_lt_ten (Nat.mod_lt n (by decide))]
        rfl
      · have := (hzero h).1
        omega

theorem length_digitValues {n : Nat} : (digitValues n).length = (digits n).length :=
  List.length_map _

theorem length_digits_le {n k : Nat} (hk : 0 < k) (h : n < Nat.pow 10 k) :
    (digits n).length ≤ k :=
  (Nat.length_toDigits_le_iff (by decide) hk).mpr h

theorem read_digitValues {n : Nat} (h : n < Nat.pow 10 maxDigits) :
    read (digitValues n) = .ok n := by
  have hlength : (digitValues n).length ≤ maxDigits := by
    rw [length_digitValues]
    exact length_digits_le (by decide) h
  rw [read, if_neg (Nat.not_lt.mpr hlength), value_digitValues]

end Cyclometry.Decimal
