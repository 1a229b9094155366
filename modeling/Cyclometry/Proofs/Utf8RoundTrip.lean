import Mathlib.Tactic.IntervalCases
import Mathlib.Tactic.SplitIfs
import Cyclometry.Text.Utf8

/-!
# Text survives its encoding

Every text is read back from its UTF-8 bytes without a gap (`pieces_encode`), so lossy decoding
gives the text itself, and so does strict decoding.  The argument is about one character in front of
any rest.  Its first byte tells how many bytes follow and narrows the range of the second one
(`lead?_two`, `lead?_three`, `lead?_four`); no character falls out of that range, because the
encoder never uses a longer form than it has to and there are no surrogates among characters.

Bytes below 128 stand for themselves and occur in no longer sequence (`toNat_eq_of_mem`).
-/

namespace Cyclometry.Utf8

/-! ## Bytes of a sequence -/

theorem toNat_continuation (n : Nat) : (UInt8.ofNat (n % 64 + 128)).toNat = n % 64 + 128 :=
  UInt8.toNat_ofNat_of_lt' (by show n % 64 + 128 < 256; omega)

theorem isContinuation_continuation (n : Nat) :
    isContinuation (UInt8.ofNat (n % 64 + 128)) = true := by
  rw [isContinuation, Bool.and_eq_true, decide_eq_true_iff, decide_eq_true_iff,
    UInt8.le_iff_toNat_le, UInt8.le_iff_toNat_le, toNat_continuation]
  constructor
  · show 128 ≤ _
    omega
  · show _ ≤ 191
    omega

theorem extend_continuation (value n : Nat) :
    extend value (UInt8.ofNat (n % 64 + 128)) = value * 64 + n % 64 := by
  unfold extend
  rw [toNat_continuation]
  omega

theorem lead?_two {k : Nat} (hlow : 2 ≤ k) (hhigh : k < 32) :
    lead? (UInt8.ofNat (k + 192)) = some ⟨0, k, 0x80, 0xbf⟩ := by
  interval_cases k <;> rfl

theorem lead?_three {k : Nat} (h : k < 16) :
    lead? (UInt8.ofNat (k + 224)) =
      some ⟨1, k, if k = 0 then 0xa0 else 0x80, if k = 13 then 0x9f else 0xbf⟩ := by
  interval_cases k <;> rfl

theorem lead?_four {k : Nat} (h : k < 5) :
    lead? (UInt8.ofNat (k + 240)) =
      some ⟨2, k, if k = 0 then 0x90 else 0x80, if k = 4 then 0x8f else 0xbf⟩ := by
  interval_cases k <;> rfl

/-- A sequence goes on behind its second byte. -/
theorem piece_of_lead? {b : UInt8} {lead : Lead} (hb : ¬ b < 0x80) (hlead : lead? b = some lead)
    {n : Nat} (hlow : lead.low.toNat ≤ n % 64 + 128) (hhigh : n % 64 + 128 ≤ lead.high.toNat)
    (rest : Bytes) :
    piece b (UInt8.ofNat (n % 64 + 128) :: rest) =
      continued (lead.payload * 64 + n % 64) 1 lead.further rest := by
  have hrange : (decide (lead.low ≤ UInt8.ofNat (n % 64 + 128)) &&
      decide (UInt8.ofNat (n % 64 + 128) ≤ lead.high)) = true := by
    rw [Bool.and_eq_true, decide_eq_true_iff, decide_eq_true_iff, UInt8.le_iff_toNat_le,
      UInt8.le_iff_toNat_le, toNat_continuation]
    exact ⟨hlow, hhigh⟩
  unfold piece
  rw [if_neg hb, hlead]
  simp only [hrange, if_true, extend_continuation]

theorem not_lt_of_le {n : Nat} (hlow : 128 ≤ n) (hhigh : n < 256) : ¬ UInt8.ofNat n < 0x80 := by
  rw [UInt8.lt_iff_toNat_lt, UInt8.toNat_ofNat_of_lt' hhigh]
  exact Nat.not_lt.mpr hlow

/-! ## One character in front of any rest -/

section Sequence

variable {v : Nat} (rest : Bytes)

theorem piece_one (h : v ≤ 127) :
    piece (UInt8.ofNat v) rest = (some (Char.ofNat v), 0) := by
  have hnat : (UInt8.ofNat v).toNat = v := UInt8.toNat_ofNat_of_lt' (by show v < 256; omega)
  have hascii : UInt8.ofNat v < 0x80 := by
    rw [UInt8.lt_iff_toNat_lt, hnat]
    exact Nat.lt_succ_of_le h
  unfold piece
  rw [if_pos hascii, hnat]

theorem piece_two (hlow : 128 ≤ v) (hhigh : v ≤ 2047) :
    piece (UInt8.ofNat (v / 64 % 32 + 192)) (UInt8.ofNat (v % 64 + 128) :: rest) =
      (some (Char.ofNat v), 1) := by
  have hlead := lead?_two (k := v / 64 % 32) (by omega) (by omega)
  have hvalue : v / 64 % 32 * 64 + v % 64 = v := by omega
  rw [piece_of_lead? (not_lt_of_le (by omega) (by omega)) hlead (by show 128 ≤ _; omega)
    (by show _ ≤ 191; omega)]
  simp only [hvalue, continued]

theorem piece_three (hlow : 2048 ≤ v) (hhigh : v ≤ 65535) (hvalid : v < 55296 ∨ 57343 < v) :
    piece (UInt8.ofNat (v / 4096 % 16 + 224))
        (UInt8.ofNat (v / 64 % 64 + 128) :: UInt8.ofNat (v % 64 + 128) :: rest) =
      (some (Char.ofNat v), 2) := by
  have hlead := lead?_three (k := v / 4096 % 16) (by omega)
  have hvalue : (v / 4096 % 16 * 64 + v / 64 % 64) * 64 + v % 64 = v := by omega
  rw [piece_of_lead? (not_lt_of_le (by omega) (by omega)) hlead]
  · simp only [continued, isContinuation_continuation, if_true, extend_continuation, hvalue]
  · -- A shorter form exists below 2048.
    dsimp only
    split_ifs with hfirst
    · show 160 ≤ _
      omega
    · show 128 ≤ _
      omega
  · -- The surrogates begin at 55296.
    dsimp only
    split_ifs with hsurrogate
    · show _ ≤ 159
      omega
    · show _ ≤ 191
      omega

theorem piece_four (hlow : 65536 ≤ v) (hhigh : v < 1114112) :
    piece (UInt8.ofNat (v / 262144 % 8 + 240))
        (UInt8.ofNat (v / 4096 % 64 + 128) :: UInt8.ofNat (v / 64 % 64 + 128) ::
          UInt8.ofNat (v % 64 + 128) :: rest) =
      (some (Char.ofNat v), 3) := by
  have hlead := lead?_four (k := v / 262144 % 8) (by omega)
  have hvalue : ((v / 262144 % 8 * 64 + v / 4096 % 64) * 64 + v / 64 % 64) * 64 + v % 64 = v := by
    omega
  rw [piece_of_lead? (not_lt_of_le (by omega) (by omega)) hlead]
  · simp only [continued, isContinuation_continuation, if_true, extend_continuation, hvalue]
  · -- A shorter form exists below 65536.
    dsimp only
    split_ifs with hfirst
    · show 144 ≤ _
      omega
    · show 128 ≤ _
      omega
  · -- There is nothing from 1114112 on.
    dsimp only
    split_ifs with hlast
    · show _ ≤ 143
      omega
    · show _ ≤ 191
      omega

end Sequence

/-- **A character is read back**, whatever follows it. -/
theorem pieces_utf8EncodeChar (c : Char) (rest : Bytes) :
    pieces (String.utf8EncodeChar c ++ rest) = some c :: pieces rest := by
  have hvalid : c.val.toNat < 55296 ∨ 57343 < c.val.toNat ∧ c.val.toNat < 1114112 := c.valid
  have hchar : Char.ofNat c.val.toNat = c := Char.ofNat_toNat c
  rw [String.utf8EncodeChar]
  split_ifs with hone htwo hthree
  · rw [List.singleton_append, pieces, piece_one _ hone, hchar]
    rfl
  · rw [List.cons_append, List.singleton_append, pieces, piece_two _ (by omega) htwo, hchar]
    rfl
  · rw [List.cons_append, List.cons_append, List.singleton_append, pieces,
      piece_three _ (by omega) hthree (by omega), hchar]
    rfl
  · rw [List.cons_append, List.cons_append, List.cons_append, List.singleton_append, pieces,
      piece_four _ (by omega) (by omega), hchar]
    rfl

/-! ## Texts -/

theorem encode_append (s t : List Char) : encode (s ++ t) = encode s ++ encode t :=
  List.flatMap_append

/-- **A text is read back** character by character, without a gap. -/
theorem pieces_encode (s : List Char) : pieces (encode s) = s.map some := by
  induction s with
  | nil =>
    show pieces [] = []
    rw [pieces]
  | cons c s ih =>
    rw [encode, List.flatMap_cons, pieces_utf8EncodeChar, ← encode, ih, List.map_cons]

theorem decodeLossy_encode (s : List Char) : decodeLossy (encode s) = s := by
  rw [decodeLossy, pieces_encode, List.map_map]
  exact List.map_id' s

theorem decode?_encode (s : List Char) : decode? (encode s) = some s := by
  have hpure : List.mapM (fun c => some c) s = some (s.map fun c => c) := List.mapM_pure
  rw [decode?, pieces_encode, List.mapM_map]
  exact hpure.trans (congrArg some (List.map_id' s))

/-- A byte below 128 stands for itself: all bytes of longer sequences are 128 at least. -/
theorem toNat_eq_of_mem {c : Char} {b : UInt8} (h : b ∈ String.utf8EncodeChar c)
    (hb : b.toNat < 128) : c.toNat = b.toNat := by
  have hlong {n : Nat} (hlow : 128 ≤ n) (hhigh : n < 256) : b ≠ UInt8.ofNat n := by
    rintro rfl
    rw [UInt8.toNat_ofNat_of_lt' hhigh] at hb
    omega
  rw [String.utf8EncodeChar] at h
  split_ifs at h <;> simp only [List.mem_cons, List.not_mem_nil, or_false] at h
  · rw [h, UInt8.toNat_ofNat_of_lt' (by show c.val.toNat < 256; omega)]
    rfl
  · rcases h with h | h <;> exact absurd h (hlong (by omega) (by omega))
  · rcases h with h | h | h <;> exact absurd h (hlong (by omega) (by omega))
  · rcases h with h | h | h | h <;> exact absurd h (hlong (by omega) (by omega))

theorem mem_of_mem_encode {s : List Char} {b : UInt8} (h : b ∈ encode s) (hb : b.toNat < 128) :
    Char.ofNat b.toNat ∈ s := by
  obtain ⟨c, hc, hbyte⟩ := List.mem_flatMap.mp h
  rwa [← toNat_eq_of_mem hbyte hb, Char.ofNat_toNat]

/-- Characters below 128 are one byte each. -/
theorem encode_eq_map {s : List Char} (h : ∀ c ∈ s, c.toNat < 128) :
    encode s = s.map fun c => UInt8.ofNat c.toNat := by
  induction s with
  | nil => rfl
  | cons c s ih =>
    obtain ⟨hc, hs⟩ := List.forall_mem_cons.mp h
    rw [encode, List.flatMap_cons, ← encode, ih hs, String.utf8EncodeChar,
      if_pos (show c.val.toNat ≤ 127 from Nat.le_of_lt_succ hc)]
    rfl

end Cyclometry.Utf8
