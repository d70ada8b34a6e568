import Mathlib.Data.Nat.Digits.Lemmas

/-! # Fixed-width little-endian bytes

Byte strings are lists of bytes. Decoding takes any number of bytes; encoding
keeps the low bytes of the number and is inverted only below the width's bound.
-/

namespace LittleEndian

def decode (bytes : List UInt8) : Nat := Nat.ofDigits 256 (bytes.map UInt8.toNat)

def encode : Nat → Nat → List UInt8
  | 0, _ => []
  | width + 1, n => UInt8.ofNat n :: encode width (n / 256)

@[simp] theorem encode_length (width n : Nat) : (encode width n).length = width := by
  induction width generalizing n with
  | zero => rfl
  | succ width ih => simp [encode, ih]

theorem digit_lt (bytes : List UInt8) : ∀ digit ∈ bytes.map UInt8.toNat, digit < 256 := by
  intro digit hmem
  obtain ⟨byte, _, rfl⟩ := List.mem_map.mp hmem
  exact byte.toNat_lt

theorem decode_lt (bytes : List UInt8) : decode bytes < 256 ^ bytes.length := by
  have hlt := Nat.ofDigits_lt_base_pow_length (by decide : 1 < 256) (digit_lt bytes)
  rwa [List.length_map] at hlt

/-- The low byte of a number, combined with the rest bit by bit. -/
theorem decode_cons_eq_xor (byte : UInt8) (rest : List UInt8) :
    decode (byte :: rest) = byte.toNat ^^^ 2 ^ 8 * decode rest := by
  have hbyte : byte.toNat < 2 ^ 8 := byte.toNat_lt
  have hsum : decode (byte :: rest) = 2 ^ 8 * decode rest + byte.toNat := by
    simp [decode, Nat.ofDigits_cons, Nat.add_comm]
  rw [hsum]
  apply Nat.eq_of_testBit_eq
  intro i
  rw [Nat.testBit_two_pow_mul_add _ hbyte, Nat.testBit_xor, Nat.testBit_two_pow_mul]
  by_cases hi : i < 8
  · simp [hi, Nat.not_le.mpr hi]
  · have hzero : byte.toNat.testBit i = false :=
      Nat.testBit_lt_two_pow (hbyte.trans_le (Nat.pow_le_pow_right (by decide) (Nat.not_lt.mp hi)))
    simp [hi, hzero, Nat.not_lt.mp hi]

/-- Strings of one length are determined by their number. -/
theorem decode_injective {a b : List UInt8} (hlen : a.length = b.length)
    (h : decode a = decode b) : a = b := by
  have hmap := Nat.ofDigits_inj_of_len_eq (by decide : 1 < 256) (by simpa using hlen)
    (digit_lt a) (digit_lt b) h
  exact List.map_injective_iff.mpr (fun _ _ => UInt8.toNat_inj.mp) hmap

theorem decode_encode {width n : Nat} (h : n < 256 ^ width) : decode (encode width n) = n := by
  induction width generalizing n with
  | zero =>
      have hn : n = 0 := by simpa using h
      simp [hn, encode, decode]
  | succ width ih =>
      have hquot : n / 256 < 256 ^ width := by
        rw [Nat.div_lt_iff_lt_mul (by decide), ← Nat.pow_succ]
        exact h
      have hrest : Nat.ofDigits 256 ((encode width (n / 256)).map UInt8.toNat) = n / 256 :=
        ih hquot
      simp only [encode, decode, List.map_cons, Nat.ofDigits_cons, hrest]
      rw [UInt8.toNat_ofNat']
      exact Nat.mod_add_div n 256

theorem decode_append (a b : List UInt8) :
    decode (a ++ b) = decode a + 256 ^ a.length * decode b := by
  unfold decode
  rw [List.map_append, Nat.ofDigits_append, List.length_map]

theorem take_encode {k width : Nat} (h : k ≤ width) (n : Nat) :
    (encode width n).take k = encode k n := by
  induction k generalizing width n with
  | zero => rfl
  | succ k ih =>
      obtain ⟨more, rfl⟩ : ∃ more, width = more + 1 := ⟨width - 1, by omega⟩
      simp only [encode, List.take_succ_cons]
      rw [ih (by omega)]

end LittleEndian
