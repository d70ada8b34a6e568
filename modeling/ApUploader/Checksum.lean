import ApUploader.Logic.ReflectedCrc
import ApUploader.Utils

/-! # The table and the polynomial

Every entry of the table is its index after eight steps of the bitwise check, so
by linearity the table computes the bitwise check on every state. What is known
of the bitwise check then holds of the checksum: it detects every corruption
that lies within four consecutive bytes.
-/

namespace ApUploader

open ReflectedCrc (shift FullDegree)

/-- The polynomial of CRC-32, its highest coefficient in the lowest bit. -/
def polynomial : Nat := 0xEDB88320

private theorem polynomial_fullDegree : FullDegree polynomial 31 := ⟨by decide, by decide⟩

private theorem crctab_eq_shift :
    ∀ index < 256, crctab.getD index 0 = shift polynomial 8 index := by
  decide +kernel

theorem crcStep_eq_byteStep (state : Nat) (byte : UInt8) :
    crcStep state byte = ReflectedCrc.byteStep polynomial state byte :=
  (ReflectedCrc.byteStep_eq_table crctab_eq_shift state byte).symm

theorem crc32_eq_run (data : Bytes) (state : Nat) :
    crc32 data state = ReflectedCrc.run polynomial data state := by
  induction data generalizing state with
  | nil => rfl
  | cons byte rest ih =>
      rw [ReflectedCrc.run_cons, ← crcStep_eq_byteStep]
      exact ih (crcStep state byte)

/-- The checksum by table is the checksum bit by bit, and stays within 32 bits. -/
theorem crc32_bitwise (data : Bytes) {state : Nat} (h : state < 2 ^ 32) :
    crc32 data state = ReflectedCrc.run polynomial data state ∧ crc32 data state < 2 ^ 32 :=
  ⟨crc32_eq_run data state, crc32_lt data h⟩

/-- A whole byte of ones over a state of ones. -/
theorem crc32_bitwise_ones :
    crc32 [0xff] 0xffffffff = ReflectedCrc.run polynomial [0xff] 0xffffffff ∧
      crc32 [0xff] 0xffffffff < 2 ^ 32 :=
  crc32_bitwise [0xff] (by decide)

/-! ## Short corruptions -/

/-- Two different byte strings of one length that agree outside four consecutive positions. -/
structure ShortCorruption (data data' : Bytes) : Prop where
  length : data.length = data'.length
  differ : data ≠ data'
  window : ∃ start, ∀ i, data[i]? ≠ data'[i]? → start ≤ i ∧ i < start + 4

theorem take_append_window (data : Bytes) (start : Nat) :
    data.take start ++ (data.drop start).take 4 ++ data.drop (start + 4) = data := by
  rw [List.append_assoc, ← List.drop_drop, List.take_append_drop, List.take_append_drop]

theorem ShortCorruption.split {data data' : Bytes} (h : ShortCorruption data data') :
    ∃ front a b back, data = front ++ a ++ back ∧ data' = front ++ b ++ back ∧
      a.length = b.length ∧ a.length ≤ 4 ∧ a ≠ b := by
  obtain ⟨start, hwindow⟩ := h.window
  have hagree : ∀ i, i < start ∨ start + 4 ≤ i → data[i]? = data'[i]? := by
    intro i hi
    by_contra hne
    have := hwindow i hne
    omega
  have hfront : data.take start = data'.take start := by
    apply List.ext_getElem?
    intro i
    by_cases hi : i < start
    · rw [List.getElem?_take_of_lt hi, List.getElem?_take_of_lt hi, hagree i (.inl hi)]
    · rw [List.getElem?_take_eq_none (Nat.not_lt.mp hi),
        List.getElem?_take_eq_none (Nat.not_lt.mp hi)]
  have hback : data.drop (start + 4) = data'.drop (start + 4) := by
    apply List.ext_getElem?
    intro i
    rw [List.getElem?_drop, List.getElem?_drop, hagree _ (.inr (Nat.le_add_right _ i))]
  have hdata := take_append_window data start
  have hdata' := take_append_window data' start
  refine ⟨data.take start, (data.drop start).take 4, (data'.drop start).take 4,
    data.drop (start + 4), hdata.symm, ?_, ?_, ?_, ?_⟩
  · rw [hfront, hback, hdata']
  · simp [h.length]
  · exact List.length_take_le 4 _
  · intro heq
    apply h.differ
    rw [← hdata, ← hdata', heq, hfront, hback]

theorem ShortCorruption.crc32_ne {data data' : Bytes} (h : ShortCorruption data data')
    {state : Nat} (hstate : state < 2 ^ 32) : crc32 data state ≠ crc32 data' state := by
  obtain ⟨front, a, b, back, rfl, rfl, hlen, hfits, hne⟩ := h.split
  rw [crc32_eq_run, crc32_eq_run]
  exact ReflectedCrc.run_burst polynomial_fullDegree (by decide) hstate hlen (by omega) hne

end ApUploader
