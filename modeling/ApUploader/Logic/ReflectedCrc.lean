import ApUploader.Logic.LittleEndian
import Mathlib.Data.Nat.Bitwise

/-! # Reflected cyclic redundancy checks, bit by bit

The least significant bit of the state leaves first; when it is set, the
polynomial is added to the rest. One step is linear over exclusive or, so a run
over a message is the shift of the state combined with the message read as a
number. A polynomial of full degree makes every step injective, and with it a
run in its state and in any message no longer than the state.
-/

namespace ReflectedCrc

variable {poly width : Nat}

def bitStep (poly state : Nat) : Nat :=
  if state % 2 = 1 then (state / 2) ^^^ poly else state / 2

def shift (poly : Nat) : Nat → Nat → Nat
  | 0, state => state
  | count + 1, state => shift poly count (bitStep poly state)

def byteStep (poly state : Nat) (byte : UInt8) : Nat := shift poly 8 (state ^^^ byte.toNat)

/-- The state behind a message: no inversion before it and none behind it. -/
def run (poly : Nat) (data : List UInt8) (state : Nat) : Nat :=
  data.foldl (byteStep poly) state

@[simp] theorem run_nil (state : Nat) : run poly [] state = state := rfl

@[simp] theorem run_cons (byte : UInt8) (rest : List UInt8) (state : Nat) :
    run poly (byte :: rest) state = run poly rest (byteStep poly state byte) := by
  rw [run, List.foldl_cons, run]

theorem run_append (front back : List UInt8) (state : Nat) :
    run poly (front ++ back) state = run poly back (run poly front state) := List.foldl_append

/-! ## Linearity -/

theorem bitStep_xor (a b : Nat) :
    bitStep poly (a ^^^ b) = bitStep poly a ^^^ bitStep poly b := by
  have hparity : (a ^^^ b) % 2 = (a % 2 + b % 2) % 2 := by
    rw [Nat.xor_mod_two_eq, Nat.add_mod]
  unfold bitStep
  rw [Nat.xor_div_two, hparity]
  rcases Nat.mod_two_eq_zero_or_one a with ha | ha <;>
    rcases Nat.mod_two_eq_zero_or_one b with hb | hb
  · simp [ha, hb]
  · simp [ha, hb, Nat.xor_assoc]
  · simp only [ha, hb, Nat.add_zero, Nat.one_mod, if_true, Nat.zero_ne_one, if_false]
    rw [Nat.xor_assoc, Nat.xor_comm (b / 2), ← Nat.xor_assoc]
  · -- the polynomial is added twice, which takes it away again
    simp only [ha, hb, Nat.reduceAdd, Nat.mod_self, Nat.zero_ne_one, if_false, if_true]
    rw [Nat.xor_assoc, Nat.xor_comm (b / 2), ← Nat.xor_assoc poly, Nat.xor_self, Nat.zero_xor]

@[simp] theorem bitStep_two_mul (state : Nat) : bitStep poly (2 * state) = state := by
  simp [bitStep]

theorem shift_xor (count a b : Nat) :
    shift poly count (a ^^^ b) = shift poly count a ^^^ shift poly count b := by
  induction count generalizing a b with
  | zero => rfl
  | succ count ih => rw [shift, bitStep_xor, ih, shift, shift]

/-- Zero bits at the low end leave without a trace. -/
theorem shift_two_pow_mul (count state : Nat) : shift poly count (2 ^ count * state) = state := by
  induction count with
  | zero => simp [shift]
  | succ count ih => rw [shift, Nat.pow_succ', Nat.mul_assoc, bitStep_two_mul, ih]

theorem shift_add (first second state : Nat) :
    shift poly (first + second) state = shift poly second (shift poly first state) := by
  induction first generalizing state with
  | zero => rw [Nat.zero_add, shift]
  | succ first ih => rw [Nat.succ_add, shift, ih, shift]

/-! ## Bounds and injectivity -/

/-- The polynomial has the coefficient of the highest bit of the state and none above it. -/
structure FullDegree (poly width : Nat) : Prop where
  top : 2 ^ width ≤ poly
  bound : poly < 2 ^ (width + 1)

theorem bitStep_lt (h : FullDegree poly width) {state : Nat} (hstate : state < 2 ^ (width + 1)) :
    bitStep poly state < 2 ^ (width + 1) := by
  have hhalf : state / 2 < 2 ^ (width + 1) := (Nat.div_le_self state 2).trans_lt hstate
  unfold bitStep
  split
  · exact Nat.xor_lt_two_pow hhalf h.bound
  · exact hhalf

/-- Only the zero state is shifted to zero: the half of a state lies below the polynomial. -/
theorem bitStep_eq_zero (h : FullDegree poly width) {state : Nat}
    (hstate : state < 2 ^ (width + 1)) (hzero : bitStep poly state = 0) : state = 0 := by
  have hhalf : state / 2 < 2 ^ width := by
    rw [Nat.div_lt_iff_lt_mul (by omega), ← Nat.pow_succ]
    exact hstate
  have htop := h.top
  unfold bitStep at hzero
  split at hzero
  · have heq := Nat.xor_eq_zero_iff.mp hzero
    omega
  · omega

theorem shift_lt (h : FullDegree poly width) (count : Nat) {state : Nat}
    (hstate : state < 2 ^ (width + 1)) : shift poly count state < 2 ^ (width + 1) := by
  induction count generalizing state with
  | zero => exact hstate
  | succ count ih => exact ih (bitStep_lt h hstate)

theorem shift_eq_zero (h : FullDegree poly width) (count : Nat) {state : Nat}
    (hstate : state < 2 ^ (width + 1)) (hzero : shift poly count state = 0) : state = 0 := by
  induction count generalizing state with
  | zero => exact hzero
  | succ count ih => exact bitStep_eq_zero h hstate (ih (bitStep_lt h hstate) hzero)

theorem shift_injective (h : FullDegree poly width) (count : Nat) {a b : Nat}
    (ha : a < 2 ^ (width + 1)) (hb : b < 2 ^ (width + 1))
    (heq : shift poly count a = shift poly count b) : a = b := by
  have hdiff : shift poly count (a ^^^ b) = 0 := by rw [shift_xor, heq, Nat.xor_self]
  exact Nat.xor_eq_zero_iff.mp (shift_eq_zero h count (Nat.xor_lt_two_pow ha hb) hdiff)

/-! ## A step by table -/

theorem split_low (state count : Nat) :
    state = (state % 2 ^ count) ^^^ (2 ^ count * (state / 2 ^ count)) := by
  apply Nat.eq_of_testBit_eq
  intro i
  rw [Nat.testBit_xor, Nat.testBit_mod_two_pow, Nat.testBit_two_pow_mul, Nat.testBit_div_two_pow]
  by_cases hi : i < count
  · simp [hi, Nat.not_le.mpr hi]
  · simp [hi, Nat.not_lt.mp hi]

theorem byteStep_eq_table {table : List Nat}
    (htable : ∀ index < 256, table.getD index 0 = shift poly 8 index)
    (state : Nat) (byte : UInt8) :
    byteStep poly state byte =
      table.getD ((state ^^^ byte.toNat) &&& 0xFF) 0 ^^^ (state >>> 8) := by
  have hbyte : byte.toNat < 256 := byte.toNat_lt
  have hmask : (state ^^^ byte.toNat) &&& 0xFF = (state ^^^ byte.toNat) % 2 ^ 8 :=
    Nat.and_two_pow_sub_one_eq_mod _ 8
  have hlow : (state ^^^ byte.toNat) % 2 ^ 8 < 256 := Nat.mod_lt _ (by decide)
  have hhigh : (state ^^^ byte.toNat) / 2 ^ 8 = state >>> 8 := by
    rw [Nat.xor_div_two_pow, Nat.div_eq_of_lt (a := byte.toNat) hbyte, Nat.xor_zero,
      Nat.shiftRight_eq_div_pow]
  -- the low byte takes the eight steps of the table, the rest is only moved down
  rw [hmask, htable _ hlow, ← hhigh, byteStep]
  nth_rewrite 1 [split_low (state ^^^ byte.toNat) 8]
  rw [shift_xor, shift_two_pow_mul]

/-! ## Runs -/

theorem byteStep_lt (h : FullDegree poly width) (hwidth : 8 ≤ width + 1) {state : Nat}
    (hstate : state < 2 ^ (width + 1)) (byte : UInt8) :
    byteStep poly state byte < 2 ^ (width + 1) :=
  shift_lt h 8 (Nat.xor_lt_two_pow hstate
    (byte.toNat_lt.trans_le (Nat.pow_le_pow_right (by decide) hwidth)))

theorem run_lt (h : FullDegree poly width) (hwidth : 8 ≤ width + 1) (data : List UInt8)
    {state : Nat} (hstate : state < 2 ^ (width + 1)) :
    run poly data state < 2 ^ (width + 1) := by
  induction data generalizing state with
  | nil => exact hstate
  | cons byte rest ih => exact ih (byteStep_lt h hwidth hstate byte)

/-- A run is one long shift of the state combined with the message as a number. -/
theorem run_eq_shift (data : List UInt8) (state : Nat) :
    run poly data state =
      shift poly (8 * data.length) (state ^^^ LittleEndian.decode data) := by
  induction data generalizing state with
  | nil => simp [shift, LittleEndian.decode]
  | cons byte rest ih =>
      have hrest : LittleEndian.decode rest =
          shift poly 8 (2 ^ 8 * LittleEndian.decode rest) := (shift_two_pow_mul 8 _).symm
      calc run poly (byte :: rest) state
          = shift poly (8 * rest.length)
              (byteStep poly state byte ^^^ LittleEndian.decode rest) := ih _
        _ = shift poly (8 * rest.length)
              (shift poly 8 (state ^^^ byte.toNat ^^^ 2 ^ 8 * LittleEndian.decode rest)) := by
            rw [shift_xor 8 (state ^^^ byte.toNat), ← hrest, byteStep]
        _ = shift poly (8 * (byte :: rest).length)
              (state ^^^ LittleEndian.decode (byte :: rest)) := by
            rw [← shift_add, Nat.xor_assoc, ← LittleEndian.decode_cons_eq_xor, List.length_cons,
              Nat.mul_succ, Nat.add_comm]

theorem run_injective_state (h : FullDegree poly width) (hwidth : 8 ≤ width + 1)
    (data : List UInt8) {a b : Nat} (ha : a < 2 ^ (width + 1)) (hb : b < 2 ^ (width + 1))
    (heq : run poly data a = run poly data b) : a = b := by
  induction data generalizing a b with
  | nil => exact heq
  | cons byte rest ih =>
      have hbyte : byte.toNat < 2 ^ (width + 1) :=
        byte.toNat_lt.trans_le (Nat.pow_le_pow_right (by decide) hwidth)
      have hstep : byteStep poly a byte = byteStep poly b byte :=
        ih (byteStep_lt h hwidth ha byte) (byteStep_lt h hwidth hb byte) heq
      exact Nat.xor_left_inj.mp (shift_injective h 8 (Nat.xor_lt_two_pow ha hbyte)
        (Nat.xor_lt_two_pow hb hbyte) hstep)

/-- Messages of one length that fit into the state are told apart. -/
theorem run_injective_message (h : FullDegree poly width) {a b : List UInt8} {state : Nat}
    (hstate : state < 2 ^ (width + 1)) (hlen : a.length = b.length)
    (hfits : 8 * a.length ≤ width + 1) (heq : run poly a state = run poly b state) : a = b := by
  have hsmall : ∀ {data : List UInt8}, data.length = a.length →
      LittleEndian.decode data < 2 ^ (width + 1) := by
    intro data hdata
    refine (LittleEndian.decode_lt data).trans_le ?_
    rw [hdata, show 256 = 2 ^ 8 from rfl, ← Nat.pow_mul]
    exact Nat.pow_le_pow_right (by decide) hfits
  rw [run_eq_shift, run_eq_shift, ← hlen] at heq
  have hstates := shift_injective h _ (Nat.xor_lt_two_pow hstate (hsmall rfl))
    (Nat.xor_lt_two_pow hstate (hsmall hlen.symm)) heq
  exact LittleEndian.decode_injective hlen (Nat.xor_right_inj.mp hstates)

/-- An error burst that fits into the state is detected, wherever it lies. -/
theorem run_burst (h : FullDegree poly width) (hwidth : 8 ≤ width + 1)
    {front a b back : List UInt8} {state : Nat} (hstate : state < 2 ^ (width + 1))
    (hlen : a.length = b.length) (hfits : 8 * a.length ≤ width + 1) (hne : a ≠ b) :
    run poly (front ++ a ++ back) state ≠ run poly (front ++ b ++ back) state := by
  intro heq
  simp only [run_append] at heq
  have hfront := run_lt h hwidth front hstate
  have hburst := run_injective_state h hwidth back (run_lt h hwidth a hfront)
    (run_lt h hwidth b hfront) heq
  exact hne (run_injective_message h hfront hlen hfits hburst)

end ReflectedCrc
