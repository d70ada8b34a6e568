import Mathlib.Data.List.Induction

/-! # Circular buffers

A cursor over fixed cells. It rests behind the last cell it wrote, also behind
the last cell of all, and goes back to the first one only when it has to write
again. What a run of writes leaves is read off the cells in front of the cursor
and the values written, laid behind each other.
-/

structure CircularBuffer (α : Type) where
  cells : List α
  cursor : Nat

namespace CircularBuffer

variable {α : Type} (b : CircularBuffer α)

/-- Where the next value goes. -/
def home : Nat := if b.cursor < b.cells.length then b.cursor else 0

def write (x : α) : CircularBuffer α := ⟨b.cells.set b.home x, b.home + 1⟩

def writeAll (xs : List α) : CircularBuffer α := xs.foldl write b

def rewind : CircularBuffer α := { b with cursor := 0 }

@[simp] theorem writeAll_nil : b.writeAll [] = b := rfl

@[simp] theorem writeAll_cons (x : α) (xs : List α) :
    b.writeAll (x :: xs) = (b.write x).writeAll xs := rfl

theorem writeAll_append (front back : List α) :
    b.writeAll (front ++ back) = (b.writeAll front).writeAll back := List.foldl_append

@[simp] theorem write_length (x : α) : (b.write x).cells.length = b.cells.length := by
  simp [write]

@[simp] theorem writeAll_length (xs : List α) : (b.writeAll xs).cells.length = b.cells.length := by
  induction xs generalizing b with
  | nil => rfl
  | cons x xs ih => rw [writeAll_cons, ih, write_length]

theorem writeAll_ne_nil {b : CircularBuffer α} (h : b.cells ≠ []) (xs : List α) :
    (b.writeAll xs).cells ≠ [] := by
  rw [← List.length_pos_iff, writeAll_length]
  exact List.length_pos_iff.mpr h

@[simp] theorem rewind_cells : b.rewind.cells = b.cells := rfl

variable {b}

theorem home_of_lt (h : b.cursor < b.cells.length) : b.home = b.cursor := if_pos h

theorem home_of_le (h : b.cells.length ≤ b.cursor) : b.home = 0 := if_neg (Nat.not_lt.mpr h)

theorem home_lt (h : b.cells ≠ []) : b.home < b.cells.length := by
  have hpos := List.length_pos_iff.mpr h
  unfold home
  split <;> omega

theorem home_home (b : CircularBuffer α) : home { b with cursor := b.home } = b.home := by
  by_cases h : b.cursor < b.cells.length
  · rw [home_of_lt h]
    exact home_of_lt h
  · have hle := Nat.not_lt.mp h
    rw [home_of_le hle]
    unfold home
    split <;> rfl

/-- A cursor behind the last cell may as well be rewound before the next write. -/
theorem writeAll_rewind (h : b.cells.length ≤ b.cursor) {xs : List α} (hxs : xs ≠ []) :
    b.writeAll xs = b.rewind.writeAll xs := by
  have hrewound : b.rewind.home = 0 := by
    unfold home rewind
    split <;> rfl
  cases xs with
  | nil => exact absurd rfl hxs
  | cons x xs =>
      rw [writeAll_cons, writeAll_cons, write, write, home_of_le h, hrewound, rewind_cells]

/-! ## Writes without wrap-around -/

theorem take_set_succ {cells : List α} {i : Nat} (h : i < cells.length) (x : α) :
    (cells.set i x).take (i + 1) = cells.take i ++ [x] := by
  rw [List.take_succ_eq_append_getElem (by simpa using h), List.getElem_set_self,
    List.take_set_of_le (Nat.le_refl i)]

theorem writeAll_block {xs : List α} (h : b.cursor + xs.length ≤ b.cells.length) :
    b.writeAll xs = ⟨b.cells.take b.cursor ++ xs ++ b.cells.drop (b.cursor + xs.length),
      b.cursor + xs.length⟩ := by
  induction xs generalizing b with
  | nil => simp [writeAll]
  | cons x xs ih =>
      rw [List.length_cons] at h
      have hlt : b.cursor < b.cells.length := by omega
      have hwrite : b.write x = ⟨b.cells.set b.cursor x, b.cursor + 1⟩ := by
        rw [write, home_of_lt hlt]
      have hback : (b.cells.set b.cursor x).drop (b.cursor + 1 + xs.length) =
          b.cells.drop (b.cursor + 1 + xs.length) := List.drop_set_of_lt (by omega)
      have hfits : (b.write x).cursor + xs.length ≤ (b.write x).cells.length := by
        simp only [hwrite, List.length_set]
        omega
      rw [writeAll_cons, ih hfits]
      have hstop : b.cursor + (x :: xs).length = b.cursor + 1 + xs.length := by
        rw [List.length_cons]
        omega
      rw [hstop]
      simp only [hwrite, take_set_succ hlt x, hback, List.append_assoc, List.cons_append,
        List.nil_append]

/-! ## What a run of writes leaves -/

/-- The cells in front of the cursor and the values written behind them. -/
def stream (b : CircularBuffer α) (xs : List α) : List α := b.cells.take b.home ++ xs

theorem stream_append (b : CircularBuffer α) (xs ys : List α) :
    b.stream (xs ++ ys) = b.stream xs ++ ys := (List.append_assoc _ xs ys).symm

theorem stream_length (h : b.cells ≠ []) (xs : List α) :
    (b.stream xs).length = b.home + xs.length := by
  have hlt := home_lt h
  rw [stream, List.length_append, List.length_take]
  omega

/-- The cells in front of a position hold the end of the stream. -/
structure Holds (b : CircularBuffer α) (position : Nat) (s : List α) : Prop where
  position_le : position ≤ s.length
  front : b.cells.take position = s.drop (s.length - position)

theorem Holds.write {s : List α} (h : b.cells ≠ []) (hs : b.Holds b.home s) (x : α) :
    (b.write x).Holds (b.write x).cursor (s ++ [x]) := by
  have hle := hs.position_le
  constructor
  · simp only [CircularBuffer.write, List.length_append, List.length_singleton]
    omega
  · simp only [CircularBuffer.write, List.length_append, List.length_singleton]
    rw [take_set_succ (home_lt h), hs.front, Nat.add_sub_add_right,
      List.drop_append_of_le_length (Nat.sub_le _ _)]

theorem Holds.home {s : List α} (hs : b.Holds b.cursor s) : b.Holds b.home s := by
  unfold CircularBuffer.home
  split_ifs
  · exact hs
  · exact ⟨Nat.zero_le _, by simp⟩

/-- The cursor comes home at every multiple of the length. -/
theorem write_home {count : Nat} (h : b.cells ≠ []) (hcount : b.home = count % b.cells.length)
    (x : α) : (b.write x).home = (count + 1) % b.cells.length := by
  have hlt := home_lt h
  have hmod : (count + 1) % b.cells.length = (b.home + 1) % b.cells.length := by
    rw [hcount, Nat.mod_add_mod]
  rw [hmod]
  by_cases hin : b.home + 1 < b.cells.length
  · rw [home_of_lt (by simpa [CircularBuffer.write] using hin), Nat.mod_eq_of_lt hin]
    rfl
  · have hend : b.home + 1 = b.cells.length := by omega
    rw [home_of_le (by simpa [CircularBuffer.write] using hin), hend, Nat.mod_self]

/-- Between two writes the cursor stands where the length of the stream puts it, with the end of
the stream in front of it. -/
theorem writeAll_home (h : b.cells ≠ []) (xs : List α) :
    (b.writeAll xs).home = (b.stream xs).length % b.cells.length ∧
      (b.writeAll xs).Holds (b.writeAll xs).home (b.stream xs) := by
  induction xs using List.reverseRecOn with
  | nil =>
      have hlt := home_lt h
      have hlen := stream_length h ([] : List α)
      rw [List.length_nil, Nat.add_zero] at hlen
      rw [writeAll_nil, hlen, Nat.mod_eq_of_lt hlt]
      refine ⟨rfl, Nat.le_of_eq hlen.symm, ?_⟩
      rw [hlen, Nat.sub_self, List.drop_zero, stream, List.append_nil]
  | append_singleton xs x ih =>
      obtain ⟨hhome, hholds⟩ := ih
      have hcells := writeAll_ne_nil h xs
      have hnext := write_home hcells (hhome.trans (by rw [writeAll_length])) x
      rw [writeAll_append, stream_append, List.length_append]
      exact ⟨hnext.trans (by rw [writeAll_length]; rfl), (hholds.write hcells x).home⟩

theorem writeAll_cursor (h : b.cells ≠ []) {xs : List α} (hxs : xs ≠ []) :
    (b.writeAll xs).cursor = ((b.stream xs).length - 1) % b.cells.length + 1 ∧
      (b.writeAll xs).Holds (b.writeAll xs).cursor (b.stream xs) := by
  obtain ⟨front, x, rfl⟩ : ∃ front x, xs = front ++ [x] :=
    ⟨xs.dropLast, xs.getLast hxs, (List.dropLast_concat_getLast hxs).symm⟩
  obtain ⟨hhome, hholds⟩ := writeAll_home h front
  have hwrite := hholds.write (writeAll_ne_nil h front) x
  rw [writeAll_append, stream_append, List.length_append, List.length_singleton,
    Nat.add_sub_cancel, ← hhome]
  exact ⟨rfl, hwrite⟩

theorem cursor_eq_length_iff (h : b.cells ≠ []) {xs : List α} (hxs : xs ≠ []) :
    (b.writeAll xs).cursor = b.cells.length ↔ b.cells.length ∣ (b.stream xs).length := by
  have hpos := List.length_pos_iff.mpr h
  have hlen := stream_length h xs
  have hxs' := List.length_pos_iff.mpr hxs
  have hdivision := Nat.div_add_mod ((b.stream xs).length - 1) b.cells.length
  rw [(writeAll_cursor h hxs).1]
  constructor
  · intro hend
    refine ⟨((b.stream xs).length - 1) / b.cells.length + 1, ?_⟩
    rw [Nat.mul_succ]
    omega
  · rintro ⟨rounds, hrounds⟩
    cases rounds with
    | zero => omega
    | succ rounds =>
        have hlast : (b.stream xs).length - 1 =
            b.cells.length * rounds + (b.cells.length - 1) := by
          rw [hrounds, Nat.mul_succ]
          omega
        rw [hlast, Nat.mul_add_mod, Nat.mod_eq_of_lt (by omega)]
        omega

/-- A stream of whole rounds leaves its last round. -/
theorem writeAll_rounds (h : b.cells ≠ []) {xs : List α} (hxs : xs ≠ [])
    (hrounds : b.cells.length ∣ (b.stream xs).length) :
    b.writeAll xs =
      ⟨(b.stream xs).drop ((b.stream xs).length - b.cells.length), b.cells.length⟩ := by
  have hcursor := (cursor_eq_length_iff h hxs).mpr hrounds
  have hfront := (writeAll_cursor h hxs).2.front
  rw [hcursor, List.take_of_length_le (Nat.le_of_eq (writeAll_length b xs))] at hfront
  rw [← hfront, ← hcursor]

theorem stream_take (h : b.cells ≠ []) {count : Nat} (hcount : b.home ≤ count) (xs : List α) :
    b.stream (xs.take (count - b.home)) = (b.stream xs).take count := by
  have hfront : (b.cells.take b.home).length = b.home := by
    have hlt := home_lt h
    rw [List.length_take]
    omega
  have hwhole : (b.cells.take b.home).take count = b.cells.take b.home :=
    List.take_of_length_le (by rw [hfront]; exact hcount)
  rw [stream, stream, List.take_append, hfront, hwhole]

/-- A run cut off at the end of a round leaves that round. -/
theorem writeAll_cut (h : b.cells ≠ []) {xs : List α} {i : Nat}
    (hround : (i + 1) * b.cells.length ≤ (b.stream xs).length) :
    b.writeAll (xs.take ((i + 1) * b.cells.length - b.home)) =
      ⟨((b.stream xs).drop (i * b.cells.length)).take b.cells.length, b.cells.length⟩ := by
  have hlt := home_lt h
  have hsucc : (i + 1) * b.cells.length = i * b.cells.length + b.cells.length := Nat.succ_mul _ _
  have hstream := stream_take h (by omega : b.home ≤ (i + 1) * b.cells.length) xs
  have hlen : (b.stream (xs.take ((i + 1) * b.cells.length - b.home))).length =
      (i + 1) * b.cells.length := by
    rw [hstream, List.length_take, Nat.min_eq_left hround]
  have hne : xs.take ((i + 1) * b.cells.length - b.home) ≠ [] := by
    intro hnil
    rw [hnil, stream_length h, List.length_nil] at hlen
    omega
  rw [writeAll_rounds h hne (by rw [hlen]; exact Nat.dvd_mul_left _ _), hlen, hstream, hsucc,
    Nat.add_sub_cancel, List.drop_take, Nat.add_sub_cancel_left]

end CircularBuffer
