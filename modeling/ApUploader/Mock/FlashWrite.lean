import ApUploader.Logic.CircularBuffer
import ApUploader.Mock.Bootloader
import Mathlib.Tactic.NormNum

/-! # Writes to the simulated flash memory

The recursion over the pieces between two wrap-arounds writes what a circular
buffer writes byte by byte. Each piece draws its own acknowledgment, and a lost
acknowledgment leaves the recursion: behind the last piece that is only the
acknowledgment of the command, behind any other one the rest is not written.
-/

namespace ApUploader

open Effect

namespace MockBootloader

def memory (d : MockBootloader) : CircularBuffer UInt8 := ⟨d.flashMemory, d.flashMemoryWritePtr⟩

def withMemory (d : MockBootloader) (m : CircularBuffer UInt8) : MockBootloader :=
  { d with flashMemory := m.cells, flashMemoryWritePtr := m.cursor }

def drawAcknowledgment : Proc Exn MockBootloader Unit := do
  let d ← Proc.get
  if d.simulateDesync ∧ 4096 ≤ d.flashMemoryWritePtr then
    let p ← nextRandom
    if p < 1 / 100 then Proc.raise .simulatedPacketLossError
    else if p < 2 / 100 then Proc.raise .simulatedPacketDelayError
    else pure ()
  else pure ()

/-- The acknowledgment of a piece that ends where the write pointer stands is lost or late. -/
def Lost (d : MockBootloader) : Prop :=
  d.simulateDesync ∧ 4096 ≤ d.flashMemoryWritePtr ∧ d.random d.drawn < 2 / 100

def draws (d : MockBootloader) : Nat :=
  if d.simulateDesync ∧ 4096 ≤ d.flashMemoryWritePtr then 1 else 0

theorem nextRandom_eq (d : MockBootloader) :
    nextRandom d = (.ok (d.random d.drawn), { d with drawn := d.drawn + 1 }) := rfl

theorem drawAcknowledgment_ok {d : MockBootloader} (h : ¬ d.Lost) :
    drawAcknowledgment d = (.ok (), { d with drawn := d.drawn + d.draws }) := by
  unfold Lost at h
  unfold drawAcknowledgment draws
  rw [Proc.get_bind]
  split_ifs with hdraw
  · have hp : ¬ d.random d.drawn < 2 / 100 := fun hp => h ⟨hdraw.1, hdraw.2, hp⟩
    have hp' : ¬ d.random d.drawn < 1 / 100 := fun hp' => hp (hp'.trans (by norm_num))
    rw [Proc.bind_of_ok (nextRandom_eq d), if_neg hp', if_neg hp]
    rfl
  · rfl

theorem drawAcknowledgment_silent {d : MockBootloader} (h : d.simulateDesync = false) :
    drawAcknowledgment d = (.ok (), d) := by
  have hnone : ¬ (d.simulateDesync = true) := Bool.eq_false_iff.mp h
  unfold drawAcknowledgment
  rw [Proc.get_bind, if_neg fun h => hnone h.1]
  rfl

theorem drawAcknowledgment_raised {d : MockBootloader} (h : d.Lost) :
    ∃ error ∈ [Exn.simulatedPacketLossError, Exn.simulatedPacketDelayError],
      drawAcknowledgment d = (.raised error, { d with drawn := d.drawn + 1 }) := by
  obtain ⟨hdesync, hptr, hp⟩ := h
  unfold drawAcknowledgment
  rw [Proc.get_bind, if_pos ⟨hdesync, hptr⟩, Proc.bind_of_ok (nextRandom_eq d)]
  by_cases hp' : d.random d.drawn < 1 / 100
  · exact ⟨.simulatedPacketLossError, by simp, by rw [if_pos hp']; rfl⟩
  · exact ⟨.simulatedPacketDelayError, by simp, by rw [if_neg hp', if_pos hp]; rfl⟩

theorem drawAcknowledgment_memory (d : MockBootloader) :
    (drawAcknowledgment d).2.memory = d.memory := by
  by_cases h : d.Lost
  · obtain ⟨error, _, hraised⟩ := drawAcknowledgment_raised h
    rw [hraised]
    rfl
  · rw [drawAcknowledgment_ok h]
    rfl

theorem writeToFlashMemory_nil (depth : Nat) (d : MockBootloader) :
    writeToFlashMemory (depth + 1) [] d = (.ok (), d) := rfl

theorem writeToFlashMemory_block {depth : Nat} {data : Bytes} {d : MockBootloader}
    (hdata : data ≠ []) (hfits : d.flashMemoryWritePtr + data.length ≤ d.flashMemory.length) :
    writeToFlashMemory (depth + 1) data d =
      drawAcknowledgment (d.withMemory (d.memory.writeAll data)) := by
  rw [CircularBuffer.writeAll_block hfits, writeToFlashMemory, if_neg hdata, Proc.get_bind,
    if_pos hfits]
  rfl

/-- A pointer at or behind the end is set to the start first. -/
theorem writeToFlashMemory_behind {depth : Nat} {data : Bytes} {d : MockBootloader}
    (hdata : data ≠ []) (hptr : d.flashMemory.length ≤ d.flashMemoryWritePtr) :
    writeToFlashMemory (depth + 2) data d =
      writeToFlashMemory (depth + 1) data (d.withMemory d.memory.rewind) := by
  have hlen := List.length_pos_iff.mpr hdata
  have hover : ¬ d.flashMemoryWritePtr + data.length ≤ d.flashMemory.length := by omega
  have hroom : data.length - (d.flashMemoryWritePtr + data.length - d.flashMemory.length) = 0 := by
    omega
  rw [writeToFlashMemory, if_neg hdata, Proc.get_bind, if_neg hover, hroom, List.take_zero,
    List.drop_zero, Proc.bind_of_ok (writeToFlashMemory_nil depth d)]
  rfl

/-! ## From piece to piece -/

def drawsAtEnd (d : MockBootloader) : Nat :=
  if d.simulateDesync ∧ 4096 ≤ d.flashMemory.length then 1 else 0

/-- The acknowledgment of the piece behind `count` others that ends with the memory is lost. -/
def LostAt (d : MockBootloader) (count : Nat) : Prop :=
  d.simulateDesync ∧ 4096 ≤ d.flashMemory.length ∧ d.random (d.drawn + count) < 2 / 100

def firstPiece (d : MockBootloader) (data : Bytes) : Bytes :=
  data.take (d.flashMemory.length - d.flashMemoryWritePtr)

def otherPieces (d : MockBootloader) (data : Bytes) : Bytes :=
  data.drop (d.flashMemory.length - d.flashMemoryWritePtr)

def behindFirstPiece (d : MockBootloader) (data : Bytes) : MockBootloader :=
  { d.withMemory (d.memory.writeAll (d.firstPiece data)).rewind with
    drawn := d.drawn + d.drawsAtEnd }

section Pieces

variable {d : MockBootloader} {data : Bytes} {depth : Nat}

theorem firstPiece_cursor (hptr : d.flashMemoryWritePtr < d.flashMemory.length)
    (hover : d.flashMemory.length < d.flashMemoryWritePtr + data.length) :
    (d.memory.writeAll (d.firstPiece data)).cursor = d.flashMemory.length := by
  have hlen : (d.firstPiece data).length = d.flashMemory.length - d.flashMemoryWritePtr := by
    rw [firstPiece, List.length_take]
    omega
  have hfits : d.memory.cursor + (d.firstPiece data).length ≤ d.memory.cells.length := by
    rw [hlen]
    exact (Nat.add_sub_cancel' hptr.le).le
  rw [CircularBuffer.writeAll_block hfits, hlen]
  exact Nat.add_sub_cancel' hptr.le

private theorem writeToFlashMemory_split (hptr : d.flashMemoryWritePtr < d.flashMemory.length)
    (hover : d.flashMemory.length < d.flashMemoryWritePtr + data.length) :
    writeToFlashMemory (depth + 2) data d =
      (writeToFlashMemory (depth + 1) (d.firstPiece data) >>= fun _ =>
        (Proc.modify fun d => { d with flashMemoryWritePtr := 0 }) >>= fun _ =>
          writeToFlashMemory (depth + 1) (d.otherPieces data)) d := by
  have hdata : data ≠ [] := by
    intro hnil
    rw [hnil, List.length_nil] at hover
    omega
  have hroom : data.length - (d.flashMemoryWritePtr + data.length - d.flashMemory.length) =
      d.flashMemory.length - d.flashMemoryWritePtr := by omega
  rw [writeToFlashMemory, if_neg hdata, Proc.get_bind, if_neg (by omega), hroom]
  rfl

theorem firstPiece_ne_nil (hptr : d.flashMemoryWritePtr < d.flashMemory.length)
    (hover : d.flashMemory.length < d.flashMemoryWritePtr + data.length) :
    d.firstPiece data ≠ [] := by
  rw [← List.length_pos_iff, firstPiece, List.length_take]
  omega

theorem otherPieces_length (d : MockBootloader) (data : Bytes) : (d.otherPieces data).length =
    data.length - (d.flashMemory.length - d.flashMemoryWritePtr) := List.length_drop

/-- The first piece is written whatever becomes of its acknowledgment. -/
private theorem writeToFlashMemory_firstPiece
    (hptr : d.flashMemoryWritePtr < d.flashMemory.length)
    (hover : d.flashMemory.length < d.flashMemoryWritePtr + data.length) :
    writeToFlashMemory (depth + 1) (d.firstPiece data) d =
      drawAcknowledgment (d.withMemory (d.memory.writeAll (d.firstPiece data))) := by
  apply writeToFlashMemory_block (firstPiece_ne_nil hptr hover)
  rw [firstPiece, List.length_take]
  omega

theorem lost_firstPiece_iff (hptr : d.flashMemoryWritePtr < d.flashMemory.length)
    (hover : d.flashMemory.length < d.flashMemoryWritePtr + data.length) :
    (d.withMemory (d.memory.writeAll (d.firstPiece data))).Lost ↔ d.LostAt 0 := by
  unfold Lost LostAt withMemory
  rw [firstPiece_cursor hptr hover]
  rfl

theorem draws_firstPiece (hptr : d.flashMemoryWritePtr < d.flashMemory.length)
    (hover : d.flashMemory.length < d.flashMemoryWritePtr + data.length) :
    (d.withMemory (d.memory.writeAll (d.firstPiece data))).draws = d.drawsAtEnd := by
  unfold draws drawsAtEnd withMemory
  rw [firstPiece_cursor hptr hover]

theorem writeToFlashMemory_acknowledged (hptr : d.flashMemoryWritePtr < d.flashMemory.length)
    (hover : d.flashMemory.length < d.flashMemoryWritePtr + data.length) (hlost : ¬ d.LostAt 0) :
    writeToFlashMemory (depth + 2) data d =
      writeToFlashMemory (depth + 1) (d.otherPieces data) (d.behindFirstPiece data) := by
  have hdrawn := drawAcknowledgment_ok (mt (lost_firstPiece_iff hptr hover).mp hlost)
  rw [draws_firstPiece hptr hover] at hdrawn
  rw [writeToFlashMemory_split hptr hover,
    Proc.bind_of_ok ((writeToFlashMemory_firstPiece hptr hover).trans hdrawn)]
  rfl

theorem writeToFlashMemory_unacknowledged (hptr : d.flashMemoryWritePtr < d.flashMemory.length)
    (hover : d.flashMemory.length < d.flashMemoryWritePtr + data.length) (hlost : d.LostAt 0) :
    ∃ error ∈ [Exn.simulatedPacketLossError, Exn.simulatedPacketDelayError],
      ∃ drawn, writeToFlashMemory (depth + 2) data d = (.raised error,
        { d.withMemory (d.memory.writeAll (d.firstPiece data)) with drawn := drawn }) := by
  obtain ⟨error, herror, hraised⟩ :=
    drawAcknowledgment_raised ((lost_firstPiece_iff hptr hover).mpr hlost)
  refine ⟨error, herror, d.drawn + 1, ?_⟩
  rw [writeToFlashMemory_split hptr hover,
    Proc.bind_of_raised ((writeToFlashMemory_firstPiece hptr hover).trans hraised)]
  rfl

@[simp] theorem behindFirstPiece_length (d : MockBootloader) (data : Bytes) :
    (d.behindFirstPiece data).flashMemory.length = d.flashMemory.length :=
  CircularBuffer.writeAll_length d.memory _

@[simp] theorem behindFirstPiece_writePtr (d : MockBootloader) (data : Bytes) :
    (d.behindFirstPiece data).flashMemoryWritePtr = 0 := rfl

theorem behindFirstPiece_lostAt (d : MockBootloader) (data : Bytes) (count : Nat) :
    (d.behindFirstPiece data).LostAt count ↔ d.LostAt (count + 1) := by
  unfold LostAt
  rw [behindFirstPiece_length]
  refine and_congr_right fun hdesync => and_congr_right fun hlarge => ?_
  have hdraws : d.drawsAtEnd = 1 := if_pos ⟨hdesync, hlarge⟩
  have hdrawn : (d.behindFirstPiece data).drawn = d.drawn + 1 := by
    rw [← hdraws]
    rfl
  rw [hdrawn, Nat.add_assoc, Nat.add_comm 1]
  exact Iff.rfl

/-- Behind the first piece the write continues as if there were no pieces. -/
theorem behindFirstPiece_writeAll (hptr : d.flashMemoryWritePtr < d.flashMemory.length)
    (hover : d.flashMemory.length < d.flashMemoryWritePtr + data.length) {rest : Bytes}
    (hrest : rest ≠ []) : (d.behindFirstPiece data).memory.writeAll rest =
      d.memory.writeAll (d.firstPiece data ++ rest) := by
  have hend : (d.memory.writeAll (d.firstPiece data)).cells.length ≤
      (d.memory.writeAll (d.firstPiece data)).cursor := by
    rw [firstPiece_cursor hptr hover, CircularBuffer.writeAll_length]
    exact Nat.le_refl _
  rw [CircularBuffer.writeAll_append, CircularBuffer.writeAll_rewind hend hrest]
  rfl

end Pieces

/-! ## Whole writes -/

/-- How often the write goes round the end of the memory, the ending at its end not counted. -/
def wraps (d : MockBootloader) (data : Bytes) : Nat :=
  (d.memory.home + data.length - 1) / d.flashMemory.length

section Writes

variable {d : MockBootloader} {data : Bytes} {depth : Nat}

theorem home_of_writePtr_lt (hptr : d.flashMemoryWritePtr < d.flashMemory.length) :
    d.memory.home = d.flashMemoryWritePtr := CircularBuffer.home_of_lt hptr

theorem wraps_eq_zero (hptr : d.flashMemoryWritePtr < d.flashMemory.length)
    (hfits : d.flashMemoryWritePtr + data.length ≤ d.flashMemory.length) : d.wraps data = 0 := by
  rw [wraps, home_of_writePtr_lt hptr]
  exact Nat.div_eq_of_lt (by omega)

theorem over_of_wraps_pos (hptr : d.flashMemoryWritePtr < d.flashMemory.length)
    (hwraps : 0 < d.wraps data) :
    d.flashMemory.length < d.flashMemoryWritePtr + data.length := by
  by_contra hfits
  rw [wraps_eq_zero hptr (Nat.not_lt.mp hfits)] at hwraps
  exact Nat.lt_irrefl 0 hwraps

theorem wraps_otherPieces (hptr : d.flashMemoryWritePtr < d.flashMemory.length)
    (hover : d.flashMemory.length < d.flashMemoryWritePtr + data.length) :
    d.wraps data = (d.behindFirstPiece data).wraps (d.otherPieces data) + 1 := by
  have hpos : 0 < d.flashMemory.length := by omega
  have hnext : (d.behindFirstPiece data).memory.home = 0 :=
    home_of_writePtr_lt (by rw [behindFirstPiece_length]; exact hpos)
  have hlen : d.flashMemoryWritePtr + data.length - 1 =
      (0 + (d.otherPieces data).length - 1) + d.flashMemory.length := by
    rw [otherPieces_length]
    omega
  rw [wraps, wraps, home_of_writePtr_lt hptr, hnext, behindFirstPiece_length, hlen,
    Nat.add_div_right _ hpos]

/-- With every wrap-around acknowledged the whole of the data is written, and the acknowledgment of
the last piece is the one that remains to be drawn. -/
theorem writeToFlashMemory_whole (hptr : d.flashMemoryWritePtr < d.flashMemory.length)
    (hdata : data ≠ []) (hdepth : d.wraps data < depth)
    (hacknowledged : ∀ i < d.wraps data, ¬ d.LostAt i) :
    writeToFlashMemory depth data d = drawAcknowledgment
      { d.withMemory (d.memory.writeAll data) with
        drawn := d.drawn + d.wraps data * d.drawsAtEnd } := by
  induction depth generalizing d data with
  | zero => omega
  | succ depth ih =>
      by_cases hfits : d.flashMemoryWritePtr + data.length ≤ d.flashMemory.length
      · rw [writeToFlashMemory_block hdata hfits, wraps_eq_zero hptr hfits, Nat.zero_mul]
        rfl
      · have hover := Nat.not_le.mp hfits
        have hwraps := wraps_otherPieces hptr hover
        have hlen := otherPieces_length d data
        have hrest : d.otherPieces data ≠ [] := by
          rw [← List.length_pos_iff, hlen]
          omega
        have hnext : (d.behindFirstPiece data).flashMemoryWritePtr <
            (d.behindFirstPiece data).flashMemory.length := by
          rw [behindFirstPiece_length, behindFirstPiece_writePtr]
          omega
        have hlater : ∀ i < (d.behindFirstPiece data).wraps (d.otherPieces data),
            ¬ (d.behindFirstPiece data).LostAt i := by
          intro i hi
          rw [behindFirstPiece_lostAt]
          exact hacknowledged (i + 1) (by omega)
        obtain ⟨depth, rfl⟩ : ∃ k, depth = k + 1 := ⟨depth - 1, by omega⟩
        have hall : d.firstPiece data ++ d.otherPieces data = data := List.take_append_drop _ data
        have hdraws : (d.behindFirstPiece data).drawsAtEnd = d.drawsAtEnd := by
          unfold drawsAtEnd
          rw [behindFirstPiece_length]
          rfl
        rw [writeToFlashMemory_acknowledged hptr hover (hacknowledged 0 (by omega)),
          ih hnext hrest (by omega) hlater, behindFirstPiece_writeAll hptr hover hrest, hall,
          hdraws, hwraps, Nat.succ_mul]
        have hdrawn : (d.behindFirstPiece data).drawn = d.drawn + d.drawsAtEnd := rfl
        rw [hdrawn, Nat.add_assoc, Nat.add_comm d.drawsAtEnd]
        rfl

/-- A loss at the end of the memory leaves what is behind it unwritten. -/
theorem writeToFlashMemory_stopped {i : Nat}
    (hptr : d.flashMemoryWritePtr < d.flashMemory.length) (hdepth : d.wraps data < depth)
    (hwrap : i < d.wraps data) (hlost : d.LostAt i) (hfirst : ∀ j < i, ¬ d.LostAt j) :
    ∃ error ∈ [Exn.simulatedPacketLossError, Exn.simulatedPacketDelayError],
      ∃ drawn, writeToFlashMemory depth data d = (.raised error,
        { d.withMemory (d.memory.writeAll
            (data.take ((i + 1) * d.flashMemory.length - d.flashMemoryWritePtr))) with
          drawn := drawn }) := by
  induction i generalizing d data depth with
  | zero =>
      have hover := over_of_wraps_pos hptr hwrap
      obtain ⟨depth, rfl⟩ : ∃ k, depth = k + 2 := ⟨depth - 2, by omega⟩
      rw [Nat.zero_add, Nat.one_mul]
      exact writeToFlashMemory_unacknowledged hptr hover hlost
  | succ i ih =>
      have hover := over_of_wraps_pos hptr (by omega : 0 < d.wraps data)
      have hwraps := wraps_otherPieces hptr hover
      have hlen := otherPieces_length d data
      obtain ⟨depth, rfl⟩ : ∃ k, depth = k + 2 := ⟨depth - 2, by omega⟩
      have hnext : (d.behindFirstPiece data).flashMemoryWritePtr <
          (d.behindFirstPiece data).flashMemory.length := by
        rw [behindFirstPiece_length, behindFirstPiece_writePtr]
        omega
      have hearlier : ∀ j < i, ¬ (d.behindFirstPiece data).LostAt j := by
        intro j hj
        rw [behindFirstPiece_lostAt]
        exact hfirst (j + 1) (by omega)
      have hshallow : (d.behindFirstPiece data).wraps (d.otherPieces data) < depth + 1 := by omega
      obtain ⟨error, herror, drawn, hraised⟩ := ih hnext hshallow (by omega)
        ((behindFirstPiece_lostAt d data i).mpr hlost) hearlier
      refine ⟨error, herror, drawn, ?_⟩
      have hpos : 0 < (i + 1) * d.flashMemory.length := Nat.mul_pos (by omega) (by omega)
      have hrest : (d.otherPieces data).take ((i + 1) * d.flashMemory.length) ≠ [] := by
        rw [← List.length_pos_iff, List.length_take, hlen]
        omega
      have hcut : (i + 1 + 1) * d.flashMemory.length - d.flashMemoryWritePtr =
          (d.flashMemory.length - d.flashMemoryWritePtr) + (i + 1) * d.flashMemory.length := by
        rw [Nat.succ_mul]
        omega
      rw [writeToFlashMemory_acknowledged hptr hover (hfirst 0 (by omega)), hraised, hcut,
        List.take_add, behindFirstPiece_length, behindFirstPiece_writePtr, Nat.sub_zero,
        behindFirstPiece_writeAll hptr hover hrest]
      rfl

def atHome (d : MockBootloader) : MockBootloader :=
  { d with flashMemoryWritePtr := d.memory.home }

theorem atHome_writePtr_lt (hflash : d.flashMemory ≠ []) :
    d.atHome.flashMemoryWritePtr < d.atHome.flashMemory.length :=
  CircularBuffer.home_lt (b := d.memory) hflash

theorem atHome_home (d : MockBootloader) : d.atHome.memory.home = d.memory.home :=
  CircularBuffer.home_home d.memory

theorem atHome_wraps (d : MockBootloader) (data : Bytes) : d.atHome.wraps data = d.wraps data := by
  unfold wraps
  rw [atHome_home]
  rfl

theorem atHome_writeAll (hdata : data ≠ []) :
    d.atHome.memory.writeAll data = d.memory.writeAll data := by
  by_cases hptr : d.flashMemoryWritePtr < d.flashMemory.length
  · unfold atHome
    rw [home_of_writePtr_lt hptr]
  · have hbehind : d.memory.cells.length ≤ d.memory.cursor := Nat.not_lt.mp hptr
    rw [CircularBuffer.writeAll_rewind hbehind hdata]
    unfold atHome
    rw [CircularBuffer.home_of_le hbehind]
    rfl

theorem writeToFlashMemory_atHome (hdata : data ≠ []) (hdepth : d.wraps data + 2 ≤ depth) :
    ∃ depth', d.atHome.wraps data < depth' ∧
      writeToFlashMemory depth data d = writeToFlashMemory depth' data d.atHome := by
  rw [atHome_wraps]
  by_cases hptr : d.flashMemoryWritePtr < d.flashMemory.length
  · have hsame : d.atHome = d := by
      unfold atHome
      rw [home_of_writePtr_lt hptr]
    exact ⟨depth, by omega, by rw [hsame]⟩
  · obtain ⟨depth, rfl⟩ : ∃ k, depth = k + 2 := ⟨depth - 2, by omega⟩
    have hbehind := Nat.not_lt.mp hptr
    have hrewound : d.atHome = d.withMemory d.memory.rewind := by
      unfold atHome
      rw [CircularBuffer.home_of_le (b := d.memory) hbehind]
      rfl
    exact ⟨depth + 1, by omega, by rw [hrewound, writeToFlashMemory_behind hdata hbehind]⟩

/-- Every wrap-around takes a byte. -/
theorem wraps_le_length (hflash : d.flashMemory ≠ []) (data : Bytes) :
    d.wraps data ≤ data.length := by
  have hhome := CircularBuffer.home_lt (b := d.memory) hflash
  have hpos := List.length_pos_iff.mpr hflash
  have hlength : d.memory.home + data.length - 1 < d.flashMemory.length * (data.length + 1) := by
    have hbytes : data.length ≤ d.flashMemory.length * data.length := Nat.le_mul_of_pos_left _ hpos
    change d.memory.home < d.flashMemory.length at hhome
    rw [Nat.mul_succ]
    omega
  exact Nat.lt_succ_iff.mp (Nat.div_lt_of_lt_mul hlength)

theorem wraps_le_recursionLimit (hflash : d.flashMemory ≠ []) (data : Bytes) :
    d.wraps data + 2 ≤ recursionLimit data := by
  have hwraps := wraps_le_length hflash data
  unfold recursionLimit
  omega

/-! ## Without simulated losses -/

theorem writeToFlashMemory_lossFree (hflash : d.flashMemory ≠ [])
    (hdesync : d.simulateDesync = false) (hdepth : d.wraps data + 2 ≤ depth) :
    writeToFlashMemory depth data d = (.ok (), d.withMemory (d.memory.writeAll data)) := by
  have hnone : ¬ (d.simulateDesync = true) := Bool.eq_false_iff.mp hdesync
  by_cases hdata : data = []
  · subst hdata
    obtain ⟨depth, rfl⟩ : ∃ k, depth = k + 1 := ⟨depth - 1, by omega⟩
    exact writeToFlashMemory_nil depth d
  · obtain ⟨depth', hdepth', hrun⟩ := writeToFlashMemory_atHome (d := d) hdata hdepth
    have hlossless : ∀ i < d.atHome.wraps data, ¬ d.atHome.LostAt i :=
      fun _ _ hlost => hnone hlost.1
    have hdraws : d.atHome.drawsAtEnd = 0 := if_neg fun h => hnone h.1
    have hwhole := writeToFlashMemory_whole (atHome_writePtr_lt hflash) hdata hdepth' hlossless
    rw [hdraws, Nat.mul_zero, Nat.add_zero, atHome_writeAll hdata] at hwhole
    rw [hrun, hwhole]
    exact drawAcknowledgment_silent hdesync

/-- The recursion is the circular write byte by byte, wherever it may go a level down for each
wrap-around and two more. CPython's default limit of 1000 frames leaves room for that: a received
PROG_MULTI has at most 255 bytes, and so at most 255 wrap-arounds. -/
theorem writeToFlashMemory_circular (hflash : d.flashMemory ≠ [])
    (hdesync : d.simulateDesync = false) (hdepth : d.wraps data + 2 ≤ depth) :
    writeToFlashMemory depth data d = (.ok (), d.withMemory (d.memory.writeAll data)) ∧
      (d.memory.writeAll data).cells.length = d.flashMemory.length :=
  ⟨writeToFlashMemory_lossFree hflash hdesync hdepth, CircularBuffer.writeAll_length _ _⟩

/-- Five bytes on three, from a pointer behind the end: one wrap-around, three levels. -/
theorem writeToFlashMemory_circular_five :
    writeToFlashMemory 3 [1, 2, 3, 4, 5] { flashMemory := [0, 0, 0], flashMemoryWritePtr := 7 } =
        (.ok (), { flashMemory := [4, 5, 3], flashMemoryWritePtr := 2 }) ∧
      (CircularBuffer.writeAll ⟨[0, 0, 0], 7⟩ [1, 2, 3, 4, 5]).cells.length =
        [(0 : UInt8), 0, 0].length :=
  writeToFlashMemory_circular (d := { flashMemory := [0, 0, 0], flashMemoryWritePtr := 7 })
    (by decide) rfl (by decide)

/-- The depth that the command is given is enough for it. -/
theorem handleCommand_progMulti (hflash : d.flashMemory ≠ [])
    (hdesync : d.simulateDesync = false) :
    handleCommand ⟨.progMulti, data⟩ d = (.ok [], d.withMemory (d.memory.writeAll data)) := by
  have hwrite := writeToFlashMemory_lossFree hflash hdesync
    (wraps_le_recursionLimit hflash data)
  unfold handleCommand
  rw [Proc.get_bind]
  exact Proc.bind_of_ok hwrite _

end Writes

end MockBootloader

end ApUploader
