import ApUploader.Mock.FlashWrite

/-! # What a simulated loss does to the flash memory

A lost acknowledgment of the last piece of a write is only an acknowledgment. A
lost one at a wrap-around stops the write, so the memory differs from the one an
undisturbed write leaves unless the rest would have written the same bytes again.
-/

namespace ApUploader.MockBootloader

open Effect

variable {d : MockBootloader} {data : Bytes} {depth : Nat}

/-- The first loss at a wrap-around of the write, if there is one. -/
def StoppedAt (d : MockBootloader) (data : Bytes) (i : Nat) : Prop :=
  i < d.wraps data ∧ d.LostAt i ∧ ∀ j < i, ¬ d.LostAt j

/-- A write that ends with the memory and whose last round repeats the round it is stopped in. -/
def RepeatsRound (d : MockBootloader) (data : Bytes) (i : Nat) : Prop :=
  let n := d.flashMemory.length
  let stream := d.memory.stream data
  n ∣ stream.length ∧ (stream.drop (i * n)).take n = stream.drop (stream.length - n)

def lossless (d : MockBootloader) : MockBootloader := { d with simulateDesync := false }

theorem lostAt_stopped (d : MockBootloader) (data : Bytes) :
    (∀ i < d.wraps data, ¬ d.LostAt i) ∨ ∃ i, d.StoppedAt data i := by
  classical
  by_cases h : ∃ i, i < d.wraps data ∧ d.LostAt i
  · right
    have hmin := Nat.find_spec h
    refine ⟨Nat.find h, hmin.1, hmin.2, ?_⟩
    intro j hj hlost
    exact Nat.find_min h hj ⟨hj.trans hmin.1, hlost⟩
  · left
    intro i hi hlost
    exact h ⟨i, hi, hlost⟩

/-- What a loss leaves: the rounds up to the one it stops. -/
theorem writeAll_stopped (hflash : d.flashMemory ≠ []) {i : Nat} (hwrap : i < d.wraps data) :
    d.memory.writeAll (data.take ((i + 1) * d.flashMemory.length - d.memory.home)) =
      ⟨((d.memory.stream data).drop (i * d.flashMemory.length)).take d.flashMemory.length,
        d.flashMemory.length⟩ := by
  have hle : (i + 1) * d.flashMemory.length ≤ d.memory.home + data.length - 1 :=
    (Nat.mul_le_mul_right _ hwrap).trans (Nat.div_mul_le_self _ _)
  apply CircularBuffer.writeAll_cut (b := d.memory) hflash
  rw [CircularBuffer.stream_length (b := d.memory) hflash]
  exact hle.trans (Nat.sub_le _ _)

/-- A write that is not stopped leaves the memory of a write without losses. -/
theorem writeToFlashMemory_unstopped (hflash : d.flashMemory ≠ [])
    (hdepth : d.wraps data + 2 ≤ depth) (hacknowledged : ∀ i < d.wraps data, ¬ d.LostAt i) :
    (writeToFlashMemory depth data d).2.memory = d.memory.writeAll data := by
  by_cases hdata : data = []
  · subst hdata
    obtain ⟨depth, rfl⟩ : ∃ k, depth = k + 1 := ⟨depth - 1, by omega⟩
    rw [writeToFlashMemory_nil]
    rfl
  · obtain ⟨depth', hdepth', hrun⟩ := writeToFlashMemory_atHome (d := d) hdata hdepth
    have hwhole := writeToFlashMemory_whole (atHome_writePtr_lt hflash) hdata hdepth'
      (by rw [atHome_wraps]; exact hacknowledged)
    rw [atHome_writeAll hdata] at hwhole
    rw [hrun, hwhole, drawAcknowledgment_memory]
    rfl

theorem writeToFlashMemory_lossless (hflash : d.flashMemory ≠ [])
    (hdepth : d.wraps data + 2 ≤ depth) :
    (writeToFlashMemory depth data d.lossless).2.memory = d.memory.writeAll data :=
  writeToFlashMemory_unstopped (d := d.lossless) hflash hdepth
    fun _ _ hlost => Bool.false_ne_true hlost.1

theorem StoppedAt.ne_nil {i : Nat} (h : d.StoppedAt data i) (hflash : d.flashMemory ≠ []) :
    data ≠ [] := by
  intro hnil
  have hlt := CircularBuffer.home_lt (b := d.memory) hflash
  have hzero : d.wraps data = 0 := by
    rw [wraps, hnil]
    exact Nat.div_eq_of_lt (Nat.lt_of_le_of_lt (Nat.sub_le _ 1) hlt)
  have hwrap := h.1
  omega

theorem writeToFlashMemory_stoppedAt (hflash : d.flashMemory ≠ [])
    (hdepth : d.wraps data + 2 ≤ depth) {i : Nat} (hstopped : d.StoppedAt data i) :
    (writeToFlashMemory depth data d).2.memory =
      ⟨((d.memory.stream data).drop (i * d.flashMemory.length)).take d.flashMemory.length,
        d.flashMemory.length⟩ := by
  have hdata := hstopped.ne_nil hflash
  obtain ⟨hwrap, hlost, hfirst⟩ := hstopped
  obtain ⟨depth', hdepth', hrun⟩ := writeToFlashMemory_atHome (d := d) hdata hdepth
  obtain ⟨error, _, drawn, hraised⟩ := writeToFlashMemory_stopped (atHome_writePtr_lt hflash)
    hdepth' (by rw [atHome_wraps]; exact hwrap) hlost hfirst
  have hround := writeAll_stopped (d := d.atHome) hflash (by rw [atHome_wraps]; exact hwrap)
  have hstream : d.atHome.memory.stream data = d.memory.stream data := by
    unfold CircularBuffer.stream
    rw [atHome_home]
    rfl
  rw [atHome_home, hstream] at hround
  rw [hrun, hraised]
  exact hround

/-- The memory is the one of a write without losses exactly where no wrap-around is lost whose rest
would have changed it. -/
theorem simulated_loss_affects_memory_iff (hflash : d.flashMemory ≠ [])
    (hdepth : d.wraps data + 2 ≤ depth) :
    (writeToFlashMemory depth data d).2.memory =
        (writeToFlashMemory depth data d.lossless).2.memory ↔
      ∀ i, d.StoppedAt data i → d.RepeatsRound data i := by
  rw [writeToFlashMemory_lossless hflash hdepth]
  constructor
  · intro hequal i hstopped
    rw [writeToFlashMemory_stoppedAt hflash hdepth hstopped] at hequal
    have hdata : data ≠ [] := hstopped.ne_nil hflash
    have hcursor : (d.memory.writeAll data).cursor = d.flashMemory.length := by rw [← hequal]
    have hdvd := (CircularBuffer.cursor_eq_length_iff (b := d.memory) hflash hdata).mp hcursor
    refine ⟨hdvd, ?_⟩
    rw [CircularBuffer.writeAll_rounds (b := d.memory) hflash hdata hdvd] at hequal
    exact congrArg CircularBuffer.cells hequal
  · intro hrepeats
    rcases lostAt_stopped d data with hnone | ⟨i, hstopped⟩
    · exact writeToFlashMemory_unstopped hflash hdepth hnone
    · obtain ⟨hdvd, hrounds⟩ := hrepeats i hstopped
      rw [writeToFlashMemory_stoppedAt hflash hdepth hstopped, hrounds,
        CircularBuffer.writeAll_rounds (b := d.memory) hflash (hstopped.ne_nil hflash) hdvd]
      rfl

/-- The second of two bytes goes round the end of the memory, and the first is not acknowledged. -/
def wrappingDevice : MockBootloader where
  flashMemory := List.replicate 4096 0
  flashMemoryWritePtr := 4095
  simulateDesync := true
  random := fun _ => 0

theorem wrappingDevice_length : wrappingDevice.flashMemory.length = 4096 := List.length_replicate

theorem wrappingDevice_flash : wrappingDevice.flashMemory ≠ [] := by
  rw [← List.length_pos_iff, wrappingDevice_length]
  omega

theorem wrappingDevice_home : wrappingDevice.memory.home = 4095 := by
  apply home_of_writePtr_lt (d := wrappingDevice)
  rw [wrappingDevice_length]
  exact Nat.lt_succ_self 4095

theorem wrappingDevice_wraps : wrappingDevice.wraps [1, 1] = 1 := by
  rw [wraps, wrappingDevice_home, wrappingDevice_length]
  rfl

theorem wrappingDevice_depth : wrappingDevice.wraps [1, 1] + 2 ≤ 6 := by
  rw [wrappingDevice_wraps]
  decide

theorem wrappingDevice_stopped : wrappingDevice.StoppedAt [1, 1] 0 := by
  have hwraps := wrappingDevice_wraps
  have hlarge : 4096 ≤ wrappingDevice.flashMemory.length := Nat.le_of_eq wrappingDevice_length.symm
  have hdraw : wrappingDevice.random (wrappingDevice.drawn + 0) < 2 / 100 := by
    norm_num [show wrappingDevice.random = fun _ => 0 from rfl]
  refine ⟨by omega, ⟨rfl, hlarge, hdraw⟩, ?_⟩
  intro j hj
  exact absurd hj (Nat.not_lt_zero j)

theorem simulated_loss_affects_memory_iff_wrapping :
    (writeToFlashMemory 6 [1, 1] wrappingDevice).2.memory =
        (writeToFlashMemory 6 [1, 1] wrappingDevice.lossless).2.memory ↔
      ∀ i, wrappingDevice.StoppedAt [1, 1] i → wrappingDevice.RepeatsRound [1, 1] i :=
  simulated_loss_affects_memory_iff wrappingDevice_flash wrappingDevice_depth

/-- The second byte is not written when the acknowledgment of the first one is lost. -/
theorem simulated_loss_affects_memory :
    (writeToFlashMemory 6 [1, 1] wrappingDevice).2.memory ≠
      (writeToFlashMemory 6 [1, 1] wrappingDevice.lossless).2.memory := by
  rw [writeToFlashMemory_stoppedAt wrappingDevice_flash wrappingDevice_depth wrappingDevice_stopped,
    writeToFlashMemory_lossless wrappingDevice_flash wrappingDevice_depth]
  intro hequal
  have hcursor : (wrappingDevice.memory.writeAll [1, 1]).cursor =
      wrappingDevice.flashMemory.length := by rw [← hequal]
  have hdvd := (CircularBuffer.cursor_eq_length_iff (b := wrappingDevice.memory)
    wrappingDevice_flash (by decide)).mp hcursor
  rw [CircularBuffer.stream_length (b := wrappingDevice.memory) wrappingDevice_flash,
    wrappingDevice_home, show wrappingDevice.memory.cells.length = 4096 from wrappingDevice_length]
    at hdvd
  exact absurd hdvd (by decide)

end ApUploader.MockBootloader
