import ApUploader.Transport.SerialInput

/-! # `receive()` returns a byte at least

The reader asks the port for one byte at least and hands over what it gets, and a chunk that
is too long for a call is cut, so a `receive()` that may return a byte returns one.
-/

namespace ApUploader

def ReadWorker.Fills : ReadWorker → Prop
  | .reading size => 0 < size
  | .sending data => data ≠ []
  | .polling | .blocked | .ended | .failed => True

namespace SerialPortByteStream

variable {p p' : SerialPortByteStream}

structure Filled (p : SerialPortByteStream) : Prop where
  maxReadSize : 0 < p.maxReadSize
  chunks : ∀ data ∈ p.input.received ++ p.input.pending, data ≠ []
  reader : p.reader.Fills
  call : ∀ maxBytes, p.call = some maxBytes → 0 < maxBytes
  returned : ∀ chunk ∈ p.returned, chunk ≠ []

theorem new_filled {maxReadSize : Nat} (h : 0 < maxReadSize) : (new maxReadSize).Filled where
  maxReadSize := h
  chunks := nofun
  reader := trivial
  call := nofun
  returned := nofun

theorem take_ne_nil {data : Bytes} {maxBytes : Nat} (hdata : data ≠ []) (h : 0 < maxBytes) :
    data.take maxBytes ≠ [] := by
  simp only [ne_eq, List.take_eq_nil_iff, hdata, or_false]
  omega

theorem Filled.give (h : p.Filled) {input : BlockingStream Bytes} {data : Bytes} {maxBytes : Nat}
    (hchunks : ∀ data ∈ input.received ++ input.pending, data ≠ []) (hdata : data ≠ [])
    (hmax : 0 < maxBytes) :
    (({ p with input := input } : SerialPortByteStream).give data maxBytes).Filled := by
  refine ⟨h.maxReadSize, hchunks, h.reader, nofun, ?_⟩
  intro chunk hchunk
  rcases List.mem_append.mp hchunk with hold | hnew
  · exact h.returned chunk hold
  · rw [List.mem_singleton.mp hnew]
    exact take_ne_nil hdata hmax

theorem Filled.of_reader (h : p.Filled) {reader : ReadWorker} (hreader : reader.Fills)
    {input : BlockingStream Bytes}
    (hchunks : ∀ data ∈ input.received ++ input.pending, data ≠ []) {inWaiting read : Bytes} :
    ({ p with inWaiting := inWaiting, reader := reader, input := input, read := read } :
      SerialPortByteStream).Filled :=
  ⟨h.maxReadSize, hchunks, hreader, h.call, h.returned⟩

theorem Filled.readerLeaves (h : p.Filled) : p.readerLeaves.Filled := by
  have hreader : (if p.stage = .opened then ReadWorker.failed else .ended).Fills := by
    split <;> trivial
  exact h.of_reader hreader h.chunks

theorem Filled.readWorker (h : p.Filled) (hstep : p.readWorker = some p') : p'.Filled := by
  have hfills := h.reader
  unfold SerialPortByteStream.readWorker at hstep
  split at hstep
  · split at hstep
    · cases hstep
      refine h.of_reader ?_ h.chunks
      have hmax := h.maxReadSize
      unfold ReadWorker.Fills
      dsimp only
      split
      · exact Nat.one_pos
      · next hwaiting =>
          have hlength := List.length_pos_iff.mpr hwaiting
          omega
    · cases hstep
      exact h.readerLeaves
  · next size hreader =>
      rw [hreader] at hfills
      split at hstep
      · cases hstep
        exact h.readerLeaves
      · split at hstep
        · next hsize =>
            cases hstep
            have hpos : 0 < size := hfills
            refine h.of_reader ?_ h.chunks
            exact take_ne_nil (List.length_pos_iff.mp (Nat.lt_of_lt_of_le hpos hsize)) hpos
        · cases hstep
  · next data hreader =>
      rw [hreader] at hfills
      have hchunks : ∀ next ∈ (p.input.send data).2.received ++ (p.input.send data).2.pending,
          next ≠ [] := by
        intro next hnext
        rcases BlockingStream.mem_of_send hnext with hold | rfl
        · exact h.chunks next hold
        · exact hfills
      split at hstep
      all_goals
        cases hstep
        refine h.of_reader ?_ hchunks
        trivial
  · split at hstep
    · cases hstep
    · split at hstep
      all_goals
        cases hstep
        refine h.of_reader ?_ h.chunks
        trivial
  · cases hstep
  · cases hstep

def AsksForSome : SerialMove → Prop
  | .receive maxBytes => 0 < maxBytes
  | _ => True

instance : DecidablePred AsksForSome
  | .receive maxBytes => inferInstanceAs (Decidable (0 < maxBytes))
  | .arrive _ | .readWorker | .readFails | .resume | .cancelReceive | .send _ | .cancelSend _
  | .writeWorker | .writeFails | .aclose | .drain | .timeOut | .closeReader | .closePort
  | .closeStream => .isTrue trivial

theorem Filled.receive (h : p.Filled) {maxBytes : Nat} (hmax : 0 < maxBytes)
    (hstep : p.receive maxBytes = some p') : p'.Filled := by
  unfold SerialPortByteStream.receive at hstep
  split at hstep
  · cases hstep
  · split at hstep
    · cases hstep
      exact h
    · split at hstep
      · next hsurplus =>
          cases hstep
          refine ⟨h.maxReadSize, h.chunks, h.reader, h.call, ?_⟩
          intro chunk hchunk
          rcases List.mem_append.mp hchunk with hold | hnew
          · exact h.returned chunk hold
          · rw [List.mem_singleton.mp hnew]
            exact take_ne_nil hsurplus hmax
      · have hchunks : ∀ data ∈ p.input.receive.2.received ++ p.input.receive.2.pending,
            data ≠ [] := by
          rw [p.input.receive_keeps]
          exact h.chunks
        split at hstep
        · next data hresult =>
            cases hstep
            have hmem := BlockingStream.mem_of_receive hresult
            exact h.give hchunks (h.chunks data (List.mem_append_right _ hmem)) hmax
        · cases hstep
          refine ⟨h.maxReadSize, hchunks, h.reader, ?_, h.returned⟩
          rintro size hsize
          cases hsize
          exact hmax
        · cases hstep
          exact h
        · cases hstep
          exact h

theorem Filled.of_input (h : p.Filled) {input : BlockingStream Bytes}
    (hchunks : ∀ data ∈ input.received ++ input.pending, data ≠ []) {stage : CloseStage}
    {portOpen : Bool} {taken : Nat} {writer : Consumer Bytes} {timedOut : Bool}
    {inWaiting arrived : Bytes} {call : Option Nat} (hcall : call = p.call ∨ call = none) :
    ({ p with
      input := input
      stage := stage
      portOpen := portOpen
      taken := taken
      writer := writer
      timedOut := timedOut
      inWaiting := inWaiting
      arrived := arrived
      call := call } : SerialPortByteStream).Filled := by
  refine ⟨h.maxReadSize, hchunks, h.reader, ?_, h.returned⟩
  rcases hcall with rfl | rfl
  · exact h.call
  · exact nofun

theorem Filled.resume (h : p.Filled) (hstep : p.resume = some p') : p'.Filled := by
  obtain ⟨maxBytes, hcall, ⟨data, hdata, rfl⟩ | ⟨-, -, rfl⟩⟩ := resume_spec hstep
  · have hmem := List.mem_append_left p.input.pending (List.mem_of_getElem? hdata)
    exact h.give h.chunks (h.chunks data hmem) (h.call maxBytes hcall)
  · exact h.of_input h.chunks (.inr rfl)

theorem Filled.cancelReceive (h : p.Filled) (hstep : p.cancelReceive = some p') : p'.Filled := by
  rcases cancelReceive_spec hstep with ⟨input, habandon, rfl⟩ | ⟨-, rfl⟩
  · obtain ⟨hreceived, -⟩ := BlockingStream.abandon_keeps habandon
    have hpending := (BlockingStream.abandon_spec habandon).1
    exact h.of_input (by rw [hreceived, hpending]; exact h.chunks) (.inr rfl)
  · exact h.of_input h.chunks (.inr rfl)

theorem Filled.step {move : SerialMove} (h : p.Filled) (hmove : AsksForSome move)
    (hstep : machine.step p move = some p') : p'.Filled := by
  cases move with
  | readWorker => exact h.readWorker hstep
  | readFails =>
      obtain ⟨rfl, -⟩ := readFails_spec hstep
      exact h.readerLeaves
  | receive maxBytes => exact h.receive hmove hstep
  | resume => exact h.resume hstep
  | cancelReceive => exact h.cancelReceive hstep
  | send _ | cancelSend _ | writeWorker | writeFails =>
      obtain ⟨writer, rfl⟩ := step_of_isOutput rfl hstep
      exact h.of_input h.chunks (.inl rfl)
  | closeStream =>
      obtain ⟨-, rfl⟩ := Machine.guarded hstep
      refine h.of_input (fun data hdata => h.chunks data ?_) (.inl rfl)
      exact p.input.closeReceive_sublist.subset hdata
  | closeReader =>
      obtain ⟨-, rfl⟩ := Machine.guarded hstep
      refine h.of_input ?_ (.inl rfl)
      exact h.chunks
  | arrive | aclose | drain | timeOut | closePort =>
      obtain ⟨-, rfl⟩ := Machine.guarded hstep
      exact h.of_input h.chunks (.inl rfl)

theorem filled_run {maxReadSize : Nat} {moves : List SerialMove} (hsize : 0 < maxReadSize)
    (hmoves : ∀ move ∈ moves, AsksForSome move)
    (hrun : machine.run (new maxReadSize) moves = some p) : p.Filled := by
  have hstep : ∀ (p : SerialPortByteStream) move p', p.Filled → AsksForSome move →
      machine.step p move = some p' → p'.Filled := fun p move p' h => h.step
  have hthroughout := machine.throughout_of_forall hmoves (new maxReadSize)
  exact machine.run_invariant hstep hthroughout hrun (new_filled hsize)

/-- The reader's promise: as long as every `receive()` asks for a byte, each returns one. -/
theorem returned_ne_nil {maxReadSize : Nat} {moves : List SerialMove}
    (hsize : 0 < maxReadSize) (hmoves : ∀ move ∈ moves, AsksForSome move)
    (hrun : machine.run (new maxReadSize) moves = some p) : ∀ chunk ∈ p.returned, chunk ≠ [] :=
  (filled_run hsize hmoves hrun).returned

theorem returned_ne_nil_cut :
    ∃ p, machine.run (new 1024) [.arrive [1, 2, 3], .receive 2, .readWorker, .readWorker,
        .readWorker, .resume, .receive 2] = some p ∧
      p.returned = [[1, 2], [3]] ∧ ∀ chunk ∈ p.returned, chunk ≠ [] := by
  have hrun : machine.run (new 1024) [.arrive [1, 2, 3], .receive 2, .readWorker, .readWorker,
      .readWorker, .resume, .receive 2] = some _ := rfl
  exact ⟨_, hrun, rfl, returned_ne_nil (by decide) (by decide) hrun⟩

end SerialPortByteStream

end ApUploader
