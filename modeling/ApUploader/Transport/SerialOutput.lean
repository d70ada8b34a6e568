import ApUploader.Transport.SerialInput

/-! # What `send()` writes to a serial port, and how the stream is closed

The writer writes what was handed to `send()`, in order. `aclose()` lets it finish before
the port is closed, unless three seconds are not enough, and behind `aclose()` nothing
holds a thread back any longer.
-/

namespace ApUploader

def SerialMove.item : SerialMove → List Bytes
  | .send item => [item]
  | _ => []

/-- What is handed to `send()` before the stream is closed. -/
def SerialMove.itemsBefore : List SerialMove → List Bytes
  | [] => []
  | .aclose :: _ => []
  | move :: rest => move.item ++ itemsBefore rest

namespace SerialPortByteStream

variable {p p' : SerialPortByteStream}

structure Writing (p : SerialPortByteStream) : Prop where
  writer : p.writer.Sound
  sendOpen : p.writer.stream.sendOpen = true ↔ p.stage = .opened
  /-- `aclose()` has gone on when the writer was gone. -/
  waited : p.stage ≠ .opened → p.stage ≠ .draining → p.timedOut = false → ¬ p.writer.Live
  port : p.portOpen = true ↔ p.stage ≠ .portClosed ∧ p.stage ≠ .closed
  closed : p.stage = .closed → p.input.receiveOpen = false

theorem new_writing (maxReadSize : Nat) : (new maxReadSize).Writing where
  writer := Consumer.create_sound 0
  sendOpen := iff_of_true rfl rfl
  waited := fun h => absurd rfl h
  port := iff_of_true rfl ⟨nofun, nofun⟩
  closed := nofun

/-- A step of the reader or of `receive()`, which has no part in the output. -/
structure OutputKept (p p' : SerialPortByteStream) : Prop where
  writer : p'.writer = p.writer
  stage : p'.stage = p.stage
  timedOut : p'.timedOut = p.timedOut
  port : p'.portOpen = p.portOpen
  receiveOpen : p'.input.receiveOpen = p.input.receiveOpen

theorem OutputKept.writing (h : p.OutputKept p') (hwriting : p.Writing) : p'.Writing := by
  refine ⟨h.writer ▸ hwriting.writer, ?_, ?_, ?_, ?_⟩
  · rw [h.writer, h.stage]
    exact hwriting.sendOpen
  · rw [h.writer, h.stage, h.timedOut]
    exact hwriting.waited
  · rw [h.port, h.stage]
    exact hwriting.port
  · rw [h.stage, h.receiveOpen]
    exact hwriting.closed

theorem Writing.of_writer (h : p.Writing) {writer : Consumer Bytes} (hsound : writer.Sound)
    (hopen : writer.stream.sendOpen = p.writer.stream.sendOpen)
    (hlive : writer.Live → p.writer.Live) :
    ({ p with writer := writer } : SerialPortByteStream).Writing := by
  refine ⟨hsound, ?_, ?_, h.port, h.closed⟩
  · exact hopen ▸ h.sendOpen
  · exact fun hopened hdraining htimedOut => mt hlive (h.waited hopened hdraining htimedOut)

theorem receive_outputKept {maxBytes : Nat} (hstep : p.receive maxBytes = some p') :
    p.OutputKept p' := by
  have hreceive := p.input.receive_ends.2.1
  unfold receive at hstep
  split at hstep
  · cases hstep
  · split at hstep
    · cases hstep
      exact ⟨rfl, rfl, rfl, rfl, rfl⟩
    · split at hstep
      · cases hstep
        exact ⟨rfl, rfl, rfl, rfl, rfl⟩
      · split at hstep <;> cases hstep
        · exact ⟨rfl, rfl, rfl, rfl, hreceive⟩
        · exact ⟨rfl, rfl, rfl, rfl, hreceive⟩
        · exact ⟨rfl, rfl, rfl, rfl, rfl⟩
        · exact ⟨rfl, rfl, rfl, rfl, rfl⟩

theorem resume_outputKept (hstep : p.resume = some p') : p.OutputKept p' := by
  obtain ⟨maxBytes, -, ⟨data, -, rfl⟩ | ⟨-, -, rfl⟩⟩ := resume_spec hstep
  · exact ⟨rfl, rfl, rfl, rfl, rfl⟩
  · exact ⟨rfl, rfl, rfl, rfl, rfl⟩

theorem cancelReceive_outputKept (hstep : p.cancelReceive = some p') : p.OutputKept p' := by
  rcases cancelReceive_spec hstep with ⟨input, habandon, rfl⟩ | ⟨-, rfl⟩
  · exact ⟨rfl, rfl, rfl, rfl, (BlockingStream.abandon_spec habandon).2.2.1⟩
  · exact ⟨rfl, rfl, rfl, rfl, rfl⟩

theorem readWorker_outputKept (hstep : p.readWorker = some p') : p.OutputKept p' := by
  unfold readWorker at hstep
  split at hstep
  · split at hstep <;> cases hstep <;> exact ⟨rfl, rfl, rfl, rfl, rfl⟩
  · split at hstep
    · cases hstep
      exact ⟨rfl, rfl, rfl, rfl, rfl⟩
    · split at hstep
      · cases hstep
        exact ⟨rfl, rfl, rfl, rfl, rfl⟩
      · cases hstep
  · next data _ =>
      have hreceive := (p.input.send_ends data).2
      split at hstep <;> cases hstep <;> exact ⟨rfl, rfl, rfl, rfl, hreceive⟩
  · split at hstep
    · cases hstep
    · split at hstep <;> cases hstep <;> exact ⟨rfl, rfl, rfl, rfl, rfl⟩
  · cases hstep
  · cases hstep

theorem readFails_outputKept (hstep : p.readFails = some p') : p.OutputKept p' := by
  obtain ⟨rfl, -⟩ := readFails_spec hstep
  exact ⟨rfl, rfl, rfl, rfl, rfl⟩

inductive Output (p : SerialPortByteStream) (move : SerialMove) (p' : SerialPortByteStream) :
    Prop where
  | rest (hwriter : p'.writer = p.writer) (hitem : move.item = []) (hmove : move ≠ .aclose)
      (hopened : p'.stage = .opened ↔ p.stage = .opened) (hwriting : p.Writing → p'.Writing)
  | refused (hstage : p.stage ≠ .opened) (hnext : p' = p)
  | sends (item : Bytes) (hmove : move = .send item) (hstage : p.stage = .opened)
      (hnext : p' = { p with writer := p.writer.send item })
  | gaveUp (position : Nat) (writer : Consumer Bytes) (hmove : move = .cancelSend position)
      (hwriter : p.writer.cancelSend position = some writer)
      (hnext : p' = { p with writer := writer })
  | advanced (writer : Consumer Bytes) (hmove : move = .writeWorker)
      (hwriter : p.writer.advance = some writer) (hnext : p' = { p with writer := writer })
  | stopped (hmove : move = .writeWorker ∨ move = .writeFails)
      (hnext : p' = { p with writer := p.writer.stop })
  | closes (hmove : move = .aclose) (hstage : p.stage = .opened)
      (hnext : p' = { p with stage := .draining, writer := p.writer.closeSend })

theorem OutputKept.output {move : SerialMove} (h : p.OutputKept p') (hitem : move.item = [])
    (hmove : move ≠ .aclose) : p.Output move p' :=
  .rest h.writer hitem hmove (by rw [h.stage]) h.writing

/-- A step of `aclose()` behind its first one. -/
theorem Output.of_stage {move : SerialMove} {before stage : CloseStage}
    {timedOut portOpen : Bool} {input : BlockingStream Bytes} (hitem : move.item = [])
    (hmove : move ≠ .aclose) (hstage : p.stage = before)
    (hopened : before ≠ .opened ∧ stage ≠ .opened)
    (hwaited : p.Writing → timedOut = false → stage ≠ .draining → ¬ p.writer.Live)
    (hport : p.Writing → (portOpen = true ↔ stage ≠ .portClosed ∧ stage ≠ .closed))
    (hclosed : stage = .closed → input.receiveOpen = false) :
    p.Output move
      { p with stage := stage, timedOut := timedOut, portOpen := portOpen, input := input } := by
  subst hstage
  refine .rest rfl hitem hmove (iff_of_false hopened.2 hopened.1) fun h => ?_
  exact {
    writer := h.writer
    sendOpen := iff_of_false (fun hopen => hopened.1 (h.sendOpen.mp hopen)) hopened.2
    waited := fun _ hdraining htimedOut => hwaited h htimedOut hdraining
    port := hport h
    closed := hclosed }

theorem Writing.portOpen_of_stage (h : p.Writing) {stage : CloseStage} (hstage : p.stage = stage)
    (hport : stage ≠ .portClosed ∧ stage ≠ .closed) : p.portOpen = true :=
  h.port.mpr (hstage ▸ hport)

theorem Writing.writer_gone (h : p.Writing) {stage : CloseStage} (hstage : p.stage = stage)
    (hbehind : stage ≠ .opened ∧ stage ≠ .draining) (htimedOut : p.timedOut = false) :
    ¬ p.writer.Live :=
  h.waited (hstage ▸ hbehind.1) (hstage ▸ hbehind.2) htimedOut

theorem output_of_step {move : SerialMove} (hstep : machine.step p move = some p') :
    p.Output move p' := by
  cases move with
  | arrive data =>
      obtain ⟨-, rfl⟩ := Machine.guarded hstep
      exact OutputKept.output ⟨rfl, rfl, rfl, rfl, rfl⟩ rfl nofun
  | readWorker => exact (readWorker_outputKept hstep).output rfl nofun
  | readFails => exact (readFails_outputKept hstep).output rfl nofun
  | receive maxBytes => exact (receive_outputKept hstep).output rfl nofun
  | resume => exact (resume_outputKept hstep).output rfl nofun
  | cancelReceive => exact (cancelReceive_outputKept hstep).output rfl nofun
  | send item =>
      obtain rfl : p.send item = p' := Option.some.inj hstep
      rcases p.send_spec item with ⟨hstage, hsend⟩ | ⟨hstage, hsend⟩
      · exact .sends item rfl hstage hsend
      · exact .refused hstage hsend
  | cancelSend position =>
      obtain ⟨writer, hwriter, rfl⟩ := Option.map_eq_some_iff.mp hstep
      exact .gaveUp position writer rfl hwriter rfl
  | writeWorker =>
      rcases writeWorker_spec hstep with rfl | ⟨writer, hwriter, rfl⟩
      · exact .stopped (.inl rfl) rfl
      · exact .advanced writer rfl hwriter rfl
  | writeFails => exact .stopped (.inr rfl) (writeFails_spec hstep)
  | aclose =>
      obtain ⟨hstage, rfl⟩ := Machine.guarded hstep
      exact .closes rfl hstage rfl
  | drain =>
      obtain ⟨⟨hstage, hgone⟩, rfl⟩ := Machine.guarded hstep
      exact .of_stage rfl nofun hstage ⟨nofun, nofun⟩ (fun _ _ _ => hgone)
        (fun h => iff_of_true (h.portOpen_of_stage hstage ⟨nofun, nofun⟩) ⟨nofun, nofun⟩) nofun
  | timeOut =>
      obtain ⟨hstage, rfl⟩ := Machine.guarded hstep
      exact .of_stage rfl nofun hstage ⟨nofun, nofun⟩ (fun _ => nofun)
        (fun h => iff_of_true (h.portOpen_of_stage hstage ⟨nofun, nofun⟩) ⟨nofun, nofun⟩) nofun
  | closeReader =>
      obtain ⟨hstage, rfl⟩ := Machine.guarded hstep
      exact .of_stage rfl nofun hstage ⟨nofun, nofun⟩
        (fun h htimedOut _ => h.writer_gone hstage ⟨nofun, nofun⟩ htimedOut)
        (fun h => iff_of_true (h.portOpen_of_stage hstage ⟨nofun, nofun⟩) ⟨nofun, nofun⟩) nofun
  | closePort =>
      obtain ⟨hstage, rfl⟩ := Machine.guarded hstep
      exact .of_stage rfl nofun hstage ⟨nofun, nofun⟩
        (fun h htimedOut _ => h.writer_gone hstage ⟨nofun, nofun⟩ htimedOut)
        (fun _ => iff_of_false nofun fun hopen => hopen.1 rfl) nofun
  | closeStream =>
      obtain ⟨hstage, rfl⟩ := Machine.guarded hstep
      exact .of_stage rfl nofun hstage ⟨nofun, nofun⟩
        (fun h htimedOut _ => h.writer_gone hstage ⟨nofun, nofun⟩ htimedOut)
        (fun h => iff_of_false (fun hport => (h.port.mp hport).1 hstage) fun hopen => hopen.2 rfl)
        fun _ => rfl

theorem cancelSend_keeps {position : Nat} {c c' : Consumer Bytes}
    (h : c.cancelSend position = some c') :
    c'.stream.toMemoryStream = c.stream.toMemoryStream ∧ c'.stream.offered = c.stream.offered ∧
      c'.phase = c.phase := by
  unfold Consumer.cancelSend at h
  rw [Option.map_eq_some_iff] at h
  obtain ⟨stream, hstream, rfl⟩ := h
  obtain ⟨hkeeps, hoffered, -⟩ := BlockingStream.cancelSend_keeps hstream
  exact ⟨hkeeps, hoffered, rfl⟩

theorem Writing.step {move : SerialMove} (h : p.Writing) (hstep : machine.step p move = some p') :
    p'.Writing := by
  cases output_of_step hstep with
  | rest _ _ _ _ hwriting => exact hwriting h
  | refused _ hnext => exact hnext ▸ h
  | sends item _ _ hnext =>
      subst hnext
      exact h.of_writer (h.writer.send item) (p.writer.stream.send_ends item).1 id
  | gaveUp position writer _ hwriter hnext =>
      subst hnext
      obtain ⟨hkeeps, -, hphase⟩ := cancelSend_keeps hwriter
      refine h.of_writer (h.writer.cancelSend hwriter) (congrArg MemoryStream.sendOpen hkeeps) ?_
      unfold Consumer.Live
      rw [hphase]
      exact id
  | advanced writer _ hwriter hnext =>
      subst hnext
      have hadvanced := h.writer.advance hwriter
      exact h.of_writer (h.writer.advanced hadvanced) (h.writer.advanced_keeps hadvanced).2.2
        fun _ => hadvanced.live
  | stopped _ hnext =>
      subst hnext
      exact h.of_writer h.writer.stop p.writer.stop_keeps.2.1 fun hlive => absurd rfl hlive.2
  | closes _ hstage hnext =>
      subst hnext
      refine ⟨h.writer.closeSend, iff_of_false nofun nofun, fun _ hdraining => absurd rfl hdraining,
        ?_, nofun⟩
      exact iff_of_true (h.port.mpr (by simp [hstage])) ⟨nofun, nofun⟩

/-- Items are offered until the stream is being closed, and not later. -/
theorem Writing.step_offered {move : SerialMove} (h : p.Writing)
    (hstep : machine.step p move = some p') :
    (p.stage = .opened → move ≠ .aclose →
        p'.stage = .opened ∧ p'.writer.stream.offered = p.writer.stream.offered ++ move.item) ∧
      (p.stage ≠ .opened ∨ move = .aclose →
        p'.stage ≠ .opened ∧ p'.writer.stream.offered = p.writer.stream.offered) := by
  cases output_of_step hstep with
  | rest hwriter hitem hmove hopened =>
      rw [hwriter, hitem, List.append_nil]
      exact ⟨fun hstage _ => ⟨hopened.mpr hstage, rfl⟩,
        fun hor => ⟨mt hopened.mp (hor.resolve_right hmove), rfl⟩⟩
  | refused hstage hnext =>
      subst hnext
      exact ⟨fun hopened => absurd hopened hstage, fun _ => ⟨hstage, rfl⟩⟩
  | sends item hmove hstage hnext =>
      subst hnext hmove
      refine ⟨fun _ _ => ⟨hstage, p.writer.stream.send_offered item⟩, ?_⟩
      rintro (hclosed | hmove)
      · exact absurd hstage hclosed
      · cases hmove
  | gaveUp position writer hmove hwriter hnext =>
      subst hnext hmove
      rw [(cancelSend_keeps hwriter).2.1]
      exact ⟨fun hstage _ => ⟨hstage, (List.append_nil _).symm⟩,
        fun hor => ⟨hor.resolve_right nofun, rfl⟩⟩
  | advanced writer hmove hwriter hnext =>
      subst hnext hmove
      rw [(h.writer.advanced_keeps (h.writer.advance hwriter)).2.1]
      exact ⟨fun hstage _ => ⟨hstage, (List.append_nil _).symm⟩,
        fun hor => ⟨hor.resolve_right nofun, rfl⟩⟩
  | stopped hmove hnext =>
      subst hnext
      have hitem : move.item = [] := by rcases hmove with rfl | rfl <;> rfl
      have hnot : move ≠ .aclose := by rcases hmove with rfl | rfl <;> exact nofun
      rw [hitem, List.append_nil]
      exact ⟨fun hstage _ => ⟨hstage, p.writer.stop_keeps.2.2⟩,
        fun hor => ⟨hor.resolve_right hnot, p.writer.stop_keeps.2.2⟩⟩
  | closes hmove hstage hnext =>
      subst hnext hmove
      exact ⟨fun _ hnot => absurd rfl hnot, fun _ => ⟨nofun, rfl⟩⟩

/-- Only a call that is cancelled, or an exception, takes an item out. -/
theorem Writing.step_intact {move : SerialMove} (h : p.Writing) (hintact : p.writer.Intact)
    (hmove : ∀ position, move ≠ .cancelSend position) (hstep : machine.step p move = some p') :
    p'.writer.Intact := by
  cases output_of_step hstep with
  | rest hwriter => exact hwriter ▸ hintact
  | refused _ hnext => exact hnext ▸ hintact
  | sends item _ hstage hnext =>
      subst hnext
      exact hintact.send h.writer (h.sendOpen.mpr hstage) item
  | gaveUp position _ hgaveUp => exact absurd hgaveUp (hmove position)
  | advanced writer _ hwriter hnext =>
      subst hnext
      exact hintact.advanced h.writer (h.writer.advance hwriter)
  | stopped _ hnext =>
      subst hnext
      exact fun hphase => absurd rfl hphase
  | closes _ _ hnext =>
      subst hnext
      exact hintact

theorem run_writing {maxReadSize : Nat} {moves : List SerialMove}
    (hrun : machine.run (new maxReadSize) moves = some p) : p.Writing := by
  have hstep : ∀ (p : SerialPortByteStream) move p', p.Writing → machine.step p move = some p' →
      p'.Writing := fun p move p' h => h.step
  exact machine.run_preserves hstep hrun (new_writing maxReadSize)

theorem itemsBefore_cons {move : SerialMove} {rest : List SerialMove} (h : move ≠ .aclose) :
    SerialMove.itemsBefore (move :: rest) = move.item ++ SerialMove.itemsBefore rest := by
  cases move with
  | aclose => exact absurd rfl h
  | _ => rfl

/-- What the queue of the writer is offered in a run. -/
theorem Writing.run_offered {moves : List SerialMove} (h : p.Writing)
    (hrun : machine.run p moves = some p') :
    (p.stage = .opened →
        p'.writer.stream.offered = p.writer.stream.offered ++ SerialMove.itemsBefore moves) ∧
      (p.stage ≠ .opened → p'.writer.stream.offered = p.writer.stream.offered) := by
  induction moves generalizing p with
  | nil =>
      cases hrun
      exact ⟨fun _ => (List.append_nil _).symm, fun _ => rfl⟩
  | cons move rest ih =>
      obtain ⟨next, hmove, hrest⟩ := Machine.exists_of_run_cons hrun
      obtain ⟨hopened, hclosed⟩ := ih (h.step hmove) hrest
      obtain ⟨hoffers, hrefuses⟩ := h.step_offered hmove
      constructor
      · intro hstage
        by_cases haclose : move = .aclose
        · obtain ⟨hnext, hoffered⟩ := hrefuses (.inr haclose)
          rw [hclosed hnext, hoffered, haclose]
          exact (List.append_nil _).symm
        · obtain ⟨hnext, hoffered⟩ := hoffers hstage haclose
          rw [hopened hnext, hoffered, itemsBefore_cons haclose, List.append_assoc]
      · intro hstage
        obtain ⟨hnext, hoffered⟩ := hrefuses (.inl hstage)
        rw [hclosed hnext, hoffered]

/-- What is written to the port was handed to `send()` before the stream was closed: item for item
in this order, and none is written twice. -/
theorem written_in_order {maxReadSize : Nat} {moves : List SerialMove}
    (hrun : machine.run (new maxReadSize) moves = some p) :
    p.writer.handled.Sublist (SerialMove.itemsBefore moves) := by
  have hwriting := run_writing hrun
  have hoffered := ((new_writing maxReadSize).run_offered hrun).1 rfl
  have hreceived : p.writer.handled.Sublist (p.writer.stream.received ++ p.writer.stream.pending) :=
    hwriting.writer.isPrefix.sublist.trans (List.sublist_append_left _ _)
  rw [show SerialMove.itemsBefore moves = p.writer.stream.offered from hoffered.symm]
  exact hreceived.trans p.writer.stream.received_pending_sublist

theorem written_in_order_two :
    ∃ p, machine.run (new 1024) [.send [1], .send [2, 3], .writeWorker, .writeWorker, .writeWorker,
        .writeWorker] = some p ∧ p.written = [1, 2, 3] ∧
      p.writer.handled.Sublist [[1], [2, 3]] := by
  have hrun : machine.run (new 1024) [.send [1], .send [2, 3], .writeWorker, .writeWorker,
      .writeWorker, .writeWorker] = some _ := rfl
  exact ⟨_, hrun, rfl, written_in_order hrun⟩

theorem run_intact {maxReadSize : Nat} {moves : List SerialMove}
    (hrun : machine.run (new maxReadSize) moves = some p)
    (hmoves : ∀ position, .cancelSend position ∉ moves) : p.writer.Intact := by
  have hstep : ∀ (p : SerialPortByteStream) (move : SerialMove) p', p.Writing ∧ p.writer.Intact →
      (∀ position, move ≠ .cancelSend position) → machine.step p move = some p' →
      p'.Writing ∧ p'.writer.Intact :=
    fun p move p' h hmove hstep => ⟨h.1.step hstep, h.1.step_intact h.2 hmove hstep⟩
  have hok : ∀ move ∈ moves, ∀ position, move ≠ .cancelSend position :=
    fun move hin position heq => hmoves position (heq ▸ hin)
  have hnew : (new maxReadSize).Writing ∧ (new maxReadSize).writer.Intact :=
    ⟨new_writing maxReadSize, fun _ => rfl⟩
  exact (machine.run_invariant hstep (machine.throughout_of_forall hok _) hrun hnew).2

/-- A `send()` that returned has its item written before `aclose()` closes the port, provided that
the writer gets through in time and the port takes what it writes. -/
theorem aclose_flushes {maxReadSize : Nat} {moves : List SerialMove}
    (hrun : machine.run (new maxReadSize) moves = some p)
    (hmoves : ∀ position, .cancelSend position ∉ moves)
    (hopened : p.stage ≠ .opened) (hdraining : p.stage ≠ .draining) (htimedOut : p.timedOut = false)
    (hwrites : p.writer.phase ≠ .stopped) : p.writer.handled = SerialMove.itemsBefore moves := by
  have hwriting := run_writing hrun
  have hended : p.writer.phase = .ended := by
    by_contra hphase
    exact hwriting.waited hopened hdraining htimedOut ⟨hphase, hwrites⟩
  obtain ⟨-, hreceived, hpending⟩ := hwriting.writer.ended hended
  have hcomplete := run_intact hrun hmoves hwrites
  unfold BlockingStream.Complete at hcomplete
  rw [hreceived, hpending, List.append_nil] at hcomplete
  exact hcomplete.trans (((new_writing maxReadSize).run_offered hrun).1 rfl)

theorem aclose_flushes_two :
    ∃ p, machine.run (new 1024) [.send [1], .send [2], .writeWorker, .aclose, .writeWorker,
        .writeWorker, .writeWorker, .writeWorker, .drain, .send [3]] = some p ∧
      p.writer.handled = [[1], [2]] := by
  have hrun : machine.run (new 1024) [.send [1], .send [2], .writeWorker, .aclose, .writeWorker,
      .writeWorker, .writeWorker, .writeWorker, .drain, .send [3]] = some _ := rfl
  exact ⟨_, hrun, aclose_flushes hrun (by simp) nofun nofun rfl nofun⟩

theorem writeWorker_eq (hport : p.portOpen = true ∨ ∀ item, p.writer.phase ≠ .handling item) :
    machine.step p .writeWorker =
      p.writer.advance.map fun writer => { p with writer := writer } := by
  simp only [machine, SerialPortByteStream.step, writeWorker]
  split
  · next item hphase hclosed =>
      rcases hport with hopen | hidle
      · rw [hclosed] at hopen
        cases hopen
      · exact absurd hphase (hidle item)
  · rfl

/-- The writer runs while everybody else pauses. -/
theorem exists_run_of_advances {c c' : Consumer Bytes} (h : c.Advances c')
    (hport : p.portOpen = true) (hwriter : p.writer = c) :
    ∃ n, machine.run p (List.replicate n .writeWorker) = some { p with writer := c' } := by
  induction h using Relation.ReflTransGen.head_induction_on generalizing p with
  | refl =>
      subst hwriter
      exact ⟨0, rfl⟩
  | @head c next hadvance _ ih =>
      subst hwriter
      obtain ⟨n, hrest⟩ := ih (p := { p with writer := next }) hport rfl
      refine ⟨n + 1, ?_⟩
      rw [List.replicate_succ, Machine.run, writeWorker_eq (.inl hport), hadvance]
      exact hrest

theorem Writing.sendOpen_eq_false (h : p.Writing) (hstage : p.stage ≠ .opened) :
    p.writer.stream.sendOpen = false := by
  cases hopen : p.writer.stream.sendOpen with
  | false => rfl
  | true => exact absurd (h.sendOpen.mp hopen) hstage

/-- While `aclose()` waits, the writer writes all that is left, and ends. If no `send()` was
cancelled, that is all that was handed to it. -/
theorem exists_drain {maxReadSize : Nat} {moves : List SerialMove}
    (hrun : machine.run (new maxReadSize) moves = some p) (hstage : p.stage = .draining)
    (hwrites : p.writer.phase ≠ .stopped) :
    ∃ n p', machine.run p (List.replicate n .writeWorker) = some p' ∧ p'.writer.phase = .ended ∧
      p'.writer.handled = p.writer.stream.received ++ p.writer.stream.pending ∧
      ((∀ position, .cancelSend position ∉ moves) →
        p'.writer.handled = SerialMove.itemsBefore moves) := by
  have hwriting := run_writing hrun
  have hall : (∀ position, .cancelSend position ∉ moves) →
      p.writer.stream.received ++ p.writer.stream.pending = SerialMove.itemsBefore moves := by
    intro hmoves
    have hoffered := ((new_writing maxReadSize).run_offered hrun).1 rfl
    exact (run_intact hrun hmoves hwrites).trans hoffered
  by_cases hended : p.writer.phase = .ended
  · obtain ⟨-, hreceived, hpending⟩ := hwriting.writer.ended hended
    have hhandled : p.writer.handled = p.writer.stream.received ++ p.writer.stream.pending := by
      rw [hreceived, hpending, List.append_nil]
    exact ⟨0, p, rfl, hended, hhandled, fun hmoves => hhandled.trans (hall hmoves)⟩
  · obtain ⟨writer, hadvances, hhandled, hends⟩ :=
      hwriting.writer.exists_advances ⟨hended, hwrites⟩
    have hport : p.portOpen = true := hwriting.port.mpr (by simp [hstage])
    obtain ⟨n, hdrained⟩ := exists_run_of_advances hadvances hport rfl
    exact ⟨n, _, hdrained, hends (hwriting.sendOpen_eq_false (by simp [hstage])), hhandled,
      fun hmoves => hhandled.trans (hall hmoves)⟩

theorem exists_drain_two :
    ∃ p n p', machine.run (new 1024) [.send [1], .send [2], .aclose] = some p ∧
      machine.run p (List.replicate n .writeWorker) = some p' ∧
      p'.writer.handled = [[1], [2]] := by
  have hrun : machine.run (new 1024) [.send [1], .send [2], .aclose] = some _ := rfl
  obtain ⟨n, p', hdrained, -, -, hall⟩ := exists_drain hrun rfl nofun
  exact ⟨_, n, p', hrun, hdrained, hall (by simp)⟩

end SerialPortByteStream

end ApUploader
