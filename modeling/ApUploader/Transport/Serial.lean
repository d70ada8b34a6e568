import ApUploader.Errors
import ApUploader.Logic.Consumer
import ApUploader.Logic.Machine

/-! # The byte stream of a serial port

Two threads stand between a serial port and its user. One reads what the port has and
hands it over, chunk by chunk, to the `receive()` calls; the other takes what was handed to
`send()` and writes it. `aclose()` stops the writer first and gives it three seconds, then
the reader, then the port, and only then the stream that `receive()` reads from. Each piece
of a task or a thread between two waits is a move.
-/

namespace ApUploader

inductive ReadWorker where
  /-- Before `in_waiting`. -/
  | polling
  /-- In the `read()` of the port. -/
  | reading (size : Nat)
  /-- Before the data are handed over. -/
  | sending (data : Bytes)
  /-- The data wait for a `receive()`. -/
  | blocked
  | ended
  /-- An exception has left the thread. -/
  | failed
  deriving Repr, DecidableEq

inductive CloseStage where
  | opened
  /-- Waits for the writer. -/
  | draining
  | drained
  | readerClosed
  | portClosed
  | closed
  deriving Repr, DecidableEq

structure SerialPortByteStream where
  maxReadSize : Nat
  stage : CloseStage := .opened
  portOpen : Bool := true
  /-- What the port has received and not given away. -/
  inWaiting : Bytes := []
  reader : ReadWorker := .polling
  /-- The stream between the reader and `receive()`. -/
  input : BlockingStream Bytes := .create 0
  /-- What the buffered stream holds back from a chunk that was too long. -/
  surplus : Bytes := []
  /-- The `max_bytes` of a `receive()` that waits. -/
  call : Option Nat := none
  /-- The number of chunks that `receive()` calls have taken. -/
  taken : Nat := 0
  /-- The writer with its queue; what it has handled was written to the port. -/
  writer : Consumer Bytes := .create 0
  /-- The writer was not waited for any longer. -/
  timedOut : Bool := false
  /-- All that has arrived at the port, that the reader read, and that `receive()` returned. -/
  arrived : Bytes := []
  read : Bytes := []
  returned : List Bytes := []

inductive SerialMove where
  /-- The port receives bytes. -/
  | arrive (data : Bytes)
  | readWorker
  /-- The port raises in `in_waiting` or `read()`. -/
  | readFails
  | receive (maxBytes : Nat)
  /-- A `receive()` that waited goes on. -/
  | resume
  | cancelReceive
  | send (item : Bytes)
  /-- A `send()` that waits is cancelled. -/
  | cancelSend (position : Nat)
  | writeWorker
  /-- The port raises in `write()`. -/
  | writeFails
  | aclose
  /-- `writer_done` is set. -/
  | drain
  /-- The three seconds are over. -/
  | timeOut
  | closeReader
  | closePort
  | closeStream
  deriving Repr, DecidableEq

namespace SerialPortByteStream

def new (maxReadSize : Nat) : SerialPortByteStream where
  maxReadSize := maxReadSize

/-- The port raises, which nobody minds as soon as the stream is being closed. -/
def readerLeaves (p : SerialPortByteStream) : SerialPortByteStream :=
  { p with reader := if p.stage = .opened then .failed else .ended }

def readWorker (p : SerialPortByteStream) : Option SerialPortByteStream :=
  match p.reader with
  | .polling =>
      if p.portOpen then
        let size := if p.inWaiting = [] then 1 else min p.inWaiting.length p.maxReadSize
        some { p with reader := .reading size }
      else some p.readerLeaves
  | .reading size =>
      if p.portOpen = false then some p.readerLeaves
      else if size ≤ p.inWaiting.length then
        some { p with
          inWaiting := p.inWaiting.drop size
          read := p.read ++ p.inWaiting.take size
          reader := .sending (p.inWaiting.take size) }
      else none
  | .sending data =>
      let next := { p with input := (p.input.send data).2 }
      match (p.input.send data).1 with
      | .accepted => some { next with reader := .polling }
      | .waiting => some { next with reader := .blocked }
      | .refused _ => some { next with reader := .ended }
  | .blocked =>
      if p.input.waitingSenders ≠ [] then none
      else if p.input.receiveOpen then some { p with reader := .polling }
      else some { p with reader := .ended }
  | .ended | .failed => none

def readFails (p : SerialPortByteStream) : Option SerialPortByteStream :=
  match p.reader with
  | .polling | .reading _ => some p.readerLeaves
  | .sending _ | .blocked | .ended | .failed => none

def give (p : SerialPortByteStream) (data : Bytes) (maxBytes : Nat) : SerialPortByteStream :=
  { p with
    returned := p.returned ++ [data.take maxBytes]
    surplus := p.surplus ++ data.drop maxBytes
    taken := p.taken + 1
    call := none }

/-- Start a `receive()`, which only one task does at a time. A closed stream refuses with an
exception. -/
def receive (p : SerialPortByteStream) (maxBytes : Nat) : Option SerialPortByteStream :=
  if p.call.isSome then none
  else if p.stage = .closed then some p
  else if p.surplus ≠ [] then
    some { p with
      returned := p.returned ++ [p.surplus.take maxBytes]
      surplus := p.surplus.drop maxBytes }
  else
    match p.input.receive.1 with
    | .item data => some ({ p with input := p.input.receive.2 }.give data maxBytes)
    | .waiting => some { p with input := p.input.receive.2, call := some maxBytes }
    | .endOfStream | .closedResource => some p

def resume (p : SerialPortByteStream) : Option SerialPortByteStream := do
  let maxBytes ← p.call
  match p.input.received[p.taken]? with
  | some data => some (p.give data maxBytes)
  | none => if p.input.sendOpen then none else some { p with call := none }

/-- With a cancelled `receive()` goes the chunk that was handed to it. -/
def cancelReceive (p : SerialPortByteStream) : Option SerialPortByteStream :=
  if p.call.isSome then
    match p.input.abandon with
    | some input => some { p with input := input, call := none }
    | none => some { p with call := none, taken := p.input.received.length }
  else none

def send (p : SerialPortByteStream) (item : Bytes) : SerialPortByteStream :=
  if p.stage = .opened then { p with writer := p.writer.send item } else p

def cancelSend (p : SerialPortByteStream) (position : Nat) : Option SerialPortByteStream :=
  (p.writer.cancelSend position).map fun writer => { p with writer := writer }

/-- A piece of `_write_worker`. A closed port ends it. -/
def writeWorker (p : SerialPortByteStream) : Option SerialPortByteStream :=
  match p.writer.phase, p.portOpen with
  | .handling _, false => some { p with writer := p.writer.stop }
  | _, _ => p.writer.advance.map fun writer => { p with writer := writer }

def writeFails (p : SerialPortByteStream) : Option SerialPortByteStream :=
  match p.writer.phase with
  | .handling _ => some { p with writer := p.writer.stop }
  | .fetching | .waiting | .ended | .stopped => none

def aclose (p : SerialPortByteStream) : Option SerialPortByteStream :=
  if p.stage = .opened then some { p with stage := .draining, writer := p.writer.closeSend }
  else none

def step (p : SerialPortByteStream) : SerialMove → Option SerialPortByteStream
  | .arrive data =>
      if p.portOpen then
        some { p with inWaiting := p.inWaiting ++ data, arrived := p.arrived ++ data }
      else none
  | .readWorker => p.readWorker
  | .readFails => p.readFails
  | .receive maxBytes => p.receive maxBytes
  | .resume => p.resume
  | .cancelReceive => p.cancelReceive
  | .send item => some (p.send item)
  | .cancelSend position => p.cancelSend position
  | .writeWorker => p.writeWorker
  | .writeFails => p.writeFails
  | .aclose => p.aclose
  | .drain =>
      if p.stage = .draining ∧ ¬ p.writer.Live then some { p with stage := .drained } else none
  | .timeOut =>
      if p.stage = .draining then some { p with stage := .drained, timedOut := true } else none
  | .closeReader =>
      if p.stage = .drained then
        some { p with stage := .readerClosed, input := p.input.closeSend }
      else none
  | .closePort =>
      if p.stage = .readerClosed then some { p with stage := .portClosed, portOpen := false }
      else none
  | .closeStream =>
      if p.stage = .portClosed then some { p with stage := .closed, input := p.input.closeReceive }
      else none

def machine : Machine SerialPortByteStream SerialMove := ⟨step⟩

def written (p : SerialPortByteStream) : Bytes := p.writer.handled.flatten

/-! ## What the moves do -/

variable {p p' : SerialPortByteStream}

theorem readFails_spec (hstep : p.readFails = some p') :
    p' = p.readerLeaves ∧ (p.reader = .polling ∨ ∃ size, p.reader = .reading size) := by
  unfold readFails at hstep
  split at hstep
  · next hreader => exact ⟨(Option.some.inj hstep).symm, .inl hreader⟩
  · next size hreader => exact ⟨(Option.some.inj hstep).symm, .inr ⟨size, hreader⟩⟩
  all_goals cases hstep

theorem resume_spec (hstep : p.resume = some p') : ∃ maxBytes, p.call = some maxBytes ∧
    ((∃ data, p.input.received[p.taken]? = some data ∧ p' = p.give data maxBytes) ∨
      p.input.received[p.taken]? = none ∧ p.input.sendOpen = false ∧
        p' = { p with call := none }) := by
  unfold resume at hstep
  rw [Option.bind_eq_bind, Option.bind_eq_some_iff] at hstep
  obtain ⟨maxBytes, hcall, hstep⟩ := hstep
  refine ⟨maxBytes, hcall, ?_⟩
  split at hstep
  · next data hdata => exact .inl ⟨data, hdata, (Option.some.inj hstep).symm⟩
  · next hnone =>
      split at hstep
      · cases hstep
      · next hclosed => exact .inr ⟨hnone, by simpa using hclosed, (Option.some.inj hstep).symm⟩

theorem cancelReceive_spec (hstep : p.cancelReceive = some p') :
    (∃ input, p.input.abandon = some input ∧ p' = { p with input := input, call := none }) ∨
      p.input.abandon = none ∧
        p' = { p with call := none, taken := p.input.received.length } := by
  unfold cancelReceive at hstep
  split at hstep
  · split at hstep
    · next input habandon => exact .inl ⟨input, habandon, (Option.some.inj hstep).symm⟩
    · next habandon => exact .inr ⟨habandon, (Option.some.inj hstep).symm⟩
  · cases hstep

theorem writeWorker_spec (hstep : p.writeWorker = some p') :
    p' = { p with writer := p.writer.stop } ∨
      ∃ writer, p.writer.advance = some writer ∧ p' = { p with writer := writer } := by
  unfold writeWorker at hstep
  split at hstep
  · exact .inl (Option.some.inj hstep).symm
  · obtain ⟨writer, hwriter, rfl⟩ := Option.map_eq_some_iff.mp hstep
    exact .inr ⟨writer, hwriter, rfl⟩

theorem writeFails_spec (hstep : p.writeFails = some p') :
    p' = { p with writer := p.writer.stop } := by
  unfold writeFails at hstep
  split at hstep
  · exact (Option.some.inj hstep).symm
  all_goals cases hstep

theorem send_spec (p : SerialPortByteStream) (item : Bytes) :
    p.stage = .opened ∧ p.send item = { p with writer := p.writer.send item } ∨
      p.stage ≠ .opened ∧ p.send item = p := by
  unfold send
  split
  · next hstage => exact .inl ⟨hstage, rfl⟩
  · next hstage => exact .inr ⟨hstage, rfl⟩

end SerialPortByteStream

/-- The moves of those who send, and of the writer. -/
def SerialMove.isOutput : SerialMove → Bool
  | .send _ | .cancelSend _ | .writeWorker | .writeFails => true
  | _ => false

namespace SerialPortByteStream

variable {p p' : SerialPortByteStream}

theorem step_of_isOutput {move : SerialMove} (hmove : move.isOutput = true)
    (hstep : machine.step p move = some p') : ∃ writer, p' = { p with writer := writer } := by
  cases move with
  | send item =>
      obtain rfl : p.send item = p' := Option.some.inj hstep
      rcases p.send_spec item with ⟨-, hsend⟩ | ⟨-, hsend⟩
      · exact ⟨_, hsend⟩
      · exact ⟨_, hsend⟩
  | cancelSend position =>
      obtain ⟨writer, -, rfl⟩ := Option.map_eq_some_iff.mp hstep
      exact ⟨writer, rfl⟩
  | writeWorker =>
      rcases writeWorker_spec hstep with rfl | ⟨writer, -, rfl⟩
      · exact ⟨_, rfl⟩
      · exact ⟨writer, rfl⟩
  | writeFails => exact ⟨_, writeFails_spec hstep⟩
  | _ => cases hmove

end SerialPortByteStream

end ApUploader
