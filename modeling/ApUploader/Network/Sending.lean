import ApUploader.Logic.Consumer
import ApUploader.Network.SharedSocket

/-! # Sending through the shared UDP socket

A context of `use()` opens a socket and a queue, and starts one worker that sends what
comes out of the queue. Callers of `send()`, the worker and the contexts run in tasks of
their own; each of their pieces between two awaits is a move. Nothing closes the end of
the queue that the callers use.
-/

namespace ApUploader

inductive UseStage where
  /-- In `create_udp_socket`. -/
  | creating
  /-- `create_udp_socket` has raised. -/
  | refused
  | inside
  /-- The body has been left, and the task group waits for its workers. -/
  | leaving
  | left
  deriving Repr, DecidableEq

/-- A context of `use()`. -/
structure SocketUse where
  /-- The writer worker with its queue; what it has handled has left through the socket. -/
  writer : Consumer Datagram
  stage : UseStage := .creating
  /-- The reader worker has not ended. -/
  reading : Bool := true
  /-- The task group is cancelled, from outside or by an exception. -/
  cancelled : Bool := false

structure SocketSender where
  bufferSize : Nat
  uses : List SocketUse := []
  /-- The context that `_socket` and `_send_queue` come from. -/
  current : Option Nat := none

inductive SendMove where
  /-- Enter `use()`. -/
  | use
  | socketCreated (id : Nat)
  | socketRefused (id : Nat)
  /-- Call `send()`. -/
  | send (data : Bytes) (destination : IPAddressAndPort)
  /-- A `send()` that waits is cancelled. -/
  | cancelSend (id position : Nat)
  /-- A piece of `_writer_worker`. -/
  | write (id : Nat)
  /-- `sendto()` raises. -/
  | writerFails (id : Nat)
  /-- An exception leaves `_reader_worker`. -/
  | readerFails (id : Nat)
  /-- The body of the context is left, normally or not. -/
  | leave (id : Nat)
  | cancel (id : Nat)
  /-- The cancellation reaches a worker. -/
  | stopWriter (id : Nat)
  | stopReader (id : Nat)
  /-- The task group ends, and the socket is closed. -/
  | close (id : Nat)
  deriving Repr, DecidableEq

namespace SocketUse

def new (bufferSize : Nat) : SocketUse where
  writer := .create bufferSize

def datagrams (c : SocketUse) : List Datagram := c.writer.handled

def enter (c : SocketUse) : Option SocketUse :=
  if c.stage = .creating then some { c with stage := .inside } else none

def refuse (c : SocketUse) : Option SocketUse :=
  if c.stage = .creating then some { c with stage := .refused } else none

def send (c : SocketUse) (datagram : Datagram) : SocketUse :=
  { c with writer := c.writer.send datagram }

def cancelSend (c : SocketUse) (position : Nat) : Option SocketUse :=
  (c.writer.cancelSend position).map fun writer => { c with writer := writer }

def Started (c : SocketUse) : Prop := c.stage = .inside ∨ c.stage = .leaving

instance (c : SocketUse) : Decidable c.Started := instDecidableOr

/-- A worker that leaves its loop closes its end of the queue; an exception cancels the others. -/
def writerWorker (c : SocketUse) (writer : Consumer Datagram) : SocketUse :=
  match writer.phase with
  | .ended => { c with writer := writer.closeReceive }
  | .stopped => { c with writer := writer.closeReceive, cancelled := true }
  | .fetching | .waiting | .handling _ => { c with writer := writer }

def write (c : SocketUse) : Option SocketUse :=
  if c.Started then c.writer.advance.map c.writerWorker else none

def writerFails (c : SocketUse) : Option SocketUse :=
  match c.writer.phase with
  | .handling _ => if c.Started then some (c.writerWorker c.writer.stop) else none
  | _ => none

def readerFails (c : SocketUse) : Option SocketUse :=
  if c.Started ∧ c.reading = true then some { c with reading := false, cancelled := true } else none

def leave (c : SocketUse) : Option SocketUse :=
  if c.stage = .inside then some { c with stage := .leaving } else none

def cancel (c : SocketUse) : Option SocketUse :=
  if c.Started then some { c with cancelled := true } else none

def stopWriter (c : SocketUse) : Option SocketUse :=
  if c.Started ∧ c.cancelled = true ∧ c.writer.Live then some (c.writerWorker c.writer.stop)
  else none

def stopReader (c : SocketUse) : Option SocketUse :=
  if c.Started ∧ c.cancelled = true then some { c with reading := false } else none

def close (c : SocketUse) : Option SocketUse :=
  if c.stage = .leaving ∧ ¬ c.writer.Live ∧ c.reading = false then some { c with stage := .left }
  else none

end SocketUse

namespace SocketSender

def new (bufferSize : Nat) : SocketSender where
  bufferSize := bufferSize

def atUse (s : SocketSender) (id : Nat) (f : SocketUse → Option SocketUse) :
    Option SocketSender := do
  let c ← s.uses[id]?
  let c ← f c
  some { s with uses := s.uses.set id c }

/-- A socket that is in use is refused with an exception. -/
def use (s : SocketSender) : SocketSender :=
  if s.current.isSome then s else { s with uses := s.uses ++ [.new s.bufferSize] }

def send (s : SocketSender) (data : Bytes) (destination : IPAddressAndPort) :
    Option SocketSender :=
  match s.current with
  | none => some s
  | some id => s.atUse id fun c => some (c.send (data, destination))

def step (s : SocketSender) : SendMove → Option SocketSender
  | .use => some s.use
  | .socketCreated id => (s.atUse id SocketUse.enter).map fun s => { s with current := some id }
  | .socketRefused id => s.atUse id SocketUse.refuse
  | .send data destination => s.send data destination
  | .cancelSend id position => s.atUse id fun c => c.cancelSend position
  | .write id => s.atUse id SocketUse.write
  | .writerFails id => s.atUse id SocketUse.writerFails
  | .readerFails id => s.atUse id SocketUse.readerFails
  | .leave id => (s.atUse id SocketUse.leave).map fun s => { s with current := none }
  | .cancel id => s.atUse id SocketUse.cancel
  | .stopWriter id => s.atUse id SocketUse.stopWriter
  | .stopReader id => s.atUse id SocketUse.stopReader
  | .close id => s.atUse id SocketUse.close

def machine : Machine SocketSender SendMove := ⟨step⟩

end SocketSender

end ApUploader
