import ApUploader.Errors
import ApUploader.Logic.Machine
import ApUploader.Logic.MemoryStream
import Mathlib.Data.List.AList

/-! # The shared UDP socket

One worker reads the datagrams of a socket and puts each into the stream of the
subscription for its sender, or into the stream of the handler for the others. The
contexts that open and close these streams run in tasks of their own; each of their
pieces between two awaits is a move. A stream keeps what was sent through it, and the
socket keeps the datagrams that have arrived, so a datagram is known by its position.
-/

namespace ApUploader

abbrev IPAddressAndPort := String × Int

abbrev Datagram := Bytes × IPAddressAndPort

structure SharedUDPSocketSubscription where
  peer : IPAddressAndPort
  stream : MemoryStream Bytes
  /-- The context has been left. -/
  left : Bool := false
  /-- The positions of the datagrams that were queued. -/
  queued : List Nat := []

structure UnmatchedHandler where
  stream : MemoryStream Datagram
  left : Bool := false
  queued : List Nat := []

inductive ReaderWorker where
  /-- In the `receive()` of the socket. -/
  | reading
  /-- The socket was closed. -/
  | ended
  /-- An exception left the worker. -/
  | failed (error : SendError)
  deriving Repr, DecidableEq

structure SharedUDPSocket where
  bufferSize : Nat
  socketOpen : Bool := true
  worker : ReaderWorker := .reading
  /-- The subscription objects, in the order of their creation. -/
  created : List SharedUDPSocketSubscription := []
  /-- The dictionary of the subscriptions, by their position among the objects. -/
  subscriptions : AList fun _ : IPAddressAndPort => Nat := ∅
  handlers : List UnmatchedHandler := []
  unmatchedQueue : Option Nat := none
  arrived : List Datagram := []

inductive SocketMove where
  /-- Enter `subscribed_to`. -/
  | subscribe (peer : IPAddressAndPort)
  /-- Use or close an end of the stream of a subscription. -/
  | onSubscription (id : Nat) (op : MemoryStream.Op)
  /-- The `finally` clause of `subscribed_to`. -/
  | unsubscribe (id : Nat)
  /-- Enter `unmatched_handler`. -/
  | handleUnmatched (bufferSize : Nat)
  | onHandler (id : Nat) (op : MemoryStream.Op)
  /-- The `finally` clause of `unmatched_handler`. -/
  | leaveUnmatched (id : Nat)
  /-- The worker receives a datagram. -/
  | arrive (payload : Bytes) (sender : IPAddressAndPort)
  | closeSocket
  /-- The worker is told that the socket is closed. -/
  | endReading

namespace SharedUDPSocketSubscription

def new (peer : IPAddressAndPort) (bufferSize : Nat) : SharedUDPSocketSubscription where
  peer := peer
  stream := .create bufferSize

def dispatch (sub : SharedUDPSocketSubscription) (position : Nat) (data : Bytes) :
    Except SendError SharedUDPSocketSubscription :=
  (sub.stream.sendNowait data).map fun stream =>
    { sub with stream := stream, queued := sub.queued ++ [position] }

/-- The receive end is closed by `aclose` only, behind the send end. -/
def perform (sub : SharedUDPSocketSubscription) (op : MemoryStream.Op) :
    Option SharedUDPSocketSubscription :=
  if op = .closeReceive ∧ sub.stream.sendOpen = true then none
  else (sub.stream.apply op).map fun stream => { sub with stream := stream }

theorem perform_spec {sub next : SharedUDPSocketSubscription} {op : MemoryStream.Op}
    (h : sub.perform op = some next) :
    ∃ stream, sub.stream.apply op = some stream ∧ next = { sub with stream := stream } := by
  unfold perform at h
  split at h
  · cases h
  · rw [Option.map_eq_some_iff] at h
    obtain ⟨stream, happly, rfl⟩ := h
    exact ⟨stream, happly, rfl⟩

end SharedUDPSocketSubscription

namespace UnmatchedHandler

def new (bufferSize : Nat) : UnmatchedHandler where
  stream := .create bufferSize

def sendNowait (handler : UnmatchedHandler) (position : Nat) (datagram : Datagram) :
    Except SendError UnmatchedHandler :=
  (handler.stream.sendNowait datagram).map fun stream =>
    { handler with stream := stream, queued := handler.queued ++ [position] }

/-- The send end is closed by the context only, when it has been left. -/
def perform (handler : UnmatchedHandler) (op : MemoryStream.Op) : Option UnmatchedHandler :=
  if op = .closeSend ∧ handler.left = false then none
  else (handler.stream.apply op).map fun stream => { handler with stream := stream }

theorem perform_spec {handler next : UnmatchedHandler} {op : MemoryStream.Op}
    (h : handler.perform op = some next) :
    ∃ stream, handler.stream.apply op = some stream ∧ next = { handler with stream := stream } ∧
      (handler.left = false → op ≠ .closeSend) := by
  unfold perform at h
  split at h
  · cases h
  · next hallowed =>
      rw [Option.map_eq_some_iff] at h
      obtain ⟨stream, happly, rfl⟩ := h
      exact ⟨stream, happly, rfl, fun hleft hop => hallowed ⟨hop, hleft⟩⟩

end UnmatchedHandler

namespace SharedUDPSocket

def new (bufferSize : Nat) : SharedUDPSocket where
  bufferSize := bufferSize

/-- A second subscription for a peer is refused with an exception. -/
def subscribedTo (s : SharedUDPSocket) (peer : IPAddressAndPort) : SharedUDPSocket :=
  if peer ∈ s.subscriptions then s
  else { s with
    created := s.created ++ [.new peer s.bufferSize]
    subscriptions := s.subscriptions.insert peer s.created.length }

/-- Behind `aclose`, which has closed the send end at least: a cancelled task may not have come to
the other one. -/
def unsubscribe (s : SharedUDPSocket) (id : Nat) : Option SharedUDPSocket := do
  let sub ← s.created[id]?
  if sub.left = false ∧ sub.stream.sendOpen = false then
    some { s with
      created := s.created.set id { sub with left := true }
      subscriptions := s.subscriptions.erase sub.peer }
  else none

def unmatchedHandler (s : SharedUDPSocket) (bufferSize : Nat) : SharedUDPSocket :=
  if s.unmatchedQueue.isSome then s
  else { s with
    handlers := s.handlers ++ [.new bufferSize]
    unmatchedQueue := some s.handlers.length }

def leaveUnmatched (s : SharedUDPSocket) (id : Nat) : Option SharedUDPSocket := do
  let handler ← s.handlers[id]?
  if handler.left = false then
    some { s with
      handlers := s.handlers.set id { handler with left := true }
      unmatchedQueue := none }
  else none

/-- The body of the loop of `_reader_worker`. A full queue of the handler drops the datagram; any
other exception ends the worker. -/
def readerWorker (s : SharedUDPSocket) (payload : Bytes) (sender : IPAddressAndPort) :
    Option SharedUDPSocket :=
  let position := s.arrived.length
  let next := { s with arrived := s.arrived ++ [(payload, sender)] }
  match s.subscriptions.lookup sender with
  | some id => do
      let sub ← s.created[id]?
      match sub.dispatch position payload with
      | .ok sub => some { next with created := s.created.set id sub }
      | .error error => some { next with worker := .failed error }
  | none =>
      match s.unmatchedQueue with
      | some id => do
          let handler ← s.handlers[id]?
          match handler.sendNowait position (payload, sender) with
          | .ok handler => some { next with handlers := s.handlers.set id handler }
          | .error .wouldBlock => some next
          | .error error => some { next with worker := .failed error }
      | none => some next

def step (s : SharedUDPSocket) : SocketMove → Option SharedUDPSocket
  | .subscribe peer => some (s.subscribedTo peer)
  | .onSubscription id op => do
      let sub ← s.created[id]?
      let sub ← sub.perform op
      some { s with created := s.created.set id sub }
  | .unsubscribe id => s.unsubscribe id
  | .handleUnmatched bufferSize => some (s.unmatchedHandler bufferSize)
  | .onHandler id op => do
      let handler ← s.handlers[id]?
      let handler ← handler.perform op
      some { s with handlers := s.handlers.set id handler }
  | .leaveUnmatched id => s.leaveUnmatched id
  | .arrive payload sender =>
      if s.worker = .reading then s.readerWorker payload sender else none
  | .closeSocket => some { s with socketOpen := false }
  | .endReading =>
      if s.worker = .reading ∧ s.socketOpen = false then some { s with worker := .ended } else none

def machine : Machine SharedUDPSocket SocketMove := ⟨step⟩

end SharedUDPSocket

end ApUploader
