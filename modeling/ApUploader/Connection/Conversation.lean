import ApUploader.Connection.Pass
import ApUploader.Logic.Machine
import ApUploader.Protocol.RoundTrip

/-! # Conversations over delaying and lossy channels

The host runs one call after another, pass by pass, and a device answers every
message it gets with one reply, in order. The two channels between them keep the
order, delay messages for as long as they like and lose whole ones; they accept
every message. A reply that has come through is received in arbitrary chunks.
Messages and bytes carry the transmission they belong to, which the host does not
see.
-/

namespace ApUploader

open Protocol

/-- One handing over of a command: the how-manieth it is, in which call, and what was sent. -/
structure Transmission where
  number : Nat
  call : Nat
  which : Outgoing
  command : Command
  deriving DecidableEq, Repr

structure Reply where
  request : Transmission
  bytes : Bytes
  deriving DecidableEq, Repr

def Reply.marked (reply : Reply) : List (Transmission × UInt8) :=
  reply.bytes.map fun byte => (reply.request, byte)

/-- A normal return: the call, its payload and the bytes the protocol took for the reply. -/
structure Returned where
  call : Nat
  payload : Bytes
  consumed : List (Transmission × UInt8)
  deriving DecidableEq, Repr

structure Conversation where
  protocol : Protocol := .new
  /-- The call that is going on and its local variables. -/
  running : Option (Call × Locals) := none
  calls : Nat := 0
  transmissions : Nat := 0
  /-- On the way to the device, the oldest first. -/
  requests : List Transmission := []
  /-- On the way to the host, the oldest first. -/
  replies : List Reply := []
  /-- Delivered to the host's transport and not yet received from it. -/
  arrived : List (Transmission × UInt8) := []
  /-- Received since the last transmission. -/
  heard : List (Transmission × UInt8) := []
  produced : List Reply := []
  returned : List Returned := []
  deriving DecidableEq

inductive Move where
  | call (call : Call)
  /-- The host goes through a pass that awaits nothing or a send. -/
  | pass
  /-- The host receives `count + 1` of the bytes that have arrived. -/
  | receive (count : Nat)
  | timeout
  /-- The device answers the oldest message that has come through to it. -/
  | answer (type : ResponseType) (payload : Bytes)
  | deliver
  | loseRequest (index : Nat)
  | loseReply (index : Nat)
  deriving DecidableEq, Repr

/-- The reply of a device to a command: a payload as declared, or a failure without one. -/
def answerBytes (c : Command) (type : ResponseType) (payload : Bytes) : Bytes :=
  (Response.mk type (replyBody c.responseLength payload)).toBytes

namespace Conversation

def land (s : Conversation) (call : Call) : Next → Conversation
  | .loop l p => { s with protocol := p, running := some (call, l) }
  | .raised _ p => { s with protocol := p, running := none }
  | .returned payload p => { s with
      protocol := p
      running := none
      returned := s.returned ++
        [⟨s.calls, payload, s.heard.take (s.heard.length - p.buffer.length)⟩] }

def transmit (s : Conversation) (call : Call) (which : Outgoing) : Conversation :=
  { s with
    transmissions := s.transmissions + 1
    requests := s.requests ++ [⟨s.transmissions, s.calls, which, call.outgoing which⟩]
    heard := [] }

def passStep (s : Conversation) (call : Call) : Turn → Option Conversation
  | .send which _ resume => some ((s.transmit call which).land call (resume .done))
  | .done _ next => some (s.land call next)
  | .receive _ _ _ => none

def receiveStep (s : Conversation) (call : Call) (count : Nat) : Turn → Option Conversation
  | .receive _ _ resume =>
      if count < s.arrived.length then
        some ({ s with
          arrived := s.arrived.drop (count + 1)
          heard := s.heard ++ s.arrived.take (count + 1) }.land call
            (resume (.ok ((s.arrived.take (count + 1)).map Prod.snd))))
      else none
  | _ => none

def timeoutStep (s : Conversation) (call : Call) : Turn → Option Conversation
  | .receive _ _ resume => some (s.land call (resume (.error .timeoutError)))
  | _ => none

def turn? (s : Conversation) : Option (Call × Turn) :=
  s.running.map fun (call, l) => (call, turn call l s.protocol)

def step (s : Conversation) : Move → Option Conversation
  | .call call =>
      match s.running with
      | none => some { s with running := some (call, call.locals), calls := s.calls + 1 }
      | some _ => none
  | .pass => s.turn?.bind fun (call, turn) => s.passStep call turn
  | .receive count => s.turn?.bind fun (call, turn) => s.receiveStep call count turn
  | .timeout => s.turn?.bind fun (call, turn) => s.timeoutStep call turn
  | .answer type payload =>
      match s.requests with
      | [] => none
      | request :: rest =>
          if type = .ok ∧ ¬ Declares request.command.responseLength payload then none
          else
            let reply : Reply := ⟨request, answerBytes request.command type payload⟩
            some { s with
              requests := rest
              replies := s.replies ++ [reply]
              produced := s.produced ++ [reply] }
  | .deliver =>
      match s.replies with
      | [] => none
      | reply :: rest => some { s with replies := rest, arrived := s.arrived ++ reply.marked }
  | .loseRequest index => some { s with requests := s.requests.eraseIdx index }
  | .loseReply index => some { s with replies := s.replies.eraseIdx index }

def machine : Machine Conversation Move := ⟨step⟩

structure Silent (s : Conversation) : Prop where
  requests : s.requests = []
  replies : s.replies = []
  arrived : s.arrived = []

/-- The next pass hands a GET_SYNC over. -/
def resyncs (s : Conversation) : Bool :=
  match s.turn? with
  | some (_, .send .getSync _ _) => true
  | _ => false

/-- The host does not resync over messages that are still on their way. -/
def ResyncsInSilence (s : Conversation) (move : Move) : Prop :=
  move = .pass → s.resyncs = true → s.requests = [] ∧ s.replies = [] ∧ s.arrived = []

instance (s : Conversation) (move : Move) : Decidable (s.ResyncsInSilence move) := by
  unfold ResyncsInSilence; infer_instance

end Conversation

/-- The bytes taken for the reply are those of one reply to a transmission of the call's command
during the call. -/
def Returned.Attributed (produced : List Reply) (r : Returned) : Prop :=
  ∃ reply ∈ produced, reply.request.call = r.call ∧ reply.request.which = .command ∧
    r.consumed = reply.marked

instance (produced : List Reply) (r : Returned) : Decidable (r.Attributed produced) := by
  unfold Returned.Attributed; infer_instance

end ApUploader
