import ApUploader.Logic.Proc
import ApUploader.Protocol.Invariant

/-! # The command loop of a bootloader connection

`processCommandInner` sends one command and returns the payload of its reply,
regaining sync and retrying as the source does. The transport is a parameter: a
state with functions that answer each awaited call, so every behaviour of a peer
is some transport. One pass of the loop is `turn`, which computes up to the next
await and says how the loop goes on from each way the await can end. The trace
records what the loop did and has no influence on it.
-/

namespace ApUploader

open Effect

/-- How an awaited `Transport.receive` ends under its `fail_after` deadline. -/
inductive ReceiveOutcome where
  | ended (result : Except Exn Bytes)
  | never

/-- A transport answers the awaited calls; `receive` is told the deadline in milliseconds. -/
structure Transport (σ : Type) where
  send : Bytes → σ → Completion × σ
  receive : Nat → σ → ReceiveOutcome × σ

/-- A transport that accepts every send and plays back the results of its receives; past the end
of the script it is silent. -/
def scripted : Transport (List (Except Exn Bytes)) where
  send _ script := (.done, script)
  receive _
    | [] => (.ended (.error .timeoutError), [])
    | result :: rest => (.ended result, rest)

/-- The object the local variable `command_to_send` refers to. The callers build a fresh command,
so it is never the `GET_SYNC` singleton. -/
inductive Outgoing where
  | getSync
  | command
  deriving DecidableEq, Repr

inductive Action where
  /-- Bytes were handed to the transport; `synced` is `in_sync` at that moment. -/
  | sent (which : Outgoing) (raw : Bytes) (synced : Bool) (completion : Completion)
  | received (result : Except Exn Bytes)
  /-- An event of the protocol was handled without an await. -/
  | reported (event : Event)
  /-- Bytes were handed to the transport outside the command loop. -/
  | direct (raw : Bytes) (completion : Completion)

structure Call where
  command : Command
  maxRetries : Nat := 10
  timeout : Option Nat := none
  deriving DecidableEq, Repr

structure Locals where
  commandToSend : Option Outgoing
  retriesLeft : Nat
  sent : Bool
  deriving DecidableEq, Repr

def Call.locals (call : Call) : Locals := ⟨none, call.maxRetries, false⟩

def Call.outgoing (call : Call) : Outgoing → Command
  | .getSync => .getSync
  | .command => call.command

inductive Next where
  | loop (l : Locals) (p : Protocol)
  | returned (payload : Bytes) (p : Protocol)
  | raised (error : Exn) (p : Protocol)

/-- A pass up to its await, or to its end when it has none. -/
inductive Turn where
  | send (which : Outgoing) (raw : Bytes) (resume : Completion → Next)
  | receive (timeout : Nat) (p : Protocol) (resume : Except Exn Bytes → Next)
  | done (event : Option Event) (next : Next)

/-- The recurring `if not retries_left: raise … else: retries_left -= 1`. -/
def fault (l : Locals) (error : Exn) (p : Protocol) : Next :=
  if l.retriesLeft = 0 then .raised error p
  else .loop { l with retriesLeft := l.retriesLeft - 1 } p

def resumeSend (l : Locals) (which : Outgoing) (p : Protocol) : Completion → Next
  | .done => .loop { l with sent := l.sent || which == .command } p
  | .raised error => if error.isException then fault l error p.sendFailed else .raised error p

def resumeReceive (l : Locals) (p : Protocol) : Except Exn Bytes → Next
  | .ok data =>
      match p.feed data with
      | .ok p => .loop l p
      | .error error => .raised error p
  | .error .timeoutError => fault l .timeoutError p.reset
  | .error error => .raised error p

def sendTurn (call : Call) (l : Locals) (which : Outgoing) (p : Protocol) : Turn :=
  let l := { l with commandToSend := some which }
  match p.send (.command (call.outgoing which)) with
  | .ok (raw, p) => .send which raw (resumeSend l which p)
  | .error error => .done none (.raised error p)

def receiveTimeout (call : Call) (l : Locals) : Nat :=
  match call.timeout, l.commandToSend with
  | some timeout, _ => timeout
  | none, some which => (call.outgoing which).suggestedTimeout
  | none, none => 1000

def turn (call : Call) (l : Locals) (p : Protocol) : Turn :=
  match p.nextEvent with
  | (.error error, p) => .done none (.raised error p)
  | (.ok none, p) =>
      if !p.inSync then sendTurn call { l with sent := false } .getSync p
      else if !l.sent then sendTurn call l .command p
      else .done none (.raised (.runtimeError "invalid state") p)
  | (.ok (some .needMoreData), p) => .receive (receiveTimeout call l) p (resumeReceive l p)
  | (.ok (some (.response r)), p) =>
      .done (some (.response r))
        (match r.getPayloadOrRaiseException with
        | .error error => .raised error p
        | .ok payload => if l.sent then .returned payload p else .loop l p)
  | (.ok (some (.excessData payload)), p) =>
      .done (some (.excessData payload)) (fault l .excessDataError p.reset)
  | (.ok (some event), p) =>
      .done (some event)
        (.raised (.runtimeError ("unexpected event: " ++ event.repr)) p)

/-- What the loop acts on: the protocol, the transport and the trace of the passes so far. -/
structure Link (σ : Type) where
  protocol : Protocol
  transport : σ
  trace : List Action := []

variable {σ : Type}

def Next.land : Next → Link σ → Outcome Exn (Locals ⊕ Bytes) × Link σ
  | .loop l p, w => (.ok (.inl l), { w with protocol := p })
  | .returned payload p, w => (.ok (.inr payload), { w with protocol := p })
  | .raised error p, w => (.raised error, { w with protocol := p })

def pass (T : Transport σ) (call : Call) (l : Locals) : Proc Exn (Link σ) (Locals ⊕ Bytes) :=
  fun w =>
    match turn call l w.protocol with
    | .send which raw resume =>
        let (completion, s) := T.send raw w.transport
        (resume completion).land { w with
          transport := s
          trace := w.trace ++ [.sent which raw w.protocol.inSync completion] }
    | .receive timeout p resume =>
        match T.receive timeout w.transport with
        | (.ended result, s) => (resume result).land { w with
            transport := s
            trace := w.trace ++ [.received result] }
        | (.never, s) => (.running, { w with protocol := p, transport := s })
    | .done event next => next.land { w with trace := w.trace ++ event.toList.map .reported }

def processCommandInner (T : Transport σ) (call : Call) (fuel : Nat) :
    Proc Exn (Link σ) Bytes :=
  Proc.loop (pass T call) fuel call.locals

end ApUploader
