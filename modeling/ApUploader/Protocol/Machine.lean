import ApUploader.Protocol.Messages

/-! # The sans-IO protocol state machine

`Protocol` tracks the exchange with the bootloader without doing any I/O. Every
operation is a function of the stored fields; the operations that can raise
return the exception beside the state they leave. One pass of the `while True`
loop of `nextEvent` returns on every path, so the loop is one pass of three
blocks that fall through into one another.
-/

namespace ApUploader

inductive ProtocolState where
  | idle | inSync | waitResponseLength | waitResponse | waitSync | error
  deriving DecidableEq, Repr

structure Protocol where
  buffer : Bytes := []
  bufferClosed : Bool := false
  payload : Bytes := []
  state : ProtocolState := .idle
  bytesExpected : Nat := 0
  deriving DecidableEq, Repr

namespace Protocol

def new : Protocol := {}

def feed (p : Protocol) (data : Bytes) : Except Exn Protocol :=
  if data ≠ [] then
    if p.bufferClosed then .error (.runtimeError "receiver closed")
    else .ok { p with buffer := p.buffer ++ data }
  else .ok { p with bufferClosed := true }

def inSync (p : Protocol) : Bool := p.state == .inSync

def moveToInSyncState (p : Protocol) : Protocol :=
  { p with state := .inSync, payload := [], bytesExpected := 0 }

/-- The event, if any, and the state after the front of the buffer went into it. -/
def purgeExcessData (p : Protocol) (upTo : Option Nat) : Option Event × Protocol :=
  let upTo := match upTo with
    | none => p.buffer.length
    | some n => min n p.buffer.length
  if p.payload ≠ [] ∨ 0 < upTo then
    (some (.excessData (p.payload ++ p.buffer.take upTo)),
      { p with payload := [], buffer := p.buffer.drop upTo })
  else (none, p)

def startWaitingForSync (p : Protocol) : Protocol :=
  { p with state := .waitSync, bytesExpected := 2 }

def startWaitingForResponse (p : Protocol) (length : Int) : Protocol :=
  if length < 0 then
    { p with state := .waitResponseLength, payload := [], bytesExpected := 4 }
  else if length = 0 then p.startWaitingForSync
  else { p with state := .waitResponse, payload := [], bytesExpected := length.toNat }

def reset (p : Protocol) : Protocol :=
  { p with buffer := [], bufferClosed := false, state := .idle }

def send (p : Protocol) (event : Event) : Except Exn (Bytes × Protocol) :=
  match event with
  | .command c =>
      if !p.inSync && c.type ≠ .getSync then
        .error (.localProtocolError "need to send GET_SYNC before sending more commands")
      else
        match c.toBytes with
        | .error e => .error e
        | .ok result => .ok (result, p.startWaitingForResponse c.responseLength)
  | event => .error (.localProtocolError ("event cannot be sent: " ++ event.repr))

def sendFailed (p : Protocol) : Protocol := { p with state := .error }

/-! ## `nextEvent` -/

/-- The result of `nextEvent` and the state it leaves behind. -/
abbrev Step := Except Exn (Option Event) × Protocol

/-- The end of a block: the function has returned, or control falls to the next block. -/
inductive Flow where
  | returned (step : Step)
  | fallsThrough (p : Protocol)

def waitResponseLengthBlock (p : Protocol) : Flow :=
  if p.state = .waitResponseLength then
    if p.bytesExpected = 0 then .returned (.error .assertionError, p)
    else if p.buffer.length < p.bytesExpected then .returned (.ok (some .needMoreData), p)
    else
      let length := LittleEndian.decode (p.buffer.take 4)
      .fallsThrough
        ({ p with buffer := p.buffer.drop p.bytesExpected }.startWaitingForResponse length)
  else .fallsThrough p

def waitResponseBlock (p : Protocol) : Flow :=
  if p.state = .waitResponse then
    if p.bytesExpected = 0 then .returned (.error .assertionError, p)
    else if p.buffer.length < p.bytesExpected then .returned (.ok (some .needMoreData), p)
    else
      .fallsThrough { p with
        payload := p.buffer.take p.bytesExpected
        buffer := p.buffer.drop p.bytesExpected }.startWaitingForSync
  else .fallsThrough p

def acceptedStatus : List UInt8 := [OpCode.ok.toByte, OpCode.failed.toByte, OpCode.invalid.toByte]

/-- The part of the last block that has found the sync byte at the front of the buffer. -/
def readStatus (p : Protocol) : Step :=
  match p.buffer[1]? with
  | none => (.ok (some .needMoreData), p)
  | some response =>
      if response ∉ acceptedStatus then
        let (event, p) := p.purgeExcessData (some 2)
        (.ok event, p)
      else
        let payload := p.payload
        let p := { p with buffer := p.buffer.drop 2 }.moveToInSyncState
        match Response.fromOpcode response payload with
        | .ok r => (.ok (some (.response r)), p)
        | .error e => (.error e, p)

def waitSyncBlock (p : Protocol) : Step :=
  if p.state = .waitSync then
    if p.bytesExpected = 0 then (.error .assertionError, p)
    else if p.buffer = [] then (.ok (some .needMoreData), p)
    else
      match p.buffer.findIdx? (· == OpCode.inSync.toByte) with
      | some (n + 1) =>
          let (event, p) := p.purgeExcessData (some (n + 1))
          (.ok event, p)
      | none =>
          let (event, p) := p.purgeExcessData none
          (.ok (event <|> some .needMoreData), p)
      | some 0 => p.readStatus
  else
    let (event, p) := p.purgeExcessData none
    (.ok event, p)

def nextEvent (p : Protocol) : Step :=
  if p.buffer = [] ∧ p.bufferClosed then (.ok (some .connectionClosed), p)
  else
    match p.waitResponseLengthBlock with
    | .returned step => step
    | .fallsThrough p =>
        match p.waitResponseBlock with
        | .returned step => step
        | .fallsThrough p => p.waitSyncBlock

/-! ## Reachable states -/

inductive Op where
  | feed (data : Bytes)
  | nextEvent
  | send (event : Event)
  | sendFailed
  | reset

/-- The state an operation leaves, which is the old one when it raises before it assigns. -/
def apply (p : Protocol) : Op → Protocol
  | .feed data => match p.feed data with | .ok p' => p' | .error _ => p
  | .nextEvent => p.nextEvent.2
  | .send event => match p.send event with | .ok (_, p') => p' | .error _ => p
  | .sendFailed => p.sendFailed
  | .reset => p.reset

inductive Reachable : Protocol → Prop where
  | new : Reachable new
  | apply {p : Protocol} (op : Op) : Reachable p → Reachable (p.apply op)

end Protocol

end ApUploader
