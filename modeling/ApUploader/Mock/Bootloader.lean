import ApUploader.Logic.Proc
import ApUploader.Protocol.Messages
import ApUploader.Utils
import Mathlib.Data.Rat.Defs

/-! # The mock bootloader

The device the uploader is tested against: a command parser over a byte stream,
the command handlers and a flash memory whose write pointer wraps around. What
reaches the device is a list of arrivals; a read that finds none is still waiting.
-/

namespace ApUploader

open Effect

structure MockBootloader where
  buffer : Bytes := []
  dropNextResponse : Bool := false
  flashMemory : Bytes
  flashMemoryWritePtr : Nat := 0
  serialNumber : Bytes :=
    [0xc0, 0xff, 0xee, 0x00, 0xde, 0xad, 0xbe, 0xef, 0x00, 0xc0, 0xff, 0xee]
  shouldExit : Bool := false
  simulateDesync : Bool := false
  /-- The numbers `random()` returns, in order, and how many of them have been drawn. -/
  random : Nat → ℚ := fun _ => 1 / 2
  drawn : Nat := 0

inductive Arrival where
  | chunk (data : Bytes)
  /-- Nothing arrives before the deadline of the current read, if it has one. -/
  | silence

structure MockLink where
  device : MockBootloader
  arrivals : List Arrival
  replies : Bytes := []

namespace MockBootloader

def chipDescription : Bytes :=
  [0x53, 0x54, 0x4d, 0x33, 0x32, 0x46, 0x37, 0x2c, 0x6d, 0x6f, 0x63, 0x6b]

def nextRandom : Proc Exn MockBootloader ℚ := do
  let d ← Proc.get
  Proc.modify (fun d => { d with drawn := d.drawn + 1 })
  pure (d.random d.drawn)

/-- Write at the write pointer and advance it, around the end of the memory if need be. The first
argument bounds the depth of the recursion. -/
def writeToFlashMemory : Nat → Bytes → Proc Exn MockBootloader Unit
  | 0, _ => Proc.raise .recursionError
  | depth + 1, data =>
      if data = [] then pure ()
      else do
        let d ← Proc.get
        let start := d.flashMemoryWritePtr
        let stop := start + data.length
        if stop ≤ d.flashMemory.length then
          Proc.modify (fun d => { d with
            flashMemory := d.flashMemory.take start ++ data ++ d.flashMemory.drop stop
            flashMemoryWritePtr := stop })
          if d.simulateDesync ∧ 4096 ≤ stop then
            let p ← nextRandom
            if p < 1 / 100 then Proc.raise .simulatedPacketLossError
            else if p < 2 / 100 then Proc.raise .simulatedPacketDelayError
            else pure ()
          else pure ()
        else
          let excess := stop - d.flashMemory.length
          writeToFlashMemory depth (data.take (data.length - excess))
          Proc.modify (fun d => { d with flashMemoryWritePtr := 0 })
          writeToFlashMemory depth (data.drop (data.length - excess))

/-- On a memory that is not empty every second call of the recursion takes a byte, so deeper
recursion than this has no end. -/
def recursionLimit (data : Bytes) : Nat := 2 * data.length + 2

def ofExcept {α : Type} : Except Exn α → Proc Exn MockBootloader α
  | .ok value => pure value
  | .error error => Proc.raise error

def deviceInfo (d : MockBootloader) : DeviceInfoItem → Nat
  | .blRev => if d.simulateDesync then 6 else 5
  | .boardId => 9
  | .boardRev => 0
  | .flashSize => d.flashMemory.length

/-- The word of the serial number at an address, padded with zeros and reversed. -/
def serialNumberWord (d : MockBootloader) (address : Nat) : Bytes :=
  let word := (d.serialNumber.drop address).take 4
  (word ++ List.replicate (4 - word.length) 0).reverse

def handleCommand (command : Command) : Proc Exn MockBootloader Bytes := do
  let d ← Proc.get
  match command.type with
  | .getSync => pure []
  | .getDevice =>
      match command.args with
      | [] => Proc.raise .indexError
      | code :: _ =>
          match DeviceInfoItem.ofByte? code with
          | none => Proc.raise .valueError
          | some item => ofExcept (toBytesLittle 4 (d.deviceInfo item))
  | .getChip => pure [0x09]
  | .getChipDes => do
      let length ← ofExcept (toBytesLittle 4 chipDescription.length)
      pure (length ++ chipDescription)
  | .getOtp => pure [0xff, 0xff, 0xff, 0xff]
  | .getSn =>
      if command.args.length ≠ 4 then Proc.raise .invalidCommandError
      else pure (d.serialNumberWord (LittleEndian.decode command.args))
  | .chipErase => do
      Proc.modify (fun d => { d with
        flashMemory := List.replicate d.flashMemory.length 0xff
        flashMemoryWritePtr := 0 })
      pure []
  | .progMulti => do
      writeToFlashMemory (recursionLimit command.args) command.args
      pure []
  | .getCrc => ofExcept (toBytesLittle 4 (crc32 d.flashMemory 0))
  | .getWritePtr => ofExcept (toBytesLittle 4 d.flashMemoryWritePtr)
  | .reboot => do
      Proc.modify (fun d => { d with shouldExit := true })
      pure []
  | _ => Proc.raise .invalidCommandError

/-! ## Reading commands -/

def readFrom (length : Nat) (deadline : Bool) : List Arrival → Bytes →
    Outcome Exn Bytes × Bytes × List Arrival
  | [], buffer =>
      if buffer.length < length then (.running, buffer, [])
      else (.ok (buffer.take length), buffer.drop length, [])
  | arrival :: rest, buffer =>
      if buffer.length < length then
        match arrival with
        | .chunk data => readFrom length deadline rest (buffer ++ data)
        | .silence =>
            if deadline then (.raised .timeoutError, buffer, rest)
            else readFrom length deadline rest buffer
      else (.ok (buffer.take length), buffer.drop length, arrival :: rest)

def readExactly (length : Nat) (deadline : Bool) : Proc Exn MockLink Bytes := fun w =>
  let (outcome, buffer, arrivals) := readFrom length deadline w.arrivals w.device.buffer
  (outcome, { w with device.buffer := buffer, arrivals := arrivals })

def readByte (deadline : Bool) : Proc Exn MockLink UInt8 := do
  let data ← readExactly 1 deadline
  pure (data.headD 0)

def readEoc : Proc Exn MockLink Unit := do
  let nextByte ← readByte true
  if nextByte ≠ OpCode.eoc.toByte then Proc.raise .invalidCommandError else pure ()

/-- The number of argument bytes, read from the wire for commands of variable length. -/
def receiveLength (opcode : OpCode) : Proc Exn MockLink Nat :=
  let partialCommand : Command := { type := opcode }
  if partialCommand.payloadLength < 0 then do
    let length ← readByte true
    pure length.toNat
  else pure partialCommand.payloadLength.toNat

def receivePayload (length : Nat) : Proc Exn MockLink Bytes :=
  if 0 < length then readExactly length true else pure []

def receiveArguments (opcode : OpCode) : Proc Exn MockLink Command := do
  let payloadLength ← receiveLength opcode
  let payload ← receivePayload payloadLength
  readEoc
  pure ⟨opcode, payload⟩

/-- One pass of the loop that looks for a command: bytes that are no command opcodes are skipped. -/
def receivePass (_ : Unit) : Proc Exn MockLink (Unit ⊕ Command) := do
  let commandByte ← readByte false
  match OpCode.ofByte? commandByte with
  | none => pure (.inl ())
  | some opcode =>
      if opcode.toByte ≤ OpCode.eoc.toByte then pure (.inl ())
      else do
        let command ← receiveArguments opcode
        pure (.inr command)

def receiveNextCommand (fuel : Nat) : Proc Exn MockLink Command := Proc.loop receivePass fuel ()

/-! ## The main loop -/

def onDevice {α : Type} (m : Proc Exn MockBootloader α) : Proc Exn MockLink α :=
  m.zoom MockLink.device (fun d w => { w with device := d })

/-- The response to a received command; `none` when it is lost on its way. -/
def respondTo (command : Command) : Proc Exn MockLink (Option Response) :=
  let handled : Proc Exn MockLink (Option Response) := do
    let payload ← onDevice (handleCommand command)
    pure (some (.success payload))
  handled.catching fun error =>
    match error with
    | .invalidCommandError => some (pure (some .invalid))
    | .simulatedPacketLossError => some (pure none)
    -- the reply is 0.6 seconds late, which shows in how long it is under way
    | .simulatedPacketDelayError => some (pure (some (.success [])))
    | error => if error.isException then some (pure (some .failure)) else none

def nextResponse (fuel : Nat) : Proc Exn MockLink (Option Response) := do
  let received : Proc Exn MockLink (Option Command) := do
    let command ← receiveNextCommand fuel
    pure (some command)
  let command ← received.catching fun error =>
    if error = .invalidCommandError ∨ error = .timeoutError then some (pure none) else none
  match command with
  | none => pure (some .invalid)
  | some command => respondTo command

def runPass (fuel : Nat) (_ : Unit) : Proc Exn MockLink (Unit ⊕ Unit) := do
  let w ← Proc.get
  if w.device.shouldExit then pure (.inr ())
  else do
    let response ← nextResponse fuel
    let w ← Proc.get
    if w.device.dropNextResponse then
      Proc.modify (fun w => { w with device.dropNextResponse := false })
    else
      match response with
      | none => pure ()
      | some r => Proc.modify (fun w => { w with replies := w.replies ++ r.toBytes })
    pure (.inl ())

def run (fuel : Nat) : Proc Exn MockLink Unit := Proc.loop (runPass fuel) fuel ()

/-- What a waiting device does with a message: its reply, and the state it waits in afterwards. -/
def respond (raw : Bytes) (d : MockBootloader) : Bytes × MockBootloader :=
  let w := (run (raw.length + 2) ⟨d, [.chunk raw], []⟩).2
  (w.replies, w.device)

end MockBootloader

end ApUploader
