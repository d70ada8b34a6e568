import ApUploader.Connection.Operations
import ApUploader.Mavlink.Parser

/-! # Connections to the main firmware

The operations that speak MAVLink, and all public operations in one list. The
MAVLink object belongs to the state of the caller here. How the lock is taken is a
parameter of the list, so that an observer can be put beside it.
-/

namespace ApUploader

open Effect

/-- What a connection keeps besides the link: its caller, the MAVLink object, and an observation. -/
structure Owner (κ : Type) where
  caller : κ
  systemId : Nat := 254
  mavlink : Option MAVLink := none
  /-- The lock has been asked for while it was held. -/
  reacquired : Bool := false

def MAV_CMD_FLASH_BOOTLOADER : Int := 42650

def MavlinkExn.toExn : MavlinkExn → Exn
  | .mavError _ => .transportError "MAVError"
  | .structError => .transportError "struct.error"
  | .typeError _ => .typeError
  | .indexError => .indexError
  | .unboundLocalError => .transportError "UnboundLocalError"
  | .notImplementedError _ => .transportError "NotImplementedError"

namespace BootloaderConnection

variable {σ κ α : Type}

abbrev Owned (σ κ α : Type) : Type := Coroutine σ (Owner κ) α

/-- `async with self._lock`, as it is carried out. -/
abbrev Locking (σ κ : Type) : Type 1 := (α : Type) → Owned σ κ α → Owned σ κ α

def getMavlink : Owned σ κ MAVLink := do
  let w ← Proc.get
  match w.client.mavlink with
  | some mavlink => pure mavlink
  | none => do
      let mavlink := MAVLink.new w.client.systemId 190
      Proc.modify fun w => { w with client.mavlink := some mavlink }
      pure mavlink

def setMavlink (mavlink : MAVLink) : Owned σ κ Unit :=
  Proc.modify fun w => { w with client.mavlink := some mavlink }

/-- `await self._transport.receive()` outside the command loop, under the given deadline. -/
def transportReceive (R : Runtime σ) (timeout : Nat) : Owned σ κ Bytes := fun w =>
  match R.receive timeout w.link.transport with
  | (.ended (.ok data), s) => (.ok data, { w with link.transport := s })
  | (.ended (.error error), s) => (.raised error, { w with link.transport := s })
  | (.never, s) => (.running, { w with link.transport := s })

section

variable (sha256 : Bytes → Bytes)

/-- `parse_buffer` on the MAVLink object of the connection. -/
def parseReceived (fuel : Nat) (data : Bytes) : Owned σ κ (List MAVLinkMessage) := do
  let mavlink ← getMavlink
  match mavlink.parseBuffer sha256 fuel data with
  | none => fun w => (.running, w)
  | some (result, mavlink) => do
      setMavlink mavlink
      match result with
      | .error error => Proc.raise error.toExn
      | .ok messages => pure (messages.getD [])

def heartbeatPass (R : Runtime σ) (fuel timeout : Nat) (_ : Unit) :
    Owned σ κ (Unit ⊕ MAVLinkMessage) := do
  let data ← transportReceive R timeout
  let messages ← parseReceived sha256 fuel data
  match messages.find? MAVLink.isHeartbeat with
  | some message => pure (.inr message)
  | none => pure (.inl ())

def waitForHeartbeat (R : Runtime σ) (fuel timeout : Nat) : Owned σ κ MAVLinkMessage := do
  let _ ← getMavlink
  Proc.loop (heartbeatPass sha256 R fuel timeout) fuel ()

/-- All messages sent have ids below 256, which forces version 1. -/
def sendMavlinkMessage (R : Runtime σ) (body : MessageBody) : Owned σ κ Unit := do
  let mavlink ← getMavlink
  match mavlink.encode sha256 body true with
  | .error error => Proc.raise error.toExn
  | .ok (data, mavlink) => do
      setMavlink mavlink
      transportSend R data

def flashBootloader (R : Runtime σ) : Owned σ κ Unit :=
  sendMavlinkMessage sha256 R (.commandLong {
    targetSystem := 0
    targetComponent := 1
    command := MAV_CMD_FLASH_BOOTLOADER
    -- the magic number 290876
    param5 := 0x488E0780 })

def resetToFactoryDefaults (R : Runtime σ) : Owned σ κ Unit :=
  sendMavlinkMessage sha256 R (.paramSet {
    targetSystem := 0
    targetComponent := 1
    -- `FORMAT_VERSION`
    paramIdRaw := [70, 79, 82, 77, 65, 84, 95, 86, 69, 82, 83, 73, 79, 78]
    paramValue := 0
    paramType := 0 })

end

/-! ## The public operations -/

inductive Operation (κ : Type) where
  | ensureInBootloader (onRebooted : κ → κ)
  | ensureInMavlink (onRebooted : κ → κ) (timeout : Nat)
  | eraseFlashMemory
  | getDeviceInfo (item : DeviceInfoItem)
  | getChipDescription
  | getFlashMemoryCrc
  | getSerialNumber
  | getWritePointer
  | programBytes (data : Bytes)
  | reboot (toBootloader : Bool)
  | flashBootloader
  | resetToFactoryDefaults

namespace Operation

def getBoardId : Operation κ := .getDeviceInfo .boardId

def getBoardRevision : Operation κ := .getDeviceInfo .boardRev

def getBootloaderRevision : Operation κ := .getDeviceInfo .blRev

def getFlashMemorySize : Operation κ := .getDeviceInfo .flashSize

end Operation

section

variable (sha256 : Bytes → Bytes) (R : Runtime σ) (lock : Locking σ κ) (fuel : Nat)

/-- `_process_command`. -/
def lockedCommand (call : Call) : Owned σ κ Bytes := lock Bytes (inner R fuel call)

def onCaller (f : κ → κ) : Owned σ κ Unit :=
  Proc.modify fun w => { w with client.caller := f w.client.caller }

def lockedSerialNumberWord (address : Nat) : Owned σ κ Bytes := do
  let command ← ofExcept (Command.readWordFromSerialNumberArea address)
  let word ← lockedCommand R lock fuel { command := command }
  pure word.reverse

/-- `ensure_in_bootloader`. -/
def lockedEnsureInBootloader (onRebooted : κ → κ) : Owned σ κ Unit := do
  lock Unit do
    let probe : Owned σ κ Unit := do
      let _ ← inner R fuel
        { command := .getDeviceInfo .boardId, maxRetries := 1, timeout := some 50 }
    probe.catching fun error =>
      if error = .timeoutError ∨ error = .excessDataError then some do
        sendMavlinkRebootCommand R true
        onCaller onRebooted
        let _ ← inner R fuel
          { command := .getDeviceInfo .boardId, maxRetries := 5, timeout := some 500 }
      else none
  Proc.modify fun w => { w with mode := .bootloader }

/-- What `ensure_in_mavlink` does with the lock: without a heartbeat it asks the bootloader to boot
the main firmware, with a command that takes the lock for itself. -/
def heartbeatOrReboot (onRebooted : κ → κ) (timeout : Nat) : Owned σ κ Unit :=
  let wait : Owned σ κ Unit := do
    let _ ← waitForHeartbeat sha256 R fuel timeout
  wait.catching fun error =>
    if error = .timeoutError ∨ error = .excessDataError then some do
      let _ ← lockedCommand R lock fuel { command := .reboot }
      onCaller onRebooted
    else none

def lockedEnsureInMavlink (onRebooted : κ → κ) (timeout : Nat) : Owned σ κ Unit := do
  lock Unit (heartbeatOrReboot sha256 R lock fuel onRebooted timeout)
  Proc.modify fun w => { w with mode := .mavlink }

def lockedReboot (toBootloader : Bool) : Owned σ κ Unit := do
  let w ← Proc.get
  match w.mode with
  | .mavlink => sendMavlinkRebootCommand R toBootloader
  | .bootloader =>
      if toBootloader then
        Proc.raise (.runtimeError "cannot reboot to bootloader when already in bootloader")
      else do
        let _ ← lockedCommand R lock fuel { command := .reboot }
  | .unknown => Proc.raise (.runtimeError "unknown mode, cannot reboot")

/-- The operations, without what they return. -/
def perform : Operation κ → Owned σ κ Unit
  | .ensureInBootloader onRebooted => lockedEnsureInBootloader R lock fuel onRebooted
  | .ensureInMavlink onRebooted timeout =>
      lockedEnsureInMavlink sha256 R lock fuel onRebooted timeout
  | .eraseFlashMemory => do
      let _ ← lockedCommand R lock fuel { command := .eraseFlashMemory }
  | .getDeviceInfo item => do
      let _ ← lockedCommand R lock fuel { command := .getDeviceInfo item }
  | .getChipDescription => do
      let _ ← lockedCommand R lock fuel { command := .getChipDescription }
  | .getFlashMemoryCrc => do
      let _ ← lockedCommand R lock fuel { command := .getCrc }
  | .getSerialNumber => do
      let _ ← lockedSerialNumberWord R lock fuel 0
      let _ ← lockedSerialNumberWord R lock fuel 4
      let _ ← lockedSerialNumberWord R lock fuel 8
  | .getWritePointer => do
      let _ ← lockedCommand R lock fuel { command := .getWritePointer }
  | .programBytes data => do
      let command ← ofExcept (Command.programBytes data)
      let _ ← lockedCommand R lock fuel { command := command, maxRetries := 0 }
  | .reboot toBootloader => lockedReboot R lock fuel toBootloader
  | .flashBootloader => flashBootloader sha256 R
  | .resetToFactoryDefaults => resetToFactoryDefaults sha256 R

end

end BootloaderConnection

end ApUploader
