import ApUploader.Connection.Operations
import ApUploader.Firmware
import Mathlib.Data.Rat.Defs

/-! # The upload coroutine

`uploadFirmware` follows the coroutine of the uploader over a bootloader
connection. Its local variables that outlive a statement and the events it
reports are the client state of the connection. Progress is an exact fraction
where the source rounds to a floating-point number.
-/

namespace ApUploader

open Effect

inductive UploadStep where
  | connecting | erasing | uploading | verifying | rebooting | finished
  deriving DecidableEq, Repr

inductive LifecycleType where
  | started | timeout | finished
  deriving DecidableEq, Repr

inductive UploaderEvent where
  | lifecycle (type : LifecycleType) (success cancelled retrying : Option Bool)
  | step (step : UploadStep)
  | progress (progress : ℚ)
  | crcMismatch (expected observed : Nat)
  deriving DecidableEq

/-- The variables of one upload and the calls of its callbacks. -/
structure UploadTask where
  events : List UploaderEvent := []
  success : Bool := false
  cancelled : Bool := false
  retrying : Bool := false
  /-- The failures announced through `on_expected_failure`. -/
  expectedFailures : Nat := 0
  flashSize : Option Nat := none
  observedCrc : Option Nat := none

/-- What an upload awaits besides the operations of the connection. -/
structure Session (σ : Type) extends Runtime σ where
  createTransport : σ → Completion × σ
  enter : σ → Completion × σ
  exit : σ → Completion × σ
  /-- What the task that fakes the progress of the erasure reports while the erasure runs. -/
  eraseProgress : σ → List ℚ

/-! ## The upload loop -/

section UploadLoop

variable {ω : Type}

/-- `image[write_pointer : write_pointer + PROG_MULTI_MAX_PAYLOAD_LENGTH]`. -/
def chunkAt (image : Bytes) (writePointer : Nat) : Bytes :=
  (image.drop writePointer).take progMultiMaxPayloadLength

/-- The write pointer of the next chunk, fetched from the device when it is not known. -/
def locate (blRev : Nat) (getWritePointer : Proc Exn ω Nat) : Option Nat → Proc Exn ω Nat
  | some writePointer => pure writePointer
  | none =>
      if 6 ≤ blRev then getWritePointer
      else Proc.raise (.runtimeError
        "acknowledgment of PROG_WRITE command lost, bootloader may be out of sync now")

/-- Whether a chunk was acknowledged; only a timeout says that it was not. -/
def acknowledged (program : Proc Exn ω Unit) : Proc Exn ω Bool :=
  let attempt : Proc Exn ω Bool := do
    program
    pure true
  attempt.catching fun error => if error = .timeoutError then some (pure false) else none

/-- `write_pointer is None or write_pointer < total_bytes`. -/
def unfinished (image : Bytes) : Option Nat → Bool
  | none => true
  | some writePointer => writePointer < image.length

def uploadPass (image : Bytes) (blRev : Nat) (programBytes : Bytes → Proc Exn ω Unit)
    (getWritePointer : Proc Exn ω Nat) (onProgress : ℚ → Proc Exn ω Unit)
    (writePointer : Option Nat) : Proc Exn ω (Option Nat ⊕ Unit) :=
  if unfinished image writePointer then do
    let pointer ← locate blRev getWritePointer writePointer
    let chunk := chunkAt image pointer
    let known ← acknowledged (programBytes chunk)
    if known then do
      onProgress ((pointer + chunk.length : Nat) / (image.length : ℚ))
      pure (.inl (some (pointer + chunk.length)))
    else pure (.inl none)
  else pure (.inr ())

def uploadLoop (image : Bytes) (blRev : Nat) (programBytes : Bytes → Proc Exn ω Unit)
    (getWritePointer : Proc Exn ω Nat) (onProgress : ℚ → Proc Exn ω Unit) (fuel : Nat) :
    Proc Exn ω Unit :=
  Proc.loop (uploadPass image blRev programBytes getWritePointer onProgress) fuel (some 0)

end UploadLoop

/-! ## The coroutine -/

namespace Uploader

open BootloaderConnection

variable {σ : Type}

abbrev Upload (σ α : Type) : Type := Coroutine σ UploadTask α

def update (f : UploadTask → UploadTask) : Upload σ Unit :=
  Proc.modify (fun w => { w with client := f w.client })

def onEvent (event : UploaderEvent) : Upload σ Unit :=
  update (fun task => { task with events := task.events ++ [event] })

def onRebooted (task : UploadTask) : UploadTask :=
  { task with retrying := true, expectedFailures := task.expectedFailures + 3 }

/-- The task group around the erasure: a failed task fails the group. -/
def eraseInTaskGroup (S : Session σ) (fuel : Nat) : Upload σ Unit := do
  let w ← Proc.get
  let ticks := S.eraseProgress w.link.transport
  update (fun task => { task with events := task.events ++ ticks.map .progress })
  (eraseFlashMemory S.toRuntime fuel).catching fun error =>
    if error.isException then some (Proc.raise (.exceptionGroup error)) else none
  awaiting S.checkpoint

def verify (S : Session σ) (fuel : Nat) (firmware : Firmware) (flashSize : Nat) :
    Upload σ Unit := do
  let padding ← ofExcept (firmware.paddingLength flashSize)
  awaiting S.checkpoint
  let expectedCrc := crc32 (List.replicate padding 255) firmware.crc
  let observedCrc ← getFlashMemoryCrc S.toRuntime fuel
  update (fun task => { task with observedCrc := some observedCrc })
  if expectedCrc ≠ observedCrc then onEvent (.crcMismatch expectedCrc observedCrc) else pure ()

/-- The steps up to the erased memory: flash size and bootloader revision. -/
def prepare (S : Session σ) (fuel : Nat) : Upload σ (Nat × Nat) := do
  ensureInBootloader S.toRuntime fuel onRebooted
  let flashSize ← getFlashMemorySize S.toRuntime fuel
  update (fun task => { task with flashSize := some flashSize })
  let blRev ← getBootloaderRevision S.toRuntime fuel
  if blRev < 4 then
    Proc.raise (.notSupportedError ("Bootloader version " ++ toString blRev ++ " not supported"))
  else do
    let _ ← getBoardId S.toRuntime fuel
    let _ ← getBoardRevision S.toRuntime fuel
    let _ ← getSerialNumber S.toRuntime fuel
    onEvent (.step .erasing)
    eraseInTaskGroup S fuel
    pure (flashSize, blRev)

/-- The body of `async with BootloaderConnection(transport)`. -/
def upload (S : Session σ) (fuel : Nat) (firmware : Firmware) : Upload σ Unit := do
  let (flashSize, blRev) ← prepare S fuel
  onEvent (.step .uploading)
  uploadLoop firmware.image blRev (programBytes S.toRuntime fuel)
    (getWritePointer S.toRuntime fuel) (fun progress => onEvent (.progress progress)) fuel
  onEvent (.step .verifying)
  verify S fuel firmware flashSize
  onEvent (.step .rebooting)
  reboot S.toRuntime fuel false
  onEvent (.step .finished)
  update (fun task => { task with success := true })

def connectAndUpload (S : Session σ) (fuel : Nat) (firmware : Firmware) : Upload σ Unit := do
  awaiting S.createTransport
  Proc.modify (fun w => { w with
    link := { protocol := .new, transport := w.link.transport }
    locked := false
    mode := .unknown })
  awaiting S.enter
  (upload S fuel firmware).ensuring (awaiting S.exit)

/-- The `finally` clause of the upload. -/
def reportFinished : Upload σ Unit := do
  let w ← Proc.get
  onEvent (.lifecycle .finished (some w.client.success) (some w.client.cancelled)
    (some w.client.retrying))

def uploadFirmware (S : Session σ) (fuel : Nat) (firmware : Option Firmware)
    (expectingFailure : Bool) : Upload σ Unit :=
  match firmware with
  | none => Proc.raise (.runtimeError "firmware is not loaded yet")
  | some firmware => do
      onEvent (.lifecycle .started none none none)
      onEvent (.step .connecting)
      update (fun task => { task with
        success := false, cancelled := false, retrying := expectingFailure })
      let attempt := (connectAndUpload S fuel firmware).catching fun error =>
        match error with
        | .cancelled => some do
            update (fun task => { task with cancelled := true })
            Proc.raise .cancelled
        | .timeoutError => some do
            onEvent (.lifecycle .timeout none none none)
            Proc.raise .timeoutError
        | _ => none
      attempt.ensuring reportFinished

end Uploader

end ApUploader
