import ApUploader.Connection.Loop

/-! # The operations of a bootloader connection

The public coroutines of `BootloaderConnection`, over the command loop. `client`
is the state the caller's callbacks act on. Awaits other than the transport's own
calls, such as acquiring the lock, are checkpoints at which the runtime may
cancel the task.
-/

namespace ApUploader

open Effect

/-- What a connection needs from outside: a transport, the checkpoints of the event loop, and the
packet that `MAVLink.encode` builds for a reboot command. -/
structure Runtime (σ : Type) extends Transport σ where
  checkpoint : σ → Completion × σ
  mavlinkReboot : Bytes

inductive Mode where
  | bootloader | mavlink | unknown
  deriving DecidableEq, Repr

structure BootloaderConnection (σ κ : Type) where
  link : Link σ
  locked : Bool := false
  mode : Mode := .unknown
  client : κ

namespace BootloaderConnection

variable {σ κ α : Type}

abbrev Coroutine (σ κ α : Type) : Type := Proc Exn (BootloaderConnection σ κ) α

def ofExcept : Except Exn α → Coroutine σ κ α
  | .ok value => pure value
  | .error error => Proc.raise error

/-- Await one of the calls that return nothing. -/
def awaiting (action : σ → Completion × σ) : Coroutine σ κ Unit := fun w =>
  match action w.link.transport with
  | (.done, s) => (.ok (), { w with link.transport := s })
  | (.raised error, s) => (.raised error, { w with link.transport := s })

/-- `async with self._lock`: the lock is not reentrant. -/
def withLock (R : Runtime σ) (body : Coroutine σ κ α) : Coroutine σ κ α := do
  let w ← Proc.get
  if w.locked then Proc.raise (.runtimeError "Attempted to acquire an already held Lock")
  else
    awaiting R.checkpoint
    Proc.modify (fun w => { w with locked := true })
    body.ensuring (Proc.modify (fun w => { w with locked := false }))

def inner (R : Runtime σ) (fuel : Nat) (call : Call) : Coroutine σ κ Bytes :=
  (processCommandInner R.toTransport call fuel).zoom link (fun link w => { w with link := link })

def processCommand (R : Runtime σ) (fuel : Nat) (call : Call) : Coroutine σ κ Bytes :=
  withLock R (inner R fuel call)

/-- `await self._transport.send(raw)` outside the command loop. -/
def transportSend (R : Runtime σ) (raw : Bytes) : Coroutine σ κ Unit := fun w =>
  let (completion, s) := R.send raw w.link.transport
  let w := { w with
    link.transport := s
    link.trace := w.link.trace ++ [.direct raw completion] }
  match completion with
  | .done => (.ok (), w)
  | .raised error => (.raised error, w)

/-- The pre-generated MAVLink packet that asks the main firmware to reboot to the bootloader. -/
def rebootToBootloaderPacket : Bytes :=
  [0xfe, 0x21, 0x45, 0xff, 0x00, 0x4c, 0x00, 0x00, 0x40, 0x40, 0x00, 0x00, 0x00, 0x00,
    0x00, 0x00, 0x00, 0x00, 0x00, 0x00, 0x00, 0x00, 0x00, 0x00, 0x00, 0x00, 0x00, 0x00, 0x00,
    0x00, 0x00, 0x00, 0x00, 0x00, 0xf6, 0x00, 0x00, 0x00, 0x00, 0xcc, 0x37]

def sendMavlinkRebootCommand (R : Runtime σ) (toBootloader : Bool) : Coroutine σ κ Unit :=
  if toBootloader then transportSend R rebootToBootloaderPacket
  else transportSend R R.mavlinkReboot

def ensureInBootloader (R : Runtime σ) (fuel : Nat) (onRebooted : κ → κ) :
    Coroutine σ κ Unit := do
  withLock R do
    let probe : Coroutine σ κ Unit := do
      let _ ← inner R fuel
        { command := .getDeviceInfo .boardId, maxRetries := 1, timeout := some 50 }
    probe.catching fun error =>
      if error = .timeoutError ∨ error = .excessDataError then some do
        sendMavlinkRebootCommand R true
        Proc.modify (fun w => { w with client := onRebooted w.client })
        let _ ← inner R fuel
          { command := .getDeviceInfo .boardId, maxRetries := 5, timeout := some 500 }
      else none
  Proc.modify (fun w => { w with mode := .bootloader })

def eraseFlashMemory (R : Runtime σ) (fuel : Nat) : Coroutine σ κ Unit := do
  let _ ← processCommand R fuel { command := .eraseFlashMemory }

def getDeviceInfo (R : Runtime σ) (fuel : Nat) (item : DeviceInfoItem) : Coroutine σ κ Nat := do
  let response ← processCommand R fuel { command := .getDeviceInfo item }
  pure (LittleEndian.decode response)

def getBoardId (R : Runtime σ) (fuel : Nat) : Coroutine σ κ Nat := getDeviceInfo R fuel .boardId

def getBoardRevision (R : Runtime σ) (fuel : Nat) : Coroutine σ κ Nat :=
  getDeviceInfo R fuel .boardRev

def getBootloaderRevision (R : Runtime σ) (fuel : Nat) : Coroutine σ κ Nat :=
  getDeviceInfo R fuel .blRev

def getFlashMemorySize (R : Runtime σ) (fuel : Nat) : Coroutine σ κ Nat :=
  getDeviceInfo R fuel .flashSize

def getChipDescription (R : Runtime σ) (fuel : Nat) : Coroutine σ κ Bytes :=
  processCommand R fuel { command := .getChipDescription }

def getFlashMemoryCrc (R : Runtime σ) (fuel : Nat) : Coroutine σ κ Nat := do
  let crc ← processCommand R fuel { command := .getCrc }
  pure (LittleEndian.decode crc)

/-- One word of the serial number, in the order the result lists its bytes. -/
def getSerialNumberWord (R : Runtime σ) (fuel address : Nat) : Coroutine σ κ Bytes := do
  let command ← ofExcept (Command.readWordFromSerialNumberArea address)
  let word ← processCommand R fuel { command := command }
  pure word.reverse

def getSerialNumber (R : Runtime σ) (fuel : Nat) : Coroutine σ κ Bytes := do
  let first ← getSerialNumberWord R fuel 0
  let second ← getSerialNumberWord R fuel 4
  let third ← getSerialNumberWord R fuel 8
  pure (first ++ second ++ third)

def getWritePointer (R : Runtime σ) (fuel : Nat) : Coroutine σ κ Nat := do
  let writePtr ← processCommand R fuel { command := .getWritePointer }
  pure (LittleEndian.decode writePtr)

/-- No retries: a lost acknowledgment does not say whether the write took place. -/
def programBytes (R : Runtime σ) (fuel : Nat) (data : Bytes) : Coroutine σ κ Unit := do
  let command ← ofExcept (Command.programBytes data)
  let _ ← processCommand R fuel { command := command, maxRetries := 0 }

def sendBootloaderRebootCommand (R : Runtime σ) (fuel : Nat) : Coroutine σ κ Unit := do
  let _ ← processCommand R fuel { command := .reboot }

def reboot (R : Runtime σ) (fuel : Nat) (toBootloader : Bool) : Coroutine σ κ Unit := do
  let w ← Proc.get
  match w.mode with
  | .mavlink => sendMavlinkRebootCommand R toBootloader
  | .bootloader =>
      if toBootloader then
        Proc.raise (.runtimeError "cannot reboot to bootloader when already in bootloader")
      else sendBootloaderRebootCommand R fuel
  | .unknown => Proc.raise (.runtimeError "unknown mode, cannot reboot")

/-! ## Rules -/

@[simp] theorem wp_ofExcept (result : Except Exn α) (post : Post Exn (BootloaderConnection σ κ) α)
    (w : BootloaderConnection σ κ) :
    wp (ofExcept result) post w ↔
      match result with
      | .ok value => post.ok value w
      | .error error => post.raised error w := by
  cases result <;> exact Iff.rfl

@[simp] theorem wp_awaiting (action : σ → Completion × σ)
    (post : Post Exn (BootloaderConnection σ κ) Unit) (w : BootloaderConnection σ κ) :
    wp (awaiting action) post w ↔
      match action w.link.transport with
      | (.done, s) => post.ok () { w with link.transport := s }
      | (.raised error, s) => post.raised error { w with link.transport := s } := by
  unfold wp awaiting
  rcases action w.link.transport with ⟨completion, s⟩
  cases completion <;> exact Iff.rfl

/-- The rule for an await, one case for each way it can end. -/
theorem wp_awaiting_cases {action : σ → Completion × σ}
    {post : Post Exn (BootloaderConnection σ κ) Unit} {w : BootloaderConnection σ κ}
    (hdone : ∀ s, action w.link.transport = (.done, s) → post.ok () { w with link.transport := s })
    (hraised : ∀ error s, action w.link.transport = (.raised error, s) →
      post.raised error { w with link.transport := s }) :
    wp (awaiting action) post w := by
  rw [wp_awaiting]
  rcases haction : action w.link.transport with ⟨completion, s⟩
  cases completion with
  | done => exact hdone s haction
  | raised error => exact hraised error s haction

theorem wp_transportSend {R : Runtime σ} {raw : Bytes}
    {post : Post Exn (BootloaderConnection σ κ) Unit} {w : BootloaderConnection σ κ}
    (hdone : ∀ s, post.ok () { w with
      link.transport := s
      link.trace := w.link.trace ++ [.direct raw .done] })
    (hraised : ∀ error s, post.raised error { w with
      link.transport := s
      link.trace := w.link.trace ++ [.direct raw (.raised error)] }) :
    wp (transportSend R raw) post w := by
  unfold wp transportSend
  rcases R.send raw w.link.transport with ⟨completion, s⟩
  cases completion with
  | done => exact hdone s
  | raised error => exact hraised error s

theorem wp_withLock {R : Runtime σ} {body : Coroutine σ κ α}
    {post : Post Exn (BootloaderConnection σ κ) α} {w : BootloaderConnection σ κ}
    (hheld : w.locked = true →
      post.raised (.runtimeError "Attempted to acquire an already held Lock") w)
    (hinterrupted : ∀ error s, R.checkpoint w.link.transport = (.raised error, s) →
      post.raised error { w with link.transport := s })
    (hbody : w.locked = false → ∀ s, R.checkpoint w.link.transport = (.done, s) →
      wp body ⟨fun value w => post.ok value { w with locked := false },
        fun error w => post.raised error { w with locked := false }, post.running⟩
        { w with link.transport := s, locked := true }) :
    wp (withLock R body) post w := by
  unfold withLock
  rw [wp_bind, wp_get]
  dsimp only
  cases hlocked : w.locked with
  | true => exact hheld hlocked
  | false =>
      simp only [Bool.false_eq_true, ↓reduceIte, wp_bind, wp_awaiting, wp_modify, wp_ensuring]
      rcases hcheck : R.checkpoint w.link.transport with ⟨completion, s⟩
      cases completion with
      | done => exact hbody hlocked s hcheck
      | raised error => exact hinterrupted error s hcheck

theorem wp_processCommand {R : Runtime σ} {fuel : Nat} {call : Call}
    {post : Post Exn (BootloaderConnection σ κ) Bytes} {w : BootloaderConnection σ κ}
    (hheld : w.locked = true →
      post.raised (.runtimeError "Attempted to acquire an already held Lock") w)
    (hinterrupted : ∀ error s, R.checkpoint w.link.transport = (.raised error, s) →
      post.raised error { w with link.transport := s })
    (hloop : w.locked = false → ∀ s, R.checkpoint w.link.transport = (.done, s) →
      wp (processCommandInner R.toTransport call fuel)
        ⟨fun payload link => post.ok payload { w with link := link, locked := false },
          fun error link => post.raised error { w with link := link, locked := false },
          fun link => post.running { w with link := link, locked := true }⟩
        { w.link with transport := s }) :
    wp (processCommand R fuel call) post w := by
  apply wp_withLock hheld hinterrupted
  intro hlocked s hcheck
  unfold inner
  rw [wp_zoom]
  exact hloop hlocked s hcheck

end BootloaderConnection

end ApUploader
