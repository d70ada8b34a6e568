import ApUploader.Connection.Operations
import ApUploader.Connection.Wire
import ApUploader.Logic.Completes

/-! # Operations over a wire

Over a device that answers at once every operation of the connection completes,
with the value the device has sent, and leaves the connection idle and in sync.
-/

namespace ApUploader

open Effect Protocol BootloaderConnection

variable {δ κ α : Type}

/-- The device answers the command with a success reply as declared, and moves on. -/
def Serves (respond : Bytes → δ → Bytes × δ) (c : Command) (payload : Bytes) (d d' : δ) : Prop :=
  ∃ raw, c.toBytes = .ok raw ∧ Declares c.responseLength payload ∧
    respond raw d = ((Response.success (replyBody c.responseLength payload)).toBytes, d')

/-- The device answers GET_SYNC and stays as it is. -/
def ServesSync (respond : Bytes → δ → Bytes × δ) (d : δ) : Prop :=
  respond syncBytes d = ((Response.success []).toBytes, d)

/-- A reply of a fixed declared length is the payload with the success marker. -/
theorem serves_of_fixed {respond : Bytes → δ → Bytes × δ} {c : Command} {raw payload : Bytes}
    {d d' : δ} (hraw : c.toBytes = .ok raw) (hlength : (payload.length : Int) = c.responseLength)
    (hreply : respond raw d = ((Response.success payload).toBytes, d')) :
    Serves respond c payload d d' := by
  have hfixed : ¬ c.responseLength < 0 := by omega
  refine ⟨raw, hraw, ?_, ?_⟩
  · simp [Declares, hfixed, hlength]
  · rw [hreply]
    simp [replyBody, hfixed]

/-- The runtime of a connection over a wire: no checkpoint interrupts it. -/
structure OverWire (R : Runtime (Wire δ)) (respond : Bytes → δ → Bytes × δ) (cut : Nat → Nat)
    (silence : ReceiveOutcome) : Prop where
  transport : R.toTransport = wireTransport respond cut silence
  checkpoint : ∀ s, R.checkpoint s = (.done, s)

structure Idle (d : δ) (mode : Mode) (client : κ) (w : BootloaderConnection (Wire δ) κ) :
    Prop where
  link : AtRest d w.link
  unlocked : w.locked = false
  mode : w.mode = mode
  client : w.client = client

/-! ## Constructs -/

theorem awaiting_done {σ : Type} {action : σ → Completion × σ} {w : BootloaderConnection σ κ}
    (hdone : action w.link.transport = (.done, w.link.transport)) :
    BootloaderConnection.awaiting action w = (.ok (), w) := by
  simp [BootloaderConnection.awaiting, hdone]

section Wire

variable {R : Runtime (Wire δ)} {respond : Bytes → δ → Bytes × δ} {cut : Nat → Nat}
  {silence : ReceiveOutcome} {d d' : δ} {mode : Mode} {client : κ}
  {w : BootloaderConnection (Wire δ) κ}

theorem completes_withLock (hR : OverWire R respond cut silence)
    {body : Nat → Coroutine (Wire δ) κ α} (hunlocked : w.locked = false)
    {post : α → BootloaderConnection (Wire δ) κ → Prop}
    (hbody : Completes body { w with locked := true }
      (fun value w' => post value { w' with locked := false })) :
    Completes (fun fuel => withLock R (body fuel)) w post := by
  unfold withLock
  refine .step rfl ?_
  simp only [hunlocked, Bool.false_eq_true, ↓reduceIte]
  refine .step (awaiting_done (hR.checkpoint _)) ?_
  refine .step rfl ?_
  exact .ensuring hbody fun value w' h => .modify _ h

theorem completes_inner (hR : OverWire R respond cut silence) {call : Call} {payload : Bytes}
    (hrest : AtRest d w.link) (hserves : Serves respond call.command payload d d') :
    Completes (fun fuel => inner R fuel call) w
      (fun value w' => value = payload ∧
        ∃ link, AtRest d' link ∧ w' = { w with link := link }) := by
  obtain ⟨raw, hraw, hpayload, hreply⟩ := hserves
  have hclean : Clean w.link.protocol := hrest.protocol ▸ clean_synced
  have hsync : w.link.protocol.inSync = true := by rw [hrest.protocol]; rfl
  have hanswer : respond raw w.link.transport.device =
      ((Response.success (replyBody call.command.responseLength payload)).toBytes, d') := by
    rw [hrest.device]
    exact hreply
  obtain ⟨link, hends, hrest', _⟩ := exchange_command respond cut silence call
    (l := call.locals) hclean hsync rfl hrest.pending hraw hpayload (congrArg Prod.fst hanswer)
  rw [hanswer] at hrest'
  have hloop : Completes (fun fuel => processCommandInner R.toTransport call fuel) w.link
      (fun value link => value = payload ∧ AtRest d' link) := by
    rw [hR.transport]
    exact hends.completes ⟨rfl, hrest'⟩
  exact hloop.zoom fun value link h => ⟨h.1, link, h.2, rfl⟩

/-- The first command on a new connection gets in sync on its way. -/
theorem completes_inner_new (hR : OverWire R respond cut silence) {call : Call} {payload : Bytes}
    (hnew : w.link.protocol = .new) (hdevice : w.link.transport.device = d)
    (hpending : w.link.transport.pending = []) (hsync : ServesSync respond d)
    (hserves : Serves respond call.command payload d d') :
    Completes (fun fuel => inner R fuel call) w
      (fun value w' => value = payload ∧
        ∃ link, AtRest d' link ∧ w' = { w with link := link }) := by
  obtain ⟨raw, hraw, hpayload, hreply⟩ := hserves
  have hclean : Clean w.link.protocol := by rw [hnew]; exact ⟨by decide, rfl, rfl, rfl⟩
  have hout : w.link.protocol.inSync = false := by rw [hnew]; rfl
  have hsyncReply : respond syncBytes w.link.transport.device =
      ((Response.success []).toBytes, d) := by rw [hdevice]; exact hsync
  obtain ⟨k, link₁, hrounds, hrest₁, _⟩ := exchange_sync respond cut silence call
    (l := call.locals) hclean hout hpending (congrArg Prod.fst hsyncReply)
  rw [hsyncReply] at hrest₁
  have hclean₁ : Clean link₁.protocol := hrest₁.protocol ▸ clean_synced
  have hsync₁ : link₁.protocol.inSync = true := by rw [hrest₁.protocol]; rfl
  have hanswer : respond raw link₁.transport.device =
      ((Response.success (replyBody call.command.responseLength payload)).toBytes, d') := by
    rw [hrest₁.device]
    exact hreply
  obtain ⟨link, hends, hrest', _⟩ := exchange_command respond cut silence call
    (l := ⟨some .getSync, call.maxRetries, false⟩) hclean₁ hsync₁ rfl hrest₁.pending hraw hpayload
    (congrArg Prod.fst hanswer)
  rw [hanswer] at hrest'
  have hloop : Completes (fun fuel => processCommandInner R.toTransport call fuel) w.link
      (fun value link => value = payload ∧ AtRest d' link) := by
    rw [hR.transport]
    exact (hrounds.ends hends).completes ⟨rfl, hrest'⟩
  exact hloop.zoom fun value link h => ⟨h.1, link, h.2, rfl⟩

/-- A reply that stays short of the declared length is waited for without end. -/
theorem hangs_processCommand (hR : OverWire R respond cut .never) {call : Call} {raw : Bytes}
    {n : Nat} (hidle : Idle d mode client w) (hraw : call.command.toBytes = .ok raw)
    (hn : call.command.responseLength = n) (hshort : (respond raw d).1.length < n) :
    Hangs (fun fuel => processCommand R fuel call) w := by
  unfold processCommand withLock
  refine .step rfl ?_
  simp only [hidle.unlocked, Bool.false_eq_true, ↓reduceIte]
  refine .step (awaiting_done (hR.checkpoint _)) ?_
  refine .step rfl ?_
  refine .ensuring (.zoom ?_)
  rw [hR.transport]
  exact hangs_of_short_reply respond cut call hidle.link hraw hn hshort

/-! ## Operations -/

theorem completes_processCommand (hR : OverWire R respond cut silence) {call : Call}
    {payload : Bytes} (hidle : Idle d mode client w)
    (hserves : Serves respond call.command payload d d') :
    Completes (fun fuel => processCommand R fuel call) w
      (fun value w' => value = payload ∧ Idle d' mode client w') := by
  apply completes_withLock hR hidle.unlocked
  refine (completes_inner hR (w := { w with locked := true }) hidle.link hserves).mono ?_
  rintro value w' ⟨rfl, link, hrest, rfl⟩
  exact ⟨rfl, hrest, rfl, hidle.mode, hidle.client⟩

theorem completes_getDeviceInfo (hR : OverWire R respond cut silence) {item : DeviceInfoItem}
    {payload : Bytes} (hidle : Idle d mode client w)
    (hserves : Serves respond (.getDeviceInfo item) payload d d') :
    Completes (fun fuel => getDeviceInfo R fuel item) w
      (fun value w' => value = LittleEndian.decode payload ∧ Idle d' mode client w') := by
  refine .bind (completes_processCommand hR hidle hserves) ?_
  rintro _ w' ⟨rfl, hidle'⟩
  exact .pure ⟨rfl, hidle'⟩

theorem completes_getFlashMemoryCrc (hR : OverWire R respond cut silence) {payload : Bytes}
    (hidle : Idle d mode client w) (hserves : Serves respond .getCrc payload d d') :
    Completes (fun fuel => getFlashMemoryCrc R fuel) w
      (fun value w' => value = LittleEndian.decode payload ∧ Idle d' mode client w') := by
  refine .bind (completes_processCommand hR hidle hserves) ?_
  rintro _ w' ⟨rfl, hidle'⟩
  exact .pure ⟨rfl, hidle'⟩

theorem completes_eraseFlashMemory (hR : OverWire R respond cut silence)
    (hidle : Idle d mode client w) {payload : Bytes}
    (hserves : Serves respond .eraseFlashMemory payload d d') :
    Completes (fun fuel => eraseFlashMemory R fuel) w
      (fun _ w' => Idle d' mode client w') := by
  refine .bind (completes_processCommand hR hidle hserves) ?_
  rintro _ w' ⟨_, hidle'⟩
  exact .pure hidle'

theorem completes_programBytes (hR : OverWire R respond cut silence) {data payload : Bytes}
    (hidle : Idle d mode client w) (hdata : data.length ≤ progMultiMaxPayloadLength)
    (hserves : Serves respond ⟨.progMulti, data⟩ payload d d') :
    Completes (fun fuel => programBytes R fuel data) w
      (fun _ w' => Idle d' mode client w') := by
  have hcommand : Command.programBytes data = .ok ⟨.progMulti, data⟩ := by
    unfold Command.programBytes
    rw [if_neg (by omega)]
  unfold programBytes
  rw [hcommand]
  refine .step rfl ?_
  refine .bind (completes_processCommand hR hidle hserves) ?_
  rintro _ w' ⟨_, hidle'⟩
  exact .pure hidle'

theorem completes_getSerialNumberWord (hR : OverWire R respond cut silence) {address : Nat}
    {word : Bytes} (hidle : Idle d mode client w) (haddress : address < 256 ^ 4)
    (hserves : Serves respond ⟨.getSn, LittleEndian.encode 4 address⟩ word d d') :
    Completes (fun fuel => getSerialNumberWord R fuel address) w
      (fun _ w' => Idle d' mode client w') := by
  have hcommand : Command.readWordFromSerialNumberArea address =
      .ok ⟨.getSn, LittleEndian.encode 4 address⟩ := by
    unfold Command.readWordFromSerialNumberArea toBytesLittle
    rw [if_pos haddress]
    rfl
  unfold getSerialNumberWord
  rw [hcommand]
  refine .step rfl ?_
  refine .bind (completes_processCommand hR hidle hserves) ?_
  rintro _ w' ⟨_, hidle'⟩
  exact .pure hidle'

theorem completes_getSerialNumber (hR : OverWire R respond cut silence)
    (hidle : Idle d mode client w)
    (hserves : ∀ address, address < 256 ^ 4 →
      ∃ word, Serves respond ⟨.getSn, LittleEndian.encode 4 address⟩ word d d) :
    Completes (fun fuel => getSerialNumber R fuel) w (fun _ w' => Idle d mode client w') := by
  have hword : ∀ address, address < 256 ^ 4 → ∀ w, Idle d mode client w →
      Completes (fun fuel => getSerialNumberWord R fuel address) w
        (fun _ w' => Idle d mode client w') := by
    intro address haddress w hidle
    obtain ⟨word, hserves⟩ := hserves address haddress
    exact completes_getSerialNumberWord hR hidle haddress hserves
  unfold getSerialNumber
  refine .bind (hword 0 (by decide) w hidle) fun _ w₁ h₁ => ?_
  refine .bind (hword 4 (by decide) w₁ h₁) fun _ w₂ h₂ => ?_
  refine .bind (hword 8 (by decide) w₂ h₂) fun _ w₃ h₃ => ?_
  exact .pure h₃

theorem completes_reboot (hR : OverWire R respond cut silence)
    (hidle : Idle d .bootloader client w) {payload : Bytes}
    (hserves : Serves respond .reboot payload d d') :
    Completes (fun fuel => reboot R fuel false) w
      (fun _ w' => Idle d' .bootloader client w') := by
  unfold reboot
  refine .step rfl ?_
  simp only [hidle.mode, Bool.false_eq_true, ↓reduceIte]
  refine .bind (completes_processCommand hR hidle hserves) ?_
  rintro _ w' ⟨_, hidle'⟩
  exact .pure hidle'

/-- A probe that is answered at the first attempt ends the search for the bootloader. -/
theorem completes_probe (hR : OverWire R respond cut silence) {onRebooted : κ → κ}
    (hunlocked : w.locked = false) {post : BootloaderConnection (Wire δ) κ → Prop}
    (hinner : Completes (fun fuel => inner R fuel
        { command := .getDeviceInfo .boardId, maxRetries := 1, timeout := some 50 })
      { w with locked := true }
      (fun _ w' => post { w' with locked := false, mode := .bootloader })) :
    Completes (fun fuel => ensureInBootloader R fuel onRebooted) w (fun _ w' => post w') := by
  unfold ensureInBootloader
  have hprobe : Completes (fun fuel => withLock R (((do
        let _ ← inner R fuel
          { command := .getDeviceInfo .boardId, maxRetries := 1, timeout := some 50 }) :
          Coroutine (Wire δ) κ Unit).catching fun error =>
        if error = .timeoutError ∨ error = .excessDataError then some do
          sendMavlinkRebootCommand R true
          Proc.modify (fun w => { w with client := onRebooted w.client })
          let _ ← inner R fuel
            { command := .getDeviceInfo .boardId, maxRetries := 5, timeout := some 500 }
        else none)) w
      (fun _ w' => post { w' with mode := .bootloader }) := by
    apply completes_withLock hR hunlocked
    exact Completes.catching (.bind hinner fun _ _ h => .pure h)
  exact .bind hprobe fun _ _ h => .modify _ h

/-- A new connection finds the bootloader at the first attempt. -/
theorem completes_ensureInBootloader (hR : OverWire R respond cut silence) {onRebooted : κ → κ}
    {payload : Bytes} (hnew : w.link.protocol = .new) (hdevice : w.link.transport.device = d)
    (hpending : w.link.transport.pending = []) (hunlocked : w.locked = false)
    (hsync : ServesSync respond d)
    (hserves : Serves respond (.getDeviceInfo .boardId) payload d d') :
    Completes (fun fuel => ensureInBootloader R fuel onRebooted) w
      (fun _ w' => Idle d' .bootloader w.client w') := by
  apply completes_probe hR hunlocked
  refine (completes_inner_new hR (w := { w with locked := true }) hnew hdevice hpending hsync
    hserves).mono ?_
  rintro _ _ ⟨_, link, hrest, rfl⟩
  exact ⟨hrest, rfl, rfl, rfl⟩

end Wire

end ApUploader
