import ApUploader.Connection.Operations
import ApUploader.Logic.Preserves

/-! # What the operations leave alone

An invariant that awaiting, locking and the exchange of a command keep is kept by
every operation of a connection, at every ending and over every transport. The
operations do not touch the client's state either; only the callback of
`ensureInBootloader` does.
-/

namespace ApUploader.BootloaderConnection

open Effect

variable {σ κ α β : Type}

/-- An invariant of the connection that the steps of its operations keep, as far as the commands
exchanged are permitted ones. -/
structure Framed (R : Runtime σ) (permitted : OpCode → Prop)
    (I : BootloaderConnection σ κ → Prop) : Prop where
  transport : ∀ w s, I w → I { w with link.transport := s }
  locked : ∀ w locked, I w → I { w with locked := locked }
  mode : ∀ w mode, I w → I { w with mode := mode }
  direct : ∀ w raw completion, I w →
    I { w with link.trace := w.link.trace ++ [.direct raw completion] }
  command : ∀ fuel call, permitted call.command.type → Preserves I (inner R fuel call)

theorem preserves_ofExcept {I : BootloaderConnection σ κ → Prop} {result : Except Exn α}
    {next : α → Coroutine σ κ β} (hnext : ∀ value, result = .ok value → Preserves I (next value)) :
    Preserves I (ofExcept result >>= next) := by
  cases result with
  | error error => exact fun _ h => h
  | ok value => exact hnext value rfl

namespace Framed

variable {R : Runtime σ} {permitted : OpCode → Prop} {I : BootloaderConnection σ κ → Prop}

theorem awaiting (h : Framed R permitted I) (action : σ → Completion × σ) :
    Preserves I (awaiting action) := by
  intro w hw
  apply wp_awaiting_cases
  · exact fun s _ => h.transport w s hw
  · exact fun _ s _ => h.transport w s hw

theorem withLock (h : Framed R permitted I) {body : Coroutine σ κ α} (hbody : Preserves I body) :
    Preserves I (withLock R body) := by
  intro w hw
  apply wp_withLock
  · exact fun _ => hw
  · exact fun _ s _ => h.transport w s hw
  · intro _ s _
    have hheld := h.locked _ true (h.transport w s hw)
    exact hbody.wp hheld (fun _ w hw => h.locked w false hw) (fun _ w hw => h.locked w false hw)
      (fun _ hw => hw)

theorem processCommand (h : Framed R permitted I) (fuel : Nat) {call : Call}
    (hcall : permitted call.command.type) : Preserves I (processCommand R fuel call) :=
  h.withLock (h.command fuel call hcall)

theorem transportSend (h : Framed R permitted I) (raw : Bytes) :
    Preserves I (transportSend R raw) := by
  intro w hw
  apply wp_transportSend
  · exact fun s => h.direct _ raw _ (h.transport w s hw)
  · exact fun _ s => h.direct _ raw _ (h.transport w s hw)

theorem sendMavlinkRebootCommand (h : Framed R permitted I) (toBootloader : Bool) :
    Preserves I (sendMavlinkRebootCommand R toBootloader) := by
  unfold BootloaderConnection.sendMavlinkRebootCommand
  split_ifs <;> exact h.transportSend _

theorem ensureInBootloader (h : Framed R permitted I) (fuel : Nat) (hdevice : permitted .getDevice)
    {onRebooted : κ → κ} (hclient : ∀ w, I w → I { w with client := onRebooted w.client }) :
    Preserves I (ensureInBootloader R fuel onRebooted) := by
  unfold BootloaderConnection.ensureInBootloader
  refine .bind (h.withLock (.catching ?_ ?_)) fun _ => .modify fun w hw => h.mode w _ hw
  · exact .bind (h.command fuel _ hdevice) fun _ => .pure _
  · intro error next hnext
    split_ifs at hnext
    cases hnext
    refine .bind (h.sendMavlinkRebootCommand _) fun _ => ?_
    refine .bind (.modify hclient) fun _ => ?_
    exact .bind (h.command fuel _ hdevice) fun _ => .pure _

theorem getDeviceInfo (h : Framed R permitted I) (fuel : Nat) (hdevice : permitted .getDevice)
    (item : DeviceInfoItem) : Preserves I (getDeviceInfo R fuel item) :=
  .bind (h.processCommand fuel hdevice) fun _ => .pure _

theorem eraseFlashMemory (h : Framed R permitted I) (fuel : Nat) (herase : permitted .chipErase) :
    Preserves I (eraseFlashMemory R fuel) :=
  .bind (h.processCommand fuel herase) fun _ => .pure _

theorem getFlashMemoryCrc (h : Framed R permitted I) (fuel : Nat) (hcrc : permitted .getCrc) :
    Preserves I (getFlashMemoryCrc R fuel) :=
  .bind (h.processCommand fuel hcrc) fun _ => .pure _

theorem getWritePointer (h : Framed R permitted I) (fuel : Nat)
    (hpointer : permitted .getWritePtr) : Preserves I (getWritePointer R fuel) :=
  .bind (h.processCommand fuel hpointer) fun _ => .pure _

theorem getSerialNumber (h : Framed R permitted I) (fuel : Nat) (hserial : permitted .getSn) :
    Preserves I (getSerialNumber R fuel) := by
  have hword : ∀ address, Preserves I (getSerialNumberWord R fuel address) := by
    intro address
    refine preserves_ofExcept fun command hcommand => ?_
    have htype := Command.readWordFromSerialNumberArea_type hcommand
    exact .bind (h.processCommand fuel (by rwa [htype])) fun _ => .pure _
  exact .bind (hword 0) fun _ => .bind (hword 4) fun _ => .bind (hword 8) fun _ => .pure _

theorem programBytes (h : Framed R permitted I) (fuel : Nat) (hprogram : permitted .progMulti)
    (data : Bytes) : Preserves I (programBytes R fuel data) := by
  refine preserves_ofExcept fun command hcommand => ?_
  have htype := Command.programBytes_type hcommand
  exact .bind (h.processCommand fuel (by rwa [htype])) fun _ => .pure _

theorem reboot (h : Framed R permitted I) (fuel : Nat) (hreboot : permitted .reboot)
    (toBootloader : Bool) : Preserves I (reboot R fuel toBootloader) := by
  unfold BootloaderConnection.reboot
  refine .bind .get fun w => ?_
  cases w.mode with
  | mavlink => exact h.sendMavlinkRebootCommand toBootloader
  | bootloader =>
      dsimp only
      split_ifs
      · exact .raise _
      · exact .bind (h.processCommand fuel hreboot) fun _ => .pure _
  | unknown => exact .raise _

end Framed

/-! ## The client's state -/

variable {Q : κ → Prop}

/-- However the coroutine ends, the property of the client's state still holds. -/
def Keeps (Q : κ → Prop) (m : Coroutine σ κ α) : Prop :=
  ∀ w, Q w.client → wp m (.always fun w => Q w.client) w

/-- Every command leaves the client's state alone. -/
theorem framed_client (R : Runtime σ) (Q : κ → Prop) :
    Framed R (fun _ => True) (fun w => Q w.client) where
  transport _ _ h := h
  locked _ _ h := h
  mode _ _ h := h
  direct _ _ _ h := h
  command _ _ _ := by
    intro w hw
    unfold inner
    rw [wp_always_iff]
    exact hw

theorem Keeps.wp {m : Coroutine σ κ α} (h : Keeps Q m) {w : BootloaderConnection σ κ}
    (hw : Q w.client) {post : Post Exn (BootloaderConnection σ κ) α}
    (hok : ∀ value w, Q w.client → post.ok value w)
    (hraised : ∀ error w, Q w.client → post.raised error w)
    (hrunning : ∀ w, Q w.client → post.running w) : Effect.wp m post w :=
  Preserves.wp h hw hok hraised hrunning

end ApUploader.BootloaderConnection
