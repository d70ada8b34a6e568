import ApUploader.Connection.Heartbeat

/-! # Observing the lock

The lock of the code beside the same lock with an observer, who notes when a task asks
for the lock while it is held. The observer changes nothing: with him every operation
ends the same way and in the same state, up to his note.
-/

namespace ApUploader.BootloaderConnection

open Effect

variable {σ κ α β : Type}

def plainLock (R : Runtime σ) : Locking σ κ := fun _ body => withLock R body

/-- The same lock with an observer: a task that asks for the lock while it is held is noted. -/
def observedLock (R : Runtime σ) : Locking σ κ := fun _ body => do
  Proc.modify fun w => { w with client.reacquired := w.client.reacquired || w.locked }
  withLock R body

/-- With the lock of the code the operations are those of the code. -/
theorem perform_plainLock (sha256 : Bytes → Bytes) (R : Runtime σ) (fuel : Nat) :
    (∀ call, lockedCommand R (plainLock R) fuel call =
        (processCommand R fuel call : Owned σ κ Bytes)) ∧
      (∀ onRebooted : κ → κ,
        perform sha256 R (plainLock R) fuel (.ensureInBootloader onRebooted) =
          ensureInBootloader R fuel fun owner =>
            { owner with caller := onRebooted owner.caller }) ∧
      perform sha256 R (plainLock R) fuel (.eraseFlashMemory : Operation κ) =
        eraseFlashMemory R fuel ∧
      (∀ address, lockedSerialNumberWord R (plainLock R) fuel address =
        (getSerialNumberWord R fuel address : Owned σ κ Bytes)) ∧
      (∀ data, perform sha256 R (plainLock R) fuel (.programBytes data : Operation κ) =
        programBytes R fuel data) ∧
      ∀ toBootloader, perform sha256 R (plainLock R) fuel (.reboot toBootloader : Operation κ) =
        reboot R fuel toBootloader :=
  ⟨fun _ => rfl, fun _ => rfl, rfl, fun _ => rfl, fun _ => rfl, fun _ => rfl⟩

/-! ## The observer changes nothing -/

def noting (seen : Bool) (w : BootloaderConnection σ (Owner κ)) :
    BootloaderConnection σ (Owner κ) :=
  { w with client.reacquired := seen }

/-- The second coroutine does what the first one does, up to what is noted. -/
def Unseen (m m' : Owned σ κ α) : Prop :=
  ∀ w seen, ∃ seen', m' (noting seen w) = ((m w).1, noting seen' (m w).2)

namespace Unseen

theorem pure (value : α) : Unseen (Pure.pure value : Owned σ κ α) (Pure.pure value) :=
  fun _ seen => ⟨seen, rfl⟩

theorem raise (error : Exn) : Unseen (Proc.raise error : Owned σ κ α) (Proc.raise error) :=
  fun _ seen => ⟨seen, rfl⟩

theorem modify {f : BootloaderConnection σ (Owner κ) → BootloaderConnection σ (Owner κ)}
    (h : ∀ w seen, f (noting seen w) = noting seen (f w)) :
    Unseen (Proc.modify f : Owned σ κ Unit) (Proc.modify f) :=
  fun w seen => ⟨seen, congrArg (Prod.mk _) (h w seen)⟩

theorem bind {m m' : Owned σ κ α} {next next' : α → Owned σ κ β} (hm : Unseen m m')
    (hnext : ∀ value, Unseen (next value) (next' value)) : Unseen (m >>= next) (m' >>= next') := by
  intro w seen
  obtain ⟨seen', hseen⟩ := hm w seen
  rcases hend : m w with ⟨outcome, w'⟩
  rw [hend] at hseen
  cases outcome with
  | ok value =>
      obtain ⟨last, hlast⟩ := hnext value w' seen'
      rw [Proc.bind_of_ok hseen, Proc.bind_of_ok hend]
      exact ⟨last, hlast⟩
  | raised error =>
      rw [Proc.bind_of_raised hseen, Proc.bind_of_raised hend]
      exact ⟨seen', rfl⟩
  | running =>
      rw [Proc.bind_of_running hseen, Proc.bind_of_running hend]
      exact ⟨seen', rfl⟩

theorem catching {m m' : Owned σ κ α} {handler handler' : Exn → Option (Owned σ κ α)}
    (hm : Unseen m m')
    (hhandler : ∀ error, Option.Rel Unseen (handler error) (handler' error)) :
    Unseen (m.catching handler) (m'.catching handler') := by
  intro w seen
  obtain ⟨seen', hseen⟩ := hm w seen
  rcases hend : m w with ⟨outcome, w'⟩
  rw [hend] at hseen
  unfold Proc.catching
  rw [hseen, hend]
  cases outcome with
  | ok value => exact ⟨seen', rfl⟩
  | running => exact ⟨seen', rfl⟩
  | raised error =>
      dsimp only
      have hrel := hhandler error
      generalize handler error = first, handler' error = second at hrel ⊢
      cases hrel with
      | some hnext => exact hnext w' seen'
      | none => exact ⟨seen', rfl⟩

theorem ensuring {m m' : Owned σ κ α} {cleanup : Owned σ κ Unit} (hm : Unseen m m')
    (hcleanup : Unseen cleanup cleanup) : Unseen (m.ensuring cleanup) (m'.ensuring cleanup) := by
  intro w seen
  obtain ⟨seen', hseen⟩ := hm w seen
  rcases hend : m w with ⟨outcome, w'⟩
  rw [hend] at hseen
  obtain ⟨last, hlast⟩ := hcleanup w' seen'
  unfold Proc.ensuring
  rw [hseen, hend]
  cases outcome with
  | running => exact ⟨seen', rfl⟩
  | ok value =>
      dsimp only
      rw [hlast]
      rcases cleanup w' with ⟨ending, _⟩
      cases ending <;> exact ⟨last, rfl⟩
  | raised error =>
      dsimp only
      rw [hlast]
      rcases cleanup w' with ⟨ending, _⟩
      cases ending <;> exact ⟨last, rfl⟩

theorem loop {body : β → Owned σ κ (β ⊕ α)} (h : ∀ state, Unseen (body state) (body state))
    (fuel : Nat) (state : β) :
    Unseen (Proc.loop body fuel state) (Proc.loop body fuel state) := by
  induction fuel generalizing state with
  | zero => exact fun _ seen => ⟨seen, rfl⟩
  | succ fuel ih =>
      refine bind (h state) fun next => ?_
      cases next with
      | inl state => exact ih state
      | inr value => exact .pure value

theorem inner (R : Runtime σ) (fuel : Nat) (call : Call) :
    Unseen (inner R fuel call : Owned σ κ Bytes) (inner R fuel call) :=
  fun _ seen => ⟨seen, rfl⟩

theorem awaiting (action : σ → Completion × σ) :
    Unseen (awaiting action : Owned σ κ Unit) (awaiting action) := by
  intro w seen
  refine ⟨seen, ?_⟩
  unfold BootloaderConnection.awaiting noting
  dsimp only
  rcases action w.link.transport with ⟨completion, s⟩
  cases completion <;> rfl

theorem transportSend (R : Runtime σ) (raw : Bytes) :
    Unseen (transportSend R raw : Owned σ κ Unit) (transportSend R raw) := by
  intro w seen
  refine ⟨seen, ?_⟩
  unfold BootloaderConnection.transportSend noting
  rcases R.send raw w.link.transport with ⟨completion, s⟩
  cases completion <;> rfl

theorem transportReceive (R : Runtime σ) (timeout : Nat) :
    Unseen (transportReceive R timeout : Owned σ κ Bytes) (transportReceive R timeout) := by
  intro w seen
  refine ⟨seen, ?_⟩
  unfold BootloaderConnection.transportReceive noting
  dsimp only
  rcases R.receive timeout w.link.transport with ⟨outcome, s⟩
  cases outcome with
  | never => rfl
  | ended result => cases result <;> rfl

theorem onCaller (f : κ → κ) : Unseen (onCaller f : Owned σ κ Unit) (onCaller f) :=
  .modify fun _ _ => rfl

theorem setMode (mode : Mode) :
    Unseen (Proc.modify fun w => { w with mode := mode } : Owned σ κ Unit)
      (Proc.modify fun w => { w with mode := mode }) :=
  .modify fun _ _ => rfl

theorem ofExcept (result : Except Exn α) :
    Unseen (ofExcept result : Owned σ κ α) (ofExcept result) := by
  cases result with
  | ok value => exact .pure value
  | error error => exact .raise error

theorem getMavlink : Unseen (getMavlink : Owned σ κ MAVLink) getMavlink := by
  intro w seen
  refine ⟨seen, ?_⟩
  rw [getMavlink_eq, getMavlink_eq]
  rfl

theorem setMavlink (mavlink : MAVLink) :
    Unseen (setMavlink mavlink : Owned σ κ Unit) (setMavlink mavlink) :=
  .modify fun _ _ => rfl

section

variable (sha256 : Bytes → Bytes) (R : Runtime σ)

theorem parseReceived (fuel : Nat) (data : Bytes) :
    Unseen (parseReceived sha256 fuel data : Owned σ κ (List MAVLinkMessage))
      (parseReceived sha256 fuel data) := by
  refine .bind .getMavlink fun mavlink => ?_
  rcases mavlink.parseBuffer sha256 fuel data with _ | ⟨result, mavlink⟩
  · exact fun _ seen => ⟨seen, rfl⟩
  · refine .bind (.setMavlink mavlink) fun _ => ?_
    cases result with
    | error error => exact .raise _
    | ok messages => exact .pure _

theorem heartbeatPass (fuel timeout : Nat) (pass : Unit) :
    Unseen (heartbeatPass sha256 R fuel timeout pass : Owned σ κ (Unit ⊕ MAVLinkMessage))
      (heartbeatPass sha256 R fuel timeout pass) := by
  refine .bind (.transportReceive R timeout) fun data => ?_
  refine .bind (.parseReceived sha256 fuel data) fun messages => ?_
  cases messages.find? MAVLink.isHeartbeat with
  | some message => exact .pure _
  | none => exact .pure _

theorem waitForHeartbeat (fuel timeout : Nat) :
    Unseen (waitForHeartbeat sha256 R fuel timeout : Owned σ κ MAVLinkMessage)
      (waitForHeartbeat sha256 R fuel timeout) :=
  .bind .getMavlink fun _ => .loop (.heartbeatPass sha256 R fuel timeout) fuel ()

theorem sendMavlinkMessage (body : MessageBody) :
    Unseen (sendMavlinkMessage sha256 R body : Owned σ κ Unit)
      (sendMavlinkMessage sha256 R body) := by
  refine .bind .getMavlink fun mavlink => ?_
  cases mavlink.encode sha256 body true with
  | error error => exact .raise _
  | ok encoded => exact .bind (.setMavlink _) fun _ => .transportSend R _

theorem flashBootloader :
    Unseen (flashBootloader sha256 R : Owned σ κ Unit) (flashBootloader sha256 R) := by
  unfold BootloaderConnection.flashBootloader
  exact .sendMavlinkMessage sha256 R _

theorem resetToFactoryDefaults :
    Unseen (resetToFactoryDefaults sha256 R : Owned σ κ Unit)
      (resetToFactoryDefaults sha256 R) := by
  unfold BootloaderConnection.resetToFactoryDefaults
  exact .sendMavlinkMessage sha256 R _

theorem sendMavlinkRebootCommand (toBootloader : Bool) :
    Unseen (sendMavlinkRebootCommand R toBootloader : Owned σ κ Unit)
      (sendMavlinkRebootCommand R toBootloader) := by
  unfold BootloaderConnection.sendMavlinkRebootCommand
  split_ifs <;> exact .transportSend R _

theorem lock {body body' : Owned σ κ α} (h : Unseen body body') :
    Unseen (plainLock R α body) (observedLock R α body') := by
  have htaken : Unseen (withLock R body) (withLock R body') := by
    intro w seen
    unfold withLock
    rw [Proc.get_bind, Proc.get_bind]
    have hlocked : (noting seen w).locked = w.locked := rfl
    rw [hlocked]
    split_ifs
    · exact ⟨seen, rfl⟩
    · refine bind (.awaiting R.checkpoint) (fun _ => ?_) w seen
      refine .bind (.modify fun _ _ => rfl) fun _ => ?_
      exact .ensuring h (.modify fun _ _ => rfl)
  exact fun w seen => htaken w (seen || w.locked)

theorem command (fuel : Nat) (call : Call) :
    Unseen (lockedCommand R (plainLock R) fuel call : Owned σ κ Bytes)
      (lockedCommand R (observedLock R) fuel call) :=
  .lock R (.inner R fuel call)

theorem commanded (fuel : Nat) (call : Call) :
    Unseen (lockedCommand R (plainLock R) fuel call >>= fun _ => Pure.pure () : Owned σ κ Unit)
      (lockedCommand R (observedLock R) fuel call >>= fun _ => Pure.pure ()) :=
  .bind (.command R fuel call) fun _ => .pure ()

theorem serialNumberWord (fuel address : Nat) :
    Unseen (lockedSerialNumberWord R (plainLock R) fuel address : Owned σ κ Bytes)
      (lockedSerialNumberWord R (observedLock R) fuel address) :=
  .bind (.ofExcept _) fun _ => .bind (.command R fuel _) fun _ => .pure _

theorem ensureInBootloader (fuel : Nat) (onRebooted : κ → κ) :
    Unseen (lockedEnsureInBootloader R (plainLock R) fuel onRebooted : Owned σ κ Unit)
      (lockedEnsureInBootloader R (observedLock R) fuel onRebooted) := by
  refine .bind (.lock R (.catching ?_ fun error => ?_)) fun _ => .setMode .bootloader
  · exact .bind (.inner R fuel _) fun _ => .pure _
  · split_ifs
    · refine .some (.bind (.sendMavlinkRebootCommand R true) fun _ => ?_)
      exact .bind (.onCaller onRebooted) fun _ => .bind (.inner R fuel _) fun _ => .pure _
    · exact .none

theorem ensureInMavlink (fuel : Nat) (onRebooted : κ → κ) (timeout : Nat) :
    Unseen (lockedEnsureInMavlink sha256 R (plainLock R) fuel onRebooted timeout : Owned σ κ Unit)
      (lockedEnsureInMavlink sha256 R (observedLock R) fuel onRebooted timeout) := by
  refine .bind (.lock R (.catching ?_ fun error => ?_)) fun _ => .setMode .mavlink
  · exact .bind (.waitForHeartbeat sha256 R fuel timeout) fun _ => .pure _
  · split_ifs
    · exact .some (.bind (.command R fuel _) fun _ => .onCaller onRebooted)
    · exact .none

theorem reboot (fuel : Nat) (toBootloader : Bool) :
    Unseen (lockedReboot R (plainLock R) fuel toBootloader : Owned σ κ Unit)
      (lockedReboot R (observedLock R) fuel toBootloader) := by
  intro w seen
  unfold lockedReboot
  rw [Proc.get_bind, Proc.get_bind]
  have hmode : (noting seen w).mode = w.mode := rfl
  rw [hmode]
  cases w.mode with
  | mavlink => exact Unseen.sendMavlinkRebootCommand R toBootloader w seen
  | unknown => exact ⟨seen, rfl⟩
  | bootloader =>
      dsimp only
      split_ifs
      · exact ⟨seen, rfl⟩
      · exact commanded R fuel _ w seen

theorem perform (fuel : Nat) (op : Operation κ) :
    Unseen (perform sha256 R (plainLock R) fuel op)
      (perform sha256 R (observedLock R) fuel op) := by
  cases op with
  | ensureInBootloader onRebooted => exact .ensureInBootloader R fuel onRebooted
  | ensureInMavlink onRebooted timeout => exact .ensureInMavlink sha256 R fuel onRebooted timeout
  | eraseFlashMemory => exact .commanded R fuel _
  | getDeviceInfo item => exact .commanded R fuel _
  | getChipDescription => exact .commanded R fuel _
  | getFlashMemoryCrc => exact .commanded R fuel _
  | getWritePointer => exact .commanded R fuel _
  | getSerialNumber =>
      refine .bind (.serialNumberWord R fuel 0) fun _ => ?_
      refine .bind (.serialNumberWord R fuel 4) fun _ => ?_
      exact .bind (.serialNumberWord R fuel 8) fun _ => .pure ()
  | programBytes data => exact .bind (.ofExcept _) fun _ => .commanded R fuel _
  | reboot toBootloader => exact .reboot R fuel toBootloader
  | flashBootloader => exact .flashBootloader sha256 R
  | resetToFactoryDefaults => exact .resetToFactoryDefaults sha256 R

end

end Unseen

end ApUploader.BootloaderConnection
