import ApUploader.Connection.Locking
import ApUploader.Mavlink.Traffic

/-! # Listening

Waiting for a heartbeat sends nothing and tells the caller nothing: it changes the
transport, and the MAVLink object by what was parsed. Since the lock is held in the
meantime, this is all that asking for the main firmware does, heartbeat or not.
-/

namespace ApUploader.BootloaderConnection

open Effect

variable {σ κ : Type}

/-- The second connection is the first one after it has listened. -/
structure Listened (w w' : BootloaderConnection σ (Owner κ)) : Prop where
  locked : w'.locked = w.locked
  mode : w'.mode = w.mode
  trace : w'.link.trace = w.link.trace
  caller : w'.client.caller = w.client.caller
  systemId : w'.client.systemId = w.client.systemId
  mavlink : MAVLink.Kept (mavlinkOf w) (mavlinkOf w')

variable {sha256 : Bytes → Bytes} {R : Runtime σ} {fuel timeout : Nat}
  {w w' : BootloaderConnection σ (Owner κ)}

theorem Listened.refl (w : BootloaderConnection σ (Owner κ)) : Listened w w :=
  ⟨rfl, rfl, rfl, rfl, rfl, .refl _⟩

theorem listened_receive (timeout : Nat) :
    Preserves (Listened w) (transportReceive R timeout : Owned σ κ Bytes) := by
  intro w' h
  rw [wp_always_iff]
  unfold transportReceive
  rcases R.receive timeout w'.link.transport with ⟨outcome, s⟩
  cases outcome with
  | never => exact ⟨h.locked, h.mode, h.trace, h.caller, h.systemId, h.mavlink⟩
  | ended result =>
      cases result <;> exact ⟨h.locked, h.mode, h.trace, h.caller, h.systemId, h.mavlink⟩

theorem listened_parse (data : Bytes) :
    Preserves (Listened w) (parseReceived sha256 fuel data : Owned σ κ (List MAVLinkMessage)) := by
  intro w' h
  rw [wp_always_iff]
  cases hparse : (mavlinkOf w').parseBuffer sha256 fuel data with
  | none =>
      rw [parseReceived_running hparse]
      exact ⟨h.locked, h.mode, h.trace, h.caller, h.systemId, h.mavlink⟩
  | some parsed =>
      have hkept := h.mavlink.trans (MAVLink.parseBuffer_reads hparse).1
      obtain ⟨result, mavlink⟩ := parsed
      cases result with
      | error error =>
          rw [parseReceived_error hparse]
          exact ⟨h.locked, h.mode, h.trace, h.caller, h.systemId, hkept⟩
      | ok messages =>
          rw [parseReceived_ok hparse]
          exact ⟨h.locked, h.mode, h.trace, h.caller, h.systemId, hkept⟩

theorem listened_pass (pass : Unit) :
    Preserves (Listened w)
      (heartbeatPass sha256 R fuel timeout pass : Owned σ κ (Unit ⊕ MAVLinkMessage)) := by
  refine .bind (listened_receive timeout) fun data => .bind (listened_parse data) fun messages => ?_
  cases messages.find? MAVLink.isHeartbeat with
  | some message => exact .pure _
  | none => exact .pure _

theorem listened_wait :
    Preserves (Listened w) (waitForHeartbeat sha256 R fuel timeout : Owned σ κ MAVLinkMessage) := by
  refine .bind ?_ fun _ => .loop (fun pass => listened_pass pass) fuel ()
  intro w' h
  rw [wp_always_iff, getMavlink_eq]
  exact ⟨h.locked, h.mode, h.trace, h.caller, h.systemId, h.mavlink⟩

/-- Under the lock the command that boots the main firmware is refused. -/
theorem wp_heartbeatOrReboot_listened (onRebooted : κ → κ) (hlocked : w.locked = true) :
    wp (heartbeatOrReboot sha256 R (plainLock R) fuel onRebooted timeout)
      ⟨fun _ w' => HearsFrom sha256 R timeout (mavlinkOf w) w.link.transport ∧ Listened w w',
        fun _ => Listened w, Listened w⟩ w := by
  unfold heartbeatOrReboot
  rw [wp_catching, wp_bind]
  refine wp_mono (wp_and wp_waitForHeartbeat (listened_wait w (.refl w))) (fun _ _ h => h) ?_
    (fun _ h => h.2)
  intro error w' h
  dsimp only
  split_ifs
  · change wp (plainLock R Bytes _ >>= _) _ _
    rw [wp_of_eq (Proc.bind_of_raised (plainLock_held R _ (h.2.locked.trans hlocked)) _)]
    exact h.2
  · exact h.2

theorem wp_ensureInMavlink (onRebooted : κ → κ) (hlocked : w.locked = false) :
    wp (perform sha256 R (plainLock R) fuel (.ensureInMavlink onRebooted timeout))
      ⟨fun _ w' => (∃ s, R.checkpoint w.link.transport = (.done, s) ∧
          HearsFrom sha256 R timeout (mavlinkOf w) s) ∧
          ∃ w₁, Listened w w₁ ∧ w' = { w₁ with mode := .mavlink },
        fun _ => Listened w, fun w' => Listened { w with locked := true } w'⟩ w := by
  change wp (lockedEnsureInMavlink sha256 R (plainLock R) fuel onRebooted timeout) _ w
  unfold lockedEnsureInMavlink
  rw [wp_bind]
  change wp (withLock R _) _ w
  apply wp_withLock
  · exact fun _ => .refl w
  · exact fun _ s _ => ⟨rfl, rfl, rfl, rfl, rfl, .refl _⟩
  · intro _ s hs
    refine wp_mono (wp_heartbeatOrReboot_listened onRebooted rfl) ?_ ?_ ?_
    · intro _ w' h
      obtain ⟨hheard, hlistened⟩ := h
      refine ⟨⟨s, hs, hheard⟩, _, ?_, rfl⟩
      exact ⟨hlocked.symm, hlistened.mode, hlistened.trace, hlistened.caller, hlistened.systemId,
        hlistened.mavlink⟩
    · intro _ w' h
      exact ⟨hlocked.symm, h.mode, h.trace, h.caller, h.systemId, h.mavlink⟩
    · intro w' h
      exact ⟨h.locked, h.mode, h.trace, h.caller, h.systemId, h.mavlink⟩

/-! ## A heartbeat is heard -/

end ApUploader.BootloaderConnection
