import ApUploader.Connection.Observer
import ApUploader.Logic.Preserves

/-! # The lock of a connection

An operation takes the lock around what it exchanges and inside it uses helpers that
expect the lock to be held. One helper takes it again: the command that boots the
main firmware when no heartbeat has been received in time. The task then asks for a
lock that it holds, and the operation fails.
-/

namespace ApUploader.BootloaderConnection

open Effect

variable {σ κ α β : Type}

/-! ## What happens between two operations and inside one -/

/-- Nobody holds the lock and nobody has asked for it twice. -/
structure Idle (w : BootloaderConnection σ (Owner κ)) : Prop where
  locked : w.locked = false
  reacquired : w.client.reacquired = false

/-- The lock is held or free as it was, and nobody has asked for it twice. -/
structure Holding (locked : Bool) (w : BootloaderConnection σ (Owner κ)) : Prop where
  locked : w.locked = locked
  reacquired : w.client.reacquired = false

theorem Holding.idle {w : BootloaderConnection σ (Owner κ)} (h : Holding false w) : Idle w :=
  ⟨h.locked, h.reacquired⟩

theorem Idle.holding {w : BootloaderConnection σ (Owner κ)} (h : Idle w) : Holding false w :=
  ⟨h.locked, h.reacquired⟩

def Neutral (m : Owned σ κ α) : Prop := ∀ locked, Preserves (Holding locked) m

def lockPost : Post Exn (BootloaderConnection σ (Owner κ)) α where
  ok _ := Idle
  raised _ := Idle
  running w := w.client.reacquired = false

/-- A coroutine that takes the free lock at most once at a time and leaves it free. -/
def Disciplined (m : Owned σ κ α) : Prop := ∀ w, Idle w → wp m lockPost w

namespace Neutral

theorem bind {m : Owned σ κ α} {next : α → Owned σ κ β} (hm : Neutral m)
    (hnext : ∀ value, Neutral (next value)) : Neutral (m >>= next) :=
  fun locked => .bind (hm locked) fun value => hnext value locked

theorem pure (value : α) : Neutral (Pure.pure value : Owned σ κ α) := fun _ => .pure value

theorem raise (error : Exn) : Neutral (Proc.raise error : Owned σ κ α) := fun _ => .raise error

theorem get : Neutral (Proc.get : Owned σ κ (BootloaderConnection σ (Owner κ))) := fun _ => .get

theorem modify {f : BootloaderConnection σ (Owner κ) → BootloaderConnection σ (Owner κ)}
    (hlocked : ∀ w, (f w).locked = w.locked)
    (hclient : ∀ w, (f w).client.reacquired = w.client.reacquired) :
    Neutral (Proc.modify f : Owned σ κ Unit) :=
  fun _ => .modify fun w h => ⟨(hlocked w).trans h.locked, (hclient w).trans h.reacquired⟩

theorem disciplined {m : Owned σ κ α} (h : Neutral m) : Disciplined m := by
  intro w hw
  exact (h false).wp hw.holding (fun _ _ h => h.idle) (fun _ _ h => h.idle)
    (fun _ h => h.reacquired)

theorem inner (R : Runtime σ) (fuel : Nat) (call : Call) :
    Neutral (inner R fuel call : Owned σ κ Bytes) := by
  intro locked w hw
  unfold BootloaderConnection.inner
  rw [wp_always_iff]
  exact ⟨hw.locked, hw.reacquired⟩

theorem transportSend (R : Runtime σ) (raw : Bytes) :
    Neutral (transportSend R raw : Owned σ κ Unit) := by
  intro locked w hw
  apply wp_transportSend
  · exact fun _ => ⟨hw.locked, hw.reacquired⟩
  · exact fun _ _ => ⟨hw.locked, hw.reacquired⟩

theorem getMavlink : Neutral (getMavlink : Owned σ κ MAVLink) := by
  refine .bind .get fun w => ?_
  cases w.client.mavlink with
  | some mavlink => exact .pure mavlink
  | none => exact .bind (.modify (fun _ => rfl) fun _ => rfl) fun _ => .pure _

theorem setMavlink (mavlink : MAVLink) : Neutral (setMavlink mavlink : Owned σ κ Unit) :=
  .modify (fun _ => rfl) fun _ => rfl

theorem setMode (mode : Mode) :
    Neutral (Proc.modify fun w => { w with mode := mode } : Owned σ κ Unit) :=
  .modify (fun _ => rfl) fun _ => rfl

theorem onCaller (f : κ → κ) : Neutral (onCaller f : Owned σ κ Unit) :=
  .modify (fun _ => rfl) fun _ => rfl

theorem ofExcept (result : Except Exn α) : Neutral (ofExcept result : Owned σ κ α) := by
  cases result with
  | ok value => exact .pure value
  | error error => exact .raise error

theorem sendMavlinkMessage (sha256 : Bytes → Bytes) (R : Runtime σ) (body : MessageBody) :
    Neutral (sendMavlinkMessage sha256 R body : Owned σ κ Unit) := by
  refine .bind .getMavlink fun mavlink => ?_
  cases mavlink.encode sha256 body true with
  | error error => exact .raise _
  | ok encoded => exact .bind (.setMavlink _) fun _ => .transportSend R _

theorem transportReceive (R : Runtime σ) (timeout : Nat) :
    Neutral (transportReceive R timeout : Owned σ κ Bytes) := by
  intro locked w hw
  rw [wp_always_iff]
  unfold BootloaderConnection.transportReceive
  rcases R.receive timeout w.link.transport with ⟨outcome, s⟩
  cases outcome with
  | never => exact ⟨hw.locked, hw.reacquired⟩
  | ended result => cases result <;> exact ⟨hw.locked, hw.reacquired⟩

theorem parseReceived (sha256 : Bytes → Bytes) (fuel : Nat) (data : Bytes) :
    Neutral (parseReceived sha256 fuel data : Owned σ κ (List MAVLinkMessage)) := by
  refine .bind .getMavlink fun mavlink => ?_
  rcases mavlink.parseBuffer sha256 fuel data with _ | ⟨result, mavlink⟩
  · exact fun _ _ hw => hw
  · refine .bind (.setMavlink mavlink) fun _ => ?_
    cases result with
    | error error => exact .raise _
    | ok messages => exact .pure _

theorem heartbeatPass (sha256 : Bytes → Bytes) (R : Runtime σ) (fuel timeout : Nat) (pass : Unit) :
    Neutral (heartbeatPass sha256 R fuel timeout pass :
      Owned σ κ (Unit ⊕ MAVLinkMessage)) := by
  refine .bind (.transportReceive R timeout) fun data => ?_
  refine .bind (.parseReceived sha256 fuel data) fun messages => ?_
  cases messages.find? MAVLink.isHeartbeat with
  | some message => exact .pure _
  | none => exact .pure _

theorem waitForHeartbeat (sha256 : Bytes → Bytes) (R : Runtime σ) (fuel timeout : Nat) :
    Neutral (waitForHeartbeat sha256 R fuel timeout : Owned σ κ MAVLinkMessage) :=
  .bind .getMavlink fun _ locked =>
    .loop (fun pass => heartbeatPass sha256 R fuel timeout pass locked) fuel ()

theorem flashBootloader (sha256 : Bytes → Bytes) (R : Runtime σ) :
    Neutral (flashBootloader sha256 R : Owned σ κ Unit) := by
  unfold BootloaderConnection.flashBootloader
  exact .sendMavlinkMessage sha256 R _

theorem resetToFactoryDefaults (sha256 : Bytes → Bytes) (R : Runtime σ) :
    Neutral (resetToFactoryDefaults sha256 R : Owned σ κ Unit) := by
  unfold BootloaderConnection.resetToFactoryDefaults
  exact .sendMavlinkMessage sha256 R _

theorem sendMavlinkRebootCommand (R : Runtime σ) (toBootloader : Bool) :
    Neutral (sendMavlinkRebootCommand R toBootloader : Owned σ κ Unit) := by
  unfold BootloaderConnection.sendMavlinkRebootCommand
  split_ifs <;> exact .transportSend R _

end Neutral

theorem Disciplined.bind {m : Owned σ κ α} {next : α → Owned σ κ β} (hm : Disciplined m)
    (hnext : ∀ value, Disciplined (next value)) : Disciplined (m >>= next) := by
  intro w hw
  rw [wp_bind]
  exact wp_mono (hm w hw) (fun value w h => hnext value w h) (fun _ _ h => h) (fun _ h => h)

/-! ## Taking the lock -/

/-- A lock under which a body that leaves the lock alone is disciplined. -/
def Guards (lock : Locking σ κ) : Prop :=
  ∀ (α : Type) (body : Owned σ κ α), Preserves (Holding true) body → Disciplined (lock α body)

theorem plainLock_guards (R : Runtime σ) : Guards (plainLock R : Locking σ κ) := by
  intro α body hbody w hw
  apply wp_withLock
  · intro hheld
    exact absurd (hw.locked.symm.trans hheld) Bool.false_ne_true
  · exact fun _ _ _ => ⟨hw.locked, hw.reacquired⟩
  · intro _ s _
    have hholding : Holding true { w with link.transport := s, locked := true } :=
      ⟨rfl, hw.reacquired⟩
    exact hbody.wp hholding (fun _ w h => ⟨rfl, h.reacquired⟩) (fun _ w h => ⟨rfl, h.reacquired⟩)
      (fun _ h => h.reacquired)

theorem observedLock_free (R : Runtime σ) (body : Owned σ κ α)
    {w : BootloaderConnection σ (Owner κ)} (hw : Idle w) :
    observedLock R α body w = withLock R body w := by
  have hor : (w.client.reacquired || w.locked) = w.client.reacquired := by
    rw [hw.locked, Bool.or_false]
  have hsame : { w with client.reacquired := w.client.reacquired || w.locked } = w := by rw [hor]
  exact congrArg (withLock R body) hsame

theorem observedLock_guards (R : Runtime σ) : Guards (observedLock R : Locking σ κ) := by
  intro α body hbody w hw
  rw [wp_of_eq (observedLock_free R body hw)]
  exact plainLock_guards R α body hbody w hw

theorem plainLock_held (R : Runtime σ) (body : Owned σ κ α)
    {w : BootloaderConnection σ (Owner κ)} (hw : w.locked = true) :
    plainLock R α body w =
      (.raised (.runtimeError "Attempted to acquire an already held Lock"), w) := by
  unfold plainLock withLock
  rw [Proc.get_bind, hw]
  rfl

theorem observedLock_held (R : Runtime σ) (body : Owned σ κ α)
    {w : BootloaderConnection σ (Owner κ)} (hw : w.locked = true) :
    observedLock R α body w = (.raised (.runtimeError "Attempted to acquire an already held Lock"),
      { w with client.reacquired := true }) := by
  have hor : (w.client.reacquired || w.locked) = true := by rw [hw, Bool.or_true]
  have hnoted : { w with client.reacquired := w.client.reacquired || w.locked } =
      { w with client.reacquired := true } := by rw [hor]
  exact (congrArg (withLock R body) hnoted).trans (plainLock_held R body hw)

theorem plainLock_refuses (R : Runtime σ) (body : Owned σ κ α) :
    Preserves (Holding true) (plainLock R α body) := by
  intro w hw
  rw [wp_always_iff, plainLock_held R body hw.locked]
  exact hw

/-! ## The operations -/

section

variable {lock : Locking σ κ} {R : Runtime σ} {sha256 : Bytes → Bytes}

theorem Guards.command (h : Guards lock) (fuel : Nat) (call : Call) :
    Disciplined (lockedCommand R lock fuel call) :=
  h Bytes _ (Neutral.inner R fuel call true)

theorem Disciplined.done {m : Owned σ κ α} (hm : Disciplined m) :
    Disciplined (m >>= fun _ => pure () : Owned σ κ Unit) :=
  hm.bind fun _ => (Neutral.pure ()).disciplined

theorem Guards.serialNumberWord (h : Guards lock) (fuel address : Nat) :
    Disciplined (lockedSerialNumberWord R lock fuel address) :=
  (Neutral.ofExcept _).disciplined.bind fun _ =>
    (h.command fuel _).bind fun _ => (Neutral.pure _).disciplined

theorem Guards.ensureInBootloader (h : Guards lock) (fuel : Nat) (onRebooted : κ → κ) :
    Disciplined (lockedEnsureInBootloader R lock fuel onRebooted) := by
  refine .bind (h Unit _ ?_) fun _ => (Neutral.setMode .bootloader).disciplined
  refine .catching ?_ ?_
  · exact .bind (Neutral.inner R fuel _ true) fun _ => .pure _
  · intro error next hnext
    split_ifs at hnext
    cases hnext
    refine .bind (Neutral.sendMavlinkRebootCommand R true true) fun _ => ?_
    refine .bind (Neutral.onCaller onRebooted true) fun _ => ?_
    exact .bind (Neutral.inner R fuel _ true) fun _ => .pure _

theorem Guards.reboot (h : Guards lock) (fuel : Nat) (toBootloader : Bool) :
    Disciplined (lockedReboot R lock fuel toBootloader) := by
  refine Neutral.get.disciplined.bind fun w => ?_
  cases w.mode with
  | mavlink => exact (Neutral.sendMavlinkRebootCommand R toBootloader).disciplined
  | bootloader =>
      dsimp only
      split_ifs
      · exact (Neutral.raise _).disciplined
      · exact (h.command fuel _).done
  | unknown => exact (Neutral.raise _).disciplined

/-- Every operation is disciplined, up to what one of them does without a heartbeat. -/
theorem Guards.perform (h : Guards lock) (fuel : Nat) (op : Operation κ)
    {w : BootloaderConnection σ (Owner κ)} (hw : Idle w)
    (hmavlink : ∀ onRebooted timeout, op = .ensureInMavlink onRebooted timeout →
      wp (lockedEnsureInMavlink sha256 R lock fuel onRebooted timeout) lockPost w) :
    wp (perform sha256 R lock fuel op) lockPost w := by
  cases op with
  | ensureInBootloader onRebooted => exact h.ensureInBootloader fuel onRebooted w hw
  | ensureInMavlink onRebooted timeout => exact hmavlink onRebooted timeout rfl
  | eraseFlashMemory => exact (h.command fuel _).done w hw
  | getDeviceInfo item => exact (h.command fuel _).done w hw
  | getChipDescription => exact (h.command fuel _).done w hw
  | getFlashMemoryCrc => exact (h.command fuel _).done w hw
  | getWritePointer => exact (h.command fuel _).done w hw
  | getSerialNumber =>
      refine Disciplined.bind (h.serialNumberWord fuel 0) (fun _ => ?_) w hw
      exact (h.serialNumberWord fuel 4).bind fun _ => (h.serialNumberWord fuel 8).done
  | programBytes data =>
      refine Disciplined.bind (Neutral.ofExcept _).disciplined (fun _ => ?_) w hw
      exact (h.command fuel _).done
  | reboot toBootloader => exact h.reboot fuel toBootloader w hw
  | flashBootloader => exact (Neutral.flashBootloader sha256 R).disciplined w hw
  | resetToFactoryDefaults => exact (Neutral.resetToFactoryDefaults sha256 R).disciplined w hw

end

/-! ## Asking for the main firmware -/

section

variable {sha256 : Bytes → Bytes} {R : Runtime σ} {lock : Locking σ κ} {fuel timeout : Nat}
  {onRebooted : κ → κ} {w : BootloaderConnection σ (Owner κ)}

/-- With the lock of the code the boot command is refused, and the operation fails. -/
theorem heartbeatOrReboot_plainLock :
    Preserves (Holding true)
      (heartbeatOrReboot sha256 R (plainLock R) fuel onRebooted timeout) := by
  refine .catching (.bind (Neutral.waitForHeartbeat sha256 R fuel timeout true) fun _ => .pure _) ?_
  intro error next hnext
  split_ifs at hnext
  cases hnext
  exact .bind (plainLock_refuses R _) fun _ => Neutral.onCaller onRebooted true

theorem heartbeatOrReboot_returns (hw : Holding true w) :
    wp (heartbeatOrReboot sha256 R (plainLock R) fuel onRebooted timeout)
      (.ifReturns fun _ _ => HearsFrom sha256 R timeout (mavlinkOf w) w.link.transport) w := by
  unfold heartbeatOrReboot
  rw [wp_catching, wp_bind]
  have hneutral := Neutral.waitForHeartbeat sha256 R fuel timeout true w hw
  refine wp_mono (wp_and wp_waitForHeartbeat hneutral) (fun _ _ h => h.1) ?_ (fun _ _ => trivial)
  intro error w' h
  dsimp only
  split_ifs
  · change wp (plainLock R Bytes _ >>= _) _ _
    rw [wp_of_eq (Proc.bind_of_raised (plainLock_held R _ h.2.locked) _)]
    trivial
  · trivial

/-- Without a reason to boot the main firmware the lock is not asked for again. -/
theorem wp_heartbeatOrReboot (hw : Holding true w)
    (hheard : ¬ MissesFrom sha256 R timeout (mavlinkOf w) w.link.transport) :
    wp (heartbeatOrReboot sha256 R lock fuel onRebooted timeout) (.always (Holding true)) w := by
  unfold heartbeatOrReboot
  rw [wp_catching, wp_bind]
  have hneutral := Neutral.waitForHeartbeat sha256 R fuel timeout true w hw
  refine wp_mono (wp_and wp_waitForHeartbeat hneutral) (fun _ _ h => h.2) ?_ (fun _ h => h.2)
  intro error w' h
  dsimp only
  have hother : ¬ (error = .timeoutError ∨ error = .excessDataError) :=
    fun hends => hheard (h.1 hends)
  rw [if_neg hother]
  exact h.2

theorem wp_heartbeatOrReboot_missed (onRebooted : κ → κ) (hw : Holding true w)
    (hmiss : MissesFrom sha256 R timeout (mavlinkOf w) w.link.transport) :
    ∃ fuel, wp (heartbeatOrReboot sha256 R (observedLock R) fuel onRebooted timeout)
      ⟨fun _ _ => False, fun _ w => w.client.reacquired = true, fun _ => False⟩ w := by
  obtain ⟨fuel, error, w', hends, hwait⟩ := waitForHeartbeat_missed hmiss
  have hheld : Holding true w' := by
    have hneutral := Neutral.waitForHeartbeat sha256 R fuel timeout true w hw
    rwa [wp_always_iff, hwait] at hneutral
  refine ⟨fuel, ?_⟩
  unfold heartbeatOrReboot
  rw [wp_catching, wp_of_eq (Proc.bind_of_raised hwait _)]
  dsimp only [Post.Holds]
  rw [if_pos (show error = .timeoutError ∨ error = .excessDataError from hends)]
  change wp (observedLock R Bytes _ >>= _) _ _
  rw [wp_of_eq (Proc.bind_of_raised (observedLock_held R _ hheld.locked) _)]
  rfl

end

/-! ## Runs of operations -/

/-- The states of a connection that one task uses, between its operations. -/
inductive Reachable (sha256 : Bytes → Bytes) (R : Runtime σ) :
    BootloaderConnection σ (Owner κ) → Prop where
  | opened (s : σ) (caller : κ) (systemId : Nat) : Reachable sha256 R
      { link := { protocol := .new, transport := s }, client := { caller, systemId } }
  | passed (s : σ) {w : BootloaderConnection σ (Owner κ)} (before : Reachable sha256 R w) :
      Reachable sha256 R { w with link.transport := s }
  | performed {w w' : BootloaderConnection σ (Owner κ)} {fuel : Nat} {op : Operation κ}
      {outcome : Outcome Exn Unit} (before : Reachable sha256 R w)
      (run : perform sha256 R (plainLock R) fuel op w = (outcome, w'))
      (ended : outcome.ended) : Reachable sha256 R w'

section

variable {sha256 : Bytes → Bytes} {R : Runtime σ} {w : BootloaderConnection σ (Owner κ)}

theorem plainLock_disciplined (fuel : Nat) (op : Operation κ) (hw : Idle w) :
    wp (perform sha256 R (plainLock R) fuel op) lockPost w := by
  refine (plainLock_guards R).perform fuel op hw fun onRebooted timeout _ => ?_
  refine Disciplined.bind ?_ (fun _ => (Neutral.setMode .mavlink).disciplined) w hw
  exact plainLock_guards R Unit _ heartbeatOrReboot_plainLock

theorem Reachable.idle (h : Reachable sha256 R w) : Idle w := by
  induction h with
  | opened s caller systemId => exact ⟨rfl, rfl⟩
  | passed s before ih => exact ⟨ih.locked, ih.reacquired⟩
  | @performed w w' fuel op outcome before run ended ih =>
      have hpost := @plainLock_disciplined _ _ sha256 R _ fuel op ih
      rw [wp_of_eq run] at hpost
      cases outcome with
      | ok value => exact hpost
      | raised error => exact hpost
      | running => exact ended.elim

end

/-- What `ensure_in_mavlink` promises when it returns: a heartbeat was received, or the device was
told to boot and `on_rebooted` was called. -/
def Announced (sha256 : Bytes → Bytes) (R : Runtime σ) (fuel : Nat) (op : Operation κ)
    (w : BootloaderConnection σ (Owner κ)) : Prop :=
  ∀ onRebooted timeout, op = .ensureInMavlink onRebooted timeout →
    wp (perform sha256 R (plainLock R) fuel op) (.ifReturns fun _ w' =>
      (∃ s, R.checkpoint w.link.transport = (.done, s) ∧
        HearsFrom sha256 R timeout (mavlinkOf w) s) ∨
      ∃ back raw synced, w'.link.trace = w.link.trace ++ back ∧
        Command.reboot.toBytes = .ok raw ∧ .sent .command raw synced .done ∈ back ∧
        w'.client.caller = onRebooted w.client.caller) w

/-- The operation is the wait for a heartbeat, it gets the lock, and none is received in time. -/
def MissesHeartbeat (sha256 : Bytes → Bytes) (R : Runtime σ)
    (w : BootloaderConnection σ (Owner κ)) : Operation κ → Prop
  | .ensureInMavlink _ timeout => ∃ s, R.checkpoint w.link.transport = (.done, s) ∧
      MissesFrom sha256 R timeout (mavlinkOf w) s
  | _ => False

section

variable {sha256 : Bytes → Bytes} {R : Runtime σ} {w : BootloaderConnection σ (Owner κ)}

theorem Idle.announced (hw : Idle w) (fuel : Nat) (op : Operation κ) :
    Announced sha256 R fuel op w := by
  intro onRebooted timeout hop
  subst hop
  have hheard : wp
      (plainLock R Unit (heartbeatOrReboot sha256 R (plainLock R) fuel onRebooted timeout))
      (.ifReturns fun _ _ => ∃ s, R.checkpoint w.link.transport = (.done, s) ∧
        HearsFrom sha256 R timeout (mavlinkOf w) s) w := by
    apply wp_withLock
    · exact fun _ => trivial
    · exact fun _ _ _ => trivial
    · intro _ s hs
      have hheld : Holding true { w with link.transport := s, locked := true } :=
        ⟨rfl, hw.reacquired⟩
      refine wp_mono (heartbeatOrReboot_returns hheld) ?_ (fun _ _ _ => trivial)
        (fun _ _ => trivial)
      exact fun _ _ h => ⟨s, hs, h⟩
  exact wp_bind_ifReturns hheard fun _ _ h => .inl h

theorem Idle.lockKept (hw : Idle w) {op : Operation κ} (hheard : ¬ MissesHeartbeat sha256 R w op)
    (fuel : Nat) : wp (perform sha256 R (observedLock R) fuel op) lockPost w := by
  refine (observedLock_guards R).perform fuel op hw fun onRebooted timeout hop => ?_
  subst hop
  unfold lockedEnsureInMavlink
  rw [wp_bind, wp_of_eq (observedLock_free R _ hw)]
  change wp (withLock R _) _ w
  apply wp_withLock
  · intro hheld
    exact absurd (hw.locked.symm.trans hheld) Bool.false_ne_true
  · exact fun _ _ _ => ⟨hw.locked, hw.reacquired⟩
  · intro _ s hs
    have hheld : Holding true { w with link.transport := s, locked := true } :=
      ⟨rfl, hw.reacquired⟩
    refine wp_mono (wp_heartbeatOrReboot hheld fun hmiss => hheard ⟨s, hs, hmiss⟩) ?_ ?_ ?_
    · exact fun _ _ h => ⟨rfl, h.reacquired⟩
    · exact fun _ _ h => ⟨rfl, h.reacquired⟩
    · exact fun _ h => h.reacquired

theorem Idle.reacquires (hw : Idle w) {op : Operation κ} (hmiss : MissesHeartbeat sha256 R w op) :
    ∃ fuel, wp (perform sha256 R (observedLock R) fuel op)
      ⟨fun _ _ => False, fun _ w => w.client.reacquired = true, fun _ => False⟩ w := by
  cases op with
  | ensureInMavlink onRebooted timeout =>
      obtain ⟨s, hs, hmiss⟩ := hmiss
      have hheld : Holding true { w with link.transport := s, locked := true } :=
        ⟨rfl, hw.reacquired⟩
      obtain ⟨fuel, hrun⟩ := wp_heartbeatOrReboot_missed onRebooted hheld hmiss
      refine ⟨fuel, ?_⟩
      change wp (lockedEnsureInMavlink sha256 R _ fuel onRebooted timeout) _ w
      unfold lockedEnsureInMavlink
      rw [wp_bind, wp_of_eq (observedLock_free R _ hw)]
      change wp (withLock R _) _ w
      apply wp_withLock
      · intro hlocked
        exact absurd (hw.locked.symm.trans hlocked) Bool.false_ne_true
      · intro error s' hs'
        rw [hs] at hs'
        cases hs'
      · intro _ s' hs'
        rw [hs] at hs'
        cases hs'
        exact wp_mono hrun (fun _ _ h => h.elim) (fun _ _ h => h) (fun _ h => h)
  | _ => exact hmiss.elim

/-- The lock is taken at most once by an operation, and its promises are kept, unless the operation
misses the heartbeat that it waits for. -/
theorem lock_kept_iff (hw : Reachable sha256 R w) (op : Operation κ) :
    (∀ fuel, wp (perform sha256 R (observedLock R) fuel op) lockPost w ∧
        Announced sha256 R fuel op w) ↔ ¬ MissesHeartbeat sha256 R w op := by
  constructor
  · intro hkept hmiss
    obtain ⟨fuel, hrun⟩ := hw.idle.reacquires hmiss
    have hboth := wp_and (hkept fuel).1 hrun
    rcases hend : perform sha256 R (observedLock R) fuel op w with ⟨outcome, w'⟩
    rw [wp_of_eq hend] at hboth
    cases outcome with
    | ok value => exact hboth.2
    | raised error => exact absurd (hboth.1.reacquired.symm.trans hboth.2) Bool.false_ne_true
    | running => exact hboth.2
  · intro hheard fuel
    exact ⟨hw.idle.lockKept hheard fuel, hw.idle.announced fuel op⟩

end

/-- A device that sends nothing, behind a transport that accepts every send. -/
def silent : Runtime (List (Except Exn Bytes)) :=
  { scripted with checkpoint := fun script => (.done, script), mavlinkReboot := [] }

def opened : BootloaderConnection (List (Except Exn Bytes)) (Owner Unit) :=
  { link := { protocol := .new, transport := [] }, client := { caller := () } }

/-- A new connection to a vehicle, whose heartbeat comes behind the reply of a bootloader. -/
def openedToVehicle : BootloaderConnection (List (Except Exn Bytes)) (Owner Unit) :=
  { link := { protocol := .new, transport := [.ok [0x12, 0x10], .ok vehicleHeartbeat] }
    client := { caller := () } }

theorem vehicle_heard_behind_noise :
    HearsFrom id silent 2000 (mavlinkOf openedToVehicle) openedToVehicle.link.transport :=
  ⟨3, [[0x12, 0x10], vehicleHeartbeat], [], _, _, .cons rfl (.cons rfl (.nil _)), rfl⟩

theorem lock_kept_ensureInMavlink :
    wp (perform id silent (observedLock silent) 60 (.ensureInMavlink id 2000)) lockPost
        openedToVehicle ∧
      Announced id silent 60 (.ensureInMavlink id 2000) openedToVehicle := by
  refine (lock_kept_iff (.opened _ () 254) _).mpr ?_ 60
  rintro ⟨s, hs, hmiss⟩
  cases hs
  exact vehicle_heard_behind_noise.not_misses hmiss

/-- Asked for the main firmware, the connection to a silent device asks for its lock twice and
fails. -/
theorem lock_reacquired_silent :
    (∃ w, perform id silent (plainLock silent) 1 (.ensureInMavlink id 2000) opened =
        (.raised (.runtimeError "Attempted to acquire an already held Lock"), w)) ∧
      ¬ ∀ w : BootloaderConnection (List (Except Exn Bytes)) (Owner Unit), Reachable id silent w →
        ∀ op fuel, wp (perform id silent (observedLock silent) fuel op) lockPost w ∧
          Announced id silent fuel op w := by
  refine ⟨⟨_, rfl⟩, fun hkept => ?_⟩
  have hpost := (hkept opened (.opened [] () 254) (.ensureInMavlink id 2000) 1).1
  have hnoted : (perform id silent (observedLock silent) 1 (.ensureInMavlink id 2000)
      opened).2.client.reacquired = true := rfl
  have hraised : (perform id silent (observedLock silent) 1 (.ensureInMavlink id 2000)
      opened).1 = .raised (.runtimeError "Attempted to acquire an already held Lock") := rfl
  rw [wp_of_eq (Prod.ext hraised rfl)] at hpost
  exact Bool.false_ne_true (hpost.reacquired.symm.trans hnoted)

end ApUploader.BootloaderConnection
