import ApUploader.Connection.Exchange
import ApUploader.Uploader.Upload

/-! # Uploads to a device that answers at once

`ServesUpload` is what an upload needs of the device behind a wire: a reply to each
command of the sequence, and states that follow the image chunk by chunk. Over such
a device the upload completes, whatever the checksum the device reports.
-/

namespace ApUploader

open Effect Protocol BootloaderConnection

variable {δ : Type}

structure ServesUpload (respond : Bytes → δ → Bytes × δ) (image : Bytes)
    (flashSize blRev crc : Nat) (start : δ) (programmed : Nat → δ → Prop) (final : δ → Prop) :
    Prop where
  sync : ServesSync respond start
  boardId : ∃ payload, Serves respond (.getDeviceInfo .boardId) payload start start
  flashSize : ∃ payload, LittleEndian.decode payload = flashSize ∧
    Serves respond (.getDeviceInfo .flashSize) payload start start
  revision : ∃ payload, LittleEndian.decode payload = blRev ∧
    Serves respond (.getDeviceInfo .blRev) payload start start
  boardRevision : ∃ payload, Serves respond (.getDeviceInfo .boardRev) payload start start
  serialNumber : ∀ address, address < 256 ^ 4 →
    ∃ word, Serves respond ⟨.getSn, LittleEndian.encode 4 address⟩ word start start
  erase : ∃ payload d, Serves respond .eraseFlashMemory payload start d ∧ programmed 0 d
  program : ∀ k d, programmed k d → k < image.length → ∃ payload d',
    Serves respond ⟨.progMulti, chunkAt image k⟩ payload d d' ∧
      programmed (k + (chunkAt image k).length) d'
  crc : ∀ d, programmed image.length d → ∃ payload, LittleEndian.decode payload = crc ∧
    Serves respond .getCrc payload d d
  reboot : ∀ d, programmed image.length d → ∃ payload d',
    Serves respond .reboot payload d d' ∧ final d'

structure Undisturbed (S : Session (Wire δ)) (respond : Bytes → δ → Bytes × δ) (cut : Nat → Nat)
    (silence : ReceiveOutcome) : Prop extends OverWire S.toRuntime respond cut silence where
  createTransport : ∀ s, S.createTransport s = (.done, s)
  enter : ∀ s, S.enter s = (.done, s)
  exit : ∀ s, S.exit s = (.done, s)

def wireSession (respond : Bytes → δ → Bytes × δ) (cut : Nat → Nat) (silence : ReceiveOutcome)
    (mavlinkReboot : Bytes) (eraseProgress : Wire δ → List ℚ) : Session (Wire δ) where
  toTransport := wireTransport respond cut silence
  checkpoint s := (.done, s)
  mavlinkReboot := mavlinkReboot
  createTransport s := (.done, s)
  enter s := (.done, s)
  exit s := (.done, s)
  eraseProgress := eraseProgress

theorem wireSession_undisturbed (respond : Bytes → δ → Bytes × δ) (cut : Nat → Nat)
    (silence : ReceiveOutcome) (mavlinkReboot : Bytes) (eraseProgress : Wire δ → List ℚ) :
    Undisturbed (wireSession respond cut silence mavlinkReboot eraseProgress) respond cut
      silence :=
  ⟨⟨rfl, fun _ => rfl⟩, fun _ => rfl, fun _ => rfl, fun _ => rfl⟩

/-- The task of an upload that has met no fault; `mismatch` is why it may have reported one. -/
structure OnTrack (expecting : Bool) (flashSize observedCrc : Option Nat) (mismatch : Prop)
    (task : UploadTask) : Prop where
  success : task.success = false
  cancelled : task.cancelled = false
  retrying : task.retrying = expecting
  flashSize : task.flashSize = flashSize
  observedCrc : task.observedCrc = observedCrc
  matched : ∀ expected observed, .crcMismatch expected observed ∈ task.events → mismatch

/-- The connection is idle, the task on track and the device where it should be. -/
def Underway (expecting : Bool) (flashSize observedCrc : Option Nat) (mismatch : Prop)
    (device : δ → Prop) (w : BootloaderConnection (Wire δ) UploadTask) : Prop :=
  ∃ d task, Idle d .bootloader task w ∧ device d ∧
    OnTrack expecting flashSize observedCrc mismatch task

theorem OnTrack.onEvents {expecting : Bool} {flashSize observedCrc : Option Nat} {mismatch : Prop}
    {task : UploadTask} (h : OnTrack expecting flashSize observedCrc mismatch task)
    {events : List UploaderEvent}
    (hevents : ∀ expected observed, .crcMismatch expected observed ∈ events → mismatch) :
    OnTrack expecting flashSize observedCrc mismatch
      { task with events := task.events ++ events } :=
  ⟨h.success, h.cancelled, h.retrying, h.flashSize, h.observedCrc, fun expected observed hmem =>
    (List.mem_append.mp hmem).elim (h.matched expected observed) (hevents expected observed)⟩

section Upload

variable {S : Session (Wire δ)} {respond : Bytes → δ → Bytes × δ} {cut : Nat → Nat}
  {silence : ReceiveOutcome} {firmware : Firmware} {size blRev crc : Nat} {start : δ}
  {programmed : Nat → δ → Prop} {final : δ → Prop} {expecting : Bool}
  {flashSize observedCrc : Option Nat} {mismatch : Prop} {device : δ → Prop}
  {w : BootloaderConnection (Wire δ) UploadTask}

open Uploader

/-- An update of the task keeps the connection underway. -/
theorem completes_update {f : UploadTask → UploadTask} {flashSize' observedCrc' : Option Nat}
    {mismatch' : Prop} (h : Underway expecting flashSize observedCrc mismatch device w)
    (hf : ∀ task, OnTrack expecting flashSize observedCrc mismatch task →
      OnTrack expecting flashSize' observedCrc' mismatch' (f task)) :
    Completes (fun _ => update f) w
      (fun _ w' => Underway expecting flashSize' observedCrc' mismatch' device w') := by
  obtain ⟨d, task, hidle, hdevice, htask⟩ := h
  refine .modify _ ⟨d, f task, ⟨hidle.link, hidle.unlocked, hidle.mode, ?_⟩, hdevice, hf task htask⟩
  exact congrArg f hidle.client

theorem completes_onEvent {event : UploaderEvent}
    (h : Underway expecting flashSize observedCrc mismatch device w)
    (hevent : ∀ expected observed, event = .crcMismatch expected observed → mismatch) :
    Completes (fun _ => onEvent event) w
      (fun _ w' => Underway expecting flashSize observedCrc mismatch device w') := by
  apply completes_update h
  intro task htask
  apply htask.onEvents
  intro expected observed hmem
  exact hevent expected observed (List.mem_singleton.mp hmem).symm

theorem completes_operation {α : Type} {m : Nat → Upload (Wire δ) α} {device' : δ → Prop}
    {result : α → Prop} (h : Underway expecting flashSize observedCrc mismatch device w)
    (hm : ∀ d task, device d → Idle d .bootloader task w →
      Completes m w (fun value w' => result value ∧
        ∃ d', device' d' ∧ Idle d' .bootloader task w')) :
    Completes m w (fun value w' => result value ∧
      Underway expecting flashSize observedCrc mismatch device' w') := by
  obtain ⟨d, task, hidle, hdevice, htask⟩ := h
  refine (hm d task hdevice hidle).mono ?_
  rintro value w' ⟨hvalue, d', hdevice', hidle'⟩
  exact ⟨hvalue, d', task, hidle', hdevice', htask⟩

theorem completes_eraseInTaskGroup (hS : Undisturbed S respond cut silence)
    (hserves : ∃ payload d, Serves respond .eraseFlashMemory payload start d ∧ device d)
    (h : Underway expecting flashSize observedCrc mismatch (fun d => d = start) w) :
    Completes (fun fuel => eraseInTaskGroup S fuel) w
      (fun _ w' => Underway expecting flashSize observedCrc mismatch device w') := by
  obtain ⟨payload, d', hserves, hdevice'⟩ := hserves
  unfold eraseInTaskGroup
  refine .step rfl ?_
  have hticks : Completes (fun _ => update (fun task =>
      { task with events := task.events ++ (S.eraseProgress w.link.transport).map .progress })) w
      (fun _ w' => Underway expecting flashSize observedCrc mismatch (fun d => d = start) w') := by
    apply completes_update h
    intro task htask
    apply htask.onEvents
    intro expected observed hmem
    obtain ⟨_, _, hevent⟩ := List.mem_map.mp hmem
    cases hevent
  refine .bind hticks fun _ w₁ h₁ => ?_
  have herase : Completes (fun fuel => eraseFlashMemory S.toRuntime fuel) w₁
      (fun value w' => True ∧ Underway expecting flashSize observedCrc mismatch device w') := by
    apply completes_operation h₁
    rintro _ task rfl hidle
    refine (completes_eraseFlashMemory hS.toOverWire hidle hserves).mono ?_
    exact fun _ _ hidle' => ⟨trivial, d', hdevice', hidle'⟩
  refine .bind herase.catching fun _ w₂ h₂ => ?_
  exact .of_eq (awaiting_done (hS.checkpoint _)) h₂.2

theorem completes_prepare (hS : Undisturbed S respond cut silence)
    (hserves : ServesUpload respond firmware.image size blRev crc start programmed final)
    (hrev : 4 ≤ blRev) (hnew : w.link.protocol = .new) (hdevice : w.link.transport.device = start)
    (hpending : w.link.transport.pending = []) (hunlocked : w.locked = false)
    (htask : OnTrack expecting none none False w.client) :
    Completes (fun fuel => prepare S fuel) w
      (fun value w' => value = (size, blRev) ∧
        Underway expecting (some size) none False (programmed 0) w') := by
  obtain ⟨_, hboardId⟩ := hserves.boardId
  obtain ⟨sizePayload, hsize, hflashSize⟩ := hserves.flashSize
  obtain ⟨revPayload, hblRev, hrevision⟩ := hserves.revision
  obtain ⟨_, hboardRevision⟩ := hserves.boardRevision
  unfold prepare
  refine .bind (completes_ensureInBootloader hS.toOverWire hnew hdevice hpending hunlocked
    hserves.sync hboardId) fun _ w₁ h₁ => ?_
  refine .bind (completes_getDeviceInfo hS.toOverWire h₁ hflashSize) ?_
  rintro _ w₂ ⟨rfl, h₂⟩
  rw [hsize]
  have hstart : Underway expecting none none False (fun d => d = start) w₂ :=
    ⟨start, _, h₂, rfl, htask⟩
  have hrecord : Completes (fun _ => update fun task => { task with flashSize := some size }) w₂
      (fun _ w' => Underway expecting (some size) none False (fun d => d = start) w') :=
    completes_update hstart fun task h =>
      ⟨h.success, h.cancelled, h.retrying, rfl, h.observedCrc, h.matched⟩
  refine .bind hrecord ?_
  rintro _ w₃ ⟨_, task, h₃, rfl, htask₃⟩
  refine .bind (completes_getDeviceInfo hS.toOverWire h₃ hrevision) ?_
  rintro _ w₄ ⟨rfl, h₄⟩
  have hnotOld : ¬ LittleEndian.decode revPayload < 4 := by omega
  simp only [hnotOld, ↓reduceIte]
  refine .bind (completes_getDeviceInfo hS.toOverWire h₄ hboardId) ?_
  rintro _ w₅ ⟨_, h₅⟩
  refine .bind (completes_getDeviceInfo hS.toOverWire h₅ hboardRevision) ?_
  rintro _ w₆ ⟨_, h₆⟩
  refine .bind (completes_getSerialNumber hS.toOverWire h₆ hserves.serialNumber) fun _ w₇ h₇ => ?_
  have hunderway : Underway expecting (some size) none False (fun d => d = _) w₇ :=
    ⟨_, task, h₇, rfl, htask₃⟩
  refine .bind (completes_onEvent hunderway (by rintro _ _ ⟨⟩)) fun _ w₈ h₈ => ?_
  refine .bind (completes_eraseInTaskGroup hS hserves.erase h₈) fun _ w₉ h₉ => ?_
  exact .pure ⟨by rw [hblRev], h₉⟩

/-- The upload loop, from any chunk on. -/
theorem completes_uploadLoop (hS : Undisturbed S respond cut silence)
    (hserves : ServesUpload respond firmware.image size blRev crc start programmed final)
    {k : Nat} (hk : k ≤ firmware.image.length)
    (h : Underway expecting flashSize observedCrc mismatch (programmed k) w) :
    Completes.Loop (fun inner => uploadPass firmware.image blRev
        (programBytes S.toRuntime inner) (getWritePointer S.toRuntime inner)
        (fun progress => onEvent (.progress progress))) (some k) w
      (fun _ w' => Underway expecting flashSize observedCrc mismatch
        (programmed firmware.image.length) w') := by
  induction hrest : firmware.image.length - k using Nat.strong_induction_on
    generalizing k w with
  | _ rest ih =>
      by_cases hless : k < firmware.image.length
      · have hchunk : (chunkAt firmware.image k).length =
            min progMultiMaxPayloadLength (firmware.image.length - k) := by simp [chunkAt]
        unfold progMultiMaxPayloadLength at hchunk
        apply Completes.Loop.round
        simp only [uploadPass, unfinished, hless, decide_true, ↓reduceIte, locate]
        refine .step rfl ?_
        have hprogram : Completes (fun fuel => programBytes S.toRuntime fuel
            (chunkAt firmware.image k)) w (fun _ w' => True ∧ Underway expecting flashSize
              observedCrc mismatch (programmed (k + (chunkAt firmware.image k).length)) w') := by
          apply completes_operation h
          intro d task hdevice hidle
          obtain ⟨payload, d', hserved, hdevice'⟩ := hserves.program k d hdevice hless
          refine (completes_programBytes hS.toOverWire hidle ?_ hserved).mono ?_
          · unfold progMultiMaxPayloadLength
            omega
          · exact fun _ _ hidle' => ⟨trivial, d', hdevice', hidle'⟩
        have hacknowledged : Completes (fun fuel => acknowledged (programBytes S.toRuntime fuel
            (chunkAt firmware.image k))) w (fun known w' => known = true ∧ Underway expecting
              flashSize observedCrc mismatch
              (programmed (k + (chunkAt firmware.image k).length)) w') :=
          Completes.catching (.bind hprogram fun _ _ h => .pure ⟨rfl, h.2⟩)
        refine .bind hacknowledged ?_
        rintro _ w₁ ⟨rfl, h₁⟩
        simp only [↓reduceIte]
        refine .bind (completes_onEvent h₁ (by rintro _ _ ⟨⟩)) fun _ w₂ h₂ => ?_
        refine .pure ⟨_, rfl, ?_⟩
        exact ih (firmware.image.length - (k + (chunkAt firmware.image k).length)) (by omega)
          (by omega) h₂ rfl
      · have hend : k = firmware.image.length := by omega
        apply Completes.Loop.last
        simp only [uploadPass, unfinished, hless, decide_false, Bool.false_eq_true, ↓reduceIte]
        refine .pure ⟨(), rfl, ?_⟩
        rw [hend] at h
        exact h

/-- The verifying step reports a mismatch exactly when there is one, and goes on. -/
theorem completes_verify (hS : Undisturbed S respond cut silence)
    (hserves : ServesUpload respond firmware.image size blRev crc start programmed final)
    {padding : Nat} (hpadding : firmware.paddingLength size = .ok padding)
    (h : Underway expecting (some size) none False (programmed firmware.image.length) w) :
    Completes (fun fuel => verify S fuel firmware size) w
      (fun _ w' => Underway expecting (some size) (some crc)
        (crc32 (List.replicate padding 255) firmware.crc ≠ crc)
        (programmed firmware.image.length) w') := by
  unfold verify
  rw [hpadding]
  refine .step rfl ?_
  refine .step (awaiting_done (hS.checkpoint _)) ?_
  have hquery : Completes (fun fuel => getFlashMemoryCrc S.toRuntime fuel) w
      (fun value w' => value = crc ∧ Underway expecting (some size) none False
        (programmed firmware.image.length) w') := by
    apply completes_operation h
    intro d task hdevice hidle
    obtain ⟨payload, hcrc, hserved⟩ := hserves.crc d hdevice
    refine (completes_getFlashMemoryCrc hS.toOverWire hidle hserved).mono ?_
    rintro _ w' ⟨rfl, hidle'⟩
    exact ⟨hcrc, d, hdevice, hidle'⟩
  refine .bind hquery ?_
  rintro value w₁ ⟨hvalue, h₁⟩
  rw [hvalue]
  have hrecord : Completes (fun _ => update fun task => { task with observedCrc := some crc }) w₁
      (fun _ w' => Underway expecting (some size) (some crc)
        (crc32 (List.replicate padding 255) firmware.crc ≠ crc) (programmed firmware.image.length)
        w') :=
    completes_update h₁ fun task h =>
      ⟨h.success, h.cancelled, h.retrying, h.flashSize, rfl,
        fun expected observed hmem => (h.matched expected observed hmem).elim⟩
  refine .bind hrecord fun _ w₂ h₂ => ?_
  split_ifs with hne
  · exact completes_onEvent h₂ fun _ _ _ => hne
  · exact .pure h₂

theorem completes_upload (hS : Undisturbed S respond cut silence)
    (hserves : ServesUpload respond firmware.image size blRev crc start programmed final)
    (hrev : 4 ≤ blRev) {padding : Nat} (hpadding : firmware.paddingLength size = .ok padding)
    (hnew : w.link.protocol = .new) (hdevice : w.link.transport.device = start)
    (hpending : w.link.transport.pending = []) (hunlocked : w.locked = false)
    (htask : OnTrack expecting none none False w.client) :
    Completes (fun fuel => upload S fuel firmware) w (fun _ w' => ∃ d task,
      Idle d .bootloader { task with success := true } w' ∧ final d ∧
        OnTrack expecting (some size) (some crc)
          (crc32 (List.replicate padding 255) firmware.crc ≠ crc) task) := by
  unfold upload
  refine .bind (completes_prepare hS hserves hrev hnew hdevice hpending hunlocked htask) ?_
  rintro _ w₁ ⟨rfl, h₁⟩
  refine .bind (completes_onEvent h₁ (by rintro _ _ ⟨⟩)) fun _ w₂ h₂ => ?_
  refine .bind (.loop (completes_uploadLoop hS hserves (Nat.zero_le _) h₂)) fun _ w₃ h₃ => ?_
  refine .bind (completes_onEvent h₃ (by rintro _ _ ⟨⟩)) fun _ w₄ h₄ => ?_
  refine .bind (completes_verify hS hserves hpadding h₄) fun _ w₅ h₅ => ?_
  refine .bind (completes_onEvent h₅ (by rintro _ _ ⟨⟩)) fun _ w₆ h₆ => ?_
  have hreboot : Completes (fun fuel => reboot S.toRuntime fuel false) w₆
      (fun _ w' => True ∧ Underway expecting (some size) (some crc)
        (crc32 (List.replicate padding 255) firmware.crc ≠ crc) final w') := by
    apply completes_operation h₆
    intro d task hd hidle
    obtain ⟨payload, d', hserved, hfinal⟩ := hserves.reboot d hd
    refine (completes_reboot hS.toOverWire hidle hserved).mono ?_
    exact fun _ _ hidle' => ⟨trivial, d', hfinal, hidle'⟩
  refine .bind hreboot fun _ w₇ h₇ => ?_
  refine .bind (completes_onEvent h₇.2 (by rintro _ _ ⟨⟩)) fun _ w₈ h₈ => ?_
  obtain ⟨d, task, hidle, hfinal, hontrack⟩ := h₈
  refine .modify _ ⟨d, task, ⟨hidle.link, hidle.unlocked, hidle.mode, ?_⟩, hfinal, hontrack⟩
  simp only [hidle.client]

structure UploadSucceeded (expecting : Bool) (size crc : Nat) (mismatch : Prop)
    (task : UploadTask) : Prop where
  finished : ∃ events, task.events =
    events ++ [.lifecycle .finished (some true) (some false) (some expecting)]
  flashSize : task.flashSize = some size
  observedCrc : task.observedCrc = some crc
  matched : ∀ expected observed, .crcMismatch expected observed ∈ task.events → mismatch

/-- Creating, opening and closing the transport adds nothing to the upload. -/
theorem completes_connectAndUpload (hS : Undisturbed S respond cut silence)
    (hserves : ServesUpload respond firmware.image size blRev crc start programmed final)
    (hrev : 4 ≤ blRev) {padding : Nat} (hpadding : firmware.paddingLength size = .ok padding)
    (hdevice : w.link.transport.device = start) (hpending : w.link.transport.pending = [])
    (htask : OnTrack expecting none none False w.client) :
    Completes (fun fuel => connectAndUpload S fuel firmware) w (fun _ w' => ∃ d task,
      Idle d .bootloader { task with success := true } w' ∧ final d ∧
        OnTrack expecting (some size) (some crc)
          (crc32 (List.replicate padding 255) firmware.crc ≠ crc) task) := by
  unfold connectAndUpload
  refine .step (awaiting_done (hS.createTransport _)) ?_
  refine .step rfl ?_
  refine .step (awaiting_done (hS.enter _)) ?_
  refine .ensuring (completes_upload hS hserves hrev hpadding rfl hdevice hpending rfl htask) ?_
  intro _ w₂ h₂
  exact .of_eq (awaiting_done (hS.exit _)) h₂

/-- An upload to a serving device completes and reports success, also on a CRC mismatch. -/
theorem completes_uploadFirmware (expecting : Bool) (hS : Undisturbed S respond cut silence)
    (hserves : ServesUpload respond firmware.image size blRev crc start programmed final)
    (hrev : 4 ≤ blRev) {padding : Nat} (hpadding : firmware.paddingLength size = .ok padding)
    (hdevice : w.link.transport.device = start) (hpending : w.link.transport.pending = [])
    (htask : w.client = {}) :
    Completes (fun fuel => uploadFirmware S fuel (some firmware) expecting) w
      (fun _ w' => final w'.link.transport.device ∧ UploadSucceeded expecting size crc
        (crc32 (List.replicate padding 255) firmware.crc ≠ crc) w'.client) := by
  unfold uploadFirmware
  refine .step rfl ?_
  refine .step rfl ?_
  refine .step rfl ?_
  let started : UploadTask :=
    { events := [.lifecycle .started none none none, .step .connecting], retrying := expecting }
  have hstarted : OnTrack expecting none none False started :=
    ⟨rfl, rfl, rfl, rfl, rfl, by simp [started]⟩
  have hattempt := completes_connectAndUpload (w := { w with client := started })
    hS hserves hrev hpadding hdevice hpending hstarted
  simp only [htask]
  refine .ensuring hattempt.catching ?_
  rintro _ w₄ ⟨d, task, hidle, hfinal, hontrack⟩
  refine .step rfl ?_
  refine .modify _ ⟨?_, ⟨?_, ?_, ?_, ?_⟩⟩
  · rw [hidle.link.device]
    exact hfinal
  · refine ⟨task.events, ?_⟩
    simp [hidle.client, hontrack.cancelled, hontrack.retrying]
  · simp [hidle.client, hontrack.flashSize]
  · simp [hidle.client, hontrack.observedCrc]
  · intro expected observed hmem
    simp only [hidle.client, List.mem_append, List.mem_singleton, reduceCtorEq, or_false] at hmem
    exact hontrack.matched expected observed hmem

end Upload

end ApUploader
