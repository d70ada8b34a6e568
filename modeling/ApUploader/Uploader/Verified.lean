import ApUploader.Uploader.Frame
import ApUploader.Uploader.Served

/-! # What a reported success says about the flash memory

An upload that reports success has got past the computation of the expected
checksum, and nothing more: a mismatch is reported as an event and the upload goes
on. So a success means verified contents only where that computation always raises.
-/

namespace ApUploader

open Effect Protocol BootloaderConnection Uploader

def ReportsSuccess (task : UploadTask) : Prop :=
  ∃ cancelled retrying, .lifecycle .finished (some true) cancelled retrying ∈ task.events

/-- The image fits the reported flash size and the checksum the device returned is the one of the
image and the padding. -/
def Verified (firmware : Firmware) (task : UploadTask) : Prop :=
  ∃ size crc, task.flashSize = some size ∧ task.observedCrc = some crc ∧
    firmware.image.length ≤ size ∧
    crc = crc32 (firmware.image ++ List.replicate (size - firmware.image.length) 0xff) 0

/-- Whatever a device that reports this flash size does, a reported success is a verified one. -/
def SuccessMeansVerified (firmware : Firmware) (size : Nat) : Prop :=
  ∀ (σ : Type) (S : Session σ) (fuel : Nat) (expecting : Bool)
    (w : BootloaderConnection σ UploadTask), w.client = {} →
    (uploadFirmware S fuel (some firmware) expecting w).2.client.flashSize = some size →
    ReportsSuccess (uploadFirmware S fuel (some firmware) expecting w).2.client →
    Verified firmware (uploadFirmware S fuel (some firmware) expecting w).2.client

def ReportsMismatch (task : UploadTask) : Prop :=
  ∃ expected observed, .crcMismatch expected observed ∈ task.events

/-! ## Only an upload that has compared the checksums succeeds -/

def Compared (firmware : Firmware) (task : UploadTask) : Prop :=
  ∃ size padding crc, task.flashSize = some size ∧ firmware.paddingLength size = .ok padding ∧
    task.observedCrc = some crc ∧
    (ReportsMismatch task ↔ crc32 (List.replicate padding 255) firmware.crc ≠ crc)

structure UndecidedAt (flashSize observedCrc : Option Nat) (mismatch : Prop) (task : UploadTask) :
    Prop where
  success : task.success = false
  silent : ¬ ReportsSuccess task
  flashSize : task.flashSize = flashSize
  observedCrc : task.observedCrc = observedCrc
  mismatch : ReportsMismatch task ↔ mismatch

/-- The upload succeeds only behind the comparison. -/
structure Honest (firmware : Firmware) (task : UploadTask) : Prop where
  compared : task.success = true → Compared firmware task
  silent : ¬ ReportsSuccess task

variable {σ : Type} {firmware : Firmware} {flashSize observedCrc : Option Nat} {mismatch : Prop}
  {task : UploadTask}

theorem UndecidedAt.honest (h : UndecidedAt flashSize observedCrc mismatch task) :
    Honest firmware task := by
  refine ⟨fun hsuccess => ?_, h.silent⟩
  rw [h.success] at hsuccess
  cases hsuccess

theorem reportsSuccess_append {events : List UploaderEvent}
    (hevents : ∀ cancelled retrying,
      UploaderEvent.lifecycle .finished (some true) cancelled retrying ∉ events)
    (h : ReportsSuccess { task with events := task.events ++ events }) : ReportsSuccess task := by
  obtain ⟨cancelled, retrying, hmem⟩ := h
  rcases List.mem_append.mp hmem with hmem | hmem
  · exact ⟨cancelled, retrying, hmem⟩
  · exact (hevents cancelled retrying hmem).elim

section Events

variable {events : List UploaderEvent} (hevents : ∀ event ∈ events, event.decisive = false)
include hevents

theorem finished_not_mem (cancelled retrying : Option Bool) :
    UploaderEvent.lifecycle .finished (some true) cancelled retrying ∉ events := by
  intro hmem
  cases hevents _ hmem

theorem reportsMismatch_append :
    ReportsMismatch { task with events := task.events ++ events } ↔ ReportsMismatch task := by
  constructor
  · rintro ⟨expected, observed, hmem⟩
    rcases List.mem_append.mp hmem with hmem | hmem
    · exact ⟨expected, observed, hmem⟩
    · cases hevents _ hmem
  · rintro ⟨expected, observed, hmem⟩
    exact ⟨expected, observed, List.mem_append_left _ hmem⟩

theorem UndecidedAt.onEvents (h : UndecidedAt flashSize observedCrc mismatch task) :
    UndecidedAt flashSize observedCrc mismatch { task with events := task.events ++ events } :=
  ⟨h.success,
    fun hreports => h.silent (reportsSuccess_append (finished_not_mem hevents) hreports),
    h.flashSize, h.observedCrc, (reportsMismatch_append hevents).trans h.mismatch⟩

end Events

theorem Honest.finished (h : Honest firmware task) {cancelled retrying : Option Bool}
    (hreports : ReportsSuccess { task with
      events := task.events ++ [.lifecycle .finished (some task.success) cancelled retrying] }) :
    Compared firmware { task with
      events := task.events ++ [.lifecycle .finished (some task.success) cancelled retrying] } := by
  cases hsuccess : task.success with
  | true =>
      obtain ⟨size, padding, crc, hsize, hpadding, hcrc, hmismatch⟩ := h.compared hsuccess
      refine ⟨size, padding, crc, hsize, hpadding, hcrc, Iff.trans ?_ hmismatch⟩
      constructor
      · rintro ⟨expected, observed, hmem⟩
        simp only [List.mem_append, List.mem_singleton, reduceCtorEq, or_false] at hmem
        exact ⟨expected, observed, hmem⟩
      · rintro ⟨expected, observed, hmem⟩
        exact ⟨expected, observed, List.mem_append_left _ hmem⟩
  | false =>
      rw [hsuccess] at hreports
      refine (h.silent (reportsSuccess_append ?_ hreports)).elim
      simp

theorem framedUpload_undecided (S : Session σ) :
    FramedUpload S (fun _ => True)
      fun w => UndecidedAt flashSize observedCrc mismatch w.client where
  toFramed := framed_client S.toRuntime _
  events _ _ hevents h := h.onEvents hevents

/-- At every ending the task is honest; when the procedure returns it is undecided still. -/
def undecidedOk {α : Type} (ok : α → UploadTask → Prop) (firmware : Firmware) :
    Post Exn (BootloaderConnection σ UploadTask) α where
  ok value w := ok value w.client
  raised _ w := Honest firmware w.client
  running w := Honest firmware w.client

theorem wp_undecided {α : Type} {m : Upload σ α}
    (h : Keeps (UndecidedAt flashSize observedCrc mismatch) m)
    {w : BootloaderConnection σ UploadTask}
    (hw : UndecidedAt flashSize observedCrc mismatch w.client) :
    wp m (undecidedOk (fun _ => UndecidedAt flashSize observedCrc mismatch) firmware) w :=
  h.wp hw (fun _ _ h => h) (fun _ _ h => h.honest) (fun _ h => h.honest)

theorem wp_seq {α β : Type} {m : Upload σ α} {next : α → Upload σ β} {ok : α → UploadTask → Prop}
    {ok' : β → UploadTask → Prop} {w : BootloaderConnection σ UploadTask}
    (hm : wp m (undecidedOk ok firmware) w)
    (hnext : ∀ value w, ok value w.client → wp (next value) (undecidedOk ok' firmware) w) :
    wp (m >>= next) (undecidedOk ok' firmware) w := by
  rw [wp_bind]
  exact wp_mono hm hnext (fun _ _ h => h) (fun _ h => h)

theorem UndecidedAt.rebooted (h : UndecidedAt flashSize observedCrc mismatch task) :
    UndecidedAt flashSize observedCrc mismatch (onRebooted task) :=
  ⟨h.success, h.silent, h.flashSize, h.observedCrc, h.mismatch⟩

theorem wp_prepare (S : Session σ) (fuel : Nat) {w : BootloaderConnection σ UploadTask}
    (hw : UndecidedAt none none False w.client) :
    wp (prepare S fuel) (undecidedOk (fun value => UndecidedAt (some value.1) none False) firmware)
      w := by
  unfold prepare
  refine wp_seq (wp_undecided ((framedUpload_undecided S).ensureInBootloader fuel trivial
    fun _ h => h.rebooted) hw)
    fun _ w₁ h₁ => ?_
  refine wp_seq (wp_undecided ((framedUpload_undecided S).getDeviceInfo fuel trivial .flashSize) h₁)
    fun size w₂ h₂ => ?_
  have hrecord : wp (update fun task => { task with flashSize := some size })
      (undecidedOk (fun _ => UndecidedAt (some size) none False) firmware) w₂ :=
    ⟨h₂.success, h₂.silent, rfl, h₂.observedCrc, h₂.mismatch⟩
  refine wp_seq hrecord fun _ w₃ h₃ => ?_
  refine wp_seq (wp_undecided ((framedUpload_undecided S).getDeviceInfo fuel trivial .blRev) h₃)
    fun blRev w₄ h₄ => ?_
  split_ifs
  · exact h₄.honest
  · refine wp_seq (wp_undecided ((framedUpload_undecided S).getDeviceInfo fuel trivial .boardId) h₄)
      fun _ w₅ h₅ => ?_
    refine wp_seq (wp_undecided ((framedUpload_undecided S).getDeviceInfo fuel trivial .boardRev)
      h₅)
      fun _ w₆ h₆ => ?_
    refine wp_seq (wp_undecided ((framedUpload_undecided S).getSerialNumber fuel trivial) h₆)
      fun _ w₇ h₇ => ?_
    refine wp_seq (wp_undecided ((framedUpload_undecided S).onEvent rfl) h₇) fun _ w₈ h₈ => ?_
    exact wp_seq (wp_undecided ((framedUpload_undecided S).eraseInTaskGroup fuel trivial) h₈)
      fun _ _ h => h

theorem wp_verify (S : Session σ) (fuel : Nat) {size : Nat}
    {w : BootloaderConnection σ UploadTask} (hw : UndecidedAt (some size) none False w.client) :
    wp (verify S fuel firmware size) (undecidedOk (fun _ task => ∃ padding crc,
      firmware.paddingLength size = .ok padding ∧ UndecidedAt (some size) (some crc)
        (crc32 (List.replicate padding 255) firmware.crc ≠ crc) task) firmware) w := by
  unfold verify
  rw [wp_bind, wp_ofExcept]
  cases hpadding : firmware.paddingLength size with
  | error error => exact hw.honest
  | ok padding =>
      refine wp_seq (wp_undecided ((framedUpload_undecided S).awaiting S.checkpoint) hw)
        fun _ w₁ h₁ => ?_
      refine wp_seq (wp_undecided ((framedUpload_undecided S).getFlashMemoryCrc fuel trivial) h₁)
        fun crc w₂ h₂ => ?_
      have hrecord : wp (update fun task => { task with observedCrc := some crc })
          (undecidedOk (fun _ => UndecidedAt (some size) (some crc) False) firmware) w₂ :=
        ⟨h₂.success, h₂.silent, h₂.flashSize, rfl, h₂.mismatch⟩
      refine wp_seq hrecord fun _ w₃ h₃ => ?_
      split_ifs with hne
      · have hreported : ReportsMismatch { w₃.client with events := w₃.client.events ++
            [.crcMismatch (crc32 (List.replicate padding 255) firmware.crc) crc] } :=
          ⟨_, _, List.mem_append_right _ (List.mem_singleton.mpr rfl)⟩
        have hsilent : ¬ ReportsSuccess { w₃.client with events := w₃.client.events ++
            [.crcMismatch (crc32 (List.replicate padding 255) firmware.crc) crc] } :=
          fun hreports => h₃.silent (reportsSuccess_append (by simp) hreports)
        exact ⟨padding, crc, rfl, h₃.success, hsilent, h₃.flashSize, h₃.observedCrc,
          iff_of_true hreported hne⟩
      · have hmatches : False ↔ crc32 (List.replicate padding 255) firmware.crc ≠ crc :=
          iff_of_false not_false hne
        exact ⟨padding, crc, rfl, h₃.success, h₃.silent, h₃.flashSize, h₃.observedCrc,
          h₃.mismatch.trans hmatches⟩

theorem wp_upload (S : Session σ) (fuel : Nat) {w : BootloaderConnection σ UploadTask}
    (hw : UndecidedAt none none False w.client) :
    wp (upload S fuel firmware) (.always fun w => Honest firmware w.client) w := by
  change wp (upload S fuel firmware) (undecidedOk (fun _ => Honest firmware) firmware) w
  unfold upload
  refine wp_seq (wp_prepare S fuel hw) ?_
  rintro ⟨size, blRev⟩ w₁ h₁
  refine wp_seq (wp_undecided ((framedUpload_undecided S).onEvent rfl) h₁) fun _ w₂ h₂ => ?_
  refine wp_seq (wp_undecided ((framedUpload_undecided S).uploadLoop fuel trivial trivial _ blRev)
    h₂)
    fun _ w₃ h₃ => ?_
  refine wp_seq (wp_undecided ((framedUpload_undecided S).onEvent rfl) h₃) fun _ w₄ h₄ => ?_
  refine wp_seq (wp_verify S fuel h₄) ?_
  rintro _ w₅ ⟨padding, crc, hpadding, h₅⟩
  refine wp_seq (wp_undecided ((framedUpload_undecided S).onEvent rfl) h₅) fun _ w₆ h₆ => ?_
  refine wp_seq (wp_undecided ((framedUpload_undecided S).reboot fuel trivial false) h₆)
    fun _ w₇ h₇ => ?_
  refine wp_seq (wp_undecided ((framedUpload_undecided S).onEvent rfl) h₇) fun _ w₈ h₈ => ?_
  exact ⟨fun _ => ⟨size, padding, crc, h₈.flashSize, hpadding, h₈.observedCrc, h₈.mismatch⟩,
    h₈.silent⟩

theorem wp_connectAndUpload (S : Session σ) (fuel : Nat) {w : BootloaderConnection σ UploadTask}
    (hw : UndecidedAt none none False w.client) :
    wp (connectAndUpload S fuel firmware) (.always fun w => Honest firmware w.client) w := by
  have hexit : Keeps (Honest firmware) (awaiting S.exit : Upload σ Unit) :=
    (framed_client S.toRuntime (Honest firmware)).awaiting S.exit
  apply wp_connectAndUpload_cases
  · exact fun _ _ _ => hw.honest
  · exact fun _ _ _ _ _ => hw.honest
  · intro s s' _ _
    refine wp_mono (wp_upload S fuel hw) (fun _ w₄ h₄ => ?_) (fun _ w₄ h₄ => ?_) (fun _ h => h)
    · exact hexit w₄ h₄
    · exact hexit w₄ h₄

theorem Honest.announcing (h : Honest firmware task) (error : Exn) :
    Honest firmware (announcing error task) := by
  cases error with
  | cancelled => exact ⟨h.compared, h.silent⟩
  | timeoutError =>
      have hevents : ∀ event ∈ [UploaderEvent.lifecycle .timeout none none none],
          event.decisive = false := by decide
      refine ⟨fun hsuccess => ?_,
        fun hreports => h.silent (reportsSuccess_append (by simp) hreports)⟩
      obtain ⟨size, padding, crc, hsize, hpadding, hcrc, hmismatch⟩ := h.compared hsuccess
      exact ⟨size, padding, crc, hsize, hpadding, hcrc,
        (reportsMismatch_append hevents).trans hmismatch⟩
  | _ => exact h

theorem reportsSuccess_compared (S : Session σ) (fuel : Nat) (expecting : Bool)
    {w : BootloaderConnection σ UploadTask} (hw : w.client = {}) :
    wp (uploadFirmware S fuel (some firmware) expecting)
      (.always fun w => ReportsSuccess w.client → Compared firmware w.client) w := by
  have hstarting : UndecidedAt none none False (starting expecting w.client) := by
    rw [hw]
    refine ⟨rfl, ?_, rfl, rfl, ?_⟩
    · rintro ⟨_, _, hmem⟩
      simp [starting] at hmem
    · simp [starting, ReportsMismatch]
  apply wp_uploadFirmware
  refine wp_mono (wp_connectAndUpload S fuel hstarting) ?_ ?_ ?_
  · exact fun _ w₁ h₁ => h₁.finished
  · exact fun error w₁ h₁ => (h₁.announcing error).finished
  · exact fun w h hreports => (h.silent hreports).elim

/-- With the image size of an image that fits, what is compared is what the claim of a success
is about. -/
theorem Compared.verified_iff (h : Compared firmware task) {size : Nat}
    (himageSize : firmware.imageSize = .int firmware.image.length)
    (hfit : firmware.image.length ≤ size) (hsize : task.flashSize = some size) :
    Verified firmware task ↔ ¬ ReportsMismatch task := by
  obtain ⟨size', padding, crc, hsize', hpadding, hcrc, hmismatch⟩ := h
  rw [hsize] at hsize'
  cases hsize'
  have hcount : padding = size - firmware.image.length := by
    unfold Firmware.paddingLength at hpadding
    rw [himageSize] at hpadding
    dsimp only at hpadding
    split_ifs at hpadding
    cases hpadding
    omega
  have hexpected : crc32 (List.replicate padding 255) firmware.crc =
      crc32 (firmware.image ++ List.replicate (size - firmware.image.length) 0xff) 0 := by
    rw [hcount, crc32_append]
    rfl
  rw [hmismatch, not_not, hexpected]
  constructor
  · rintro ⟨size', crc', hsize', hcrc', _, hequal⟩
    rw [hsize] at hsize'
    rw [hcrc] at hcrc'
    cases hsize'
    cases hcrc'
    exact hequal.symm
  · intro hequal
    exact ⟨size, crc, hsize, hcrc, hfit, hequal.symm⟩

/-! ## A device that acknowledges everything -/

/-- A flash size and a checksum of the device's own choice, whatever it has been sent. -/
def statement (size crc : Nat) : Bytes → Bytes
  | 0x22 :: item :: _ =>
      LittleEndian.encode 4 (if item = DeviceInfoItem.flashSize.toByte then size else 5)
  | 0x29 :: _ => LittleEndian.encode 4 crc
  | 0x2B :: _ => LittleEndian.encode 4 0
  | _ => []

def acknowledge (size crc : Nat) (raw : Bytes) (d : Unit) : Bytes × Unit :=
  ((Response.success (statement size crc raw)).toBytes, d)

theorem serves_acknowledge {size crc : Nat} {c : Command} {raw payload : Bytes}
    (hraw : c.toBytes = .ok raw) (hpayload : statement size crc raw = payload)
    (hlength : (payload.length : Int) = c.responseLength) :
    Serves (acknowledge size crc) c payload () () :=
  serves_of_fixed hraw hlength (by rw [← hpayload]; rfl)

theorem acknowledge_servesUpload (image : Bytes) {size crc : Nat} (hsize : size < 2 ^ 32)
    (hcrc : crc < 2 ^ 32) :
    ServesUpload (acknowledge size crc) image size 5 crc () (fun _ _ => True) (fun _ => True) where
  sync := rfl
  boardId := ⟨_, serves_acknowledge rfl rfl rfl⟩
  flashSize := ⟨_, LittleEndian.decode_encode hsize, serves_acknowledge rfl rfl rfl⟩
  revision := ⟨LittleEndian.encode 4 5, by decide, serves_acknowledge rfl rfl rfl⟩
  boardRevision := ⟨_, serves_acknowledge rfl rfl rfl⟩
  serialNumber := fun address _ => ⟨_, serves_acknowledge rfl rfl rfl⟩
  erase := ⟨_, (), serves_acknowledge rfl rfl rfl, trivial⟩
  program := by
    intro k _ _ _
    have hlength : (chunkAt image k).length ≤ 252 := List.length_take_le _ _
    have hraw : (Command.mk .progMulti (chunkAt image k)).toBytes = .ok ([OpCode.progMulti.toByte,
        UInt8.ofNat (chunkAt image k).length] ++ chunkAt image k ++ [OpCode.eoc.toByte]) := by
      have hfit : ¬ 255 < (chunkAt image k).length := by omega
      simp [Command.toBytes, Command.payloadLength, hfit]
    exact ⟨_, (), serves_acknowledge hraw rfl rfl, trivial⟩
  crc := fun _ _ => ⟨_, LittleEndian.decode_encode hcrc, serves_acknowledge rfl rfl rfl⟩
  reboot := fun _ _ => ⟨_, (), serves_acknowledge rfl rfl rfl, trivial⟩

def acknowledgedUpload (size crc : Nat) (firmware : Firmware) (fuel : Nat) : UploadTask :=
  (uploadFirmware (wireSession (acknowledge size crc) (fun _ => 0) .never [] fun _ => []) fuel
    (some firmware) false { link := ⟨.new, ⟨(), [], 0⟩, []⟩, client := {} }).2.client

theorem acknowledgedUpload_succeeds {size : Nat} (crc : Nat) (hsize : size < 2 ^ 32)
    (hcrc : crc < 2 ^ 32) (husable : firmware.SizeUsable size) :
    ∃ fuel, (acknowledgedUpload size crc firmware fuel).flashSize = some size ∧
      (acknowledgedUpload size crc firmware fuel).observedCrc = some crc ∧
      ReportsSuccess (acknowledgedUpload size crc firmware fuel) := by
  obtain ⟨padding, hpadding⟩ := Firmware.paddingLength_eq_ok_iff.mpr husable
  have hcompletes := completes_uploadFirmware
    (w := { link := ⟨.new, ⟨(), [], 0⟩, []⟩, client := {} }) false
    (wireSession_undisturbed (acknowledge size crc) (fun _ => 0) .never [] fun _ => [])
    (acknowledge_servesUpload firmware.image hsize hcrc) (by decide) hpadding rfl rfl rfl
  obtain ⟨_, w', ⟨fuel, hrun⟩, _, hsucceeded⟩ := hcompletes
  obtain ⟨events, hevents⟩ := hsucceeded.finished
  have hend : acknowledgedUpload size crc firmware fuel = w'.client :=
    congrArg (fun result => result.2.client) (hrun fuel (Nat.le_refl _))
  refine ⟨fuel, ?_⟩
  rw [hend]
  exact ⟨hsucceeded.flashSize, hsucceeded.observedCrc, some false, some false, by simp [hevents]⟩

def otherCrc (crc : Nat) : Nat := if crc = 0 then 1 else 0

/-- A usable image size lets a device with a wrong checksum report a success. -/
theorem not_successMeansVerified {size : Nat} (hsize : size < 2 ^ 32)
    (husable : firmware.SizeUsable size) : ¬ SuccessMeansVerified firmware size := by
  let expected := crc32 (firmware.image ++ List.replicate (size - firmware.image.length) 0xff) 0
  have hother : otherCrc expected < 2 ^ 32 := by
    unfold otherCrc
    split_ifs <;> decide
  have hwrong : otherCrc expected ≠ expected := by
    unfold otherCrc
    split_ifs <;> omega
  obtain ⟨fuel, hflash, hcrc, hreports⟩ := acknowledgedUpload_succeeds _ hsize hother husable
  intro hmeans
  obtain ⟨size', crc, hsize', hcrc', _, hequal⟩ := hmeans _ _ fuel false _ rfl hflash hreports
  have hsame : some size' = some size := hsize'.symm.trans hflash
  have hobserved : some crc = some (otherCrc expected) := hcrc'.symm.trans hcrc
  cases hsame
  cases hobserved
  exact hwrong hequal

/-- Whatever the device does, a success is verified exactly where the verifying step always fails;
in one upload of an image that fits, exactly where no mismatch is reported. -/
theorem success_means_verified_iff (firmware : Firmware) {size : Nat} (hsize : size < 2 ^ 32) :
    (SuccessMeansVerified firmware size ↔ ¬ firmware.SizeUsable size) ∧
      (firmware.imageSize = .int firmware.image.length → firmware.image.length ≤ size →
        ∀ (σ : Type) (S : Session σ) (fuel : Nat) (expecting : Bool)
          (w : BootloaderConnection σ UploadTask), w.client = {} →
          (uploadFirmware S fuel (some firmware) expecting w).2.client.flashSize = some size →
          ReportsSuccess (uploadFirmware S fuel (some firmware) expecting w).2.client →
          (Verified firmware (uploadFirmware S fuel (some firmware) expecting w).2.client ↔
            ¬ ReportsMismatch (uploadFirmware S fuel (some firmware) expecting w).2.client)) := by
  have hcompared : ∀ (σ : Type) (S : Session σ) (fuel : Nat) (expecting : Bool)
      (w : BootloaderConnection σ UploadTask), w.client = {} →
      ReportsSuccess (uploadFirmware S fuel (some firmware) expecting w).2.client →
      Compared firmware (uploadFirmware S fuel (some firmware) expecting w).2.client :=
    fun σ S fuel expecting w hclient => wp_always_iff.mp (reportsSuccess_compared S fuel expecting
      hclient)
  refine ⟨⟨fun hmeans husable => not_successMeansVerified hsize husable hmeans, ?_⟩, ?_⟩
  · intro hunusable σ S fuel expecting w hclient hflash hreports
    obtain ⟨size', padding, _, hsize', hpadding, _⟩ :=
      hcompared σ S fuel expecting w hclient hreports
    rw [hflash] at hsize'
    cases hsize'
    exact (hunusable (Firmware.paddingLength_eq_ok_iff.mp ⟨padding, hpadding⟩)).elim
  · intro himageSize hfit σ S fuel expecting w hclient hflash hreports
    exact (hcompared σ S fuel expecting w hclient hreports).verified_iff himageSize hfit hflash

/-- An image size that is a string, and one byte of firmware uploaded to four bytes of memory. -/
theorem success_means_verified_iff_one_byte :
    SuccessMeansVerified { image := [1], imageSizeMetadata := some .other } 4 ∧
      ∃ fuel, ReportsSuccess (acknowledgedUpload 4 0 { image := [1] } fuel) ∧
        (Verified { image := [1] } (acknowledgedUpload 4 0 { image := [1] } fuel) ↔
          ¬ ReportsMismatch (acknowledgedUpload 4 0 { image := [1] } fuel)) := by
  constructor
  · refine (success_means_verified_iff _ (by decide)).1.mpr ?_
    rintro ⟨_, hsize, _⟩
    cases hsize
  · have husable : Firmware.SizeUsable { image := [1] } 4 := ⟨1, rfl, by decide⟩
    obtain ⟨fuel, hflash, _, hreports⟩ :=
      acknowledgedUpload_succeeds 0 (by decide) (by decide) husable
    exact ⟨fuel, hreports, (success_means_verified_iff { image := [1] } (by decide)).2 rfl
      (by decide) _ _ fuel false _ rfl hflash hreports⟩

theorem success_not_verified_one_byte : ¬ SuccessMeansVerified { image := [1] } 4 :=
  not_successMeansVerified (by decide) ⟨1, rfl, by decide⟩

end ApUploader
