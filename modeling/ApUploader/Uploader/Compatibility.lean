import ApUploader.Connection.Reports
import ApUploader.Uploader.Frame
import ApUploader.Uploader.Served

/-! # Which devices are erased

An upload asks for the bootloader revision, the board ID and the flash size before
it erases anything, and looks at the revision only. So a device is erased whatever
board and size it reports, and no more than devices that report the right ones are
safe from it.
-/

namespace ApUploader

open Effect Protocol BootloaderConnection Uploader Inquiry

/-- The device the reports describe can take the firmware. `boardId` is `firmware.board_id`, `none`
where the metadata has no integer for it. -/
structure Compatible (firmware : Firmware) (boardId : Option Int) (reports : List Report) :
    Prop where
  revision : ∃ rev, (.blRev, rev) ∈ reports ∧ 4 ≤ rev
  board : ∃ id : Nat, (.boardId, id) ∈ reports ∧ boardId = some (id : Int)
  size : ∃ size, (.flashSize, size) ∈ reports ∧ firmware.image.length ≤ size

/-- Next to a supported revision, `R` holds of the firmware's board ID only, and of flash sizes that
the image fits only. -/
def Suits (firmware : Firmware) (boardId : Option Int) (R : DeviceInfoItem → Nat → Prop) : Prop :=
  ∀ rev id size, rev < 2 ^ 32 → id < 2 ^ 32 → size < 2 ^ 32 → R .blRev rev → R .boardId id →
    R .flashSize size → 4 ≤ rev → boardId = some (id : Int) ∧ firmware.image.length ≤ size

/-- Over every transport and every device whose reports are among `R`, an upload over a new
connection hands CHIP_ERASE and PROG_MULTI over only behind compatible reports. -/
def ErasesOnlyCompatible (firmware : Firmware) (boardId : Option Int)
    (R : DeviceInfoItem → Nat → Prop) : Prop :=
  ∀ (σ : Type) (S : Session σ) (fuel : Nat) (expecting : Bool)
    (w : BootloaderConnection σ UploadTask), w.link.trace = [] →
    (∀ report ∈ (inquiry (uploadFirmware S fuel (some firmware) expecting w).2.link.trace).reports,
      report.1 ≠ .boardRev → R report.1 report.2) →
    (guard (Compatible firmware boardId)).Accepts {}
      (uploadFirmware S fuel (some firmware) expecting w).2.link.trace

/-! ## From the body of the connection to the upload -/

section Upload

variable {σ : Type} {S : Session σ} {permitted : OpCode → Prop} {P : List Action → Prop}

theorem framedUpload_watching (S : Session σ) (hP : ClosedUnder permitted P)
    (hsync : permitted .getSync) :
    FramedUpload S permitted (fun w => Watching P w.link) where
  toFramed := framed_watching S.toRuntime hP hsync
  events _ _ _ h := h

theorem preserves_update {f : UploadTask → UploadTask} :
    Preserves (fun w => Watching P w.link) (update f : Upload σ Unit) := .modify fun _ h => h

/-- Behind the erasure an upload sends chunks, asks for the write pointer and the checksum, and
reboots the device. -/
theorem wp_upload_of_prepare (hP : ClosedUnder (· ≠ .getDevice) P) (fuel : Nat)
    (firmware : Firmware) {Q : List Action → Prop} (hQ : ∀ trace, P trace → Q trace)
    {w : BootloaderConnection σ UploadTask}
    (h : wp (prepare S fuel) ⟨fun _ w => Watching P w.link, fun _ w => Q w.link.trace,
      fun w => Q w.link.trace⟩ w) :
    wp (upload S fuel firmware) (.always fun w => Q w.link.trace) w := by
  have hF := framedUpload_watching S hP (by decide)
  have hrest : ∀ flashSize blRev : Nat, Preserves (fun w => Watching P w.link) (do
      onEvent (.step .uploading)
      uploadLoop firmware.image blRev (programBytes S.toRuntime fuel)
        (getWritePointer S.toRuntime fuel) (fun progress => onEvent (.progress progress)) fuel
      onEvent (.step .verifying)
      verify S fuel firmware flashSize
      onEvent (.step .rebooting)
      reboot S.toRuntime fuel false
      onEvent (.step .finished)
      update (fun task => { task with success := true }) : Upload σ Unit) := by
    intro flashSize blRev
    refine .bind preserves_update fun _ => ?_
    refine .bind (hF.uploadLoop fuel (by decide) (by decide) _ blRev) fun _ => ?_
    refine .bind preserves_update fun _ => .bind ?_ fun _ => ?_
    · exact hF.verify fuel (by decide) (fun _ _ h => h) (fun _ _ => preserves_update) _ _
    · refine .bind preserves_update fun _ => ?_
      refine .bind (hF.reboot fuel (by decide) false) fun _ => ?_
      exact .bind preserves_update fun _ => preserves_update
  unfold upload
  rw [wp_bind]
  refine wp_mono h ?_ (fun _ _ h => h) (fun _ h => h)
  rintro ⟨flashSize, blRev⟩ w hw
  apply (hrest flashSize blRev).wp hw
  · exact fun _ w h => hQ _ h.history
  · exact fun _ w h => hQ _ h.history
  · exact fun w h => hQ _ h.history

theorem wp_uploadFirmware_trace (fuel : Nat) (firmware : Firmware) (expecting : Bool)
    {w : BootloaderConnection σ UploadTask}
    (hcreate : ∀ error s, S.createTransport w.link.transport = (.raised error, s) → P w.link.trace)
    (henter : ∀ s error s', S.enter s = (.raised error, s') → P [])
    (hupload : ∀ s s', S.createTransport w.link.transport = (.done, s) →
      S.enter s = (.done, s') →
      wp (upload S fuel firmware) (.always fun w => P w.link.trace)
        { link := ⟨.new, s', []⟩, client := starting expecting w.client }) :
    wp (uploadFirmware S fuel (some firmware) expecting) (.always fun w => P w.link.trace) w := by
  have hexit : Preserves (fun w => P w.link.trace) (awaiting S.exit : Upload σ Unit) := by
    intro w hw
    apply wp_awaiting_cases
    · exact fun _ _ => hw
    · exact fun _ _ _ => hw
  apply wp_uploadFirmware
  apply wp_connectAndUpload_cases
  · exact hcreate
  · exact fun s error s' _ hentered => henter s error s' hentered
  · intro s s' hcreated hentered
    refine wp_mono (hupload s s' hcreated hentered) (fun _ w h => ?_) (fun _ w h => ?_)
      (fun _ h => h)
    · exact hexit w h
    · exact hexit w h

/-! ## Nothing is erased before the inquiry is complete -/

def Inquired (reports : List Report) : Prop :=
  ∃ rev id size, (.blRev, rev) ∈ reports ∧ (.boardId, id) ∈ reports ∧ (.flashSize, size) ∈ reports ∧
    4 ≤ rev ∧ rev < 2 ^ 32 ∧ id < 2 ^ 32 ∧ size < 2 ^ 32

/-- So far nothing has been erased before the inquiry was complete. -/
def Cautious (trace : List Action) : Prop := (guard Inquired).Accepts {} trace

theorem Inquired.mono {reports reports' : List Report} (h : Inquired reports)
    (hsubset : reports ⊆ reports') : Inquired reports' := by
  obtain ⟨rev, id, size, hrev, hid, hsize, hbounds⟩ := h
  exact ⟨rev, id, size, hsubset hrev, hsubset hid, hsubset hsize, hbounds⟩

theorem closedUnder_cautious :
    ClosedUnder (fun code => code.destructive = false) Cautious := by
  intro trace a h ha
  refine (Monitor.accepts_append _ _ _ _).mpr ⟨h, fun code hcode hdestructive => ?_, trivial⟩
  rw [ha code hcode] at hdestructive
  cases hdestructive

/-- Behind a complete inquiry every command is allowed. -/
theorem closedUnder_inquired (permitted : OpCode → Prop) :
    ClosedUnder permitted (fun trace => Cautious trace ∧ Inquired (inquiry trace).reports) := by
  intro trace a h _
  refine ⟨(Monitor.accepts_append _ _ _ _).mpr ⟨h.1, fun _ _ _ => h.2, trivial⟩, ?_⟩
  rw [inquiry_concat]
  exact h.2.mono (next_reports _ a).subset

def cautiously {α : Type} (ok : α → BootloaderConnection σ UploadTask → Prop) :
    Post Exn (BootloaderConnection σ UploadTask) α :=
  ⟨ok, fun _ w => Cautious w.link.trace, fun w => Cautious w.link.trace⟩

theorem wp_inquire {α β : Type} {m : Upload σ α} {next : α → Upload σ β}
    {known : α → BootloaderConnection σ UploadTask → Prop}
    {ok : β → BootloaderConnection σ UploadTask → Prop} {w : BootloaderConnection σ UploadTask}
    (hkeeps : Preserves (fun w => Watching Cautious w.link) m) (hw : Watching Cautious w.link)
    (hreturns : wp m (.ifReturns known) w)
    (hnext : ∀ value w, Watching Cautious w.link → known value w →
      wp (next value) (cautiously ok) w) :
    wp (m >>= next) (cautiously ok) w := by
  rw [wp_bind]
  exact hkeeps.wp_returns hw hreturns hnext (fun _ _ h => h.history) (fun _ h => h.history)

theorem wp_prepare_inquired (S : Session σ) (fuel : Nat) {w : BootloaderConnection σ UploadTask}
    (hsettled : Settled [] w.link) (hw : Watching Cautious w.link) :
    wp (prepare S fuel) (cautiously fun _ w => Watching
      (fun trace => Cautious trace ∧ Inquired (inquiry trace).reports) w.link) w := by
  have hF := framedUpload_watching S closedUnder_cautious rfl
  have hE := framedUpload_watching S (closedUnder_inquired fun _ => True) trivial
  unfold prepare
  refine wp_inquire (hF.ensureInBootloader fuel rfl fun _ h => h) hw
    (wp_ensureInBootloader_settled hsettled) ?_
  rintro _ w₁ h₁ ⟨probed, hsettled⟩
  refine wp_inquire (hF.getDeviceInfo fuel rfl _) h₁ (wp_getDeviceInfo_settled _ hsettled) ?_
  rintro size w₂ h₂ ⟨hsettled, hsize⟩
  simp only [update, wp_bind, wp_modify]
  rw [← wp_bind]
  refine wp_inquire (hF.getDeviceInfo fuel rfl _) h₂ (wp_getDeviceInfo_settled _ hsettled) ?_
  rintro rev w₃ h₃ ⟨hsettled, hrev⟩
  split_ifs with hold
  · exact h₃.history
  · refine wp_inquire (hF.getDeviceInfo fuel rfl _) h₃ (wp_getDeviceInfo_settled _ hsettled) ?_
    rintro id w₄ h₄ ⟨hsettled, hid⟩
    refine wp_inquire (hF.getDeviceInfo fuel rfl _) h₄ (wp_getDeviceInfo_settled _ hsettled) ?_
    rintro boardRev w₅ h₅ ⟨hsettled, _⟩
    refine wp_inquire (hF.getSerialNumber fuel rfl) h₅ (wp_getSerialNumber_settled hsettled) ?_
    intro _ w₆ h₆ hsettled
    simp only [onEvent, update, wp_bind, wp_modify]
    have hinquired : Inquired (inquiry w₆.link.trace).reports := by
      rw [hsettled.reports]
      exact ⟨rev, id, size, by simp, by simp, by simp, by omega, hrev, hid, hsize⟩
    apply (hE.eraseInTaskGroup fuel trivial).wp
    · exact ⟨h₆.wellFormed, h₆.history, hinquired⟩
    · exact fun _ _ h => h
    · exact fun _ _ h => h.history.1
    · exact fun _ h => h.history.1

/-- Whatever the transport and the device do, nothing is erased before the device has reported a
supported revision, a board ID and a flash size. -/
theorem wp_uploadFirmware_cautious (S : Session σ) (fuel : Nat) (firmware : Firmware)
    (expecting : Bool) {w : BootloaderConnection σ UploadTask} (hfresh : w.link.trace = []) :
    wp (uploadFirmware S fuel (some firmware) expecting) (.always fun w => Cautious w.link.trace)
      w := by
  apply wp_uploadFirmware_trace
  · intro _ _ _
    rw [hfresh]
    trivial
  · exact fun _ _ _ _ => trivial
  · intro _ s _ _
    refine wp_upload_of_prepare (closedUnder_inquired _) fuel firmware (fun _ h => h.1) ?_
    exact wp_prepare_inquired S fuel ⟨new_wellFormed, rfl, rfl⟩ ⟨new_wellFormed, trivial⟩

/-- A device all of whose reports are compatible is a device that may be erased. -/
theorem erasesOnlyCompatible_of_reports {firmware : Firmware} {boardId : Option Int}
    {R : DeviceInfoItem → Nat → Prop} (hR : Suits firmware boardId R) :
    ErasesOnlyCompatible firmware boardId R := by
  intro σ S fuel expecting w hfresh hreports
  have hcautious := wp_always_iff.mp (wp_uploadFirmware_cautious S fuel firmware expecting hfresh)
  have hstrengthened := accepts_strengthen (P := fun report =>
    report.1 ≠ .boardRev → R report.1 report.2) hcautious hreports
  refine accepts_mono ?_ hstrengthened
  rintro reports ⟨⟨rev, id, size, hrev, hid, hsize, hsupported, hbounds⟩, hall⟩
  obtain ⟨hboard, hfit⟩ := hR rev id size hbounds.1 hbounds.2.1 hbounds.2.2
    (hall _ hrev (by simp)) (hall _ hid (by simp)) (hall _ hsize (by simp)) hsupported
  exact ⟨⟨rev, hrev, hsupported⟩, ⟨id, hid, hboard⟩, ⟨size, hsize, hfit⟩⟩

end Upload

/-! ## A device that is erased whatever it reports -/

/-- A device that answers everything, with a revision, a board ID and a flash size of its own. -/
def identity (rev id size : Nat) : Bytes → Bytes
  | 0x22 :: 0x01 :: _ => LittleEndian.encode 4 rev
  | 0x22 :: 0x02 :: _ => LittleEndian.encode 4 id
  | 0x22 :: 0x04 :: _ => LittleEndian.encode 4 size
  | 0x22 :: _ => LittleEndian.encode 4 0
  | 0x2B :: _ => LittleEndian.encode 4 0
  | _ => []

def identify (rev id size : Nat) (raw : Bytes) (d : Unit) : Bytes × Unit :=
  ((Response.success (identity rev id size raw)).toBytes, d)

def reported (rev id size : Nat) : List Report :=
  [(.boardId, id), (.flashSize, size), (.blRev, rev), (.boardId, id), (.boardRev, 0)]

section Identify

variable {rev id size : Nat}

theorem serves_identify {c : Command} {raw payload : Bytes} (hraw : c.toBytes = .ok raw)
    (hpayload : identity rev id size raw = payload)
    (hlength : (payload.length : Int) = c.responseLength) :
    Serves (identify rev id size) c payload () () :=
  serves_of_fixed hraw hlength (by rw [← hpayload]; rfl)

def identifySession (rev id size : Nat) : Session (Wire Unit) :=
  wireSession (identify rev id size) (fun _ => 0) .never [] fun _ => []

theorem overWire_identify :
    OverWire (identifySession rev id size).toRuntime (identify rev id size) (fun _ => 0) .never :=
  ⟨rfl, fun _ => rfl⟩

structure Answering (known : List Report) (w : BootloaderConnection (Wire Unit) UploadTask) :
    Prop where
  idle : Idle () .bootloader w.client w
  settled : Settled known w.link

theorem Answering.update {known : List Report}
    {w : BootloaderConnection (Wire Unit) UploadTask} (h : Answering known w)
    {f : UploadTask → UploadTask} :
    Completes (fun _ => update f) w (fun _ w' => Answering known w') :=
  .modify _ ⟨⟨h.idle.link, h.idle.unlocked, h.idle.mode, rfl⟩, h.settled⟩

theorem completes_getDeviceInfo_answering {item : DeviceInfoItem} {value : Nat}
    {known : List Report} {w : BootloaderConnection (Wire Unit) UploadTask}
    (hserves : Serves (identify rev id size) (.getDeviceInfo item) (LittleEndian.encode 4 value)
      () ()) (hvalue : value < 2 ^ 32) (h : Answering known w) :
    Completes (fun fuel => getDeviceInfo (identifySession rev id size).toRuntime fuel item) w
      (fun result w' => result = value ∧ Answering (known ++ [(item, value)]) w') := by
  refine ((completes_getDeviceInfo overWire_identify h.idle hserves).and_wp fun fuel =>
    wp_getDeviceInfo_settled item h.settled).mono ?_
  rintro result w' ⟨⟨rfl, hidle⟩, hsettled, _⟩
  rw [LittleEndian.decode_encode hvalue] at hsettled ⊢
  exact ⟨rfl, ⟨hidle.link, hidle.unlocked, hidle.mode, rfl⟩, hsettled⟩

theorem completes_probe_identify (hid : id < 2 ^ 32) (task : UploadTask) :
    Completes (fun fuel => ensureInBootloader (identifySession rev id size).toRuntime fuel
        onRebooted) { link := ⟨.new, ⟨(), [], 0⟩, []⟩, client := task }
      (fun _ w => Answering [(.boardId, id)] w) := by
  have hboardId : Serves (identify rev id size) (.getDeviceInfo .boardId)
      (LittleEndian.encode 4 id) () () := serves_identify rfl rfl rfl
  have hnew : Settled [] (⟨.new, ⟨(), [], 0⟩, []⟩ : Link (Wire Unit)) :=
    ⟨new_wellFormed, rfl, rfl⟩
  apply completes_probe overWire_identify rfl
  refine ((completes_inner_new overWire_identify rfl rfl rfl rfl hboardId).and_wp fun fuel =>
    wp_mono (wp_inner_settled _ hnew) (fun _ _ h => h) (fun _ _ _ => trivial)
      (fun _ _ => trivial)).mono ?_
  rintro payload w ⟨⟨rfl, link, hrest, rfl⟩, hsettled, _⟩
  rw [Command.report, Command.getDeviceInfo_item?, Option.toList_some, List.map_singleton,
    LittleEndian.decode_encode hid] at hsettled
  exact ⟨⟨hrest, rfl, rfl, rfl⟩, hsettled⟩

theorem completes_erase_identify {known : List Report}
    {w : BootloaderConnection (Wire Unit) UploadTask} (h : Answering known w) :
    Completes (fun fuel => eraseInTaskGroup (identifySession rev id size) fuel) w
      (fun _ w' => Settled known w'.link ∧
        HandedOver .eraseFlashMemory known w'.link.trace) := by
  have hserves : Serves (identify rev id size) .eraseFlashMemory [] () () :=
    serves_identify rfl rfl rfl
  have herase : ∀ w, Answering known w → Completes
      (fun fuel => eraseFlashMemory (identifySession rev id size).toRuntime fuel) w
      (fun _ w' => Settled known w'.link ∧ HandedOver .eraseFlashMemory known w'.link.trace) :=
    fun w h => ((completes_eraseFlashMemory overWire_identify h.idle hserves).and_wp fun fuel =>
      wp_eraseFlashMemory_settled h.settled).mono fun _ _ h => h.2
  unfold eraseInTaskGroup
  refine .step rfl (.bind h.update fun _ w₁ h₁ => ?_)
  refine .bind (herase w₁ h₁).catching fun _ w' h' => ?_
  exact .of_eq (awaiting_done rfl) h'

theorem completes_prepare_identify (hrev : rev < 2 ^ 32) (hid : id < 2 ^ 32)
    (hsize : size < 2 ^ 32) (hsupported : 4 ≤ rev) (task : UploadTask) :
    Completes (fun fuel => prepare (identifySession rev id size) fuel)
      { link := ⟨.new, ⟨(), [], 0⟩, []⟩, client := task }
      (fun _ w => Settled (reported rev id size) w.link ∧
        HandedOver .eraseFlashMemory (reported rev id size) w.link.trace) := by
  have hserial : ∀ address, address < 256 ^ 4 → ∃ word, Serves (identify rev id size)
      ⟨.getSn, LittleEndian.encode 4 address⟩ word () () := fun _ _ =>
    ⟨LittleEndian.encode 4 0, serves_identify rfl rfl rfl⟩
  have hboardRev : Serves (identify rev id size) (.getDeviceInfo .boardRev)
      (LittleEndian.encode 4 0) () () := serves_identify rfl rfl rfl
  unfold prepare
  refine .bind (completes_probe_identify hid task) fun _ w₁ h₁ => ?_
  refine .bind (completes_getDeviceInfo_answering (serves_identify rfl rfl rfl) hsize h₁) ?_
  rintro _ w₂ ⟨rfl, h₂⟩
  refine .bind h₂.update fun _ w₂ h₂ => ?_
  refine .bind (completes_getDeviceInfo_answering (serves_identify rfl rfl rfl) hrev h₂) ?_
  rintro _ w₃ ⟨rfl, h₃⟩
  simp only [not_lt.mpr hsupported, ↓reduceIte]
  refine .bind (completes_getDeviceInfo_answering (serves_identify rfl rfl rfl) hid h₃) ?_
  rintro _ w₄ ⟨_, h₄⟩
  refine .bind (completes_getDeviceInfo_answering hboardRev (by decide) h₄) ?_
  rintro _ w₅ ⟨_, h₅⟩
  refine .bind ((completes_getSerialNumber overWire_identify h₅.idle hserial).and_wp fun fuel =>
    wp_getSerialNumber_settled h₅.settled) ?_
  rintro _ w₆ ⟨hidle₆, hsettled₆⟩
  have h₆ : Answering _ w₆ := ⟨⟨hidle₆.link, hidle₆.unlocked, hidle₆.mode, rfl⟩, hsettled₆⟩
  refine .bind h₆.update fun _ w₆ h₆ => ?_
  refine .bind (completes_erase_identify h₆) fun _ w₇ h₇ => ?_
  exact .pure h₇

/-- The guard has refused the trace, and no question is open. -/
structure Refused (enough : List Report → Prop) (known : List Report) (trace : List Action) :
    Prop where
  asked : (inquiry trace).asked = none
  reports : (inquiry trace).reports = known
  refused : ¬ (guard enough).Accepts {} trace

/-- Without further questions there are no further reports. -/
theorem closedUnder_refused (enough : List Report → Prop) (known : List Report) :
    ClosedUnder (· ≠ .getDevice) (Refused enough known) := by
  intro trace a h ha
  have hnext : (inquiry trace).next a = inquiry trace := by
    rcases hinquiry : inquiry trace with ⟨asked, reports⟩
    have hasked : asked = none := by simpa [hinquiry] using h.asked
    subst hasked
    unfold Inquiry.next
    split
    case h_1 which raw synced =>
      have hqueried : queried raw = none := by
        unfold queried
        split
        · split_ifs with hcode
          · exact (ha .getDevice hcode rfl).elim
          · rfl
        · rfl
      simp [hqueried]
    case h_5 r => simp [Inquiry.answered]
    all_goals rfl
  refine ⟨?_, ?_, fun haccepts => ?_⟩
  · rw [inquiry_concat, hnext, h.asked]
  · rw [inquiry_concat, hnext, h.reports]
  · exact h.refused ((Monitor.accepts_append _ _ _ _).mp haccepts).1

def identifiedUpload (rev id size : Nat) (firmware : Firmware) (fuel : Nat) : List Action :=
  (uploadFirmware (identifySession rev id size) fuel (some firmware) false
    { link := ⟨.new, ⟨(), [], 0⟩, []⟩, client := {} }).2.link.trace

/-- With enough fuel the device is erased, and its reports are no others than its own. -/
theorem identifiedUpload_refused (hrev : rev < 2 ^ 32) (hid : id < 2 ^ 32) (hsize : size < 2 ^ 32)
    (hsupported : 4 ≤ rev) (firmware : Firmware) {enough : List Report → Prop}
    (hreports : ¬ enough (reported rev id size)) :
    ∃ fuel, Refused enough (reported rev id size)
      (identifiedUpload rev id size firmware fuel) := by
  obtain ⟨value, w, ⟨fuel, hrun⟩, hsettled, hhanded⟩ :=
    completes_prepare_identify hrev hid hsize hsupported (starting false {})
  refine ⟨fuel, wp_always_iff.mp (wp_uploadFirmware_trace fuel firmware false ?_ ?_ ?_)⟩
  · intro _ _ hcreate
    cases hcreate
  · intro _ _ _ henter
    cases henter
  · rintro s s' ⟨⟩ ⟨⟩
    refine wp_upload_of_prepare (closedUnder_refused enough (reported rev id size)) fuel firmware
      (fun _ h => h) ((wp_of_eq (hrun fuel (Nat.le_refl _))).mpr ?_)
    exact ⟨hsettled.wellFormed, hsettled.asked, hsettled.reports,
      hhanded.not_accepts rfl hreports⟩

end Identify

/-! ## Exactly the compatible devices are safe -/

/-- A device that may report incompatible values may be erased. -/
theorem not_erasesOnlyCompatible {firmware : Firmware} {boardId : Option Int}
    {R : DeviceInfoItem → Nat → Prop} {rev id size : Nat} (hrev : rev < 2 ^ 32) (hid : id < 2 ^ 32)
    (hsize : size < 2 ^ 32) (hRrev : R .blRev rev) (hRid : R .boardId id)
    (hRsize : R .flashSize size) (hsupported : 4 ≤ rev)
    (hincompatible : ¬ (boardId = some (id : Int) ∧ firmware.image.length ≤ size)) :
    ¬ ErasesOnlyCompatible firmware boardId R := by
  intro hsafe
  have hreports : ¬ Compatible firmware boardId (reported rev id size) := by
    rintro ⟨_, ⟨id', hid', hboard⟩, ⟨size', hsize', hfit⟩⟩
    have hsameId : id' = id := by simpa [reported] using hid'
    have hsameSize : size' = size := by simpa [reported] using hsize'
    rw [hsameId] at hboard
    rw [hsameSize] at hfit
    exact hincompatible ⟨hboard, hfit⟩
  obtain ⟨fuel, hrefused⟩ := identifiedUpload_refused hrev hid hsize hsupported firmware hreports
  refine hrefused.refused (hsafe _ (identifySession rev id size) fuel false _ rfl ?_)
  intro report hmem hitem
  have hreported : report ∈ reported rev id size := hrefused.reports ▸ hmem
  simp only [reported, List.mem_cons, List.not_mem_nil, or_false] at hreported
  rcases hreported with rfl | rfl | rfl | rfl | rfl
  · exact hRid
  · exact hRsize
  · exact hRrev
  · exact hRid
  · exact (hitem rfl).elim

/-- An upload erases compatible devices only, exactly where every device with a supported revision
reports the firmware's board ID and a flash size that the image fits. In one upload it is enough
that the device has reported no others. -/
theorem erases_only_compatible_iff (firmware : Firmware) (boardId : Option Int) :
    (∀ R, ErasesOnlyCompatible firmware boardId R ↔ Suits firmware boardId R) ∧
      ∀ (σ : Type) (S : Session σ) (fuel : Nat) (expecting : Bool)
        (w : BootloaderConnection σ UploadTask), w.link.trace = [] →
        Suits firmware boardId (fun item value => (item, value) ∈
          (inquiry (uploadFirmware S fuel (some firmware) expecting w).2.link.trace).reports) →
        (guard (Compatible firmware boardId)).Accepts {}
          (uploadFirmware S fuel (some firmware) expecting w).2.link.trace := by
  constructor
  · intro R
    refine ⟨fun hsafe rev id size hrev hid hsize hRrev hRid hRsize hsupported => ?_,
      erasesOnlyCompatible_of_reports⟩
    by_contra hincompatible
    exact not_erasesOnlyCompatible hrev hid hsize hRrev hRid hRsize hsupported hincompatible hsafe
  · intro σ S fuel expecting w hfresh hsuits
    exact erasesOnlyCompatible_of_reports hsuits σ S fuel expecting w hfresh fun _ hmem _ => hmem

/-- Firmware for board 9 and a device with the revision 5 that reports board 50. -/
theorem erases_other_board : ¬ ErasesOnlyCompatible { image := [1, 2, 3, 4] } (some 9)
    (fun item value => (item, value) ∈ [(DeviceInfoItem.blRev, 5), (.boardId, 50),
      (.flashSize, 1024)]) := by
  have hboard : ¬ (some (9 : Int) = some ((50 : Nat) : Int) ∧ 4 ≤ 1024) := by decide
  exact @not_erasesOnlyCompatible { image := [1, 2, 3, 4] } (some 9) _ 5 50 1024 (by decide)
    (by decide) (by decide) (by decide) (by decide) (by decide) (by decide) hboard

end ApUploader
