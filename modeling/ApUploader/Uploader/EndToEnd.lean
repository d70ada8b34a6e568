import ApUploader.Mock.Respond
import ApUploader.Uploader.Placement
import ApUploader.Uploader.Served

/-! # Uploads to the mock bootloader

The mock bootloader serves a whole upload as long as its flash size fits the four
bytes of a reply: each handler is one `Serves` fact, and the states between the
chunks are the prefixes of the image. The end-to-end result is the general one for
serving devices at this device.
-/

namespace ApUploader

open Effect Protocol BootloaderConnection MockBootloader

/-! ## Handlers -/

/-- A device that simulates no losses and waits for a command. -/
structure Reliable (d : MockBootloader) : Prop extends Ready d where
  faithful : d.simulateDesync = false

theorem serves_of_handled {c : Command} {d d' : MockBootloader} {payload : Bytes}
    (hready : Ready d) (hfit : ArgumentsFit c) (hc : IsCommand c.type)
    (hlength : (payload.length : Int) = c.responseLength)
    (hhandled : handleCommand c d = (.ok payload, d')) (hbuffer : d'.buffer = [])
    (hkeeps : d'.dropNextResponse = false) : Serves respond c payload d d' := by
  have hfixed : ¬ c.responseLength < 0 := by omega
  have hraw := toBytes_of_fit hfit
  refine ⟨_, hraw, ?_, ?_⟩
  · simp [Declares, hfixed, hlength]
  · rw [respond_eq hfit hc hready hraw (respondTo_handled hhandled) hbuffer hkeeps]
    simp [replyBody, hfixed]

theorem handle_query {c : Command} {d : MockBootloader} {n : Nat} (hn : n < 256 ^ 4)
    (hc : handleCommand c d = MockBootloader.ofExcept (toBytesLittle 4 n) d) :
    handleCommand c d = (.ok (LittleEndian.encode 4 n), d) := by
  rw [hc]
  unfold toBytesLittle
  rw [if_pos hn]
  rfl

theorem handle_getDevice (d : MockBootloader) (item : DeviceInfoItem) :
    handleCommand (.getDeviceInfo item) d =
      MockBootloader.ofExcept (toBytesLittle 4 (d.deviceInfo item)) d := by
  cases item <;> rfl

theorem serves_deviceInfo {d : MockBootloader} (h : Ready d) (item : DeviceInfoItem)
    (hitem : d.deviceInfo item < 256 ^ 4) :
    Serves respond (.getDeviceInfo item) (LittleEndian.encode 4 (d.deviceInfo item)) d d :=
  serves_of_handled h (by cases item <;> decide) (by cases item <;> decide)
    (by rw [LittleEndian.encode_length]; rfl) (handle_query hitem (handle_getDevice d item))
    h.buffer h.keeps

theorem serves_serialNumber {d : MockBootloader} (h : Ready d) (address : Nat) :
    ∃ word, Serves respond ⟨.getSn, LittleEndian.encode 4 address⟩ word d d := by
  have hlength := LittleEndian.encode_length 4 address
  refine ⟨d.serialNumberWord (LittleEndian.decode (LittleEndian.encode 4 address)), ?_⟩
  have hfit : ArgumentsFit ⟨.getSn, LittleEndian.encode 4 address⟩ := by
    have hnot : ¬ (4 : Int) < 0 := by decide
    simp [ArgumentsFit, Command.payloadLength, hlength]
  have hcommand : IsCommand .getSn := by decide
  apply serves_of_handled h hfit hcommand ?_ ?_ h.buffer h.keeps
  · rw [serialNumberWord_length]
    rfl
  · have hpost : wp (handleCommand ⟨.getSn, LittleEndian.encode 4 address⟩) (.returns fun word x =>
        word = d.serialNumberWord (LittleEndian.decode (LittleEndian.encode 4 address)) ∧ x = d)
        d := by
      simp [handleCommand, hlength, Post.returns]
    obtain ⟨_, _, hrun, rfl, rfl⟩ := wp_returns_iff.mp hpost
    exact hrun

theorem serves_crc {d : MockBootloader} (h : Ready d) :
    Serves respond .getCrc (LittleEndian.encode 4 (crc32 d.flashMemory 0)) d d :=
  serves_of_handled h (by decide) (by decide) (by rw [LittleEndian.encode_length]; rfl)
    (handle_query (crc32_lt _ (by decide)) rfl) h.buffer h.keeps

def erased (d : MockBootloader) : MockBootloader :=
  { d with flashMemory := List.replicate d.flashMemory.length 0xff, flashMemoryWritePtr := 0 }

theorem serves_erase {d : MockBootloader} (h : Ready d) :
    Serves respond .eraseFlashMemory [] d (erased d) :=
  serves_of_handled h (by decide) (by decide) rfl rfl h.buffer h.keeps

theorem serves_reboot {d : MockBootloader} (h : Ready d) :
    Serves respond .reboot [] d { d with shouldExit := true } :=
  serves_of_handled h (by decide) (by decide) rfl rfl h.buffer h.keeps

def written (d : MockBootloader) (data : Bytes) : MockBootloader :=
  { d with
    flashMemory := d.flashMemory.take d.flashMemoryWritePtr ++ data ++
      d.flashMemory.drop (d.flashMemoryWritePtr + data.length)
    flashMemoryWritePtr := d.flashMemoryWritePtr + data.length }

theorem writeToFlashMemory_eq {d : MockBootloader} {data : Bytes}
    (hfaithful : d.simulateDesync = false) (hdata : data ≠ [])
    (hinside : d.flashMemoryWritePtr + data.length ≤ d.flashMemory.length) (depth : Nat) :
    writeToFlashMemory (depth + 1) data d = (.ok (), written d data) := by
  have hpost : wp (writeToFlashMemory (depth + 1) data) (.returns fun _ x => x = written d data)
      d := by
    unfold writeToFlashMemory
    rw [if_neg hdata]
    simp [hinside, hfaithful, Post.returns, written]
  obtain ⟨_, _, hrun, rfl⟩ := wp_returns_iff.mp hpost
  exact hrun

theorem serves_program {d : MockBootloader} (h : Reliable d) {data : Bytes} (hdata : data ≠ [])
    (hlength : data.length ≤ 255)
    (hinside : d.flashMemoryWritePtr + data.length ≤ d.flashMemory.length) :
    Serves respond ⟨.progMulti, data⟩ [] d (written d data) := by
  have hfit : ArgumentsFit ⟨.progMulti, data⟩ := hlength
  have hcommand : IsCommand .progMulti := by decide
  refine serves_of_handled h.toReady hfit hcommand rfl ?_ h.buffer h.keeps
  have hwrite := writeToFlashMemory_eq h.faithful hdata hinside (2 * data.length + 1)
  have hpost : wp (handleCommand ⟨.progMulti, data⟩) (.returns fun payload x =>
      payload = [] ∧ x = written d data) d := by
    unfold handleCommand recursionLimit
    simp only [wp_bind, wp_get]
    rw [wp_of_eq hwrite]
    exact ⟨rfl, rfl⟩
  obtain ⟨_, _, hrun, rfl, rfl⟩ := wp_returns_iff.mp hpost
  exact hrun

/-! ## The whole upload -/

/-- The device between two chunks: `k` bytes of the image are in place. -/
structure Programmed (image : Bytes) (size k : Nat) (d : MockBootloader) : Prop extends
    Reliable d, HoldsPrefix image size d where
  pointer : d.flashMemoryWritePtr = k

def Uploaded (image : Bytes) (size : Nat) (d : MockBootloader) : Prop :=
  d.flashMemory = image ++ List.replicate (size - image.length) 0xff ∧
    d.flashMemoryWritePtr = image.length

theorem servesSync_of_ready {d : MockBootloader} (h : Ready d) : ServesSync respond d :=
  respond_eq (c := .getSync) (by decide) (by decide) h rfl (respondTo_handled rfl) h.buffer h.keeps

/-- The mock bootloader serves the upload of every image that fits a flash of less than 4 GiB. -/
theorem mock_servesUpload {d : MockBootloader} (h : Reliable d) {image : Bytes}
    (hfit : image.length ≤ d.flashMemory.length) (hsize : d.flashMemory.length < 2 ^ 32) :
    ServesUpload respond image d.flashMemory.length 5
      (crc32 (image ++ List.replicate (d.flashMemory.length - image.length) 0xff) 0) d
      (Programmed image d.flashMemory.length) (Uploaded image d.flashMemory.length) where
  sync := servesSync_of_ready h.toReady
  boardId := by
    have hid : d.deviceInfo .boardId < 256 ^ 4 := by
      change 9 < 256 ^ 4
      decide
    exact ⟨_, serves_deviceInfo h.toReady .boardId hid⟩
  flashSize := ⟨_, LittleEndian.decode_encode hsize,
    serves_deviceInfo h.toReady .flashSize hsize⟩
  revision := by
    have hrev : d.deviceInfo .blRev = 5 := by simp [deviceInfo, h.faithful]
    have hserves := serves_deviceInfo h.toReady .blRev (by rw [hrev]; decide)
    rw [hrev] at hserves
    exact ⟨_, LittleEndian.decode_encode (by decide), hserves⟩
  boardRevision := by
    have hrev : d.deviceInfo .boardRev < 256 ^ 4 := by
      change 0 < 256 ^ 4
      decide
    exact ⟨_, serves_deviceInfo h.toReady .boardRev hrev⟩
  serialNumber := fun address _ => serves_serialNumber h.toReady address
  erase := by
    refine ⟨_, _, serves_erase h.toReady, ?_⟩
    have hpart : HoldsPrefix image d.flashMemory.length (erased d) :=
      Erased.holdsPrefix ⟨rfl, rfl⟩ image
    exact ⟨⟨⟨h.buffer, h.keeps, h.running⟩, h.faithful⟩, hpart, rfl⟩
  program := by
    intro k d' hd' hless
    have hchunk := chunkAt_length image k
    unfold progMultiMaxPayloadLength at hchunk
    have hne : chunkAt image k ≠ [] := by
      rw [← List.length_pos_iff]
      omega
    have hpointer := hd'.pointer
    have hinside : d'.flashMemoryWritePtr + (chunkAt image k).length ≤ d'.flashMemory.length := by
      rw [← hpointer]
      exact hd'.toHoldsPrefix.inside hfit
    refine ⟨_, _, serves_program hd'.toReliable hne (by omega) hinside, ?_⟩
    have hpart : HoldsPrefix image d.flashMemory.length (written d' (chunkAt image k)) := by
      apply hd'.toHoldsPrefix.written hfit
      · rw [hpointer]
        simp [written, hpointer]
      · rw [hpointer]
        simp [written, hpointer]
    refine ⟨⟨⟨hd'.buffer, hd'.keeps, hd'.running⟩, hd'.faithful⟩, hpart, ?_⟩
    simp [written, hpointer]
  crc := by
    intro d' hd'
    have hmemory := hd'.toHoldsPrefix.complete hd'.pointer
    refine ⟨_, ?_, serves_crc hd'.toReady⟩
    rw [LittleEndian.decode_encode (crc32_lt _ (by decide)), hmemory]
  reboot := by
    intro d' hd'
    exact ⟨_, _, serves_reboot hd'.toReady, hd'.toHoldsPrefix.complete hd'.pointer, hd'.pointer⟩

/-- A fault-free upload puts the image in place, verifies it and reports success. -/
theorem fault_free_upload {firmware : Firmware} {d : MockBootloader} (h : Reliable d)
    (himageSize : firmware.imageSize = .int firmware.image.length)
    (hfit : firmware.image.length ≤ d.flashMemory.length)
    (hsize : d.flashMemory.length < 2 ^ 32) {S : Session (Wire MockBootloader)}
    {cut : Nat → Nat} {silence : ReceiveOutcome} (hS : Undisturbed S respond cut silence)
    {w : BootloaderConnection (Wire MockBootloader) UploadTask}
    (hdevice : w.link.transport.device = d) (hpending : w.link.transport.pending = [])
    (htask : w.client = {}) (expecting : Bool) :
    Completes (fun fuel => Uploader.uploadFirmware S fuel (some firmware) expecting) w
      (fun _ w' => Uploaded firmware.image d.flashMemory.length w'.link.transport.device ∧
        UploadSucceeded expecting d.flashMemory.length
          (crc32 (firmware.image ++
            List.replicate (d.flashMemory.length - firmware.image.length) 0xff) 0)
          False w'.client) := by
  have hcount : ((d.flashMemory.length : Int) - (firmware.image.length : Int)).toNat =
      d.flashMemory.length - firmware.image.length := by omega
  have hpadding : firmware.paddingLength d.flashMemory.length =
      .ok (d.flashMemory.length - firmware.image.length) := by
    have hrange : Firmware.InSsizeRange
        ((d.flashMemory.length : Int) - (firmware.image.length : Int)) := by
      constructor <;> omega
    unfold Firmware.paddingLength
    rw [himageSize]
    dsimp only
    rw [if_pos hrange, hcount]
  have hcrc : crc32 (List.replicate (d.flashMemory.length - firmware.image.length) 255)
      firmware.crc = crc32 (firmware.image ++
        List.replicate (d.flashMemory.length - firmware.image.length) 0xff) 0 := by
    rw [crc32_append]
    rfl
  have hcompletes := completes_uploadFirmware expecting hS (mock_servesUpload h hfit hsize)
    (by decide) hpadding hdevice hpending htask
  refine hcompletes.mono ?_
  rintro _ w' ⟨huploaded, hsucceeded⟩
  refine ⟨huploaded, hsucceeded.finished, hsucceeded.flashSize, hsucceeded.observedCrc, ?_⟩
  intro expected observed hmem
  exact hsucceeded.matched expected observed hmem hcrc

/-- Three bytes into a used memory of four, every reply byte by byte. -/
theorem fault_free_upload_three_bytes :
    Completes (fun fuel => Uploader.uploadFirmware
        (wireSession respond (fun _ => 0) .never [] fun _ => [1 / 10]) fuel
        (some { image := [1, 2, 3] }) false)
      { link := ⟨.new, ⟨{ flashMemory := [7, 7, 7, 7], flashMemoryWritePtr := 2 }, [], 0⟩, []⟩
        client := {} }
      (fun _ w' => w'.link.transport.device.flashMemory = [1, 2, 3, 0xff]) :=
  (fault_free_upload (d := { flashMemory := [7, 7, 7, 7], flashMemoryWritePtr := 2 })
    ⟨⟨rfl, rfl, rfl⟩, rfl⟩ rfl (by decide) (by decide) (wireSession_undisturbed ..) rfl rfl rfl
    false).mono fun _ _ h => h.1.1

/-! ## A flash size that fits no reply -/

/-- The device cannot tell a flash size of four GiB or more, and says so with a failure. -/
theorem respond_flashSize_overflow {d : MockBootloader} (h : Ready d)
    (hsize : 2 ^ 32 ≤ d.flashMemory.length) {raw : Bytes}
    (hraw : (Command.getDeviceInfo .flashSize).toBytes = .ok raw) :
    respond raw d = (Response.failure.toBytes, d) := by
  have hraised : handleCommand (.getDeviceInfo .flashSize) d = (.raised .overflowError, d) := by
    rw [handle_getDevice]
    have hbig : ¬ d.deviceInfo .flashSize < 256 ^ 4 := by
      change ¬ d.flashMemory.length < 2 ^ 32
      omega
    unfold toBytesLittle
    rw [if_neg hbig]
    rfl
  exact respond_eq (by decide) (by decide) h hraw (respondTo_overflow hraised) h.buffer h.keeps

/-- The upload waits for ever for the rest of the flash size. -/
theorem upload_hangs_of_oversized_flash {firmware : Firmware} {d : MockBootloader}
    (h : Reliable d) (hsize : 2 ^ 32 ≤ d.flashMemory.length) {S : Session (Wire MockBootloader)}
    {cut : Nat → Nat} (hS : Undisturbed S respond cut .never)
    {w : BootloaderConnection (Wire MockBootloader) UploadTask}
    (hdevice : w.link.transport.device = d) (hpending : w.link.transport.pending = [])
    (expecting : Bool) :
    Hangs (fun fuel => Uploader.uploadFirmware S fuel (some firmware) expecting) w := by
  unfold Uploader.uploadFirmware
  refine .step rfl ?_
  refine .step rfl ?_
  refine .step rfl ?_
  refine .ensuring (.catching ?_)
  unfold Uploader.connectAndUpload
  refine .step (awaiting_done (hS.createTransport _)) ?_
  refine .step rfl ?_
  refine .step (awaiting_done (hS.enter _)) ?_
  refine .ensuring (.bind (m := fun fuel => Uploader.prepare S fuel) ?_)
  unfold Uploader.prepare
  have hid : d.deviceInfo .boardId < 256 ^ 4 := by
    change 9 < 256 ^ 4
    decide
  refine .bind_next (completes_ensureInBootloader hS.toOverWire rfl hdevice hpending rfl
    (servesSync_of_ready h.toReady) (serves_deviceInfo h.toReady .boardId hid)) fun _ w₆ h₆ => ?_
  refine .bind (m := fun fuel => getFlashMemorySize S.toRuntime fuel) (.bind ?_)
  have hraw : (Command.getDeviceInfo .flashSize).toBytes = .ok [0x22, 0x04, 0x20] := rfl
  apply hangs_processCommand hS.toOverWire h₆ hraw (n := 4) rfl
  rw [respond_flashSize_overflow h.toReady hsize hraw]
  change 2 < 4
  decide

theorem fault_free_upload_fails_at_four_gib :
    ¬ Completes (fun fuel => Uploader.uploadFirmware
        (wireSession respond (fun _ => 0) .never [] fun _ => []) fuel (some { image := [] }) false)
      { link := ⟨.new, ⟨{ flashMemory := List.replicate (2 ^ 32) 0xff }, [], 0⟩, []⟩, client := {} }
      (fun _ w' => .lifecycle .finished (some true) (some false) (some false) ∈ w'.client.events) :=
  Hangs.not_completes (upload_hangs_of_oversized_flash
    (d := { flashMemory := List.replicate (2 ^ 32) 0xff }) ⟨⟨rfl, rfl, rfl⟩, rfl⟩
    (by rw [List.length_replicate]) (wireSession_undisturbed ..) rfl rfl false) _

end ApUploader
