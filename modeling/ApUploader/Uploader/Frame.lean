import ApUploader.Connection.Frame
import ApUploader.Uploader.Upload

/-! # What the steps of an upload leave alone

The erasure and the upload loop report progress and use the connection. An
invariant that the operations keep, and that such reports do not touch, is kept by
them as well.
-/

namespace ApUploader

open Effect BootloaderConnection Uploader

def UploaderEvent.decisive : UploaderEvent → Bool
  | .lifecycle .finished (some true) _ _ => true
  | .crcMismatch _ _ => true
  | _ => false

variable {σ : Type}

/-- An invariant that the operations of the connection and reports of progress keep. -/
structure FramedProgress (S : Session σ) (permitted : OpCode → Prop)
    (I : BootloaderConnection σ UploadTask → Prop) : Prop extends
    Framed S.toRuntime permitted I where
  progress : ∀ w (ticks : List ℚ), I w →
    I { w with client := { w.client with events := w.client.events ++ ticks.map .progress } }

namespace FramedProgress

variable {S : Session σ} {permitted : OpCode → Prop}
  {I : BootloaderConnection σ UploadTask → Prop}

theorem onProgress (h : FramedProgress S permitted I) (progress : ℚ) :
    Preserves I (onEvent (.progress progress)) :=
  .modify fun w hw => h.progress w [progress] hw

theorem eraseInTaskGroup (h : FramedProgress S permitted I) (fuel : Nat)
    (herase : permitted .chipErase) : Preserves I (eraseInTaskGroup S fuel) := by
  unfold Uploader.eraseInTaskGroup
  refine .bind .get fun w => .bind (.modify fun w hw => h.progress w _ hw) fun _ => ?_
  refine .bind (.catching (h.eraseFlashMemory fuel herase) ?_) fun _ => h.awaiting _
  intro error next hnext
  split_ifs at hnext
  cases hnext
  exact .raise _

theorem uploadPass (h : FramedProgress S permitted I) (fuel : Nat)
    (hprogram : permitted .progMulti) (hpointer : permitted .getWritePtr) (image : Bytes)
    (blRev : Nat) (known : Option Nat) :
    Preserves I (uploadPass image blRev (programBytes S.toRuntime fuel)
      (getWritePointer S.toRuntime fuel) (fun progress => Uploader.onEvent (.progress progress))
      known) := by
  unfold ApUploader.uploadPass
  split_ifs
  · refine .bind ?_ fun pointer => .bind ?_ fun acknowledged => ?_
    · cases known with
      | some pointer => exact .pure _
      | none =>
          unfold locate
          split_ifs
          · exact h.getWritePointer fuel hpointer
          · exact .raise _
    · refine .catching (.bind (h.programBytes fuel hprogram _) fun _ => .pure _) ?_
      intro error next hnext
      split_ifs at hnext
      cases hnext
      exact .pure _
    · split_ifs
      · exact .bind (h.onProgress _) fun _ => .pure _
      · exact .pure _
  · exact .pure _

theorem uploadLoop (h : FramedProgress S permitted I) (fuel : Nat)
    (hprogram : permitted .progMulti) (hpointer : permitted .getWritePtr) (image : Bytes)
    (blRev : Nat) :
    Preserves I (uploadLoop image blRev (programBytes S.toRuntime fuel)
      (getWritePointer S.toRuntime fuel) (fun progress => Uploader.onEvent (.progress progress))
      fuel) :=
  .loop (h.uploadPass fuel hprogram hpointer image blRev) fuel _

end FramedProgress

/-- An invariant that the operations of the connection and undecided events keep. -/
structure FramedUpload (S : Session σ) (permitted : OpCode → Prop)
    (I : BootloaderConnection σ UploadTask → Prop) : Prop extends
    Framed S.toRuntime permitted I where
  events : ∀ w events, (∀ event ∈ events, UploaderEvent.decisive event = false) → I w →
    I { w with client := { w.client with events := w.client.events ++ events } }

namespace FramedUpload

variable {S : Session σ} {permitted : OpCode → Prop}
  {I : BootloaderConnection σ UploadTask → Prop}

theorem onEvent (h : FramedUpload S permitted I) {event : UploaderEvent}
    (hevent : event.decisive = false) : Preserves I (onEvent event) := by
  refine .modify fun w hw => h.events w [event] ?_ hw
  intro event' hmem
  rw [List.mem_singleton.mp hmem]
  exact hevent

theorem framedProgress (h : FramedUpload S permitted I) : FramedProgress S permitted I where
  toFramed := h.toFramed
  progress w ticks hw := by
    refine h.events w _ ?_ hw
    intro event hmem
    obtain ⟨_, _, hevent⟩ := List.mem_map.mp hmem
    rw [← hevent]
    rfl

theorem eraseInTaskGroup (h : FramedUpload S permitted I) (fuel : Nat)
    (herase : permitted .chipErase) : Preserves I (eraseInTaskGroup S fuel) :=
  h.framedProgress.eraseInTaskGroup fuel herase

theorem uploadLoop (h : FramedUpload S permitted I) (fuel : Nat) (hprogram : permitted .progMulti)
    (hpointer : permitted .getWritePtr) (image : Bytes) (blRev : Nat) :
    Preserves I (uploadLoop image blRev (programBytes S.toRuntime fuel)
      (getWritePointer S.toRuntime fuel) (fun progress => Uploader.onEvent (.progress progress))
      fuel) :=
  h.framedProgress.uploadLoop fuel hprogram hpointer image blRev

theorem prepare (h : FramedUpload S (fun _ => True) I) (fuel : Nat)
    (hrebooted : ∀ w, I w → I { w with client := onRebooted w.client })
    (hflashSize : ∀ size w, I w → I { w with client := { w.client with flashSize := some size } }) :
    Preserves I (prepare S fuel) := by
  unfold Uploader.prepare
  refine .bind (h.ensureInBootloader fuel trivial hrebooted) fun _ => ?_
  refine .bind (h.getDeviceInfo fuel trivial _) fun size => ?_
  refine .bind (.modify (hflashSize size)) fun _ => .bind (h.getDeviceInfo fuel trivial _) ?_
  intro blRev
  split_ifs
  · exact .raise _
  · refine .bind (h.getDeviceInfo fuel trivial _) fun _ => ?_
    refine .bind (h.getDeviceInfo fuel trivial _) fun _ => ?_
    refine .bind (h.getSerialNumber fuel trivial) fun _ => ?_
    refine .bind (h.onEvent rfl) fun _ => ?_
    exact .bind (h.eraseInTaskGroup fuel trivial) fun _ => .pure _

theorem verify (h : FramedUpload S permitted I) (fuel : Nat) (hcrc : permitted .getCrc)
    (hobserved : ∀ crc w, I w → I { w with client := { w.client with observedCrc := some crc } })
    (hmismatch : ∀ expected observed,
      Preserves I (Uploader.onEvent (.crcMismatch expected observed) : Upload σ Unit))
    (firmware : Firmware) (flashSize : Nat) : Preserves I (verify S fuel firmware flashSize) := by
  unfold Uploader.verify
  refine preserves_ofExcept fun padding _ => .bind (h.awaiting _) fun _ => ?_
  refine .bind (h.getFlashMemoryCrc fuel hcrc) fun crc => ?_
  refine .bind (.modify (hobserved crc)) fun _ => ?_
  split_ifs
  · exact hmismatch _ _
  · exact .pure _

end FramedUpload

/-! ## Around the body of the connection -/

def starting (expecting : Bool) (task : UploadTask) : UploadTask :=
  { task with
    events := task.events ++ [.lifecycle .started none none none] ++ [.step .connecting]
    success := false
    cancelled := false
    retrying := expecting }

/-- The task behind the handler of an exception, which is passed on. -/
def announcing (error : Exn) (task : UploadTask) : UploadTask :=
  match error with
  | .cancelled => { task with cancelled := true }
  | .timeoutError => { task with events := task.events ++ [.lifecycle .timeout none none none] }
  | _ => task

def finishing (task : UploadTask) : UploadTask :=
  { task with events := task.events ++
    [.lifecycle .finished (some task.success) (some task.cancelled) (some task.retrying)] }

/-- An upload does in its own clauses what becomes of the task, and nothing else. -/
theorem wp_uploadFirmware {S : Session σ} {fuel : Nat} {firmware : Firmware} {expecting : Bool}
    {post : Post Exn (BootloaderConnection σ UploadTask) Unit}
    {w : BootloaderConnection σ UploadTask}
    (h : wp (connectAndUpload S fuel firmware)
      ⟨fun _ w => post.ok () { w with client := finishing w.client },
        fun error w => post.raised error { w with client := finishing (announcing error w.client) },
        post.running⟩ { w with client := starting expecting w.client }) :
    wp (uploadFirmware S fuel (some firmware) expecting) post w := by
  unfold uploadFirmware
  simp only [onEvent, update, wp_bind, wp_modify]
  rw [wp_ensuring, wp_catching]
  refine wp_mono h (fun _ _ h => h) (fun error w h => ?_) (fun _ h => h)
  cases error <;> exact h

/-- The rule for the `async with` statement, by how creating and opening the transport end. -/
theorem wp_connectAndUpload_cases {S : Session σ} {fuel : Nat} {firmware : Firmware}
    {post : Post Exn (BootloaderConnection σ UploadTask) Unit}
    {w : BootloaderConnection σ UploadTask}
    (hcreate : ∀ error s, S.createTransport w.link.transport = (.raised error, s) →
      post.raised error { w with link.transport := s })
    (henter : ∀ s error s', S.createTransport w.link.transport = (.done, s) →
      S.enter s = (.raised error, s') →
      post.raised error { link := ⟨.new, s', []⟩, client := w.client })
    (hupload : ∀ s s', S.createTransport w.link.transport = (.done, s) →
      S.enter s = (.done, s') →
      wp (upload S fuel firmware)
        ⟨fun _ => wp (awaiting S.exit) post,
          fun error => wp (awaiting S.exit)
            ⟨fun _ => post.raised error, post.raised, post.running⟩, post.running⟩
        { link := ⟨.new, s', []⟩, client := w.client }) :
    wp (connectAndUpload S fuel firmware) post w := by
  unfold connectAndUpload
  simp only [wp_bind, wp_modify, wp_ensuring]
  apply wp_awaiting_cases
  · intro s hcreated
    apply wp_awaiting_cases
    · exact fun s' hentered => hupload s s' hcreated hentered
    · exact fun error s' hentered => henter s error s' hcreated hentered
  · exact hcreate

end ApUploader
