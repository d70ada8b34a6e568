import ApUploader.Connection.Listening
import ApUploader.Uploader.Upload

/-! # Maintenance tasks

Two coroutines of the uploader speak to the main firmware: one has it flash its
bootloader, one has it forget its parameters and reboot. They share everything but what
they do once a heartbeat has been heard. The calls of their callbacks are recorded as
those of an upload are.
-/

namespace ApUploader

open Effect BootloaderConnection

/-! ## What is sent -/

def MAV_CMD_PREFLIGHT_REBOOT_SHUTDOWN : Int := 246

def flashBootloaderMessage : MessageBody :=
  .commandLong {
    targetSystem := 0
    targetComponent := 1
    command := MAV_CMD_FLASH_BOOTLOADER
    param5 := 0x488E0780 }

def resetMessage : MessageBody :=
  .paramSet {
    targetSystem := 0
    targetComponent := 1
    paramIdRaw := [70, 79, 82, 77, 65, 84, 95, 86, 69, 82, 83, 73, 79, 78]
    paramValue := 0
    paramType := 0 }

def rebootMessage : MessageBody :=
  .commandLong {
    targetSystem := 0
    targetComponent := 1
    command := MAV_CMD_PREFLIGHT_REBOOT_SHUTDOWN
    confirmation := 1
    param1 := 0x3F800000 }

def flashBootloaderPacket : Bytes :=
  [254, 33, 0, 254, 190, 76, 0, 0, 0, 0, 0, 0, 0, 0, 0, 0, 0, 0, 0, 0, 0, 0, 128, 7, 142, 72, 0, 0,
    0, 0, 0, 0, 0, 0, 154, 166, 0, 1, 0, 205, 69]

def resetPacket : Bytes :=
  [254, 23, 0, 254, 190, 23, 0, 0, 0, 0, 0, 1, 70, 79, 82, 77, 65, 84, 95, 86, 69, 82, 83, 73, 79,
    78, 0, 0, 0, 39, 233]

/-- The second packet of its connection. -/
def rebootPacket : Bytes :=
  [254, 33, 1, 254, 190, 76, 0, 0, 128, 63, 0, 0, 0, 0, 0, 0, 0, 0, 0, 0, 0, 0, 0, 0, 0, 0, 0, 0, 0,
    0, 0, 0, 0, 0, 246, 0, 0, 1, 1, 194, 139]

set_option maxRecDepth 4000

/-- The packets are those of a new MAVLink object. -/
theorem encode_flashBootloaderMessage :
    (MAVLink.encode id { MAVLink.new 254 190 with seq := 0 } flashBootloaderMessage true).map
      Prod.fst = .ok flashBootloaderPacket := rfl

theorem encode_resetMessage :
    (MAVLink.encode id { MAVLink.new 254 190 with seq := 0 } resetMessage true).map Prod.fst =
      .ok resetPacket := rfl

theorem encode_rebootMessage :
    (MAVLink.encode id { MAVLink.new 254 190 with seq := 1 } rebootMessage true).map Prod.fst =
      .ok rebootPacket := rfl

structure Numbered (n : Nat) (mav : MAVLink) : Prop where
  sourceSystem : mav.sourceSystem = 254
  sourceComponent : mav.sourceComponent = 190
  seq : mav.seq = n

theorem Numbered.kept {n : Nat} {mav mav' : MAVLink} (h : Numbered n mav)
    (hkept : MAVLink.Kept mav mav') : Numbered n mav' where
  sourceSystem := hkept.sourceSystem.trans h.sourceSystem
  sourceComponent := hkept.sourceComponent.trans h.sourceComponent
  seq := hkept.seq.trans h.seq

/-- What was received has no influence on a packet of version 1. -/
theorem Numbered.encode {n : Nat} {mav : MAVLink} {body : MessageBody} {raw : Bytes}
    (h : Numbered n mav) (sha256 : Bytes → Bytes)
    (hraw : (MAVLink.encode id { MAVLink.new 254 190 with seq := n } body true).map Prod.fst =
      .ok raw) :
    ∃ mav', mav.encode sha256 body true = .ok (raw, mav') ∧ Numbered ((n + 1) % 256) mav' := by
  obtain ⟨hsystem, hcomponent, hseq⟩ := h
  unfold MAVLink.encode MessageBody.pack at hraw ⊢
  cases hpacked : body.packed with
  | none =>
      rw [hpacked] at hraw
      cases hraw
  | some packed =>
      obtain ⟨messageType, values⟩ := packed
      rw [hpacked] at hraw
      dsimp only at hraw ⊢
      cases hpack : Struct.pack messageType.unpacker values with
      | none =>
          rw [hpack] at hraw
          cases hraw
      | some payload =>
          rw [hpack] at hraw
          dsimp only at hraw ⊢
          unfold packMsg MAVLinkHeader.pack at hraw ⊢
          dsimp only [MAVLink.new] at hraw
          simp only [↓reduceIte, hsystem, hcomponent, hseq] at hraw ⊢
          split at hraw
          · simp only [bind, Except.bind, Bool.true_eq_false, and_false, ↓reduceIte, Except.map]
              at hraw ⊢
            cases hraw
            exact ⟨_, rfl, rfl, rfl, rfl⟩
          · cases hraw

/-! ## The coroutines -/

namespace Uploader

variable {σ : Type}

abbrev Maintenance (σ α : Type) : Type := Owned σ UploadTask α

def report (event : UploaderEvent) : Maintenance σ Unit :=
  onCaller fun task => { task with events := task.events ++ [event] }

def brokenResourceError : Exn := .transportError "BrokenResourceError"

section

variable (sha256 : Bytes → Bytes) (S : Session σ) (fuel : Nat)

/-- `reboot()`. -/
def rebootDevice : Maintenance σ Unit := do
  let w ← Proc.get
  match w.mode with
  | .mavlink => sendMavlinkMessage sha256 S.toRuntime rebootMessage
  | .bootloader => do
      let _ ← lockedCommand S.toRuntime (plainLock S.toRuntime) fuel { command := .reboot }
  | .unknown => Proc.raise (.runtimeError "unknown mode, cannot reboot")

/-- `on_rebooted`. -/
def onBooted (task : UploadTask) : UploadTask :=
  { task with retrying := true, expectedFailures := task.expectedFailures + 10 }

/-- Create and open the transport, ask for the main firmware, do the work, and close the transport
at either ending. -/
def connectAndWork (work : Maintenance σ Unit) : Maintenance σ Unit := do
  awaiting S.createTransport
  Proc.modify fun w => { w with
    link := { protocol := .new, transport := w.link.transport }
    locked := false
    mode := .unknown
    client.mavlink := none
    client.systemId := 254 }
  awaiting S.enter
  let body : Maintenance σ Unit := do
    perform sha256 S.toRuntime (plainLock S.toRuntime) fuel (.ensureInMavlink onBooted 2000)
    work
  body.ensuring (awaiting S.exit)

/-- What the two coroutines share. -/
def maintain (work : Maintenance σ Unit) (expectingFailure : Bool) : Maintenance σ Unit := do
  report (.lifecycle .started none none none)
  report (.step .connecting)
  onCaller fun task => { task with
    success := false, cancelled := false, retrying := expectingFailure }
  let attempt := (connectAndWork sha256 S fuel work).catching fun error =>
    match error with
    | .cancelled => some do
        onCaller fun task => { task with cancelled := true }
        Proc.raise .cancelled
    | _ => none
  attempt.ensuring do
    let w ← Proc.get
    -- whatever `on_rebooted` has noted
    report (.lifecycle .finished (some w.client.caller.success) (some w.client.caller.cancelled)
      (some false))

def complete : Maintenance σ Unit := do
  report (.progress 1)
  report (.step .finished)
  onCaller fun task => { task with success := true }

def flashBootloaderWork : Maintenance σ Unit := do
  BootloaderConnection.flashBootloader sha256 S.toRuntime
  complete

/-- The connection may be closed by the reboot already. -/
def factoryResetWork : Maintenance σ Unit := do
  resetToFactoryDefaults sha256 S.toRuntime
  report (.step .rebooting)
  (rebootDevice sha256 S fuel).catching fun error =>
    if error = brokenResourceError then some (pure ()) else none
  complete

def flashBootloader (expectingFailure : Bool) : Maintenance σ Unit :=
  maintain sha256 S fuel (flashBootloaderWork sha256 S) expectingFailure

def performFactoryReset (expectingFailure : Bool) : Maintenance σ Unit :=
  maintain sha256 S fuel (factoryResetWork sha256 S fuel) expectingFailure

end

/-! ## What becomes of them -/

/-- The packets handed to the transport, the events behind the connection, and the success. -/
abbrev Course : Type := List Action → List UploaderEvent → Bool → Prop

inductive FlashCourse : Course where
  | refused (error : Exn) : FlashCourse [.direct flashBootloaderPacket (.raised error)] [] false
  | completed :
      FlashCourse [.direct flashBootloaderPacket .done] [.progress 1, .step .finished] true

inductive ResetCourse : Course where
  | refused (error : Exn) : ResetCourse [.direct resetPacket (.raised error)] [] false
  | rebootRefused (error : Exn) (hbroken : error ≠ brokenResourceError) :
      ResetCourse [.direct resetPacket .done, .direct rebootPacket (.raised error)]
        [.step .rebooting] false
  | completed (completion : Completion)
      (hreboot : completion = .done ∨ completion = .raised brokenResourceError) :
      ResetCourse [.direct resetPacket .done, .direct rebootPacket completion]
        [.step .rebooting, .progress 1, .step .finished] true

def Heard (sha256 : Bytes → Bytes) (S : Session σ) (s : σ) : Prop :=
  ∃ s₁ s₂ s₃, S.createTransport s = (.done, s₁) ∧ S.enter s₁ = (.done, s₂) ∧
    S.checkpoint s₂ = (.done, s₃) ∧ HearsFrom sha256 S.toRuntime 2000 (.new 254 190) s₃

def called (s : σ) (task : UploadTask) : BootloaderConnection σ (Owner UploadTask) :=
  { link := { protocol := .new, transport := s }, client := { caller := task } }

/-- The events of a task behind its start, and its account of the failures to expect. -/
structure Accounts (task : UploadTask) (body : List UploaderEvent)
    (w : BootloaderConnection σ (Owner UploadTask)) : Prop where
  events : w.client.caller.events = task.events ++
    [.lifecycle .started none none none, .step .connecting] ++ body
  expectedFailures : w.client.caller.expectedFailures = task.expectedFailures

/-- Nothing has been sent before a heartbeat, everything else follows the course of the task. -/
def Ended (sha256 : Bytes → Bytes) (S : Session σ) (course : Course) (s : σ) (task : UploadTask)
    (outcome : Outcome Exn Unit) (w : BootloaderConnection σ (Owner UploadTask)) : Prop :=
  ∃ body success cancelled,
    Accounts task (body ++ [.lifecycle .finished (some success) (some cancelled) (some false)]) w ∧
    (cancelled = true ↔ outcome = .raised .cancelled) ∧
    ((w.link.trace = [] ∧ body = [] ∧ success = false ∧ outcome ≠ .ok ()) ∨
      (Heard sha256 S s ∧ course w.link.trace body success ∧ (outcome = .ok () → success = true)))

def Waits (task : UploadTask) (w : BootloaderConnection σ (Owner UploadTask)) : Prop :=
  w.link.trace = [] ∧ Accounts task [] w

def followsCourse (sha256 : Bytes → Bytes) (S : Session σ) (course : Course) (s : σ)
    (task : UploadTask) : Post Exn (BootloaderConnection σ (Owner UploadTask)) Unit where
  ok _ := Ended sha256 S course s task (.ok ())
  raised error := Ended sha256 S course s task (.raised error)
  running := Waits task

/-! ## Rules -/

section

variable {sha256 : Bytes → Bytes} {S : Session σ} {fuel : Nat} {course : Course}
  {w : BootloaderConnection σ (Owner UploadTask)}

theorem wp_transportSend_cases {raw : Bytes}
    {post : Post Exn (BootloaderConnection σ (Owner UploadTask)) Unit}
    (hdone : ∀ s, S.send raw w.link.transport = (.done, s) → post.ok () { w with
      link.transport := s
      link.trace := w.link.trace ++ [.direct raw .done] })
    (hraised : ∀ error s, S.send raw w.link.transport = (.raised error, s) →
      post.raised error { w with
        link.transport := s
        link.trace := w.link.trace ++ [.direct raw (.raised error)] }) :
    wp (transportSend S.toRuntime raw) post w := by
  unfold wp transportSend
  rcases hsend : S.send raw w.link.transport with ⟨completion, s⟩
  cases completion with
  | done => exact hdone s hsend
  | raised error => exact hraised error s hsend

theorem wp_sendMavlinkMessage {n : Nat} {body : MessageBody} {raw : Bytes}
    {post : Post Exn (BootloaderConnection σ (Owner UploadTask)) Unit}
    (hnumbered : Numbered n (mavlinkOf w))
    (hraw : (MAVLink.encode id { MAVLink.new 254 190 with seq := n } body true).map Prod.fst =
      .ok raw)
    (hdone : ∀ s mav, Numbered ((n + 1) % 256) mav → post.ok () { w with
      link.transport := s
      link.trace := w.link.trace ++ [.direct raw .done]
      client.mavlink := some mav })
    (hraised : ∀ error s mav, S.send raw w.link.transport = (.raised error, s) →
      Numbered ((n + 1) % 256) mav → post.raised error { w with
        link.transport := s
        link.trace := w.link.trace ++ [.direct raw (.raised error)]
        client.mavlink := some mav }) :
    wp (sendMavlinkMessage sha256 S.toRuntime body) post w := by
  obtain ⟨mav, hencode, hnext⟩ := hnumbered.encode sha256 hraw
  unfold sendMavlinkMessage
  rw [wp_of_eq (Proc.bind_of_ok (getMavlink_eq w) _)]
  dsimp only
  rw [hencode]
  change wp (setMavlink mav >>= fun _ => transportSend S.toRuntime raw) post _
  unfold setMavlink
  rw [wp_bind, wp_modify]
  apply wp_transportSend_cases
  · exact fun s _ => hdone s mav hnext
  · exact fun error s hsend => hraised error s mav hsend hnext

structure Working (n : Nat) (trace : List Action) (task : UploadTask)
    (w : BootloaderConnection σ (Owner UploadTask)) : Prop where
  mode : w.mode = .mavlink
  mavlink : Numbered n (mavlinkOf w)
  trace : w.link.trace = trace
  caller : w.client.caller = task

def worked (course : Course) (task : UploadTask) :
    Post Exn (BootloaderConnection σ (Owner UploadTask)) Unit where
  ok _ w := ∃ body, course w.link.trace body true ∧
    w.client.caller = { task with events := task.events ++ body, success := true }
  raised _ w := ∃ body, course w.link.trace body false ∧
    w.client.caller = { task with events := task.events ++ body }
  running _ := False

theorem wp_complete {n : Nat} {trace : List Action} {task : UploadTask}
    (body : List UploaderEvent) (h : Working n trace { task with events := task.events ++ body } w)
    (hcourse : course trace (body ++ [.progress 1, .step .finished]) true) :
    wp complete (worked course task) w := by
  unfold complete report
  simp only [onCaller, wp_bind, wp_modify]
  refine ⟨body ++ [.progress 1, .step .finished], h.trace.symm ▸ hcourse, ?_⟩
  dsimp only
  rw [h.caller]
  simp only [List.append_assoc, List.cons_append, List.nil_append]

theorem wp_flashBootloaderWork (task : UploadTask) (h : Working 0 [] task w) :
    wp (flashBootloaderWork sha256 S) (worked FlashCourse task) w := by
  unfold flashBootloaderWork BootloaderConnection.flashBootloader
  rw [wp_bind]
  refine wp_sendMavlinkMessage h.mavlink encode_flashBootloaderMessage ?_ ?_
  · intro s mav hnext
    refine wp_complete [] ⟨h.mode, hnext, rfl, ?_⟩ ?_
    · rw [List.append_nil]
      exact h.caller
    · rw [h.trace]
      exact .completed
  · intro error s mav _ _
    refine ⟨[], ?_, ?_⟩
    · dsimp only
      rw [h.trace]
      exact .refused error
    · rw [List.append_nil]
      exact h.caller

theorem wp_rebootDevice {post : Post Exn (BootloaderConnection σ (Owner UploadTask)) Unit}
    (hmode : w.mode = .mavlink)
    (h : wp (sendMavlinkMessage sha256 S.toRuntime rebootMessage) post w) :
    wp (rebootDevice sha256 S fuel) post w := by
  unfold rebootDevice
  rw [wp_bind, wp_get]
  dsimp only
  rw [hmode]
  exact h

theorem wp_factoryResetWork (task : UploadTask) (h : Working 0 [] task w) :
    wp (factoryResetWork sha256 S fuel) (worked ResetCourse task) w := by
  unfold factoryResetWork resetToFactoryDefaults
  rw [wp_bind]
  refine wp_sendMavlinkMessage h.mavlink encode_resetMessage ?_ ?_
  · intro s mav hnext
    have hcaller : w.client.caller = task := h.caller
    simp only [report, onCaller, wp_bind, wp_modify, wp_catching]
    -- the reboot ends the work with any exception but one
    refine wp_rebootDevice h.mode (wp_sendMavlinkMessage hnext encode_rebootMessage ?_ ?_)
    · intro s' mav' hlast
      refine wp_complete [.step .rebooting] ⟨h.mode, hlast, rfl, ?_⟩ ?_
      · dsimp only
        rw [hcaller]
      · dsimp only
        rw [h.trace]
        exact .completed .done (.inl rfl)
    · intro error s' mav' _ hlast
      dsimp only
      split_ifs with hbroken
      · refine wp_complete [.step .rebooting] ⟨h.mode, hlast, rfl, ?_⟩ ?_
        · dsimp only
          rw [hcaller]
        · dsimp only
          rw [h.trace, hbroken]
          exact .completed _ (.inr rfl)
      · refine ⟨[.step .rebooting], ?_, ?_⟩
        · dsimp only
          rw [h.trace]
          exact .rebootRefused error hbroken
        · dsimp only
          rw [hcaller]
  · intro error s mav _ _
    refine ⟨[], ?_, ?_⟩
    · dsimp only
      rw [h.trace]
      exact .refused error
    · rw [List.append_nil]
      exact h.caller

/-- The task is as it was and nothing has been sent, or a heartbeat was received and the course of
the work has begun. -/
def Connected (sha256 : Bytes → Bytes) (S : Session σ) (course : Course) (s : σ)
    (task : UploadTask) (w : BootloaderConnection σ (Owner UploadTask)) : Prop :=
  (w.link.trace = [] ∧ w.client.caller = task) ∨
    Heard sha256 S s ∧ ∃ body success, course w.link.trace body success ∧
      w.client.caller = { task with events := task.events ++ body, success := success }

def connected (sha256 : Bytes → Bytes) (S : Session σ) (course : Course) (s : σ)
    (task : UploadTask) : Post Exn (BootloaderConnection σ (Owner UploadTask)) Unit where
  ok _ w := Heard sha256 S s ∧ ∃ body, course w.link.trace body true ∧
    w.client.caller = { task with events := task.events ++ body, success := true }
  raised _ := Connected sha256 S course s task
  running w := w.link.trace = [] ∧ w.client.caller = task

theorem wp_connectAndWork {work : Maintenance σ Unit} (task : UploadTask)
    (hwork : ∀ w, Working 0 [] task w → wp work (worked course task) w)
    (htrace : w.link.trace = []) (hcaller : w.client.caller = task)
    (hsuccess : task.success = false) :
    wp (connectAndWork sha256 S fuel work) (connected sha256 S course w.link.transport task) w := by
  have hsame : task = { task with events := task.events ++ [], success := false } := by
    rw [List.append_nil, ← hsuccess]
  unfold connectAndWork
  simp only [wp_bind, wp_modify, wp_ensuring]
  apply wp_awaiting_cases
  · intro s₁ hcreated
    apply wp_awaiting_cases
    · intro s₂ hentered
      refine wp_mono (wp_ensureInMavlink onBooted rfl) ?_ ?_ ?_
      · intro _ w₁ h
        obtain ⟨⟨s₃, hcheckpoint, hhears⟩, w₀, hlistened, rfl⟩ := h
        have hheard : Heard sha256 S w.link.transport :=
          ⟨s₁, s₂, s₃, hcreated, hentered, hcheckpoint, hhears⟩
        have hworking : Working 0 [] task { w₀ with mode := .mavlink } := by
          refine ⟨rfl, Numbered.kept ?_ hlistened.mavlink, hlistened.trace,
            hlistened.caller.trans hcaller⟩
          exact ⟨rfl, rfl, rfl⟩
        refine wp_mono (hwork _ hworking) ?_ ?_ (fun _ h => h.elim)
        · intro _ w₂ h
          apply wp_awaiting_cases
          · exact fun s' _ => ⟨hheard, h⟩
          · obtain ⟨body, hcourse, hclient⟩ := h
            exact fun error s' _ => .inr ⟨hheard, body, true, hcourse, hclient⟩
        · intro error w₂ h
          obtain ⟨body, hcourse, hclient⟩ := h
          have hconnected : Connected sha256 S course w.link.transport task w₂ := by
            refine .inr ⟨hheard, body, false, hcourse, hclient.trans ?_⟩
            rw [hsame]
          apply wp_awaiting_cases
          · exact fun s' _ => hconnected
          · exact fun error s' _ => hconnected
      · intro error w₁ h
        have hconnected : Connected sha256 S course w.link.transport task w₁ :=
          .inl ⟨h.trace, h.caller.trans hcaller⟩
        apply wp_awaiting_cases
        · exact fun s' _ => hconnected
        · exact fun error s' _ => hconnected
      · exact fun w₁ h => ⟨h.trace, h.caller.trans hcaller⟩
    · exact fun error s₂ _ => .inl ⟨rfl, hcaller⟩
  · exact fun error s₁ _ => .inl ⟨htrace, hcaller⟩

def concluded (w : BootloaderConnection σ (Owner UploadTask)) :
    BootloaderConnection σ (Owner UploadTask) :=
  { w with client.caller := { w.client.caller with
    events := w.client.caller.events ++ [.lifecycle .finished (some w.client.caller.success)
      (some w.client.caller.cancelled) (some false)] } }

theorem Accounts.ended {s : σ} {task : UploadTask} {outcome : Outcome Exn Unit}
    {body : List UploaderEvent} {success cancelled : Bool}
    (h : Accounts task body w) (hsuccess : w.client.caller.success = success)
    (hflag : w.client.caller.cancelled = cancelled)
    (hcancelled : cancelled = true ↔ outcome = .raised .cancelled)
    (hcourse : (w.link.trace = [] ∧ body = [] ∧ success = false ∧ outcome ≠ .ok ()) ∨
      (Heard sha256 S s ∧ course w.link.trace body success ∧ (outcome = .ok () → success = true))) :
    Ended sha256 S course s task outcome (concluded w) := by
  refine ⟨body, success, cancelled, ⟨?_, h.expectedFailures⟩, hcancelled, hcourse⟩
  unfold concluded
  dsimp only
  rw [h.events, hsuccess, hflag, List.append_assoc]

theorem wp_maintain {work : Maintenance σ Unit} (expecting : Bool) (s : σ) (task : UploadTask)
    (hwork : ∀ task w, Working 0 [] task w → wp work (worked course task) w) :
    wp (maintain sha256 S fuel work expecting) (followsCourse sha256 S course s task)
      (called s task) := by
  unfold maintain report
  simp only [onCaller, wp_bind, wp_modify]
  rw [wp_ensuring, wp_catching]
  let begun : UploadTask := { task with
    events := task.events ++ [.lifecycle .started none none none] ++ [.step .connecting]
    success := false
    cancelled := false
    retrying := expecting }
  have hbegun : ∀ (w : BootloaderConnection σ (Owner UploadTask)) body,
      w.client.caller.events = begun.events ++ body →
        w.client.caller.expectedFailures = begun.expectedFailures → Accounts task body w := by
    intro w body hevents hexpected
    refine ⟨?_, hexpected⟩
    rw [hevents]
    simp [begun]
  refine wp_mono (wp_connectAndWork begun (hwork begun) rfl rfl rfl) ?_ ?_ ?_
  · intro _ w₁ h
    obtain ⟨hheard, body, hcourse, hcaller⟩ := h
    have haccounts := hbegun w₁ body (by rw [hcaller]) (by rw [hcaller])
    refine haccounts.ended (by rw [hcaller]) (by rw [hcaller]) (by simp) ?_
    exact .inr ⟨hheard, hcourse, fun _ => rfl⟩
  · intro error w₁ h
    have hraised : ∀ (w₂ : BootloaderConnection σ (Owner UploadTask)) cancelled,
        w₂.link = w₁.link →
        w₂.client.caller = { w₁.client.caller with cancelled := cancelled } →
        (cancelled = true ↔ error = .cancelled) →
        Ended sha256 S course s task (.raised error) (concluded w₂) := by
      intro w₂ cancelled hlink hclient hcancelled
      rcases h with ⟨htrace, hcaller⟩ | ⟨hheard, body, success, hcourse, hcaller⟩
      · rw [← hlink] at htrace
        rw [hcaller] at hclient
        have haccounts := hbegun w₂ [] (by rw [hclient, List.append_nil]) (by rw [hclient])
        refine haccounts.ended (by rw [hclient]) (by rw [hclient]) (by simpa using hcancelled) ?_
        exact .inl ⟨htrace, rfl, rfl, by simp⟩
      · rw [← hlink] at hcourse
        rw [hcaller] at hclient
        have haccounts := hbegun w₂ body (by rw [hclient]) (by rw [hclient])
        refine haccounts.ended (by rw [hclient]) (by rw [hclient]) (by simpa using hcancelled) ?_
        exact .inr ⟨hheard, hcourse, by simp⟩
    have hnot : w₁.client.caller.cancelled = false := by
      rcases h with ⟨_, hcaller⟩ | ⟨_, body, success, _, hcaller⟩
      · rw [hcaller]
      · rw [hcaller]
    have hsame : w₁.client.caller = { w₁.client.caller with cancelled := false } := by rw [← hnot]
    cases error with
    | cancelled => exact hraised { w₁ with client.caller := { w₁.client.caller with
        cancelled := true } } true rfl rfl (by simp)
    | _ => exact hraised w₁ false rfl hsame (by simp)
  · intro w₁ h
    obtain ⟨htrace, hcaller⟩ := h
    exact ⟨htrace, hbegun w₁ [] (by rw [hcaller, List.append_nil]) (by rw [hcaller])⟩

end

theorem wp_flashBootloader (sha256 : Bytes → Bytes) (S : Session σ) (fuel : Nat)
    (expecting : Bool) (s : σ) (task : UploadTask) :
    wp (flashBootloader sha256 S fuel expecting) (followsCourse sha256 S FlashCourse s task)
      (called s task) :=
  wp_maintain expecting s task fun task _ h => wp_flashBootloaderWork task h

theorem wp_performFactoryReset (sha256 : Bytes → Bytes) (S : Session σ) (fuel : Nat)
    (expecting : Bool) (s : σ) (task : UploadTask) :
    wp (performFactoryReset sha256 S fuel expecting) (followsCourse sha256 S ResetCourse s task)
      (called s task) :=
  wp_maintain expecting s task fun task _ h => wp_factoryResetWork task h

/-- However the two tasks end, they have sent nothing but their packets, in order and behind a
heartbeat, and their events, their success and their silence about failures to expect agree with
what the transport took. -/
theorem maintenance_course (sha256 : Bytes → Bytes) (S : Session σ) (fuel : Nat)
    (expecting : Bool) (s : σ) (task : UploadTask) :
    wp (flashBootloader sha256 S fuel expecting) (followsCourse sha256 S FlashCourse s task)
        (called s task) ∧
      wp (performFactoryReset sha256 S fuel expecting) (followsCourse sha256 S ResetCourse s task)
        (called s task) :=
  ⟨wp_flashBootloader sha256 S fuel expecting s task,
    wp_performFactoryReset sha256 S fuel expecting s task⟩

/-! ## Devices that are heard -/

/-- Every packet is accepted, but the reboot may close the connection. -/
structure Accepts (S : Session σ) : Prop where
  send : ∀ raw s, (S.send raw s).1 = .done ∨
    raw = rebootPacket ∧ (S.send raw s).1 = .raised brokenResourceError
  exit : ∀ s, (S.exit s).1 = .done

section

variable {sha256 : Bytes → Bytes} {S : Session σ} {fuel : Nat}
  {w : BootloaderConnection σ (Owner UploadTask)}

end

def vehicle : Session (List (Except Exn Bytes)) :=
  { scripted with
    checkpoint := fun script => (.done, script)
    mavlinkReboot := []
    createTransport := fun script => (.done, script)
    enter := fun script => (.done, script)
    exit := fun script => (.done, script)
    eraseProgress := fun _ => [] }

end Uploader

end ApUploader
