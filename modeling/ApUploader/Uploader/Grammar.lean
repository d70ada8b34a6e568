import ApUploader.Uploader.Verified

/-! # The grammar of the upload events

Between the step that announces the connection and the finished event an upload goes
through its steps in order and may be cut off at every await. So what it has reported
at any time is the beginning of the events of a completed upload, with the progress
that was made.
-/

namespace ApUploader

open Effect BootloaderConnection Uploader

/-! ## The events of a completed upload -/

section Steps

variable (erase upload : List ℚ) (mismatches : List (Nat × Nat))

def erasedSteps : List UploaderEvent := .step .erasing :: erase.map .progress

def uploadedSteps : List UploaderEvent :=
  erasedSteps erase ++ .step .uploading :: upload.map .progress

def verifiedSteps : List UploaderEvent :=
  uploadedSteps erase upload ++
    .step .verifying :: mismatches.map fun (expected, observed) => .crcMismatch expected observed

def rebootedSteps : List UploaderEvent :=
  verifiedSteps erase upload mismatches ++ [.step .rebooting]

def completedSteps : List UploaderEvent :=
  rebootedSteps erase upload mismatches ++ [.step .finished]

end Steps

/-- What an upload has reported of its steps, with at most one mismatch. -/
def ReportedSteps (body : List UploaderEvent) : Prop :=
  ∃ erase upload mismatches, mismatches.length ≤ 1 ∧ body <+: completedSteps erase upload mismatches

def UnfinishedSteps (body : List UploaderEvent) : Prop :=
  ∃ erase upload mismatches, mismatches.length ≤ 1 ∧ body <+: rebootedSteps erase upload mismatches

/-- The events of one upload: its beginning, the steps it came to, at most one timeout, and the
finished event, which reports a success exactly when the last step was reported. -/
def FollowsGrammar (events : List UploaderEvent) : Prop :=
  ∃ body timeouts success cancelled retrying,
    events = [.lifecycle .started none none none, .step .connecting] ++ body ++ timeouts ++
        [.lifecycle .finished (some success) (some cancelled) (some retrying)] ∧
      ReportedSteps body ∧
      (timeouts = [] ∨ timeouts = [.lifecycle .timeout none none none]) ∧
      (success = true ↔ .step .finished ∈ body)

theorem UnfinishedSteps.reported {body : List UploaderEvent} (h : UnfinishedSteps body) :
    ReportedSteps body := by
  obtain ⟨erase, upload, mismatches, hlength, hbody⟩ := h
  exact ⟨erase, upload, mismatches, hlength, hbody.trans (List.prefix_append _ _)⟩

theorem UnfinishedSteps.not_finished {body : List UploaderEvent} (h : UnfinishedSteps body) :
    .step .finished ∉ body := by
  obtain ⟨erase, upload, mismatches, _, hbody⟩ := h
  intro hmem
  have hin := hbody.subset hmem
  simp [rebootedSteps, verifiedSteps, uploadedSteps, erasedSteps] at hin

theorem unfinishedSteps_nil : UnfinishedSteps [] := ⟨[], [], [], by simp, List.nil_prefix⟩

theorem unfinishedSteps_erased (erase : List ℚ) : UnfinishedSteps (erasedSteps erase) := by
  refine ⟨erase, [], [], by simp, ?_⟩
  simp [rebootedSteps, verifiedSteps, uploadedSteps, List.append_assoc]

theorem unfinishedSteps_uploaded (erase upload : List ℚ) :
    UnfinishedSteps (uploadedSteps erase upload) := by
  refine ⟨erase, upload, [], by simp, ?_⟩
  simp [rebootedSteps, verifiedSteps, List.append_assoc]

theorem unfinishedSteps_verified (erase upload : List ℚ) {mismatches : List (Nat × Nat)}
    (h : mismatches.length ≤ 1) : UnfinishedSteps (verifiedSteps erase upload mismatches) :=
  ⟨erase, upload, mismatches, h, List.prefix_append _ _⟩

theorem unfinishedSteps_rebooted (erase upload : List ℚ) {mismatches : List (Nat × Nat)}
    (h : mismatches.length ≤ 1) : UnfinishedSteps (rebootedSteps erase upload mismatches) :=
  ⟨erase, upload, mismatches, h, List.prefix_refl _⟩

/-! ## Along the body of an upload -/

def ReportsAt (before body : List UploaderEvent) (task : UploadTask) : Prop :=
  task.events = before ++ body ∧ task.success = false

/-- The task has reported some steps; it has succeeded exactly when the last one is among them. -/
def ReportsWithin (before : List UploaderEvent) (task : UploadTask) : Prop :=
  ∃ body, task.events = before ++ body ∧ ReportedSteps body ∧
    (task.success = true ↔ .step .finished ∈ body)

theorem ReportsAt.within {before body : List UploaderEvent} {task : UploadTask}
    (h : ReportsAt before body task) (hbody : UnfinishedSteps body) : ReportsWithin before task :=
  ⟨body, h.1, hbody.reported, iff_of_false (by simp [h.2]) hbody.not_finished⟩

variable {σ α β : Type} {before body : List UploaderEvent} {S : Session σ} {fuel : Nat}
  {firmware : Firmware}

def reporting (before : List UploaderEvent) (ok : α → UploadTask → Prop) :
    Post Exn (BootloaderConnection σ UploadTask) α where
  ok value w := ok value w.client
  raised _ w := ReportsWithin before w.client
  running _ := True

theorem wp_reporting_bind {m : Upload σ α} {next : α → Upload σ β} {ok : β → UploadTask → Prop}
    {w : BootloaderConnection σ UploadTask} (h : Keeps (ReportsAt before body) m)
    (hbody : UnfinishedSteps body) (hw : ReportsAt before body w.client)
    (hnext : ∀ value w, ReportsAt before body w.client → wp (next value) (reporting before ok) w) :
    wp (m >>= next) (reporting before ok) w := by
  rw [wp_bind]
  exact h.wp hw hnext (fun _ _ hw => hw.within hbody) (fun _ _ => trivial)

theorem ReportsAt.onEvents {task : UploadTask} (h : ReportsAt before body task)
    (events : List UploaderEvent) :
    ReportsAt before (body ++ events) { task with events := task.events ++ events } :=
  ⟨by rw [← List.append_assoc, ← h.1], h.2⟩

/-- An event is reported behind the steps so far. -/
theorem wp_onEvent_bind {event : UploaderEvent} {next : Unit → Upload σ β}
    {ok : β → UploadTask → Prop} {w : BootloaderConnection σ UploadTask}
    (hw : ReportsAt before body w.client)
    (hnext : ∀ w, ReportsAt before (body ++ [event]) w.client →
      wp (next ()) (reporting before ok) w) :
    wp (onEvent event >>= next) (reporting before ok) w := by
  rw [wp_bind, onEvent, update, wp_modify]
  exact hnext _ (hw.onEvents [event])

theorem framed_reportsAt (S : Session σ) (before body : List UploaderEvent) :
    Framed S.toRuntime (fun _ => True) fun w => ReportsAt before body w.client :=
  framed_client S.toRuntime _

theorem framedProgress_reports (S : Session σ) (before : List UploaderEvent)
    {steps : List ℚ → List UploaderEvent}
    (hsteps : ∀ made ticks, steps made ++ ticks.map .progress = steps (made ++ ticks)) :
    FramedProgress S (fun _ => True)
      fun w => ∃ made, ReportsAt before (steps made) w.client where
  toFramed := framed_client S.toRuntime fun task => ∃ made, ReportsAt before (steps made) task
  progress w ticks hw := by
    obtain ⟨made, hmade⟩ := hw
    refine ⟨made ++ ticks, ?_⟩
    rw [← hsteps]
    exact hmade.onEvents _

/-- A statement that reports nothing but progress is passed. -/
theorem wp_progress_bind {m : Upload σ α} {next : α → Upload σ β} {ok : β → UploadTask → Prop}
    {steps : List ℚ → List UploaderEvent} {w : BootloaderConnection σ UploadTask}
    (h : Keeps (fun task => ∃ made, ReportsAt before (steps made) task) m)
    (hsteps : ∀ made, UnfinishedSteps (steps made))
    (hw : ReportsAt before (steps []) w.client)
    (hnext : ∀ value made w, ReportsAt before (steps made) w.client →
      wp (next value) (reporting before ok) w) :
    wp (m >>= next) (reporting before ok) w := by
  rw [wp_bind]
  refine h.wp ⟨[], hw⟩ ?_ ?_ (fun _ _ => trivial)
  · intro value w hw
    obtain ⟨made, hmade⟩ := hw
    exact hnext value made w hmade
  · intro _ w hw
    obtain ⟨made, hmade⟩ := hw
    exact hmade.within (hsteps made)

theorem wp_prepare_reporting {w : BootloaderConnection σ UploadTask}
    (hw : ReportsAt before [] w.client) :
    wp (prepare S fuel)
      (reporting before fun _ task => ∃ erase, ReportsAt before (erasedSteps erase) task) w := by
  have hF := framed_reportsAt S before []
  have hnil := unfinishedSteps_nil
  unfold prepare
  refine wp_reporting_bind (hF.ensureInBootloader fuel trivial fun _ h => h) hnil hw
    fun _ w₁ h₁ => ?_
  refine wp_reporting_bind (hF.getDeviceInfo fuel trivial .flashSize) hnil h₁ fun size w₂ h₂ => ?_
  refine wp_reporting_bind (fun _ h => h) hnil h₂ fun _ w₃ h₃ => ?_
  refine wp_reporting_bind (hF.getDeviceInfo fuel trivial .blRev) hnil h₃ fun blRev w₄ h₄ => ?_
  split_ifs
  · exact h₄.within hnil
  · refine wp_reporting_bind (hF.getDeviceInfo fuel trivial .boardId) hnil h₄ fun _ w₅ h₅ => ?_
    refine wp_reporting_bind (hF.getDeviceInfo fuel trivial .boardRev) hnil h₅ fun _ w₆ h₆ => ?_
    refine wp_reporting_bind (hF.getSerialNumber fuel trivial) hnil h₆ fun _ w₇ h₇ => ?_
    refine wp_onEvent_bind h₇ fun w₈ h₈ => ?_
    have hsteps : ∀ made ticks, erasedSteps made ++ ticks.map .progress =
        erasedSteps (made ++ ticks) := by simp [erasedSteps]
    exact wp_progress_bind ((framedProgress_reports S before hsteps).eraseInTaskGroup fuel trivial)
      unfinishedSteps_erased h₈ fun _ made _ h => ⟨made, h⟩

theorem wp_verify_reporting {size : Nat} {erase made : List ℚ}
    {w : BootloaderConnection σ UploadTask}
    (hw : ReportsAt before (verifiedSteps erase made []) w.client) :
    wp (verify S fuel firmware size) (reporting before fun _ task =>
      ∃ mismatches, mismatches.length ≤ 1 ∧
        ReportsAt before (verifiedSteps erase made mismatches) task) w := by
  have hF := framed_reportsAt S before (verifiedSteps erase made [])
  have hbody : UnfinishedSteps (verifiedSteps erase made []) :=
    unfinishedSteps_verified erase made (by simp)
  unfold verify
  rw [wp_bind, wp_ofExcept]
  cases firmware.paddingLength size with
  | error error => exact hw.within hbody
  | ok padding =>
      refine wp_reporting_bind (hF.awaiting S.checkpoint) hbody hw fun _ w₁ h₁ => ?_
      refine wp_reporting_bind (hF.getFlashMemoryCrc fuel trivial) hbody h₁ fun crc w₂ h₂ => ?_
      refine wp_reporting_bind (fun _ h => h) hbody h₂ fun _ w₃ h₃ => ?_
      split_ifs
      · have hreported := h₃.onEvents
          [.crcMismatch (crc32 (List.replicate padding 255) firmware.crc) crc]
        refine ⟨[(crc32 (List.replicate padding 255) firmware.crc, crc)], by simp, ?_⟩
        simpa [verifiedSteps, onEvent, update] using hreported
      · exact ⟨[], by simp, h₃⟩

theorem wp_upload_reporting {w : BootloaderConnection σ UploadTask}
    (hw : ReportsAt before [] w.client) :
    wp (upload S fuel firmware) (reporting before fun _ => ReportsWithin before) w := by
  unfold upload
  rw [wp_bind]
  refine wp_mono (wp_prepare_reporting hw) ?_ (fun _ _ h => h) (fun _ h => h)
  intro value w₁ hprepared
  obtain ⟨size, blRev⟩ := value
  obtain ⟨erase, h₁⟩ := hprepared
  refine wp_onEvent_bind h₁ fun w₂ h₂ => ?_
  have hsteps : ∀ made ticks, uploadedSteps erase made ++ ticks.map .progress =
      uploadedSteps erase (made ++ ticks) := by simp [uploadedSteps]
  refine wp_progress_bind
    ((framedProgress_reports S before hsteps).uploadLoop fuel trivial trivial firmware.image blRev)
    (unfinishedSteps_uploaded erase) h₂ fun _ made w₃ h₃ => ?_
  refine wp_onEvent_bind h₃ fun w₄ h₄ => ?_
  rw [wp_bind]
  refine wp_mono (wp_verify_reporting h₄) ?_ (fun _ _ h => h) (fun _ h => h)
  intro _ w₅ hverified
  obtain ⟨mismatches, hlength, h₅⟩ := hverified
  refine wp_onEvent_bind h₅ fun w₆ h₆ => ?_
  have hrebooted := unfinishedSteps_rebooted erase made hlength
  refine wp_reporting_bind ((framed_reportsAt S before _).reboot fuel trivial false) hrebooted h₆
    fun _ w₇ h₇ => ?_
  refine wp_onEvent_bind h₇ fun w₈ h₈ => ?_
  have hcompleted : ReportedSteps (completedSteps erase made mismatches) :=
    ⟨erase, made, mismatches, hlength, List.prefix_refl _⟩
  refine ⟨completedSteps erase made mismatches, h₈.1, hcompleted, iff_of_true rfl ?_⟩
  simp [completedSteps]

theorem wp_connectAndUpload_reporting {w : BootloaderConnection σ UploadTask}
    (hw : ReportsAt before [] w.client) :
    wp (connectAndUpload S fuel firmware) (reporting before fun _ => ReportsWithin before) w := by
  have hexit : Keeps (ReportsWithin before) (awaiting S.exit : Upload σ Unit) :=
    (framed_client S.toRuntime (ReportsWithin before)).awaiting S.exit
  have hnil := unfinishedSteps_nil
  apply wp_connectAndUpload_cases
  · exact fun _ _ _ => hw.within hnil
  · exact fun _ _ _ _ _ => hw.within hnil
  · intro s s' _ _
    have hkept : ∀ w, ReportsWithin before w.client →
        wp (awaiting S.exit) (reporting before fun _ => ReportsWithin before) w := by
      intro w hw
      exact hexit.wp hw (fun _ _ h => h) (fun _ _ h => h) (fun _ _ => trivial)
    refine wp_mono (wp_upload_reporting hw) (fun _ w h => hkept w h) (fun _ w h => ?_)
      (fun _ h => h)
    exact hexit.wp h (fun _ _ h => h) (fun _ _ h => h) (fun _ _ => trivial)

/-! ## The whole coroutine -/

theorem ReportsWithin.finishing {events timeouts : List UploaderEvent} {task : UploadTask}
    (h : ReportsWithin (events ++ [.lifecycle .started none none none] ++ [.step .connecting]) task)
    (htimeouts : timeouts = [] ∨ timeouts = [.lifecycle .timeout none none none])
    {ended : UploadTask} (hevents : ended.events = task.events ++ timeouts)
    (hsuccess : ended.success = task.success) :
    ∃ trace, (finishing ended).events = events ++ trace ∧ FollowsGrammar trace := by
  obtain ⟨body, hbefore, hbody, hfinished⟩ := h
  refine ⟨[.lifecycle .started none none none, .step .connecting] ++ body ++ timeouts ++
    [.lifecycle .finished (some ended.success) (some ended.cancelled) (some ended.retrying)], ?_,
    body, timeouts, _, _, _, rfl, hbody, htimeouts, ?_⟩
  · simp [ApUploader.finishing, hevents, hbefore]
  · rw [hsuccess]
    exact hfinished

/-- The handlers of the coroutine report a timeout, and nothing else. -/
theorem announcing_events (error : Exn) (task : UploadTask) :
    ∃ timeouts, (timeouts = [] ∨ timeouts = [.lifecycle .timeout none none none]) ∧
      (announcing error task).events = task.events ++ timeouts ∧
      (announcing error task).success = task.success := by
  cases error with
  | timeoutError => exact ⟨_, .inr rfl, rfl, rfl⟩
  | _ => exact ⟨[], .inl rfl, (List.append_nil _).symm, rfl⟩

/-- The events of every upload that ends follow the grammar. -/
theorem events_follow_grammar (S : Session σ) (fuel : Nat) (firmware : Firmware)
    (expecting : Bool) (w w' : BootloaderConnection σ UploadTask) (outcome : Outcome Exn Unit)
    (hrun : uploadFirmware S fuel (some firmware) expecting w = (outcome, w'))
    (hended : outcome.ended) :
    ∃ trace, w'.client.events = w.client.events ++ trace ∧ FollowsGrammar trace := by
  let follows (w' : BootloaderConnection σ UploadTask) : Prop :=
    ∃ trace, w'.client.events = w.client.events ++ trace ∧ FollowsGrammar trace
  have hstart : ReportsAt (starting expecting w.client).events [] (starting expecting w.client) :=
    ⟨(List.append_nil _).symm, rfl⟩
  have hupload : wp (uploadFirmware S fuel (some firmware) expecting)
      ⟨fun _ => follows, fun _ => follows, fun _ => True⟩ w := by
    apply wp_uploadFirmware
    refine wp_mono (wp_connectAndUpload_reporting hstart) ?_ ?_ (fun _ _ => trivial)
    · intro _ w₁ h₁
      exact ReportsWithin.finishing h₁ (.inl rfl) (List.append_nil _).symm rfl
    · intro error w₁ h₁
      obtain ⟨timeouts, htimeouts, hevents, hsuccess⟩ := announcing_events error w₁.client
      exact ReportsWithin.finishing h₁ htimeouts hevents hsuccess
  rw [wp_of_eq hrun] at hupload
  cases outcome with
  | ok value => exact hupload
  | raised error => exact hupload
  | running => exact hended.elim

theorem events_follow_grammar_one_byte :
    ∃ fuel w', uploadFirmware
        (wireSession (acknowledge 4 0) (fun _ => 0) .never [] fun _ => []) fuel
        (some { image := [1] }) false { link := ⟨.new, ⟨(), [], 0⟩, []⟩, client := {} } =
          (.ok (), w') ∧
      ∃ trace, w'.client.events = [] ++ trace ∧ FollowsGrammar trace := by
  have hpadding : Firmware.paddingLength { image := [1] } 4 = .ok 3 := by decide
  have hcompletes := completes_uploadFirmware
    (w := { link := ⟨.new, ⟨(), [], 0⟩, []⟩, client := {} }) false
    (wireSession_undisturbed (acknowledge 4 0) (fun _ => 0) .never [] fun _ => [])
    (acknowledge_servesUpload [1] (by decide) (by decide)) (by decide) hpadding rfl rfl rfl
  obtain ⟨_, w', ⟨fuel, hrun⟩, _⟩ := hcompletes
  have hrun := hrun fuel (Nat.le_refl _)
  exact ⟨fuel, w', hrun, events_follow_grammar _ fuel _ false _ w' _ hrun trivial⟩

end ApUploader
