import ApUploader.Uploader.Task
import ApUploader.Uploader.Verified

/-! # Whether a successful upload is final

A task is done with a call that returns. An upload reports its success before the
connection is closed, so a success is final exactly where closing the connection
behind a completed upload raises no exception of its own.
-/

namespace ApUploader

open Effect

/-! ## Tasks in general -/

namespace UploaderTask

variable {σ ε : Type} {good : Callback ε → Prop} {func : TaskFunction σ ε}

def Reports (good : Callback ε → Prop) (callbacks : List (Callback ε)) : Prop :=
  ∃ callback ∈ callbacks, good callback

/-- An attempt that has made a good report is the last one, and nothing is logged behind it. -/
def FinalOnce (good : Callback ε → Prop) (attempts : List (AttemptRecord ε)) : Prop :=
  ∀ front a back, attempts = front ++ a :: back → Reports good a.callbacks →
    back = [] ∧ a.logs = []

/-- A call with a good report does not raise anything that the task handles. -/
def GoodReturns (good : Callback ε → Prop) (func : TaskFunction σ ε) : Prop :=
  ∀ expecting s failure, Reports good (func expecting s).1.callbacks →
    (func expecting s).1.outcome ≠ .raised (.failure failure)

def NoneGood (good : Callback ε → Prop) (attempts : List (AttemptRecord ε)) : Prop :=
  ∀ a ∈ attempts, ¬ Reports good a.callbacks

def EndsWith (front : List (AttemptRecord ε)) (last : AttemptRecord ε → Prop)
    (attempts : List (AttemptRecord ε)) : Prop :=
  ∃ a, attempts = front ++ [a] ∧ last a

theorem EndsWith.mono {front : List (AttemptRecord ε)} {last last' : AttemptRecord ε → Prop}
    {attempts : List (AttemptRecord ε)} (h : EndsWith front last attempts)
    (himp : ∀ a, last a → last' a) : EndsWith front last' attempts := by
  obtain ⟨a, hattempts, hlast⟩ := h
  exact ⟨a, hattempts, himp a hlast⟩

theorem not_reports_nil : ¬ Reports good [] := by simp [Reports]

theorem NoneGood.concat {front : List (AttemptRecord ε)} {a : AttemptRecord ε}
    (hfront : NoneGood good front) (ha : ¬ Reports good a.callbacks) :
    NoneGood good (front ++ [a]) := by
  intro b hb
  rcases List.mem_append.mp hb with hb | hb
  · exact hfront b hb
  · rw [List.mem_singleton.mp hb]
    exact ha

theorem NoneGood.finalOnce {attempts : List (AttemptRecord ε)} (h : NoneGood good attempts) :
    FinalOnce good attempts := by
  intro front a back hattempts hgood
  exact (h a (by simp [hattempts]) hgood).elim

theorem NoneGood.finalOnce_concat {front : List (AttemptRecord ε)} {a : AttemptRecord ε}
    (hfront : NoneGood good front) (hlogs : a.logs = []) : FinalOnce good (front ++ [a]) := by
  intro front' b back hattempts hgood
  rcases List.eq_nil_or_concat back with rfl | ⟨between, last, rfl⟩
  · have hsame := List.append_inj_right' hattempts rfl
    cases hsame
    exact ⟨rfl, hlogs⟩
  · rw [List.concat_eq_append, ← List.cons_append, ← List.append_assoc] at hattempts
    have hsame := List.append_inj_left' hattempts rfl
    exact (hfront b (by simp [hsame]) hgood).elim

section Frame

variable {P : List (AttemptRecord ε) → Prop}

theorem preserves_await (action : σ → Option TaskError × σ) :
    Preserves (fun task : UploaderTask σ ε => P task.attempts) (await action) := by
  intro task h
  apply wp_await
  · exact fun _ _ => h
  · exact fun _ _ _ => h

theorem preserves_acquire (R : TaskRuntime σ) :
    Preserves (fun task : UploaderTask σ ε => P task.attempts) (acquire R) := by
  unfold acquire
  cases R.limiter with
  | none => exact .pure _
  | some limiter => exact .bind (preserves_await _) fun _ => .modify fun _ h => h

theorem preserves_release (R : TaskRuntime σ) :
    Preserves (fun task : UploaderTask σ ε => P task.attempts) (release R) := by
  unfold release
  cases R.limiter with
  | none => exact .pure _
  | some limiter =>
      refine .modify fun task h => ?_
      split <;> exact h

theorem preserves_handleExceptions (R : TaskRuntime σ) (exceptions : List TaskException) :
    Preserves (fun task : UploaderTask σ ε => P task.attempts) (handleExceptions R exceptions) := by
  unfold handleExceptions
  refine .bind .get fun task => ?_
  split
  · refine .bind (.modify fun _ h => h) fun _ => ?_
    exact .bind (preserves_await _) fun _ => .pure _
  · exact .pure _

end Frame

/-- A call that ends in this way has made no good report if the task handles its failure. -/
def endedGood (good : Callback ε → Prop) (front : List (AttemptRecord ε)) :
    Post TaskError (UploaderTask σ ε) Unit where
  ok _ task := EndsWith front (fun a => a.logs = []) task.attempts
  raised error task := EndsWith front (fun a => a.logs = [] ∧
    ((∃ failure, error = .failure failure) → ¬ Reports good a.callbacks)) task.attempts
  running task := EndsWith front (fun a => a.logs = []) task.attempts

theorem wp_call_good (hfunc : GoodReturns good func) {front : List (AttemptRecord ε)}
    {task : UploaderTask σ ε} (hattempts : task.attempts = front ++ [.begun]) :
    wp (call func) (endedGood good front) task := by
  apply wp_call hattempts
  intro call world hcall
  have hreturns := hfunc (decide (0 < task.expectedFailures)) task.world
  rw [hcall] at hreturns
  cases houtcome : call.outcome with
  | ok value => exact ⟨_, rfl, rfl⟩
  | running => exact ⟨_, rfl, rfl⟩
  | raised error =>
      refine ⟨_, rfl, rfl, ?_⟩
      rintro ⟨failure, rfl⟩ hreports
      exact hreturns failure hreports houtcome

/-- A good report is followed by a failure that the task handles in no attempt. -/
theorem wp_tryCall_good (hfunc : GoodReturns good func) (R : TaskRuntime σ)
    {front : List (AttemptRecord ε)} {task : UploaderTask σ ε}
    (hattempts : task.attempts = front ++ [.begun]) :
    wp (tryCall R func)
      ⟨fun result task => EndsWith front
          (fun a => a.logs = [] ∧ (result ≠ none → ¬ Reports good a.callbacks)) task.attempts,
        fun _ task => EndsWith front (fun a => a.logs = []) task.attempts,
        fun task => EndsWith front (fun a => a.logs = []) task.attempts⟩ task := by
  have hrelease : ∀ {last : AttemptRecord ε → Prop},
      Preserves (fun task : UploaderTask σ ε => EndsWith front last task.attempts) (release R) :=
    preserves_release R
  apply wp_tryCall (endedGood good front)
  · have hbegun := preserves_acquire (P := fun attempts => attempts = front ++ [.begun]) R
    apply hbegun.wp hattempts
    · exact fun _ task h => wp_call_good hfunc h
    · exact fun _ task h => ⟨_, h, rfl, fun _ => not_reports_nil⟩
    · exact fun task h => ⟨_, h, rfl⟩
  · intro task hended
    apply hrelease.wp hended
    · exact fun _ task h => h.mono fun a hlogs => ⟨hlogs, fun hne => (hne rfl).elim⟩
    · exact fun _ _ h => h
    · exact fun _ h => h
  · intro failure task hended
    have hfailed : EndsWith front (fun a => a.logs = [] ∧ ¬ Reports good a.callbacks)
        task.attempts := hended.mono fun a h => ⟨h.1, h.2 ⟨failure, rfl⟩⟩
    apply (preserves_handleExceptions R failure.exceptions).wp hfailed
    · intro result task h
      apply hrelease.wp h
      · exact fun _ task h => h.mono fun a h => ⟨h.1, fun _ => h.2⟩
      · exact fun _ task h => h.mono fun a h => h.1
      · exact fun task h => h.mono fun a h => h.1
    · intro error task h
      exact hrelease.wp (h.mono fun a h => h.1) (fun _ _ h => h) (fun _ _ h => h) (fun _ h => h)
    · exact fun task h => h.mono fun a h => h.1
  · intro task hended
    exact hrelease.wp (hended.mono fun a h => h.1) (fun _ _ h => h) (fun _ _ h => h) (fun _ h => h)
  · exact fun _ h => h

theorem runPass_good (hfunc : GoodReturns good func) (R : TaskRuntime σ) (retries attempt : Nat)
    {task : UploaderTask σ ε} (h : NoneGood good task.attempts) :
    wp (runPass R func retries attempt)
      (roundPost (fun _ task => NoneGood good task.attempts)
        (.always fun task => FinalOnce good task.attempts)) task := by
  have hended : ∀ {task' : UploaderTask σ ε},
      EndsWith task.attempts (fun a => a.logs = []) task'.attempts →
      FinalOnce good task'.attempts := by
    rintro task' ⟨a, hattempts, hlogs⟩
    rw [hattempts]
    exact h.finalOnce_concat hlogs
  unfold runPass
  split
  · simp only [wp_bind, wp_modify]
    refine wp_mono (wp_tryCall_good hfunc R rfl) ?_ (fun _ _ h => hended h) (fun _ h => hended h)
    intro result task' hrecorded
    obtain ⟨a, hattempts, hlogs, hreports⟩ := hrecorded
    cases result with
    | none => exact hended ⟨a, hattempts, hlogs⟩
    | some result =>
        have ha : ¬ Reports good a.callbacks := hreports (Option.some_ne_none _)
        apply wp_reportFailure rfl hattempts
        · intro _ _
          change NoneGood good task'.attempts
          rw [hattempts]
          exact h.concat ha
        · exact fun _ _ => h.concat ha
        · exact fun _ => h.concat ha
  · exact h.finalOnce

/-- Whatever the runtime does, a good report ends the task if the calls that make one return. -/
theorem run_finalOnce (hfunc : GoodReturns good func) (R : TaskRuntime σ) (retries : Nat)
    {task : UploaderTask σ ε} (hfresh : task.attempts = []) :
    FinalOnce good (run R func retries task).2.attempts := by
  have hrun : wp (run R func retries) (.always fun task => FinalOnce good task.attempts) task := by
    apply wp_loop_invariant (fun _ task => NoneGood good task.attempts)
    · exact fun _ _ h => h.finalOnce
    · exact fun attempt task h => runPass_good hfunc R retries attempt h
    · intro a ha
      rw [hfresh] at ha
      cases ha
  exact wp_always_iff.mp hrun

def undisturbedRuntime (σ : Type) : TaskRuntime σ where
  sleep s := (none, s)

def LoggedGood (good : Callback ε → Prop) (task : UploaderTask σ ε) : Prop :=
  EndsWith [] (fun a => a.logs ≠ [] ∧ Reports good a.callbacks) task.attempts

theorem wp_release_undisturbed {task : UploaderTask σ ε}
    {post : Post TaskError (UploaderTask σ ε) Unit} (h : post.ok () task) :
    wp (release (undisturbedRuntime σ)) post task := h

theorem reportFailure_logs {message : String} {retry : Bool} {a : AttemptRecord ε}
    {task : UploaderTask σ ε} (hattempts : task.attempts = [] ++ [a])
    (hreports : Reports good a.callbacks) :
    wp (reportFailure 0 0 message retry)
      (.returns fun result task => result = .inl 1 ∧ LoggedGood good task) task := by
  have hnext : (if retry then 0 else 0) = 0 := by split <;> rfl
  apply wp_reportFailure hnext hattempts
  · exact fun hless => (Nat.not_lt_zero _ hless).elim
  · exact fun hless => (Nat.not_lt_zero _ hless).elim
  · exact fun _ => ⟨rfl, _, rfl, by simp, hreports⟩

/-- Without retries a failure is logged as an error, also one behind a good report. -/
theorem runPass_logs {task : UploaderTask σ ε} {failure : TaskFailure}
    (hfresh : task.attempts = [])
    (hreports : Reports good (func (decide (0 < task.expectedFailures)) task.world).1.callbacks)
    (hfails : (func (decide (0 < task.expectedFailures)) task.world).1.outcome =
      .raised (.failure failure)) :
    wp (runPass (undisturbedRuntime σ) func 0 0)
      (.returns fun result task => result = .inl 1 ∧ LoggedGood good task) task := by
  let ended : Post TaskError (UploaderTask σ ε) Unit := ⟨fun _ _ => False, fun error task =>
    error = .failure failure ∧ EndsWith [] (fun a => Reports good a.callbacks) task.attempts,
    fun _ => False⟩
  unfold runPass
  rw [if_pos (Nat.le_refl 0)]
  simp only [wp_bind, wp_modify, hfresh]
  apply wp_tryCall ended
  · change wp (call func) ended _
    apply wp_call rfl
    intro call world hcall
    dsimp only at hcall ⊢
    rw [hcall] at hreports hfails
    rw [hfails]
    exact ⟨rfl, _, rfl, hreports⟩
  · exact fun _ h => h.elim
  · intro failure task h
    obtain ⟨_, a, hattempts, hreported⟩ := h
    refine wp_mono (wp_handleExceptions (fun _ => rfl) _ task) ?_ (fun _ _ h => h.elim)
      (fun _ h => h)
    rintro ⟨message, retry⟩ _ ⟨_, rfl⟩
    dsimp only
    apply wp_release_undisturbed
    exact reportFailure_logs hattempts hreported
  · exact fun _ h => by cases h.1
  · exact fun _ h => h

/-- A good report with a failure behind it is followed by an error in a task without retries. -/
theorem not_finalOnce {expecting : Bool} {s : σ} {failure : TaskFailure}
    (hreports : Reports good (func expecting s).1.callbacks)
    (hfails : (func expecting s).1.outcome = .raised (.failure failure)) :
    ∃ task, task.attempts = [] ∧
      ¬ FinalOnce good (run (undisturbedRuntime σ) func 0 task).2.attempts := by
  let start : UploaderTask σ ε :=
    { world := s, expectedFailures := if expecting then 1 else 0 }
  have hexpecting : decide (0 < start.expectedFailures) = expecting := by
    cases expecting <;> rfl
  have hrun : wp (run (undisturbedRuntime σ) func 0) (.returns fun _ task => LoggedGood good task)
      start := by
    apply wp_loop_variant
      (fun attempt task => attempt = 0 ∧ task = start ∨ attempt = 1 ∧ LoggedGood good task)
      (fun attempt _ => 1 - attempt)
    · rintro attempt task (⟨rfl, rfl⟩ | ⟨rfl, hlogged⟩)
      · rw [← hexpecting] at hreports hfails
        refine wp_mono (runPass_logs rfl hreports hfails) ?_ (fun _ _ h => h) (fun _ h => h)
        rintro _ task ⟨rfl, hlogged⟩
        exact ⟨.inr ⟨rfl, hlogged⟩, by decide⟩
      · exact hlogged
    · exact .inl ⟨rfl, rfl⟩
    · decide
  obtain ⟨_, task, hresult, a, hattempts, hlogs, hreported⟩ := wp_returns_iff.mp hrun
  refine ⟨start, rfl, fun hfinal => ?_⟩
  rw [hresult] at hfinal
  exact hlogs (hfinal [] a [] hattempts hreported).2

/-- Good reports are final in every run of a task exactly if the calls that make one return. -/
theorem finalOnce_iff : (∀ (R : TaskRuntime σ) (retries : Nat) (task : UploaderTask σ ε),
    task.attempts = [] → FinalOnce good (run R func retries task).2.attempts) ↔
      GoodReturns good func := by
  constructor
  · intro hfinal expecting s failure hreports hfails
    obtain ⟨task, hfresh, hnot⟩ := not_finalOnce hreports hfails
    exact hnot (hfinal _ 0 task hfresh)
  · exact fun hfunc R retries task hfresh => run_finalOnce hfunc R retries hfresh

end UploaderTask

/-! ## Uploads as tasks -/

open BootloaderConnection Uploader UploaderTask

variable {σ : Type}

/-- What the task makes of an exception, given how it sees those it asks about. -/
def taskError (view : Exn → TaskException) : Exn → TaskError
  | .cancelled => .cancelled
  | .exceptionGroup error => .failure (.exceptionGroup [view error])
  | error => .failure (.exception (view error))

/-- The calls of the callbacks; only the first two events precede the announcement that is made
when the device has been asked to reboot. -/
def UploadTask.callbacks (task : UploadTask) : List (Callback UploaderEvent) :=
  (task.events.take 2).map .event ++
    (if task.expectedFailures = 0 then [] else [.expectedFailure task.expectedFailures]) ++
    (task.events.drop 2).map .event

/-- `upload_firmware` as the function of a task; only the transport outlives a call. -/
def uploadTask (S : Session σ) (fuel : Nat) (firmware : Option Firmware)
    (view : Exn → TaskException) : TaskFunction σ UploaderEvent := fun expecting s =>
  let (outcome, w) := uploadFirmware S fuel firmware expecting
    { link := ⟨.new, s, []⟩, client := {} }
  (⟨w.client.callbacks, outcome.mapError (taskError view)⟩, w.link.transport)

def FinishedWithSuccess (callback : Callback UploaderEvent) : Prop :=
  ∃ cancelled retrying, callback = .event (.lifecycle .finished (some true) cancelled retrying)

/-- In every run of the task, behind a reported success the function is not called again and
nothing is logged. -/
def SuccessFinal (S : Session σ) (view : Exn → TaskException) : Prop :=
  ∀ (fuel : Nat) (firmware : Option Firmware) (R : TaskRuntime σ) (retries : Nat)
    (task : UploaderTask σ UploaderEvent), task.attempts = [] →
    FinalOnce FinishedWithSuccess
      (run R (uploadTask S fuel firmware view) retries task).2.attempts

/-- Closing the connection behind an upload that has run to its end raises no `Exception`. -/
def ClosesQuietly (S : Session σ) : Prop :=
  ∀ (fuel : Nat) (firmware : Firmware) (expecting : Bool) (s s₁ s₂ : σ)
    (w : BootloaderConnection σ UploadTask), S.createTransport s = (.done, s₁) →
    S.enter s₁ = (.done, s₂) →
    upload S fuel firmware { link := ⟨.new, s₂, []⟩, client := starting expecting {} } =
      (.ok (), w) →
    ∀ error s', S.exit w.link.transport = (.raised error, s') → error.isException = false

theorem taskError_eq_failure_iff (view : Exn → TaskException) {error : Exn} :
    (∃ failure, taskError view error = .failure failure) ↔ error.isException = true := by
  cases error <;> simp [taskError, Exn.isException]

theorem reports_callbacks_iff {task : UploadTask} :
    Reports FinishedWithSuccess task.callbacks ↔ ReportsSuccess task := by
  have hmem : ∀ event, .event event ∈ task.callbacks ↔ event ∈ task.events := by
    intro event
    have hsplit : event ∈ task.events ↔
        event ∈ task.events.take 2 ∨ event ∈ task.events.drop 2 := by
      rw [← List.mem_append, List.take_append_drop]
    rw [hsplit]
    unfold UploadTask.callbacks
    split <;> simp [-List.map_take, -List.map_drop]
  constructor
  · rintro ⟨_, hcallback, cancelled, retrying, rfl⟩
    exact ⟨cancelled, retrying, (hmem _).mp hcallback⟩
  · rintro ⟨cancelled, retrying, hevent⟩
    exact ⟨_, (hmem _).mpr hevent, cancelled, retrying, rfl⟩

/-! ## The success of an upload is its last word -/

structure Unsuccessful (task : UploadTask) : Prop where
  success : task.success = false
  silent : ¬ ReportsSuccess task

theorem Unsuccessful.onEvents {task : UploadTask} {events : List UploaderEvent}
    (h : Unsuccessful task) (hevents : ∀ cancelled retrying,
      UploaderEvent.lifecycle .finished (some true) cancelled retrying ∉ events) :
    Unsuccessful { task with events := task.events ++ events } :=
  ⟨h.success, fun hreports => h.silent (reportsSuccess_append hevents hreports)⟩

theorem framedUpload_unsuccessful (S : Session σ) :
    FramedUpload S (fun _ => True) fun w => Unsuccessful w.client where
  toFramed := framed_client S.toRuntime _
  events _ _ hevents h := h.onEvents (finished_not_mem hevents)

/-- What is set at the end of an upload, and unset at every earlier one. -/
def succeeding {α : Type} (ok : α → BootloaderConnection σ UploadTask → Prop) :
    Post Exn (BootloaderConnection σ UploadTask) α where
  ok := ok
  raised _ w := Unsuccessful w.client
  running _ := True

theorem wp_unsuccessful_bind {α β : Type} {m : Upload σ α} {next : α → Upload σ β}
    {ok : β → BootloaderConnection σ UploadTask → Prop} {w : BootloaderConnection σ UploadTask}
    (hm : Preserves (fun w => Unsuccessful w.client) m) (hw : Unsuccessful w.client)
    (hnext : ∀ value w, Unsuccessful w.client → wp (next value) (succeeding ok) w) :
    wp (m >>= next) (succeeding ok) w :=
  hm.wp_bind hw hnext (fun _ _ h => h) (fun _ _ => trivial)

theorem wp_upload_succeeding (S : Session σ) (fuel : Nat) (firmware : Firmware)
    {w : BootloaderConnection σ UploadTask} (hw : Unsuccessful w.client) :
    wp (upload S fuel firmware) (succeeding fun _ w => w.client.success = true) w := by
  have hF := framedUpload_unsuccessful S
  have hmismatch : ∀ expected observed, Preserves (fun w => Unsuccessful w.client)
      (onEvent (.crcMismatch expected observed) : Upload σ Unit) := by
    intro expected observed
    exact .modify fun _ h => h.onEvents (by simp)
  unfold upload
  refine wp_unsuccessful_bind (hF.prepare fuel (fun _ h => ⟨h.success, h.silent⟩)
    fun _ _ h => ⟨h.success, h.silent⟩) hw ?_
  rintro ⟨size, blRev⟩ w₁ h₁
  refine wp_unsuccessful_bind (hF.onEvent rfl) h₁ fun _ w₂ h₂ => ?_
  refine wp_unsuccessful_bind (hF.uploadLoop fuel trivial trivial _ blRev) h₂ fun _ w₃ h₃ => ?_
  refine wp_unsuccessful_bind (hF.onEvent rfl) h₃ fun _ w₄ h₄ => ?_
  refine wp_unsuccessful_bind (hF.verify fuel trivial (fun _ _ h => ⟨h.success, h.silent⟩)
    hmismatch firmware size) h₄ fun _ w₅ h₅ => ?_
  refine wp_unsuccessful_bind (hF.onEvent rfl) h₅ fun _ w₆ h₆ => ?_
  refine wp_unsuccessful_bind (hF.reboot fuel trivial false) h₆ fun _ w₇ h₇ => ?_
  refine wp_unsuccessful_bind (hF.onEvent rfl) h₇ fun _ w₈ h₈ => ?_
  exact rfl

theorem announcing_success (error : Exn) (task : UploadTask) :
    (announcing error task).success = task.success := by
  cases error <;> rfl

theorem reportsSuccess_finishing {task : UploadTask} (h : task.success = true) (error : Exn) :
    ReportsSuccess (finishing (announcing error task)) := by
  refine ⟨some (announcing error task).cancelled, some (announcing error task).retrying, ?_⟩
  simp [finishing, announcing_success, h]

theorem Unsuccessful.ended {task : UploadTask} (h : Unsuccessful task) (error : Exn) :
    ¬ ReportsSuccess (finishing (announcing error task)) := by
  have hannounced : Unsuccessful (announcing error task) := by
    cases error with
    | timeoutError => exact h.onEvents (by simp)
    | cancelled => exact ⟨h.success, h.silent⟩
    | _ => exact h
  intro hreports
  refine hannounced.silent (reportsSuccess_append ?_ hreports)
  simp [hannounced.success]

theorem unsuccessful_starting (expecting : Bool) : Unsuccessful (starting expecting {}) := by
  refine ⟨rfl, ?_⟩
  rintro ⟨_, _, hmem⟩
  simp [starting] at hmem

section Closing

variable {S : Session σ} {fuel : Nat} {firmware : Firmware} {expecting : Bool} {s : σ}

/-- Where closing is quiet, an upload that raises an `Exception` has not reported a success. -/
theorem wp_uploadFirmware_quiet (hquiet : ClosesQuietly S) :
    wp (uploadFirmware S fuel (some firmware) expecting)
      ⟨fun _ _ => True, fun error w => error.isException = true → ¬ ReportsSuccess w.client,
        fun _ => True⟩ { link := ⟨.new, s, []⟩, client := {} } := by
  have hstarting := unsuccessful_starting expecting
  apply wp_uploadFirmware
  apply wp_connectAndUpload_cases
  · exact fun error _ _ _ => hstarting.ended error
  · exact fun _ error _ _ _ _ => hstarting.ended error
  · intro s₁ s₂ hcreated hentered
    have hupload := wp_upload_succeeding S fuel firmware
      (w := { link := ⟨.new, s₂, []⟩, client := starting expecting {} }) hstarting
    rcases hrun : upload S fuel firmware
      { link := ⟨.new, s₂, []⟩, client := starting expecting {} } with ⟨outcome, w⟩
    rw [wp_of_eq hrun] at hupload ⊢
    cases outcome with
    | running => trivial
    | ok value =>
        apply wp_awaiting_cases
        · exact fun _ _ => trivial
        · intro error s' hclosed hexception
          rw [hquiet fuel firmware expecting s s₁ s₂ w hcreated hentered hrun error s' hclosed]
            at hexception
          cases hexception
    | raised error =>
        apply wp_awaiting_cases
        · exact fun _ _ _ => hupload.ended error
        · exact fun error' _ _ _ => hupload.ended error'

/-- An exception that closing raises behind a completed upload is raised behind a reported
success. -/
theorem wp_uploadFirmware_closing {s₁ s₂ s' : σ} {w : BootloaderConnection σ UploadTask}
    {error : Exn} (hcreated : S.createTransport s = (.done, s₁))
    (hentered : S.enter s₁ = (.done, s₂))
    (hrun : upload S fuel firmware { link := ⟨.new, s₂, []⟩, client := starting expecting {} } =
      (.ok (), w))
    (hclosed : S.exit w.link.transport = (.raised error, s')) :
    wp (uploadFirmware S fuel (some firmware) expecting)
      ⟨fun _ _ => False, fun error' w => error' = error ∧ ReportsSuccess w.client, fun _ => False⟩
      { link := ⟨.new, s, []⟩, client := {} } := by
  have hupload := wp_upload_succeeding S fuel firmware
    (w := { link := ⟨.new, s₂, []⟩, client := starting expecting {} })
    (unsuccessful_starting expecting)
  have hsuccess : w.client.success = true := by
    rw [wp_of_eq hrun] at hupload
    exact hupload
  apply wp_uploadFirmware
  apply wp_connectAndUpload_cases
  · intro error' s₁' hcreated'
    rw [hcreated] at hcreated'
    cases hcreated'
  · intro s₁' error' s₂' hcreated' hentered'
    rw [hcreated] at hcreated'
    cases hcreated'
    rw [hentered] at hentered'
    cases hentered'
  · intro s₁' s₂' hcreated' hentered'
    rw [hcreated] at hcreated'
    cases hcreated'
    rw [hentered] at hentered'
    cases hentered'
    rw [wp_of_eq hrun]
    apply wp_awaiting_cases
    · intro s'' hdone
      rw [hclosed] at hdone
      cases hdone
    · intro error' s'' hraised
      rw [hclosed] at hraised
      cases hraised
      exact ⟨rfl, reportsSuccess_finishing hsuccess error⟩

end Closing

section Final

variable {S : Session σ} {view : Exn → TaskException}

theorem goodReturns_of_closesQuietly (hquiet : ClosesQuietly S) (fuel : Nat)
    (firmware : Option Firmware) :
    GoodReturns FinishedWithSuccess (uploadTask S fuel firmware view) := by
  intro expecting s failure hreports hfails
  rw [uploadTask, reports_callbacks_iff] at hreports
  cases firmware with
  | none =>
      obtain ⟨_, _, hmem⟩ := hreports
      cases hmem
  | some firmware =>
      have hrun := @wp_uploadFirmware_quiet σ S fuel firmware expecting s hquiet
      unfold uploadTask at hfails
      rcases hresult : uploadFirmware S fuel (some firmware) expecting
        { link := ⟨.new, s, []⟩, client := {} } with ⟨outcome, w⟩
      rw [wp_of_eq hresult] at hrun
      rw [hresult] at hreports hfails
      cases outcome with
      | ok value => cases hfails
      | running => cases hfails
      | raised error =>
          have hexception : error.isException = true :=
            (taskError_eq_failure_iff view).mp ⟨failure, Outcome.raised.inj hfails⟩
          exact hrun hexception hreports

theorem closesQuietly_of_goodReturns (view : Exn → TaskException) (h : ∀ fuel firmware,
    GoodReturns FinishedWithSuccess (uploadTask S fuel firmware view)) : ClosesQuietly S := by
  intro fuel firmware expecting s s₁ s₂ w hcreated hentered hupload error s' hclosed
  have hrun := wp_uploadFirmware_closing hcreated hentered hupload hclosed
  rcases hresult : uploadFirmware S fuel (some firmware) expecting
    { link := ⟨.new, s, []⟩, client := {} } with ⟨outcome, w'⟩
  rw [wp_of_eq hresult] at hrun
  cases outcome with
  | ok value => exact hrun.elim
  | running => exact hrun.elim
  | raised error' =>
      obtain ⟨rfl, hreports⟩ := hrun
      rw [← Bool.not_eq_true, ← taskError_eq_failure_iff view]
      rintro ⟨failure, hfailure⟩
      apply h fuel (some firmware) expecting s failure
      · simp only [uploadTask, hresult, reports_callbacks_iff]
        exact hreports
      · simp only [uploadTask, hresult, Outcome.mapError, hfailure]

/-- A success is final in every run exactly if closing behind a completed upload is quiet. -/
theorem success_final_iff (S : Session σ) (view : Exn → TaskException) :
    SuccessFinal S view ↔ ClosesQuietly S := by
  constructor
  · intro hfinal
    apply closesQuietly_of_goodReturns view
    intro fuel firmware
    exact finalOnce_iff.mp (hfinal fuel firmware)
  · intro hquiet fuel firmware
    exact finalOnce_iff.mpr (goodReturns_of_closesQuietly hquiet fuel firmware)

end Final

/-- A serial port that is gone behind the reboot: the thread that reads it has failed by the time
its task group is closed. The device has four bytes of memory for one byte of firmware. -/
def vanishingPort : Session (Wire Unit) where
  toTransport := wireTransport (acknowledge 4 (crc32 [1, 255, 255, 255] 0)) (fun _ => 0) .never
  checkpoint s := (.done, s)
  mavlinkReboot := []
  createTransport s := (.done, s)
  enter s := (.done, s)
  exit s := (.raised (.exceptionGroup (.transportError "SerialException")), s)
  eraseProgress _ := []

theorem vanishingPort_not_closesQuietly : ¬ ClosesQuietly vanishingPort := by
  have husable : Firmware.SizeUsable { image := [1] } 4 := ⟨1, rfl, by decide⟩
  obtain ⟨padding, hpadding⟩ := Firmware.paddingLength_eq_ok_iff.mpr husable
  have hcompletes := completes_upload
    (w := { link := ⟨.new, ⟨(), [], 0⟩, []⟩, client := starting false {} })
    (wireSession_undisturbed (acknowledge 4 (crc32 [1, 255, 255, 255] 0)) (fun _ => 0) .never []
      fun _ => [])
    (acknowledge_servesUpload [1] (by decide) (crc32_lt _ (by decide))) (by decide) hpadding
    rfl rfl rfl rfl ⟨rfl, rfl, rfl, rfl, rfl, by simp [starting]⟩
  obtain ⟨_, w, ⟨fuel, hrun⟩, _⟩ := hcompletes
  -- The two sessions differ in how they are closed only.
  have hupload : upload vanishingPort fuel { image := [1] }
      { link := ⟨.new, ⟨(), [], 0⟩, []⟩, client := starting false {} } = (.ok (), w) :=
    hrun fuel (Nat.le_refl _)
  intro hquiet
  cases hquiet fuel _ false _ _ _ w rfl rfl hupload _ _ rfl

theorem success_not_final : ¬ ∀ (σ : Type) (S : Session σ) (view : Exn → TaskException),
    SuccessFinal S view := by
  intro hfinal
  apply vanishingPort_not_closesQuietly
  apply closesQuietly_of_goodReturns fun _ => { str := "", repr := "" }
  intro fuel firmware
  exact finalOnce_iff.mp (hfinal _ vanishingPort _ fuel firmware)

end ApUploader
