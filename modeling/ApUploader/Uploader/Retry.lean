import ApUploader.Uploader.Task

/-! # The accounts of a retried task

A script fixes what the function of a task does in its successive calls. Announced
failures are paid for from a balance that every failed attempt lowers by one, and a
failure is covered when the balance is positive. The task goes through the attempts
of the script up to the first one it does not go on from.
-/

namespace ApUploader

open Effect UploaderTask

/-- One call of the function: its callbacks, and the failure unless it returns. -/
structure TaskAttempt (ε : Type) where
  callbacks : List (Callback ε) := []
  failure : Option TaskFailure := none
  deriving DecidableEq

/-- The function that does in its `k`-th call what the script says; the world counts the calls. -/
def playing {ε : Type} (script : Nat → TaskAttempt ε) : TaskFunction Nat ε := fun _ k =>
  (⟨(script k).callbacks,
    match (script k).failure with
    | none => .ok ()
    | some failure => .raised (.failure failure)⟩, k + 1)

def uncontended (limited : Bool) : TaskRuntime Nat where
  limiter := if limited then some ⟨fun k => (none, k), fun k => k⟩ else none
  sleep k := (none, k)

section Script

variable {ε : Type} (script : Nat → TaskAttempt ε) (retries : Nat)

def expectedLeft : Nat → Nat
  | 0 => 0
  | i + 1 => expectedLeft i + announced (script i).callbacks - 1

/-- A failure of the `i`-th attempt would be one of the announced ones. -/
def Covered (i : Nat) : Prop := 0 < expectedLeft script i + announced (script i).callbacks

instance (i : Nat) : Decidable (Covered script i) := by unfold Covered; infer_instance

def Fatal (i : Nat) : Prop :=
  ¬ Covered script i ∧ ∃ failure exc, (script i).failure = some failure ∧
    exc ∈ failure.exceptions ∧ ∃ details, exc.osError = some details ∧
      (details.errno = .enoent ∨ details.errno = .eaddrinuse)

def logged (i : Nat) : List (LogLevel × String) :=
  match (script i).failure with
  | none => []
  | some failure =>
      if Covered script i then if i < retries then [] else [(.error, "")]
      else if i < retries ∧ shouldRetry failure.exceptions then
        [(.warning, failureMessage failure.exceptions ++ ", retrying...")]
      else [(.error, failureMessage failure.exceptions)]

def recordOf (logs : List (LogLevel × String)) (i : Nat) : AttemptRecord ε where
  expecting := some (decide (0 < expectedLeft script i))
  callbacks := (script i).callbacks
  failure := (script i).failure.map .failure
  logs := logs

def GoesOn (i : Nat) : Prop :=
  i < retries ∧ (script i).failure ≠ none ∧ ¬ Fatal script i

end Script

/-! ## Messages and fatal errors -/

theorem isFatal_iff {exc : TaskException} : exc.isFatal = true ↔
    ∃ details, exc.osError = some details ∧
      (details.errno = .enoent ∨ details.errno = .eaddrinuse) := by
  unfold TaskException.isFatal
  cases exc.osError with
  | none => simp
  | some details =>
      obtain ⟨errno, strerror⟩ := details
      cases errno <;> simp

theorem failureMessage_ne_empty (exceptions : List TaskException) :
    failureMessage exceptions ≠ "" := by
  unfold failureMessage
  dsimp only
  split
  · intro h
    have hlength := congrArg String.length h
    simp at hlength
  · split <;> decide

section Script

variable {ε : Type} {script : Nat → TaskAttempt ε} {retries : Nat}

theorem fatal_iff {i : Nat} {failure : TaskFailure} (hfailure : (script i).failure = some failure)
    (hcovered : ¬ Covered script i) : Fatal script i ↔ shouldRetry failure.exceptions = false := by
  simp [Fatal, hcovered, hfailure, shouldRetry, isFatal_iff]

/-! ## One attempt -/

theorem wp_acquire_uncontended (limited : Bool) {task : UploaderTask Nat ε}
    {post : Post TaskError (UploaderTask Nat ε) Unit}
    (h : ∀ acquired, post.ok () { task with acquired := acquired }) :
    wp (acquire (uncontended limited)) post task := by
  cases limited with
  | false => exact h task.acquired
  | true => exact h true

theorem wp_release_uncontended (limited : Bool) {task : UploaderTask Nat ε}
    {post : Post TaskError (UploaderTask Nat ε) Unit} (h : post.ok () task) :
    wp (release (uncontended limited)) post task := by
  cases limited with
  | false => exact h
  | true =>
      change post.ok () (if task.acquired then { task with world := task.world } else task)
      split <;> exact h

structure Before (script : Nat → TaskAttempt ε) (retries i : Nat) (task : UploaderTask Nat ε) :
    Prop where
  world : task.world = i
  expectedFailures : task.expectedFailures = expectedLeft script i
  attempts : task.attempts = (List.range i).map fun j => recordOf script (logged script retries j) j
  goesOn : ∀ j < i, GoesOn script retries j

/-- The result of the `try` statement: nothing, or how the failure was handled. -/
def handled (script : Nat → TaskAttempt ε) (i : Nat) : Option (String × Bool) :=
  (script i).failure.map fun failure =>
    if Covered script i then ("", true)
    else (failureMessage failure.exceptions, shouldRetry failure.exceptions)

structure Called (script : Nat → TaskAttempt ε) (i : Nat) (front : List (AttemptRecord ε))
    (left : Nat) (task : UploaderTask Nat ε) : Prop where
  world : task.world = i + 1
  expectedFailures : task.expectedFailures = left
  attempts : task.attempts = front ++ [recordOf script [] i]

def asScripted (script : Nat → TaskAttempt ε) (i : Nat) (front : List (AttemptRecord ε)) :
    Post TaskError (UploaderTask Nat ε) Unit where
  ok _ task := (script i).failure = none ∧
    Called script i front (expectedLeft script i + announced (script i).callbacks) task
  raised error task := (∃ failure, (script i).failure = some failure ∧ error = .failure failure) ∧
    Called script i front (expectedLeft script i + announced (script i).callbacks) task
  running _ := False

theorem wp_call_playing {i : Nat} {front : List (AttemptRecord ε)} {task : UploaderTask Nat ε}
    (hworld : task.world = i) (hleft : task.expectedFailures = expectedLeft script i)
    (hattempts : task.attempts = front ++ [.begun]) :
    wp (call (playing script)) (asScripted script i front) task := by
  apply wp_call hattempts
  intro call world hcall
  rw [hworld] at hcall
  have hcalled : Called script i front (expectedLeft script i + announced (script i).callbacks)
      (afterCall (decide (0 < task.expectedFailures)) call world front task) := by
    cases hcall
    refine ⟨rfl, by simp [afterCall, hleft], ?_⟩
    simp only [afterCall, recordOf, hleft, TaskCall.failure?]
    cases (script i).failure <;> rfl
  cases hfailure : (script i).failure with
  | none =>
      have hended : call.outcome = .ok () := by
        cases hcall
        simp [hfailure]
      rw [hended]
      exact ⟨hfailure, hcalled⟩
  | some failure =>
      have hended : call.outcome = .raised (.failure failure) := by
        cases hcall
        simp [hfailure]
      rw [hended]
      exact ⟨⟨failure, hfailure, rfl⟩, hcalled⟩

theorem wp_tryCall_playing (limited : Bool) {i : Nat} {front : List (AttemptRecord ε)}
    {task : UploaderTask Nat ε} (hworld : task.world = i)
    (hleft : task.expectedFailures = expectedLeft script i)
    (hattempts : task.attempts = front ++ [.begun]) :
    wp (tryCall (uncontended limited) (playing script)) (.returns fun result task' =>
      result = handled script i ∧ ∃ left, Called script i front left task' ∧
        ((script i).failure ≠ none → left = expectedLeft script (i + 1))) task := by
  apply wp_tryCall (asScripted script i front)
  · apply wp_acquire_uncontended
    exact fun acquired => wp_call_playing hworld hleft hattempts
  · intro task' hended
    obtain ⟨hreturned, hcalled⟩ := hended
    apply wp_release_uncontended
    exact ⟨by simp [handled, hreturned], _, hcalled, fun hne => (hne hreturned).elim⟩
  · intro failure task' hended
    obtain ⟨⟨failure', hfailure, hsame⟩, hcalled⟩ := hended
    cases hsame
    refine wp_mono (wp_handleExceptions (fun _ => rfl) failure.exceptions task') ?_
      (fun _ _ h => h.elim) (fun _ h => h.elim)
    rintro result _ ⟨rfl, rfl⟩
    apply wp_release_uncontended
    refine ⟨by simp [handled, hfailure, Covered, hcalled.expectedFailures],
      expectedLeft script (i + 1), ⟨hcalled.world, ?_, hcalled.attempts⟩, fun _ => rfl⟩
    simp [hcalled.expectedFailures, expectedLeft]
  · intro task' hended
    obtain ⟨⟨_, _, hsame⟩, _⟩ := hended
    cases hsame
  · exact fun _ h => h

/-! ## The loop -/

/-- The task has ended with the first attempt that it does not go on from. -/
def Finished (script : Nat → TaskAttempt ε) (retries : Nat) (task : UploaderTask Nat ε) : Prop :=
  ∃ last ≤ retries,
    task.attempts = ((List.range (last + 1)).map fun i =>
      recordOf script (logged script retries i) i) ∧
    (∀ i < last, GoesOn script retries i) ∧ ¬ GoesOn script retries last

/-- The head of the loop: an attempt is due, or the attempt number is past the retries. -/
def AtHead (script : Nat → TaskAttempt ε) (retries attempt : Nat) (task : UploaderTask Nat ε) :
    Prop :=
  attempt ≤ retries ∧ Before script retries attempt task ∨
    attempt = retries + 1 ∧ Finished script retries task

theorem Before.finished {i : Nat} {before task : UploaderTask Nat ε}
    (h : Before script retries i before) (hle : i ≤ retries)
    (hattempts : task.attempts = before.attempts ++ [recordOf script (logged script retries i) i])
    (hstops : ¬ GoesOn script retries i) : Finished script retries task := by
  refine ⟨i, hle, ?_, h.goesOn, hstops⟩
  rw [hattempts, h.attempts, List.range_succ, List.map_append, List.map_singleton]

theorem Before.next {i : Nat} {before task : UploaderTask Nat ε}
    (h : Before script retries i before) (hworld : task.world = i + 1)
    (hleft : task.expectedFailures = expectedLeft script (i + 1))
    (hattempts : task.attempts = before.attempts ++ [recordOf script (logged script retries i) i])
    (hgoesOn : GoesOn script retries i) : AtHead script retries (i + 1) task := by
  refine .inl ⟨hgoesOn.1, hworld, hleft, ?_, ?_⟩
  · rw [hattempts, h.attempts, List.range_succ, List.map_append, List.map_singleton]
  · intro j hj
    rcases Nat.lt_succ_iff_lt_or_eq.mp hj with hless | rfl
    · exact h.goesOn j hless
    · exact hgoesOn

def afterPass (script : Nat → TaskAttempt ε) (retries attempt : Nat) :
    Post TaskError (UploaderTask Nat ε) (Nat ⊕ Unit) :=
  roundPost (fun next task => AtHead script retries next task ∧
      retries + 1 - next < retries + 1 - attempt)
    (.returns fun _ task => Finished script retries task)

theorem wp_reportFailure_playing {attempt next : Nat} {message : String} {retry : Bool}
    {before task : UploaderTask Nat ε} (hbefore : Before script retries attempt before)
    (hle : attempt ≤ retries)
    (hcalled : Called script attempt before.attempts (expectedLeft script (attempt + 1)) task)
    (hnext : (if retry then attempt else retries) = next)
    (hgoesOn : next < retries → next = attempt ∧ GoesOn script retries attempt ∧
      logged script retries attempt =
        if message = "" then [] else [(.warning, message ++ ", retrying...")])
    (hstops : ¬ next < retries → next = retries ∧ ¬ GoesOn script retries attempt ∧
      logged script retries attempt = [(.error, message)]) :
    wp (reportFailure retries attempt message retry) (afterPass script retries attempt) task := by
  apply wp_reportFailure hnext hcalled.attempts
  · intro hless hmessage
    obtain ⟨rfl, hgoes, hlogs⟩ := hgoesOn hless
    rw [if_pos hmessage] at hlogs
    have hattempts : task.attempts =
        before.attempts ++ [recordOf script (logged script retries next) next] := by
      rw [hlogs, hcalled.attempts]
    exact ⟨hbefore.next hcalled.world hcalled.expectedFailures hattempts hgoes, by omega⟩
  · intro hless hmessage
    obtain ⟨rfl, hgoes, hlogs⟩ := hgoesOn hless
    rw [if_neg hmessage] at hlogs
    exact ⟨hbefore.next hcalled.world hcalled.expectedFailures (by rw [hlogs]; rfl) hgoes,
      by omega⟩
  · intro hlast
    obtain ⟨rfl, hstop, hlogs⟩ := hstops hlast
    exact ⟨.inr ⟨rfl, hbefore.finished hle (by rw [hlogs]; rfl) hstop⟩, by omega⟩

theorem runPass_atHead (limited : Bool) {attempt : Nat} {task : UploaderTask Nat ε}
    (h : AtHead script retries attempt task) :
    wp (runPass (uncontended limited) (playing script) retries attempt)
      (afterPass script retries attempt) task := by
  unfold runPass
  rcases h with ⟨hle, hbefore⟩ | ⟨rfl, hfinished⟩
  · rw [if_pos hle]
    simp only [wp_bind, wp_modify]
    have hbegun : ({ task with acquired := false, attempts := task.attempts ++ [.begun] } :
      UploaderTask Nat ε).attempts = task.attempts ++ [.begun] := rfl
    refine wp_mono (wp_tryCall_playing limited hbefore.world hbefore.expectedFailures hbegun) ?_
      (fun _ _ h => h.elim) (fun _ h => h.elim)
    rintro result task' ⟨rfl, left, hcalled, hleft⟩
    cases hfailure : (script attempt).failure with
    | none =>
        have hlogs : logged script retries attempt = [] := by simp [logged, hfailure]
        have hstops : ¬ GoesOn script retries attempt := fun hgoesOn => hgoesOn.2.1 hfailure
        have hresult : handled script attempt = none := by simp [handled, hfailure]
        rw [hresult]
        exact hbefore.finished hle (hlogs ▸ hcalled.attempts) hstops
    | some failure =>
        have hleft' := hleft (by simp [hfailure])
        subst hleft'
        by_cases hcovered : Covered script attempt
        · have hresult : handled script attempt = some ("", true) := by
            simp [handled, hfailure, hcovered]
          rw [hresult]
          apply wp_reportFailure_playing hbefore hle hcalled (if_pos rfl)
          · intro hless
            simp [GoesOn, Fatal, logged, hfailure, hcovered, hless]
          · intro hlast
            refine ⟨by omega, fun hgoesOn => hlast hgoesOn.1, ?_⟩
            simp [logged, hfailure, hcovered, hlast]
        · have hresult : handled script attempt = some (failureMessage failure.exceptions,
              shouldRetry failure.exceptions) := by
            simp [handled, hfailure, hcovered]
          have hmessage := failureMessage_ne_empty failure.exceptions
          have hfatal := fatal_iff hfailure hcovered
          rw [hresult]
          cases hretry : shouldRetry failure.exceptions with
          | true =>
              apply wp_reportFailure_playing hbefore hle hcalled (if_pos rfl)
              · intro hless
                simp [GoesOn, hfatal, logged, hfailure, hcovered, hretry, hless, hmessage]
              · intro hlast
                refine ⟨by omega, fun hgoesOn => hlast hgoesOn.1, ?_⟩
                simp [logged, hfailure, hcovered, hlast]
          | false =>
              apply wp_reportFailure_playing hbefore hle hcalled (if_neg (by simp))
              · exact fun hless => (Nat.lt_irrefl _ hless).elim
              · intro _
                simp [GoesOn, hfatal, logged, hfailure, hcovered, hretry]
  · rw [if_neg (by omega)]
    exact hfinished

theorem wp_run_playing (script : Nat → TaskAttempt ε) (retries : Nat) (limited : Bool) :
    wp (run (uncontended limited) (playing script) retries)
      (.returns fun _ task => Finished script retries task) { world := 0 } := by
  apply wp_loop_variant (AtHead script retries) (fun attempt _ => retries + 1 - attempt)
    (fun _ _ h => runPass_atHead limited h)
  · exact .inl ⟨Nat.zero_le _, rfl, rfl, rfl, fun _ h => (Nat.not_lt_zero _ h).elim⟩
  · omega

/-! ## The accounts -/

/-- The accounts of a run that ends with its attempt number `last`, `logs i` being what it logs
behind the attempt number `i`. -/
structure RetriesAccounted (script : Nat → TaskAttempt ε) (retries last : Nat)
    (logs : Nat → List (LogLevel × String)) (attempts : List (AttemptRecord ε)) : Prop where
  withinRetries : last ≤ retries
  calls : attempts = (List.range (last + 1)).map fun i => recordOf script (logs i) i
  failed : ∀ i < last, (script i).failure ≠ none ∧ ¬ Fatal script i
  covered : ∀ i < last, Covered script i → logs i = []
  uncovered : ∀ i < last, ¬ Covered script i → ∃ message, logs i = [(.warning, message)]
  returned : (script last).failure = none → logs last = []
  gaveUp : (script last).failure ≠ none → (∃ message, logs last = [(.error, message)]) ∧
    (last = retries ∨ Fatal script last)

theorem logged_covered {i : Nat} (hless : i < retries) (hcovered : Covered script i) :
    logged script retries i = [] := by
  unfold logged
  cases (script i).failure with
  | none => rfl
  | some failure => simp [hcovered, hless]

theorem GoesOn.logged_uncovered {i : Nat} (h : GoesOn script retries i)
    (hcovered : ¬ Covered script i) :
    ∃ message, message ≠ "" ∧ logged script retries i = [(.warning, message)] := by
  obtain ⟨hless, hfails, hfatal⟩ := h
  obtain ⟨failure, hfailure⟩ := Option.ne_none_iff_exists'.mp hfails
  rw [fatal_iff hfailure hcovered, Bool.not_eq_false] at hfatal
  refine ⟨failureMessage failure.exceptions ++ ", retrying...", ?_, ?_⟩
  · simp [String.append_eq_empty_iff]
  · simp [logged, hfailure, hcovered, hless, hfatal]

/-- An attempt that the task does not go on from has returned, or is reported as an error. -/
theorem logged_last {i : Nat} (hfails : (script i).failure ≠ none)
    (hstops : ¬ GoesOn script retries i) :
    ∃ message, logged script retries i = [(.error, message)] ∧
      (message = "" ↔ Covered script i) := by
  obtain ⟨failure, hfailure⟩ := Option.ne_none_iff_exists'.mp hfails
  by_cases hcovered : Covered script i
  · have hlast : ¬ i < retries := fun hless =>
      hstops ⟨hless, hfails, fun hfatal => hfatal.1 hcovered⟩
    exact ⟨"", by simp [logged, hfailure, hcovered, hlast], by simp [hcovered]⟩
  · have hlast : ¬ (i < retries ∧ shouldRetry failure.exceptions = true) := by
      rintro ⟨hless, hretry⟩
      refine hstops ⟨hless, hfails, ?_⟩
      rw [fatal_iff hfailure hcovered, hretry]
      exact Bool.noConfusion
    refine ⟨failureMessage failure.exceptions, by simp [logged, hfailure, hcovered, hlast], ?_⟩
    simp [hcovered, failureMessage_ne_empty]

/-- Only the retries or a fatal error end the task behind a failure. -/
theorem eq_retries_of_not_goesOn {i : Nat} (hle : i ≤ retries) (hfails : (script i).failure ≠ none)
    (hstops : ¬ GoesOn script retries i) (hfatal : ¬ Fatal script i) : i = retries := by
  have hnot : ¬ i < retries := fun hless => hstops ⟨hless, hfails, hfatal⟩
  omega

theorem Finished.accounted {task : UploaderTask Nat ε} (h : Finished script retries task) :
    ∃ last logs, RetriesAccounted script retries last logs task.attempts := by
  obtain ⟨last, hle, hattempts, hgoesOn, hstops⟩ := h
  refine ⟨last, logged script retries, hle, hattempts, fun i hi => (hgoesOn i hi).2, ?_, ?_, ?_, ?_⟩
  · exact fun i hi hcovered => logged_covered (hgoesOn i hi).1 hcovered
  · intro i hi hcovered
    obtain ⟨message, _, hlogs⟩ := (hgoesOn i hi).logged_uncovered hcovered
    exact ⟨message, hlogs⟩
  · intro hreturned
    simp [logged, hreturned]
  · intro hfails
    obtain ⟨message, hlogs, _⟩ := logged_last hfails hstops
    refine ⟨⟨message, hlogs⟩, ?_⟩
    by_cases hfatal : Fatal script last
    · exact .inr hfatal
    · exact .inl (eq_retries_of_not_goesOn hle hfails hstops hfatal)

/-- The task raises nothing and its accounts are exact, whatever its function does in its calls. -/
theorem retries_accounted (script : Nat → TaskAttempt ε) (retries : Nat) (limited : Bool) :
    ∃ task last logs, run (uncontended limited) (playing script) retries { world := 0 } =
        (.ok (), task) ∧ RetriesAccounted script retries last logs task.attempts := by
  obtain ⟨_, task, hrun, hfinished⟩ := wp_returns_iff.mp (wp_run_playing script retries limited)
  obtain ⟨last, logs, haccounted⟩ := hfinished.accounted
  exact ⟨task, last, logs, hrun, haccounted⟩

/-! ## Expected failures -/

/-- Expected failures are retried silently: the task goes on from every one of them without a log
event, gives up at unexpected ones only, and logs no empty message. -/
structure RetriesSilently (script : Nat → TaskAttempt ε) (attempts : List (AttemptRecord ε)) :
    Prop where
  silent : ∀ i a, attempts[i]? = some a → (script i).failure ≠ none → Covered script i →
    a.logs = [] ∧ i + 1 < attempts.length
  unexpected : ∀ i a message, attempts[i]? = some a → (.error, message) ∈ a.logs →
    i + 1 = attempts.length ∧ (script i).failure ≠ none ∧ ¬ Covered script i
  worded : ∀ a ∈ attempts, ∀ log ∈ a.logs, log.2 ≠ ""

/-- The last attempt that the retries allow is reached, and fails as announced. -/
def LastFailsExpectedly (script : Nat → TaskAttempt ε) (retries : Nat) : Prop :=
  (∀ i < retries, (script i).failure ≠ none ∧ ¬ Fatal script i) ∧
    (script retries).failure ≠ none ∧ Covered script retries

/-- A log event comes from a failure, has no text if the failure is covered, and is an error only
if the task ends with the attempt. -/
theorem logged_of_mem {i : Nat} {log : LogLevel × String} (h : log ∈ logged script retries i) :
    (script i).failure ≠ none ∧ (log.2 = "" → Covered script i) ∧
      (log.1 = .error → ¬ GoesOn script retries i) := by
  have hfails : (script i).failure ≠ none := by
    intro hreturned
    simp [logged, hreturned] at h
  refine ⟨hfails, ?_⟩
  by_cases hgoesOn : GoesOn script retries i
  · by_cases hcovered : Covered script i
    · rw [logged_covered hgoesOn.1 hcovered] at h
      exact (List.not_mem_nil h).elim
    · obtain ⟨message, hworded, hlogs⟩ := hgoesOn.logged_uncovered hcovered
      rw [hlogs, List.mem_singleton] at h
      subst h
      exact ⟨fun hempty => (hworded hempty).elim, LogLevel.noConfusion⟩
  · obtain ⟨message, hlogs, hworded⟩ := logged_last hfails hgoesOn
    rw [hlogs, List.mem_singleton] at h
    subst h
    exact ⟨hworded.mp, fun _ => hgoesOn⟩

theorem logs_of_getElem? {last i : Nat} {attempts : List (AttemptRecord ε)} {a : AttemptRecord ε}
    (hattempts : attempts = (List.range (last + 1)).map fun i =>
      recordOf script (logged script retries i) i)
    (ha : attempts[i]? = some a) : i ≤ last ∧ a.logs = logged script retries i := by
  have hless := (List.getElem?_eq_some_iff.mp ha).1
  simp only [hattempts, List.length_map, List.length_range] at hless
  simp only [hattempts, List.getElem?_map, List.getElem?_range hless, Option.map_some,
    Option.some_inj] at ha
  exact ⟨by omega, by rw [← ha]; rfl⟩

theorem Finished.retriesSilently_iff {task : UploaderTask Nat ε}
    (h : Finished script retries task) :
    RetriesSilently script task.attempts ↔ ¬ LastFailsExpectedly script retries := by
  obtain ⟨last, hle, hattempts, hgoesOn, hstops⟩ := h
  have hlength : task.attempts.length = last + 1 := by simp [hattempts]
  constructor
  · intro hsilent hexpected
    obtain ⟨hearlier, hfails, hcovered⟩ := hexpected
    have hsame : last = retries := by
      have hnot : ¬ last < retries := fun hless => hstops ⟨hless, hearlier last hless⟩
      omega
    subst hsame
    have hrecord : task.attempts[last]? =
        some (recordOf script (logged script last last) last) := by
      simp [hattempts]
    obtain ⟨_, hless⟩ := hsilent.silent last _ hrecord hfails hcovered
    omega
  · intro hexpected
    have hlast : (script last).failure ≠ none → ¬ Covered script last := by
      intro hfails hcovered
      have hsame := eq_retries_of_not_goesOn hle hfails hstops fun hfatal => hfatal.1 hcovered
      subst hsame
      exact hexpected ⟨fun i hi => (hgoesOn i hi).2, hfails, hcovered⟩
    constructor
    · intro i a ha hfails hcovered
      obtain ⟨hi, hlogs⟩ := logs_of_getElem? hattempts ha
      have hless : i < last := by
        have hne : i ≠ last := by
          intro hsame
          subst hsame
          exact hlast hfails hcovered
        omega
      exact ⟨by rw [hlogs, logged_covered (hgoesOn i hless).1 hcovered], by omega⟩
    · intro i a message ha hmessage
      obtain ⟨hi, hlogs⟩ := logs_of_getElem? hattempts ha
      rw [hlogs] at hmessage
      obtain ⟨hfails, _, herror⟩ := logged_of_mem hmessage
      have hsame : i = last := by
        have hnot : ¬ i < last := fun hless => herror rfl (hgoesOn i hless)
        omega
      subst hsame
      exact ⟨hlength.symm, hfails, hlast hfails⟩
    · intro a ha log hlog hempty
      obtain ⟨i, hi⟩ := List.getElem?_of_mem ha
      obtain ⟨hi, hlogs⟩ := logs_of_getElem? hattempts hi
      rw [hlogs] at hlog
      obtain ⟨hfails, hcovered, _⟩ := logged_of_mem hlog
      have hnot : ¬ i < last := by
        intro hless
        rw [logged_covered (hgoesOn i hless).1 (hcovered hempty)] at hlog
        exact List.not_mem_nil hlog
      have hsame : i = last := by omega
      subst hsame
      exact hlast hfails (hcovered hempty)

/-- Expected failures are retried silently, unless the last attempt that the retries allow is
one of them. -/
theorem expected_failures_silent_iff (script : Nat → TaskAttempt ε) (retries : Nat)
    (limited : Bool) :
    RetriesSilently script
        (run (uncontended limited) (playing script) retries { world := 0 }).2.attempts ↔
      ¬ LastFailsExpectedly script retries := by
  obtain ⟨_, task, hrun, hfinished⟩ := wp_returns_iff.mp (wp_run_playing script retries limited)
  rw [hrun]
  exact hfinished.retriesSilently_iff

end Script

/-- Three failures are announced and the attempt times out, without a retry left. -/
theorem expected_failure_ends_task :
    ¬ ∀ (script : Nat → TaskAttempt Unit) (retries : Nat) (limited : Bool),
      RetriesSilently script
        (run (uncontended limited) (playing script) retries { world := 0 }).2.attempts := by
  intro h
  have hsilent := h (fun _ => {
    callbacks := [.expectedFailure 3]
    failure := some (.exception {
      isTimeoutError := true
      osError := some {}
      str := ""
      repr := "TimeoutError()" }) }) 0 false
  have hlogs := (hsilent.silent 0 _ rfl (by simp) (by decide)).1
  exact absurd hlogs (by decide)

end ApUploader
