import ApUploader.Logic.Proc
import Mathlib.Data.List.ModifyLast

/-! # The task that retries an upload

`UploaderTask.run` calls a function until it returns, until an exception says that
another attempt is useless, or until the retries are used up. What the function
does in one call is a list of callbacks and an outcome. The record of the attempts
has no influence on the task.
-/

namespace ApUploader

open Effect

/-! ## Exceptions as the task sees them -/

inductive Errno where
  | enoent | eaddrinuse | other
  deriving DecidableEq

structure OSErrorDetails where
  errno : Errno := .other
  strerror : Option String := none
  deriving DecidableEq

/-- What `_handle_exceptions` asks of an exception: its classes and its texts. -/
structure TaskException where
  isTimeoutError : Bool := false
  isRuntimeError : Bool := false
  /-- The attributes of an `OSError`, which a `TimeoutError` is as well. -/
  osError : Option OSErrorDetails := none
  str : String
  repr : String
  deriving DecidableEq

namespace TaskException

/-- The text for the message; a timeout has none. -/
def reason? (exc : TaskException) : Option String :=
  if exc.isTimeoutError then none
  else if exc.isRuntimeError then some exc.str
  else
    match exc.osError with
    | none => some exc.repr
    | some { strerror := none, .. } => some exc.str
    | some { strerror := some text, .. } => some (if text = "" then exc.str else text)

/-- An `OSError` that another attempt would raise again. -/
def isFatal (exc : TaskException) : Bool :=
  match exc.osError with
  | some { errno := .enoent, .. } | some { errno := .eaddrinuse, .. } => true
  | _ => false

end TaskException

def failureMessage (exceptions : List TaskException) : String :=
  let reasons := exceptions.filterMap TaskException.reason?
  if reasons ≠ [] then "Upload failed: " ++ ", ".intercalate reasons
  else if exceptions.any TaskException.isTimeoutError then "Upload timed out"
  else "Upload failed"

def shouldRetry (exceptions : List TaskException) : Bool :=
  exceptions.all fun exc => !exc.isFatal

/-- What the `except` clauses of the task catch. -/
inductive TaskFailure where
  | exceptionGroup (exceptions : List TaskException)
  | exception (exc : TaskException)
  deriving DecidableEq

def TaskFailure.exceptions : TaskFailure → List TaskException
  | .exceptionGroup exceptions => exceptions
  | .exception exc => [exc]

inductive TaskError where
  | failure (failure : TaskFailure)
  /-- A cancellation, which is no `Exception`. -/
  | cancelled
  deriving DecidableEq

/-! ## The task -/

inductive LogLevel where
  | warning | error
  deriving DecidableEq, Repr

inductive Callback (ε : Type) where
  | event (event : ε)
  | expectedFailure (count : Nat)
  deriving DecidableEq

structure TaskCall (ε : Type) where
  callbacks : List (Callback ε)
  outcome : Outcome TaskError Unit

def TaskCall.failure? {ε : Type} (call : TaskCall ε) : Option TaskError :=
  match call.outcome with
  | .raised error => some error
  | _ => none

/-- The function of a task; its argument is `expecting_failure`. -/
abbrev TaskFunction (σ ε : Type) : Type := Bool → σ → TaskCall ε × σ

/-- What has happened in one pass of the loop, in this order. -/
structure AttemptRecord (ε : Type) where
  /-- The argument of the call, `none` when the function has not been called. -/
  expecting : Option Bool := none
  callbacks : List (Callback ε) := []
  failure : Option TaskError := none
  /-- The log events of the task. -/
  logs : List (LogLevel × String) := []
  deriving DecidableEq

def AttemptRecord.begun {ε : Type} : AttemptRecord ε := {}

structure UploaderTask (σ ε : Type) where
  world : σ
  expectedFailures : Nat := 0
  acquired : Bool := false
  attempts : List (AttemptRecord ε) := []

/-- A capacity limiter; acquiring it may raise. -/
structure Limiter (σ : Type) where
  acquire : σ → Option TaskError × σ
  release : σ → σ

/-- What the task awaits besides its function. -/
structure TaskRuntime (σ : Type) where
  limiter : Option (Limiter σ) := none
  sleep : σ → Option TaskError × σ

namespace UploaderTask

variable {σ ε α : Type}

abbrev Task (σ ε α : Type) : Type := Proc TaskError (UploaderTask σ ε) α

def await (action : σ → Option TaskError × σ) : Task σ ε Unit := fun task =>
  match action task.world with
  | (none, world) => (.ok (), { task with world := world })
  | (some error, world) => (.raised error, { task with world := world })

def amend (f : AttemptRecord ε → AttemptRecord ε) (task : UploaderTask σ ε) : UploaderTask σ ε :=
  { task with attempts := task.attempts.modifyLast f }

def onLog (level : LogLevel) (message : String) : Task σ ε Unit :=
  Proc.modify (amend fun a => { a with logs := a.logs ++ [(level, message)] })

def expectFailure (count : Nat) (task : UploaderTask σ ε) : UploaderTask σ ε :=
  { task with expectedFailures := task.expectedFailures + count }

/-- What a callback does to the task; events go to the task's own event handler. -/
def onCallback (task : UploaderTask σ ε) : Callback ε → UploaderTask σ ε
  | .event _ => task
  | .expectedFailure count => task.expectFailure count

/-- `await func(…)`. -/
def call (func : TaskFunction σ ε) : Task σ ε Unit := fun task =>
  let expecting := decide (0 < task.expectedFailures)
  let (call, world) := func expecting task.world
  let task := amend (fun a => { a with
    expecting := some expecting
    callbacks := call.callbacks
    failure := call.failure? }) { task with world := world }
  (call.outcome, call.callbacks.foldl onCallback task)

/-- The message and whether another attempt makes sense. -/
def handleExceptions (R : TaskRuntime σ) (exceptions : List TaskException) :
    Task σ ε (String × Bool) := do
  let task ← Proc.get
  if 0 < task.expectedFailures then
    Proc.modify (fun task => { task with expectedFailures := task.expectedFailures - 1 })
    await R.sleep
    pure ("", true)
  else pure (failureMessage exceptions, shouldRetry exceptions)

def acquire (R : TaskRuntime σ) : Task σ ε Unit :=
  match R.limiter with
  | none => pure ()
  | some limiter => do
      await limiter.acquire
      Proc.modify (fun task => { task with acquired := true })

def release (R : TaskRuntime σ) : Task σ ε Unit :=
  match R.limiter with
  | none => pure ()
  | some limiter => Proc.modify (fun task =>
      if task.acquired then { task with world := limiter.release task.world } else task)

/-- The `try` statement of the loop: `none` when the function has returned. -/
def tryCall (R : TaskRuntime σ) (func : TaskFunction σ ε) : Task σ ε (Option (String × Bool)) :=
  let body : Task σ ε (Option (String × Bool)) := do
    acquire R
    call func
    pure none
  let handled := body.catching fun error =>
    match error with
    | .failure failure => some do
        let result ← handleExceptions R failure.exceptions
        pure (some result)
    | .cancelled => none
  handled.ensuring (release R)

/-- What the loop does behind a failure: it logs, and goes on to the next attempt number. -/
def reportFailure (retries attempt : Nat) (message : String) (shouldRetry : Bool) :
    Task σ ε (Nat ⊕ Unit) := do
  let attempt := if shouldRetry then attempt else retries
  if attempt < retries then
    if message ≠ "" then onLog .warning (message ++ ", retrying...") else pure ()
  else onLog .error message
  pure (.inl (attempt + 1))

def runPass (R : TaskRuntime σ) (func : TaskFunction σ ε) (retries attempt : Nat) :
    Task σ ε (Nat ⊕ Unit) :=
  if attempt ≤ retries then do
    Proc.modify (fun task => { task with acquired := false, attempts := task.attempts ++ [.begun] })
    let result ← tryCall R func
    match result with
    | none => pure (.inr ())
    | some (message, shouldRetry) => reportFailure retries attempt message shouldRetry
  else pure (.inr ())

/-- No attempt number exceeds the retries, so there are at most `retries + 2` passes. -/
def run (R : TaskRuntime σ) (func : TaskFunction σ ε) (retries : Nat) : Task σ ε Unit :=
  Proc.loop (runPass R func retries) (retries + 2) 0

/-! ## Rules -/

def announced : List (Callback ε) → Nat
  | [] => 0
  | .event _ :: rest => announced rest
  | .expectedFailure count :: rest => count + announced rest

theorem foldl_onCallback (callbacks : List (Callback ε)) (task : UploaderTask σ ε) :
    callbacks.foldl onCallback task =
      { task with expectedFailures := task.expectedFailures + announced callbacks } := by
  induction callbacks generalizing task with
  | nil => rfl
  | cons callback rest ih =>
      rw [List.foldl_cons, ih]
      cases callback with
      | event event => simp [onCallback, announced]
      | expectedFailure count => simp [onCallback, expectFailure, announced, Nat.add_assoc]

theorem amend_concat {front : List (AttemptRecord ε)} {a : AttemptRecord ε}
    {task : UploaderTask σ ε} (f : AttemptRecord ε → AttemptRecord ε)
    (h : task.attempts = front ++ [a]) :
    amend f task = { task with attempts := front ++ [f a] } := by
  unfold amend
  rw [h, List.modifyLast_concat]

def afterCall (expecting : Bool) (call : TaskCall ε) (world : σ) (front : List (AttemptRecord ε))
    (task : UploaderTask σ ε) : UploaderTask σ ε :=
  { task with
    world := world
    expectedFailures := task.expectedFailures + announced call.callbacks
    attempts := front ++ [{
      expecting := some expecting
      callbacks := call.callbacks
      failure := call.failure? }] }

theorem wp_call {func : TaskFunction σ ε} {front : List (AttemptRecord ε)}
    {task : UploaderTask σ ε} {post : Post TaskError (UploaderTask σ ε) Unit}
    (hattempts : task.attempts = front ++ [.begun])
    (h : ∀ call world, func (decide (0 < task.expectedFailures)) task.world = (call, world) →
      post.Holds (call.outcome,
        afterCall (decide (0 < task.expectedFailures)) call world front task)) :
    wp (call func) post task := by
  unfold wp UploaderTask.call
  rcases hcall : func (decide (0 < task.expectedFailures)) task.world with ⟨call, world⟩
  have hbegun : ({ task with world := world } : UploaderTask σ ε).attempts = front ++ [.begun] :=
    hattempts
  have hrecord := amend_concat (fun a => { a with
    expecting := some (decide (0 < task.expectedFailures))
    callbacks := call.callbacks
    failure := call.failure? }) hbegun
  simp only [hcall, hrecord, foldl_onCallback]
  exact h call world hcall

theorem wp_onLog {level : LogLevel} {message : String} {front : List (AttemptRecord ε)}
    {a : AttemptRecord ε} {task : UploaderTask σ ε}
    {post : Post TaskError (UploaderTask σ ε) Unit} (hattempts : task.attempts = front ++ [a])
    (h : post.ok () { task with
      attempts := front ++ [{ a with logs := a.logs ++ [(level, message)] }] }) :
    wp (onLog level message) post task := by
  unfold onLog
  rw [wp_modify, amend_concat _ hattempts]
  exact h

theorem wp_await {action : σ → Option TaskError × σ} {task : UploaderTask σ ε}
    {post : Post TaskError (UploaderTask σ ε) Unit}
    (hdone : ∀ world, action task.world = (none, world) → post.ok () { task with world := world })
    (hraised : ∀ error world, action task.world = (some error, world) →
      post.raised error { task with world := world }) : wp (await action) post task := by
  unfold wp await
  rcases haction : action task.world with ⟨_ | error, world⟩
  · exact hdone world haction
  · exact hraised error world haction

theorem wp_handleExceptions {R : TaskRuntime σ} (hsleep : ∀ s, R.sleep s = (none, s))
    (exceptions : List TaskException) (task : UploaderTask σ ε) :
    wp (handleExceptions R exceptions) (.returns fun result task' =>
      result = (if 0 < task.expectedFailures then ("", true)
        else (failureMessage exceptions, shouldRetry exceptions)) ∧
      task' = { task with expectedFailures := task.expectedFailures - 1 }) task := by
  unfold handleExceptions
  rw [wp_bind, wp_get]
  dsimp only
  split
  · simp only [wp_bind, wp_modify]
    apply wp_await
    · intro world hworld
      rw [hsleep] at hworld
      cases hworld
      exact ⟨rfl, rfl⟩
    · intro error world hworld
      rw [hsleep] at hworld
      cases hworld
  · have hzero : task.expectedFailures = 0 := by omega
    refine ⟨rfl, ?_⟩
    cases task
    cases hzero
    rfl

theorem wp_tryCall {R : TaskRuntime σ} {func : TaskFunction σ ε} {task : UploaderTask σ ε}
    {post : Post TaskError (UploaderTask σ ε) (Option (String × Bool))}
    (ended : Post TaskError (UploaderTask σ ε) Unit)
    (hcall : wp (acquire R) ⟨fun _ => wp (call func) ended, ended.raised, ended.running⟩ task)
    (hreturned : ∀ task, ended.ok () task →
      wp (release R) ⟨fun _ => post.ok none, post.raised, post.running⟩ task)
    (hfailed : ∀ failure task, ended.raised (.failure failure) task →
      wp (handleExceptions R failure.exceptions)
        ⟨fun result => wp (release R) ⟨fun _ => post.ok (some result), post.raised, post.running⟩,
          fun error => wp (release R) ⟨fun _ => post.raised error, post.raised, post.running⟩,
          post.running⟩ task)
    (hcancelled : ∀ task, ended.raised .cancelled task →
      wp (release R) ⟨fun _ => post.raised .cancelled, post.raised, post.running⟩ task)
    (hrunning : ∀ task, ended.running task → post.running task) :
    wp (tryCall R func) post task := by
  unfold tryCall
  simp only [wp_ensuring, wp_catching, wp_bind]
  refine wp_mono hcall (fun _ task h => wp_mono h (fun _ task h => hreturned task h) ?_ hrunning)
    ?_ hrunning
  -- Acquiring the limiter fails like the call itself.
  all_goals
    intro error task h
    cases error with
    | failure failure =>
        change wp _ _ _
        rw [wp_bind]
        exact hfailed failure task h
    | cancelled => exact hcancelled task h

theorem wp_reportFailure {retries attempt next : Nat} {message : String} {shouldRetry : Bool}
    {front : List (AttemptRecord ε)} {a : AttemptRecord ε} {task : UploaderTask σ ε}
    {post : Post TaskError (UploaderTask σ ε) (Nat ⊕ Unit)}
    (hnext : (if shouldRetry then attempt else retries) = next)
    (hattempts : task.attempts = front ++ [a])
    (hsilent : next < retries → message = "" → post.ok (.inl (next + 1)) task)
    (hwarning : next < retries → message ≠ "" → post.ok (.inl (next + 1)) { task with
      attempts := front ++ [{ a with
        logs := a.logs ++ [(.warning, message ++ ", retrying...")] }] })
    (herror : ¬ next < retries → post.ok (.inl (next + 1)) { task with
      attempts := front ++ [{ a with logs := a.logs ++ [(.error, message)] }] }) :
    wp (reportFailure retries attempt message shouldRetry) post task := by
  unfold reportFailure
  rw [hnext]
  dsimp only
  by_cases hless : next < retries
  · rw [if_pos hless]
    by_cases hmessage : message = ""
    · rw [if_neg (not_not.mpr hmessage)]
      exact hsilent hless hmessage
    · rw [if_pos hmessage, wp_bind]
      exact wp_onLog hattempts (hwarning hless hmessage)
  · rw [if_neg hless, wp_bind]
    exact wp_onLog hattempts (herror hless)

end UploaderTask

end ApUploader
