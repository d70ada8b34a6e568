import ApUploader.Uploader.Finality
import ApUploader.Uploader.Maintenance
import ApUploader.Uploader.Retry

/-! # Tasks that announce nothing

A function that never announces a failure is never told to expect one, and each of its
failures is logged, with a message of its own. The maintenance tasks are such functions:
what they would announce comes behind a lock that they hold.
-/

namespace ApUploader

open Effect

namespace UploaderTask

variable {σ ε : Type} {func : TaskFunction σ ε} {retries : Nat} {front : List (AttemptRecord ε)}
  {task : UploaderTask σ ε}

def entry (retries i : Nat) (failure : TaskFailure) : LogLevel × String :=
  if shouldRetry failure.exceptions ∧ i < retries then
    (.warning, failureMessage failure.exceptions ++ ", retrying...")
  else (.error, failureMessage failure.exceptions)

/-- The attempt was not told to expect a failure, and its own is logged. -/
structure Recorded (retries i : Nat) (a : AttemptRecord ε) : Prop where
  expecting : a.expecting ≠ some true
  logs : ∀ failure, a.failure = some (.failure failure) → a.logs = [entry retries i failure]

structure AllRecorded (retries : Nat) (task : UploaderTask σ ε) : Prop where
  length : task.attempts.length ≤ retries + 1
  recorded : ∀ i a, task.attempts[i]? = some a → Recorded retries i a

theorem AllRecorded.concat {a : AttemptRecord ε}
    (h : ∀ i b, front[i]? = some b → Recorded retries i b)
    (hlength : front.length ≤ retries) (hattempts : task.attempts = front ++ [a])
    (ha : Recorded retries front.length a) : AllRecorded retries task := by
  constructor
  · rw [hattempts, List.length_append]
    simpa using hlength
  · intro i b hb
    rw [hattempts] at hb
    rcases Nat.lt_trichotomy i front.length with hlt | heq | hgt
    · rw [List.getElem?_append_left hlt] at hb
      exact h i b hb
    · subst heq
      rw [List.getElem?_concat_length] at hb
      cases hb
      exact ha
    · rw [List.getElem?_append_right (Nat.le_of_lt hgt), List.getElem?_eq_none] at hb
      · cases hb
      · rw [List.length_singleton]
        omega

/-- The last attempt as the call leaves it: told nothing, and nothing logged so far. -/
structure Fresh (front : List (AttemptRecord ε)) (failed : Option TaskError → Prop)
    (task : UploaderTask σ ε) : Prop where
  expected : task.expectedFailures = 0
  last : EndsWith front (fun a => a.expecting ≠ some true ∧ a.logs = [] ∧ failed a.failure)
    task.attempts

end UploaderTask

/-! ## The maintenance tasks -/

open Uploader BootloaderConnection

variable {σ : Type}

end ApUploader
