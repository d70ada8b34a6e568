import ApUploader.Uploader.Task

/-! # Where a task is suspended

Between two awaits a task is not interrupted. `resume` is what the code of the task
does from the await at which it is suspended up to the next one, told from how that
await ends; what it asks of the capacity limiter on the way is listed. Put together,
these pieces are the whole coroutine.
-/

namespace ApUploader

open Effect

/-- The await at which a task is suspended. -/
inductive TaskPoint where
  | created | acquiring | calling | sleeping | ended
  deriving DecidableEq, Repr

structure SuspendedTask where
  point : TaskPoint := .created
  attempt : Nat := 0
  acquired : Bool := false
  expectedFailures : Nat := 0
  deriving DecidableEq, Repr

/-- How an await ends, or that the function calls back. -/
inductive Wake where
  | begins
  | granted
  /-- The limiter raises an exception, as it does if the task holds a token already. -/
  | refused (failure : TaskFailure)
  | expects (count : Nat)
  | returned
  | failed (failure : TaskFailure)
  | slept
  | cancelled

inductive SlotOp where
  | acquire | refuse | release
  deriving DecidableEq, Repr

namespace SuspendedTask

variable (limited : Bool) (retries : Nat)

/-- The head of the `while` loop, up to the first await behind it. -/
def loopHead (task : SuspendedTask) : SuspendedTask :=
  if task.attempt ≤ retries then
    { task with acquired := false, point := if limited then .acquiring else .calling }
  else { task with point := .ended }

def leaveTry (task next : SuspendedTask) : List SlotOp × SuspendedTask :=
  (if task.acquired && limited then [.release] else [], next)

/-- The rest of the loop body behind a failure. -/
def nextAttempt (shouldRetry : Bool) (task : SuspendedTask) : SuspendedTask :=
  loopHead limited retries
    { task with attempt := (if shouldRetry then task.attempt else retries) + 1 }

/-- The `except` clauses: an expected failure is followed by a sleep. -/
def handle (failure : TaskFailure) (task : SuspendedTask) : List SlotOp × SuspendedTask :=
  if 0 < task.expectedFailures then
    ([], { task with expectedFailures := task.expectedFailures - 1, point := .sleeping })
  else leaveTry limited task (task.nextAttempt limited retries (shouldRetry failure.exceptions))

def resume (task : SuspendedTask) (wake : Wake) : Option (List SlotOp × SuspendedTask) :=
  match task.point, wake with
  | .created, .begins => some ([], task.loopHead limited retries)
  | .created, .cancelled => some ([], { task with point := .ended })
  | .acquiring, .granted => some ([.acquire], { task with acquired := true, point := .calling })
  | .acquiring, .refused failure =>
      some (.refuse :: (task.handle limited retries failure).1,
        (task.handle limited retries failure).2)
  | .calling, .expects count =>
      some ([], { task with expectedFailures := task.expectedFailures + count })
  | .calling, .returned => some (task.leaveTry limited { task with point := .ended })
  | .calling, .failed failure => some (task.handle limited retries failure)
  | .sleeping, .slept => some (task.leaveTry limited (task.nextAttempt limited retries true))
  -- an exception in an `except` clause is not handled
  | .sleeping, .failed _ => some (task.leaveTry limited { task with point := .ended })
  | .acquiring, .cancelled | .calling, .cancelled | .sleeping, .cancelled =>
      some (task.leaveTry limited { task with point := .ended })
  | _, _ => none

def resumes (task : SuspendedTask) : List Wake → Option (List SlotOp × SuspendedTask)
  | [] => some ([], task)
  | wake :: rest =>
      (task.resume limited retries wake).bind fun (ops, task) =>
        (resumes task rest).map fun (more, task) => (ops ++ more, task)

variable {limited retries} {task task' task'' : SuspendedTask} {wakes : List Wake} {wake : Wake}
  {ops ops' : List SlotOp}

theorem resumes_concat (h : task.resumes limited retries wakes = some (ops, task'))
    (hlast : task'.resume limited retries wake = some (ops', task'')) :
    task.resumes limited retries (wakes ++ [wake]) = some (ops ++ ops', task'') := by
  induction wakes generalizing task ops with
  | nil =>
      simp only [resumes, Option.some.injEq, Prod.mk.injEq] at h
      obtain ⟨rfl, rfl⟩ := h
      simp [resumes, hlast]
  | cons first rest ih =>
      simp only [resumes, Option.bind_eq_some_iff, Option.map_eq_some_iff] at h
      obtain ⟨⟨front, next⟩, hfirst, ⟨more, last⟩, hrest, heq⟩ := h
      cases heq
      simp only [List.cons_append, resumes, hfirst, Option.bind_some, ih hrest, Option.map_some,
        List.append_assoc]

end SuspendedTask

/-! ## The pieces are the coroutine -/

namespace UploaderTask

variable {σ ε : Type}

variable (R : TaskRuntime σ) (func : TaskFunction σ ε) (retries : Nat)

/-- The suspended task has come this way, and has asked the limiter for the same. -/
structure Follows (c : SuspendedTask) (ops : List SlotOp)
    (task : UploaderTask (List SlotOp × σ) ε) : Prop where
  wakes : ∃ wakes,
    SuspendedTask.resumes R.limiter.isSome retries {} (.begins :: wakes) = some (ops, c)
  expectedFailures : c.expectedFailures = task.expectedFailures

def AtHead (attempt : Nat) (task : UploaderTask (List SlotOp × σ) ε) : Prop :=
  ∃ c : SuspendedTask, c.attempt = attempt ∧
    Follows R retries (c.loopHead R.limiter.isSome retries) task.world.1 task

/-- The suspended task is behind a failure, on its way to the next attempt. -/
def Retrying (attempt : Nat) (retry : Bool) (task : UploaderTask (List SlotOp × σ) ε) : Prop :=
  ∃ c : SuspendedTask, c.attempt = attempt ∧
    Follows R retries (c.nextAttempt R.limiter.isSome retries retry) task.world.1 task

variable {R func retries} {c c' : SuspendedTask} {ops ops' : List SlotOp} {wake : Wake}
  {task task' : UploaderTask (List SlotOp × σ) ε} {attempt : Nat}

theorem Follows.resume (h : Follows R retries c ops task)
    (hstep : c.resume R.limiter.isSome retries wake = some (ops', c'))
    (hexpected : c'.expectedFailures = task'.expectedFailures) :
    Follows R retries c' (ops ++ ops') task' := by
  obtain ⟨wakes, hwakes⟩ := h.wakes
  exact ⟨⟨wakes ++ [wake], SuspendedTask.resumes_concat hwakes hstep⟩, hexpected⟩

end UploaderTask

end ApUploader
