import ApUploader.Logic.Machine
import ApUploader.Logic.Semaphore
import ApUploader.Uploader.Suspension

/-! # The task group and its limiter

The tasks of a group share one capacity limiter. The event loop resumes them in any
order; each piece of a task's code asks the limiter for what it says, and a request
that the limiter rejects is recorded as a fault. The slots that are held are the ones
of the tasks that are inside their `try` statement, so they are balanced on every way
out of it.
-/

namespace ApUploader

structure UploaderTaskGroup where
  limiter : Option (Semaphore Nat)
  retries : Nat
  /-- The tasks, in the order in which they were started. -/
  tasks : List SuspendedTask := []
  /-- The requests that the limiter has rejected, with the task that made them. -/
  faults : List (Nat × SlotOp) := []

inductive GroupMove where
  | startTask
  | wake (id : Nat) (wake : Wake)

namespace UploaderTaskGroup

/-- Without a positive number of slots there is no limiter. -/
def new (maxConcurrency : Int) (retries : Nat) : UploaderTaskGroup where
  limiter := if 0 < maxConcurrency then some (.free maxConcurrency.toNat) else none
  retries := retries

def put (g : UploaderTaskGroup) (id : Nat) (task : SuspendedTask) : UploaderTaskGroup :=
  { g with tasks := g.tasks.set id task }

/-- Ask the limiter for the operations of a task that goes on to `next`. A full limiter does not
grant a token, so the task is not resumed; a rejected release is an exception in the `finally`
clause. -/
def perform (id : Nat) (next : SuspendedTask) :
    List SlotOp → UploaderTaskGroup → Option UploaderTaskGroup
  | [], g => some (g.put id next)
  | op :: rest, g =>
      match op, g.limiter with
      | .acquire, some limiter =>
          (limiter.acquire id).bind fun limiter =>
            perform id next rest { g with limiter := limiter }
      | .refuse, some limiter =>
          if id ∈ limiter.holders then
            perform id next rest { g with faults := g.faults ++ [(id, .refuse)] }
          else none
      | .release, some limiter =>
          match limiter.release id with
          | some limiter => perform id next rest { g with limiter := limiter }
          | none =>
              some ({ g with faults := g.faults ++ [(id, SlotOp.release)] }.put id
                { next with point := .ended })
      | _, none => none

def step (g : UploaderTaskGroup) : GroupMove → Option UploaderTaskGroup
  | .startTask => some { g with tasks := g.tasks ++ [{}] }
  | .wake id wake => do
      let task ← g.tasks[id]?
      let (ops, next) ← task.resume g.limiter.isSome g.retries wake
      perform id next ops g

def machine : Machine UploaderTaskGroup GroupMove := ⟨step⟩

def callers (g : UploaderTaskGroup) : List Nat :=
  (List.range g.tasks.length).filter fun id => g.tasks[id]?.map SuspendedTask.point == some .calling

end UploaderTaskGroup

/-! ## What one resumption does to the slots -/

namespace SuspendedTask

def Inside (task : SuspendedTask) : Prop := task.point = .calling ∨ task.point = .sleeping

structure Consistent (limited : Bool) (task : SuspendedTask) : Prop where
  inside : task.Inside → task.acquired = limited
  acquiring : task.point = .acquiring → limited = true ∧ task.acquired = false

inductive SlotEffect (limited : Bool) (task next : SuspendedTask) : List SlotOp → Prop where
  | keeps (hnext : next.Consistent limited) (h : limited = true → (next.Inside ↔ task.Inside)) :
      SlotEffect limited task next []
  | acquires (hnext : next.Consistent limited) (hbefore : ¬ task.Inside) (hafter : next.Inside) :
      SlotEffect limited task next [.acquire]
  | releases (hnext : next.Consistent limited) (hbefore : task.Inside) (hafter : ¬ next.Inside) :
      SlotEffect limited task next [.release]
  | refused (rest : List SlotOp) (hbefore : ¬ task.Inside) :
      SlotEffect limited task next (.refuse :: rest)

variable {limited : Bool} {retries : Nat} {task next : SuspendedTask} {ops : List SlotOp}

theorem ended_consistent (limited : Bool) (task : SuspendedTask) :
    Consistent limited { task with point := .ended } := by
  constructor <;> simp [Inside]

theorem loopHead_spec (limited : Bool) (retries : Nat) (task : SuspendedTask) :
    (task.loopHead limited retries).Consistent limited ∧
      (limited = true → ¬ (task.loopHead limited retries).Inside) := by
  unfold loopHead
  split
  · cases limited with
    | true => exact ⟨⟨by simp [Inside], by simp⟩, by simp [Inside]⟩
    | false => exact ⟨⟨by simp, by simp⟩, by simp⟩
  · exact ⟨ended_consistent limited task, by simp [Inside]⟩

theorem leaveTry_spec (htask : task.Consistent limited) (hinside : task.Inside)
    (hnext : next.Consistent limited) (hout : limited = true → ¬ next.Inside) :
    SlotEffect limited task next (task.leaveTry limited next).1 := by
  have hacquired := htask.inside hinside
  unfold leaveTry
  cases limited with
  | true =>
      rw [hacquired]
      exact .releases hnext hinside (hout rfl)
  | false =>
      rw [Bool.and_false]
      exact .keeps hnext (by simp)

theorem leaveTry_ended (htask : task.Consistent limited) (hinside : task.Inside) :
    SlotEffect limited task { task with point := .ended }
      (task.leaveTry limited { task with point := .ended }).1 :=
  leaveTry_spec htask hinside (ended_consistent limited task) (by simp [Inside])

theorem handle_spec (htask : task.Consistent limited) (hinside : task.Inside)
    (failure : TaskFailure) :
    SlotEffect limited task (task.handle limited retries failure).2
      (task.handle limited retries failure).1 := by
  unfold handle
  split
  · refine .keeps ⟨fun _ => htask.inside hinside, by simp⟩ fun _ => ?_
    exact iff_of_true (.inr rfl) hinside
  · obtain ⟨hnext, hout⟩ := loopHead_spec limited retries
      { task with
        attempt := (if shouldRetry failure.exceptions then task.attempt else retries) + 1 }
    exact leaveTry_spec htask hinside hnext hout

theorem not_inside_of_created (hpoint : task.point = .created) : ¬ task.Inside := by
  simp [Inside, hpoint]

theorem not_inside_of_acquiring (hpoint : task.point = .acquiring) : ¬ task.Inside := by
  simp [Inside, hpoint]

/-- A cancelled acquisition has no slot to give back. -/
theorem leaveTry_of_acquiring (htask : task.Consistent limited) (hpoint : task.point = .acquiring) :
    SlotEffect limited task { task with point := .ended }
      (task.leaveTry limited { task with point := .ended }).1 := by
  have hops : (task.leaveTry limited { task with point := .ended }).1 = [] := by
    simp [leaveTry, (htask.acquiring hpoint).2]
  rw [hops]
  refine .keeps (ended_consistent limited task) fun _ => ?_
  exact iff_of_false (by simp [Inside]) (not_inside_of_acquiring hpoint)

/-- A resumption keeps the slots, or takes the one of the task, or gives it back. -/
theorem resume_spec {wake : Wake} (htask : task.Consistent limited)
    (hstep : task.resume limited retries wake = some (ops, next)) :
    SlotEffect limited task next ops := by
  -- the cases are those of the definition, in its order
  unfold resume at hstep
  split at hstep
  · next hpoint =>
      cases hstep
      obtain ⟨hnext, hhead⟩ := loopHead_spec limited retries task
      refine .keeps hnext fun hlimited => ?_
      exact iff_of_false (hhead hlimited) (not_inside_of_created hpoint)
  · next hpoint =>
      cases hstep
      refine .keeps (ended_consistent limited task) fun _ => ?_
      exact iff_of_false (by simp [Inside]) (not_inside_of_created hpoint)
  · next hpoint =>
      cases hstep
      have hlimited := (htask.acquiring hpoint).1
      exact .acquires ⟨fun _ => hlimited.symm, by simp⟩ (not_inside_of_acquiring hpoint) (.inl rfl)
  · next hpoint =>
      cases hstep
      exact .refused _ (not_inside_of_acquiring hpoint)
  · next hpoint =>
      cases hstep
      refine .keeps ⟨fun _ => htask.inside (.inl hpoint), by simp [hpoint]⟩ fun _ => ?_
      exact iff_of_true (.inl hpoint) (.inl hpoint)
  · next hpoint =>
      cases hstep
      exact leaveTry_ended htask (.inl hpoint)
  · next failure hpoint =>
      have hhandle : SlotEffect limited task (task.handle limited retries failure).2
          (task.handle limited retries failure).1 := handle_spec htask (.inl hpoint) failure
      rwa [Option.some.inj hstep] at hhandle
  · next hpoint =>
      cases hstep
      obtain ⟨hnext, hhead⟩ := loopHead_spec limited retries
        { task with attempt := (if true then task.attempt else retries) + 1 }
      exact leaveTry_spec htask (.inr hpoint) hnext hhead
  · next hpoint =>
      cases hstep
      exact leaveTry_ended htask (.inr hpoint)
  · next hpoint =>
      cases hstep
      exact leaveTry_of_acquiring htask hpoint
  · next hpoint =>
      cases hstep
      exact leaveTry_ended htask (.inl hpoint)
  · next hpoint =>
      cases hstep
      exact leaveTry_ended htask (.inr hpoint)
  · cases hstep

end SuspendedTask

/-! ## The slots of the group -/

namespace UploaderTaskGroup

/-- The holders of the slots are the tasks inside their `try` statement, and no request has been
rejected. -/
structure Balanced (maxConcurrency : Int) (g : UploaderTaskGroup) : Prop where
  limiter : ∀ limiter, g.limiter = some limiter → (limiter.capacity : Int) = maxConcurrency
  limited : g.limiter.isSome = decide (0 < maxConcurrency)
  holders : ∀ limiter, g.limiter = some limiter → ∀ id,
    id ∈ limiter.holders ↔ ∃ task, g.tasks[id]? = some task ∧ task.Inside
  consistent : ∀ task ∈ g.tasks, task.Consistent g.limiter.isSome
  faultless : g.faults = []

theorem new_balanced (maxConcurrency : Int) (retries : Nat) :
    (new maxConcurrency retries).Balanced maxConcurrency := by
  unfold new
  split
  · next hpos =>
      refine ⟨?_, by simp [hpos], ?_, by simp, rfl⟩
      · intro limiter hlimiter
        cases hlimiter
        simp only [Semaphore.free]
        omega
      · intro limiter hlimiter id
        cases hlimiter
        simp [Semaphore.free]
  · next hpos => exact ⟨by simp, by simp [hpos], by simp, by simp, rfl⟩

variable {maxConcurrency : Int} {g g' : UploaderTaskGroup} {id : Nat} {task next : SuspendedTask}
  {ops : List SlotOp}

theorem Balanced.put (h : g.Balanced maxConcurrency) (htask : g.tasks[id]? = some task)
    {slots : Option (Semaphore Nat)} (hsome : slots.isSome = g.limiter.isSome)
    (hnext : next.Consistent g.limiter.isSome)
    (hcapacity : ∀ limiter, slots = some limiter → (limiter.capacity : Int) = maxConcurrency)
    (hown : ∀ limiter, slots = some limiter → (id ∈ limiter.holders ↔ next.Inside))
    (hothers : ∀ limiter, slots = some limiter → ∀ other, other ≠ id →
      (other ∈ limiter.holders ↔ ∃ task, g.tasks[other]? = some task ∧ task.Inside)) :
    ({ g with limiter := slots }.put id next).Balanced maxConcurrency := by
  have hlength : id < g.tasks.length := (List.getElem?_eq_some_iff.mp htask).1
  refine ⟨hcapacity, hsome.trans h.limited, ?_, ?_, h.faultless⟩
  · intro limiter hlimiter other
    by_cases hother : other = id
    · subst hother
      rw [hown limiter hlimiter]
      simp [UploaderTaskGroup.put, hlength]
    · rw [hothers limiter hlimiter other hother]
      have hsame : (g.tasks.set id next)[other]? = g.tasks[other]? :=
        List.getElem?_set_ne (Ne.symm hother)
      simp only [UploaderTaskGroup.put, hsame]
  · intro task' hmem
    have hlimited : ({ g with limiter := slots }.put id next).limiter.isSome = g.limiter.isSome :=
      hsome
    rw [hlimited]
    rcases List.mem_or_eq_of_mem_set hmem with hmem | heq
    · exact h.consistent task' hmem
    · rw [heq]
      exact hnext

theorem Balanced.putSlots (h : g.Balanced maxConcurrency) (htask : g.tasks[id]? = some task)
    {limiter slots : Semaphore Nat} (hlimiter : g.limiter = some limiter)
    (hnext : next.Consistent g.limiter.isSome) (hcapacity : slots.capacity = limiter.capacity)
    (hown : id ∈ slots.holders ↔ next.Inside)
    (hothers : ∀ other, other ≠ id → (other ∈ slots.holders ↔ other ∈ limiter.holders)) :
    ({ g with limiter := some slots }.put id next).Balanced maxConcurrency := by
  refine h.put htask (by simp [hlimiter]) hnext ?_ ?_ ?_
  · intro _ hslots
    cases hslots
    rw [hcapacity]
    exact h.limiter limiter hlimiter
  · intro _ hslots
    cases hslots
    exact hown
  · intro _ hslots other hother
    cases hslots
    rw [hothers other hother]
    exact h.holders limiter hlimiter other

theorem Balanced.perform (h : g.Balanced maxConcurrency) (htask : g.tasks[id]? = some task)
    (heffect : SuspendedTask.SlotEffect g.limiter.isSome task next ops)
    (hstep : UploaderTaskGroup.perform id next ops g = some g') : g'.Balanced maxConcurrency := by
  have hown : ∀ limiter, g.limiter = some limiter → (id ∈ limiter.holders ↔ task.Inside) := by
    intro limiter hlimiter
    simp [h.holders limiter hlimiter, htask]
  cases heffect with
  | keeps hnext hkeep =>
      cases hstep
      refine h.put htask rfl hnext h.limiter ?_ fun limiter hlimiter other _ =>
        h.holders limiter hlimiter other
      intro limiter hlimiter
      rw [hown limiter hlimiter, hkeep (by simp [hlimiter])]
  | acquires hnext hbefore hafter =>
      cases hlimiter : g.limiter with
      | none => simp [UploaderTaskGroup.perform, hlimiter] at hstep
      | some limiter =>
          simp only [UploaderTaskGroup.perform, hlimiter, Option.bind_eq_some_iff,
            Option.some.injEq] at hstep
          obtain ⟨slots, hacquire, rfl⟩ := hstep
          obtain ⟨hcapacity, hholders⟩ := Semaphore.acquire_spec hacquire
          refine h.putSlots htask hlimiter hnext hcapacity (by simp [hholders, hafter]) ?_
          intro other hother
          simp [hholders, hother]
  | releases hnext hbefore hafter =>
      cases hlimiter : g.limiter with
      | none => simp [UploaderTaskGroup.perform, hlimiter] at hstep
      | some limiter =>
          obtain ⟨slots, hrelease⟩ := limiter.release_of_mem ((hown limiter hlimiter).mpr hbefore)
          simp only [UploaderTaskGroup.perform, hlimiter, hrelease, Option.some.injEq] at hstep
          subst hstep
          obtain ⟨hcapacity, hholders⟩ := Semaphore.release_spec hrelease
          refine h.putSlots htask hlimiter hnext hcapacity (by simp [hholders, hafter]) ?_
          intro other hother
          simp [hholders, hother]
  | refused rest hbefore =>
      -- only a holder would be refused
      cases hlimiter : g.limiter with
      | none => simp [UploaderTaskGroup.perform, hlimiter] at hstep
      | some limiter =>
          have hfree : id ∉ limiter.holders := fun hmem => hbefore ((hown limiter hlimiter).mp hmem)
          simp [UploaderTaskGroup.perform, hlimiter, hfree] at hstep

theorem Balanced.step {move : GroupMove} (h : g.Balanced maxConcurrency)
    (hstep : g.step move = some g') : g'.Balanced maxConcurrency := by
  cases move with
  | startTask =>
      cases hstep
      refine ⟨h.limiter, h.limited, ?_, ?_, h.faultless⟩
      · intro limiter hlimiter id
        rw [h.holders limiter hlimiter, List.getElem?_append]
        split
        · rfl
        · next hlength =>
            -- the new task is not inside
            have hnone : g.tasks[id]? = none := List.getElem?_eq_none (by omega)
            rw [hnone]
            cases id - g.tasks.length with
            | zero => simp [SuspendedTask.Inside]
            | succ n => simp
      · intro task hmem
        rcases List.mem_append.mp hmem with hmem | hmem
        · exact h.consistent task hmem
        · rw [List.mem_singleton.mp hmem]
          exact ⟨by simp [SuspendedTask.Inside], by simp⟩
  | wake id wake =>
      simp only [UploaderTaskGroup.step, Option.bind_eq_bind, Option.bind_eq_some_iff] at hstep
      obtain ⟨task, htask, ⟨ops, next⟩, hresume, hperform⟩ := hstep
      have hconsistent := h.consistent task (List.mem_of_getElem? htask)
      exact h.perform htask (SuspendedTask.resume_spec hconsistent hresume) hperform

theorem balanced_run {retries : Nat} {moves : List GroupMove}
    (hrun : machine.run (new maxConcurrency retries) moves = some g) :
    g.Balanced maxConcurrency :=
  machine.run_preserves (fun _ _ _ h hstep => h.step hstep) hrun
    (new_balanced maxConcurrency retries)

theorem mem_callers :
    id ∈ g.callers ↔ ∃ task, g.tasks[id]? = some task ∧ task.point = .calling := by
  unfold callers
  rw [List.mem_filter, List.mem_range]
  constructor
  · intro h
    obtain ⟨_, hpoint⟩ := h
    rw [beq_iff_eq, Option.map_eq_some_iff] at hpoint
    exact hpoint
  · intro h
    obtain ⟨task, htask, hpoint⟩ := h
    exact ⟨(List.getElem?_eq_some_iff.mp htask).1, by simp [htask, hpoint]⟩

theorem callers_nodup (g : UploaderTaskGroup) : g.callers.Nodup := List.nodup_range.filter _

/-- In every run of a group at most as many functions run at once as there are slots, the limiter
has never rejected a request, no task asks for a slot while it holds one, and when all tasks have
ended all slots are free. -/
theorem concurrency_limited (maxConcurrency : Int) (retries : Nat) (moves : List GroupMove)
    (g : UploaderTaskGroup) (hrun : machine.run (new maxConcurrency retries) moves = some g) :
    (0 < maxConcurrency → (g.callers.length : Int) ≤ maxConcurrency) ∧
      g.faults = [] ∧
      (∀ id task, g.tasks[id]? = some task → task.point = .acquiring →
        ∀ limiter, g.limiter = some limiter → id ∉ limiter.holders) ∧
      ((∀ task ∈ g.tasks, task.point = .ended) →
        ∀ limiter, g.limiter = some limiter → limiter.holders = []) := by
  have hbalanced := balanced_run hrun
  refine ⟨?_, hbalanced.faultless, ?_, ?_⟩
  · intro hpos
    have hsome := hbalanced.limited
    rw [decide_eq_true hpos, Option.isSome_iff_exists] at hsome
    obtain ⟨limiter, hlimiter⟩ := hsome
    have hheld : ∀ id ∈ g.callers, id ∈ limiter.holders := by
      intro id hcaller
      obtain ⟨task, htask, hpoint⟩ := mem_callers.mp hcaller
      exact (hbalanced.holders limiter hlimiter id).mpr ⟨task, htask, .inl hpoint⟩
    have hle := Semaphore.length_le_capacity (callers_nodup g) hheld
    have hcapacity := hbalanced.limiter limiter hlimiter
    omega
  · intro id task htask hpoint limiter hlimiter hheld
    obtain ⟨other, hother, hinside⟩ := (hbalanced.holders limiter hlimiter id).mp hheld
    rw [htask] at hother
    cases hother
    simp [SuspendedTask.Inside, hpoint] at hinside
  · intro hended limiter hlimiter
    rw [List.eq_nil_iff_forall_not_mem]
    intro id hheld
    obtain ⟨task, htask, hinside⟩ := (hbalanced.holders limiter hlimiter id).mp hheld
    have hpoint := hended task (List.mem_of_getElem? htask)
    simp [SuspendedTask.Inside, hpoint] at hinside

/-- Two tasks and one slot: the second one gets it when the first one, whose failure was expected,
is cancelled in its sleep. -/
def handover : List GroupMove :=
  [.startTask, .startTask, .wake 0 .begins, .wake 1 .begins, .wake 0 .granted, .wake 0 (.expects 3),
    .wake 0 (.failed (.exceptionGroup [])), .wake 0 .cancelled, .wake 1 .granted]

theorem concurrency_limited_handover :
    ∃ g, machine.run (new 1 0) handover = some g ∧ g.callers = [1] ∧
      (0 < (1 : Int) → (g.callers.length : Int) ≤ 1) ∧ g.faults = [] ∧
        (∀ id task, g.tasks[id]? = some task → task.point = .acquiring →
          ∀ limiter, g.limiter = some limiter → id ∉ limiter.holders) ∧
        ((∀ task ∈ g.tasks, task.point = .ended) →
          ∀ limiter, g.limiter = some limiter → limiter.holders = []) := by
  obtain ⟨g, hrun, hcallers⟩ :
      ∃ g, machine.run (new 1 0) handover = some g ∧ g.callers = [1] := ⟨_, rfl, rfl⟩
  exact ⟨g, hrun, hcallers, concurrency_limited 1 0 handover g hrun⟩

end UploaderTaskGroup

end ApUploader
