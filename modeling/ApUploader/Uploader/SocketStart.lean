import ApUploader.Logic.Machine
import Mathlib.Tactic.ByContra
import Mathlib.Tactic.SplitIfs

/-! # The shared socket of an uploader

Contexts of `use()` are entered and left, and calls of `get_shared_udp_socket` run
in tasks of their own; each of their pieces between two awaits is a move. A socket
is stored before its run task is started and stays stored, so a later call gets it
whatever has become of that task.
-/

namespace ApUploader

inductive UseContext where
  | entered
  /-- The body has been left and the tasks are cancelled. -/
  | leaving
  | left
  deriving DecidableEq, Repr

inductive RunTask where
  /-- In `use()` of the socket, before `task_status.started()`. -/
  | starting
  | running
  /-- The task has returned, raised or been cancelled. -/
  | ended
  deriving DecidableEq, Repr

/-- A socket object with its run task, and the group it was started in. -/
structure StartedSocket where
  group : Nat
  task : RunTask
  deriving DecidableEq, Repr

inductive SocketCall where
  /-- For the lock. -/
  | waiting
  /-- For the start of a run task, with the lock held. -/
  | starting (socket : Nat)
  | returned (socket : Option Nat)
  | raised
  deriving DecidableEq, Repr

structure UploaderInUse where
  taskGroup : Option Nat := none
  sharedUdpSocket : Option Nat := none
  /-- The call that holds the lock. -/
  lock : Option Nat := none
  uses : List UseContext := []
  sockets : List StartedSocket := []
  calls : List SocketCall := []
  deriving DecidableEq, Repr

inductive UseMove where
  | enterUse
  /-- The body of a `use()` ends, normally or not. -/
  | leaveUse (group : Nat)
  /-- The tasks of a group have ended. -/
  | closeUse (group : Nat)
  /-- Call `get_shared_udp_socket`. -/
  | call
  /-- A call gets the lock and runs to its next await. -/
  | acquire (call : Nat)
  /-- A waiting call is cancelled. -/
  | abandon (call : Nat)
  /-- A run task reports that it has started. -/
  | started (socket : Nat)
  /-- The start awaited by a call returns. -/
  | startReturned (call : Nat)
  /-- The run task raises before it has started. -/
  | startRaised (call : Nat)
  /-- The call is cancelled in the start, which cancels the run task. -/
  | startCancelled (call : Nat)
  /-- A run task ends, cancelled with its group or by an exception. -/
  | ended (socket : Nat)
  deriving DecidableEq, Repr

namespace UploaderInUse

def setTask (s : UploaderInUse) (socket : Nat) (task : RunTask) : List StartedSocket :=
  s.sockets.modify socket fun started => { started with task := task }

def taskOf (s : UploaderInUse) (socket : Nat) : Option RunTask :=
  s.sockets[socket]?.map StartedSocket.task

/-- The statements of `_ensure_shared_udp_socket_is_up` up to the await of the start, and the
`return` when there is nothing to start. -/
def ensureSharedUdpSocketIsUp (s : UploaderInUse) (call : Nat) : UploaderInUse :=
  match s.sharedUdpSocket with
  | some socket => { s with calls := s.calls.set call (.returned (some socket)) }
  | none =>
      match s.taskGroup with
      | none => { s with calls := s.calls.set call .raised }
      | some group => { s with
          sharedUdpSocket := some s.sockets.length
          lock := some call
          sockets := s.sockets ++ [⟨group, .starting⟩]
          calls := s.calls.set call (.starting s.sockets.length) }

/-- A start that ends in an exception, which also leaves the lock. -/
def failStart (s : UploaderInUse) (call socket : Nat) : UploaderInUse :=
  { s with
    lock := none
    sockets := s.setTask socket .ended
    calls := s.calls.set call .raised }

def step (s : UploaderInUse) : UseMove → Option UploaderInUse
  | .enterUse => some { s with
      taskGroup := some s.uses.length
      uses := s.uses ++ [.entered] }
  | .leaveUse group =>
      if s.uses[group]? = some .entered then
        some { s with taskGroup := none, uses := s.uses.set group .leaving }
      else none
  | .closeUse group =>
      if s.uses[group]? = some .leaving ∧
          ∀ started ∈ s.sockets, started.group = group → started.task = .ended then
        some { s with uses := s.uses.set group .left }
      else none
  | .call => some { s with calls := s.calls ++ [.waiting] }
  | .acquire call =>
      if s.calls[call]? = some .waiting ∧ s.lock = none then
        some (s.ensureSharedUdpSocketIsUp call)
      else none
  | .abandon call =>
      if s.calls[call]? = some .waiting then some { s with calls := s.calls.set call .raised }
      else none
  | .started socket =>
      if s.taskOf socket = some .starting then
        some { s with sockets := s.setTask socket .running }
      else none
  | .startReturned call =>
      match s.calls[call]? with
      | some (.starting socket) =>
          if s.taskOf socket = some .starting then none
          else some { s with
            lock := none
            calls := s.calls.set call (.returned s.sharedUdpSocket) }
      | _ => none
  | .startRaised call =>
      match s.calls[call]? with
      | some (.starting socket) =>
          if s.taskOf socket = some .starting then some (s.failStart call socket) else none
      | _ => none
  | .startCancelled call =>
      match s.calls[call]? with
      | some (.starting socket) => some (s.failStart call socket)
      | _ => none
  | .ended socket =>
      if s.taskOf socket = some .running then
        some { s with sockets := s.setTask socket .ended }
      else none

def machine : Machine UploaderInUse UseMove := ⟨step⟩

/-! ## What is asked of a run -/

def Returns (s s' : UploaderInUse) (call : Nat) (socket : Option Nat) : Prop :=
  s'.calls[call]? = some (.returned socket) ∧ s.calls[call]? ≠ some (.returned socket)

def FailsStart : UseMove → Prop
  | .startRaised _ | .startCancelled _ => True
  | _ => False

/-- A returned socket runs, and behind a failed start the next call starts a socket again. -/
def HandsOutRunning (s : UploaderInUse) (move : UseMove) : Prop :=
  ∀ s', s.step move = some s' →
    (∀ call result, Returns s s' call result →
      ∃ socket, result = some socket ∧ s'.taskOf socket = some .running) ∧
    (FailsStart move → s'.sharedUdpSocket = none)

/-- No start fails, and no call comes to the socket when its run task has ended. -/
def KeepsRunning (s : UploaderInUse) : UseMove → Prop
  | .startRaised _ | .startCancelled _ => False
  | .acquire _ | .startReturned _ => ∀ started ∈ s.sockets, started.task ≠ .ended
  | _ => True

/-! ## Steps -/

variable {s s' : UploaderInUse} {call socket : Nat}

theorem getElem?_of_append_waiting {calls : List SocketCall} {state : SocketCall}
    (h : (calls ++ [.waiting])[call]? = some state) (hstate : state ≠ .waiting) :
    calls[call]? = some state := by
  rw [List.getElem?_append] at h
  split_ifs at h
  · exact h
  · rw [List.getElem?_singleton] at h
    split_ifs at h
    exact absurd (Option.some.inj h).symm hstate

theorem startReturned_spec (h : s.step (.startReturned call) = some s') :
    ∃ socket, s.calls[call]? = some (.starting socket) ∧ s.taskOf socket ≠ some .starting ∧
      s' = { s with lock := none, calls := s.calls.set call (.returned s.sharedUdpSocket) } := by
  simp only [step] at h
  split at h
  · next socket hcall =>
      split at h
      · cases h
      · next htask => exact ⟨socket, hcall, htask, (Option.some.inj h).symm⟩
  · cases h

theorem startFailed_spec {move : UseMove}
    (hmove : move = .startRaised call ∨ move = .startCancelled call)
    (h : s.step move = some s') :
    ∃ socket, s.calls[call]? = some (.starting socket) ∧ s' = s.failStart call socket := by
  rcases hmove with rfl | rfl
  · simp only [step] at h
    split at h
    · next socket hcall => exact ⟨socket, hcall, (Machine.guarded h).2⟩
    · cases h
  · simp only [step] at h
    split at h
    · next socket hcall => exact ⟨socket, hcall, (Option.some.inj h).symm⟩
    · cases h

/-! ## One socket -/

/-- As long as no start fails there is one socket at most, the stored one. -/
structure OneSocket (s : UploaderInUse) : Prop where
  stored : (s.sharedUdpSocket = none ∧ s.sockets = []) ∨
    ∃ started, s.sharedUdpSocket = some 0 ∧ s.sockets = [started]
  /-- A start is awaited with the lock held. -/
  free : s.lock = none → ∀ started ∈ s.sockets, started.task ≠ .starting
  holder : ∀ call socket, s.calls[call]? = some (.starting socket) →
    s.lock = some call ∧ s.sharedUdpSocket = some 0 ∧ socket = 0

theorem OneSocket.init : OneSocket {} := ⟨.inl ⟨rfl, rfl⟩, by simp, by simp⟩

theorem taskOf_single {started : StartedSocket} (h : s.sockets = [started]) :
    s.taskOf 0 = some started.task := by
  rw [taskOf, h]
  rfl

theorem setTask_single {started : StartedSocket} (h : s.sockets = [started]) (task : RunTask) :
    s.setTask 0 task = [{ started with task := task }] := by
  rw [setTask, h]
  rfl

theorem OneSocket.task (h : OneSocket s) {task : RunTask} (htask : s.taskOf socket = some task) :
    socket = 0 ∧ s.sharedUdpSocket = some 0 ∧ ∃ started, s.sockets = [started] ∧
      started.task = task := by
  rcases h.stored with ⟨_, hempty⟩ | ⟨started, hstored, hsockets⟩
  · rw [taskOf, hempty] at htask
    simp at htask
  · have hzero : socket = 0 := by
      by_contra hne
      rw [taskOf, hsockets, List.getElem?_eq_none (by simp; omega)] at htask
      simp at htask
    subst hzero
    rw [taskOf_single hsockets] at htask
    exact ⟨rfl, hstored, started, hsockets, Option.some.inj htask⟩

theorem OneSocket.setTask (h : OneSocket s) (hsocket : (s.taskOf socket).isSome) {task : RunTask}
    (htask : task ≠ .starting) : OneSocket { s with sockets := s.setTask socket task } := by
  obtain ⟨old, hold⟩ := Option.isSome_iff_exists.mp hsocket
  obtain ⟨rfl, hstored, started, hsockets, _⟩ := h.task hold
  rw [setTask_single hsockets]
  refine ⟨.inr ⟨_, hstored, rfl⟩, ?_, h.holder⟩
  intro _ started' hmem
  rw [List.mem_singleton.mp hmem]
  exact htask

theorem OneSocket.setCall (h : OneSocket s) {state : SocketCall}
    (hstate : ∀ socket, state ≠ .starting socket) :
    OneSocket { s with calls := s.calls.set call state } := by
  refine ⟨h.stored, h.free, ?_⟩
  intro other socket hother
  rw [List.getElem?_set] at hother
  split_ifs at hother
  · exact absurd (Option.some.inj hother) (hstate socket)
  · exact h.holder other socket hother

theorem OneSocket.ensure (h : OneSocket s) (hlock : s.lock = none) :
    OneSocket (s.ensureSharedUdpSocketIsUp call) := by
  unfold ensureSharedUdpSocketIsUp
  split
  · exact h.setCall (by simp)
  · next hnone =>
      split
      · exact h.setCall (by simp)
      · rcases h.stored with ⟨_, hempty⟩ | ⟨_, hstored, _⟩
        · rw [hempty]
          refine ⟨.inr ⟨_, rfl, rfl⟩, by simp, ?_⟩
          intro other socket hother
          rw [List.getElem?_set] at hother
          split_ifs at hother with hsame
          · subst hsame
            cases hother
            exact ⟨rfl, rfl, rfl⟩
          · have hheld := (h.holder other socket hother).1
            rw [hlock] at hheld
            cases hheld
        · rw [hnone] at hstored
          cases hstored

theorem OneSocket.startReturned (h : OneSocket s) (hcall : s.calls[call]? = some (.starting socket))
    (htask : s.taskOf socket ≠ some .starting) :
    OneSocket { s with
      lock := none
      calls := s.calls.set call (.returned s.sharedUdpSocket) } := by
  obtain ⟨hlock, hstored, rfl⟩ := h.holder call socket hcall
  refine ⟨h.stored, ?_, ?_⟩
  · intro _ started hmem hstarting
    rcases h.stored with ⟨hnone, _⟩ | ⟨only, _, hsockets⟩
    · rw [hnone] at hstored
      cases hstored
    · rw [hsockets] at hmem
      rw [taskOf_single hsockets, ← List.mem_singleton.mp hmem, hstarting] at htask
      exact htask rfl
  · intro other socket hother
    rw [List.getElem?_set] at hother
    split_ifs at hother with hsame
    · cases hother
    · have hheld := (h.holder other socket hother).1
      rw [hlock] at hheld
      exact absurd (Option.some.inj hheld) hsame

theorem OneSocket.step (h : OneSocket s) {move : UseMove} (hok : KeepsRunning s move)
    (hstep : s.step move = some s') : OneSocket s' := by
  cases move with
  | enterUse =>
      cases hstep
      exact ⟨h.stored, h.free, h.holder⟩
  | leaveUse group =>
      obtain ⟨_, rfl⟩ := Machine.guarded hstep
      exact ⟨h.stored, h.free, h.holder⟩
  | closeUse group =>
      obtain ⟨_, rfl⟩ := Machine.guarded hstep
      exact ⟨h.stored, h.free, h.holder⟩
  | call =>
      cases hstep
      refine ⟨h.stored, h.free, ?_⟩
      intro other socket hother
      exact h.holder other socket (getElem?_of_append_waiting hother (by simp))
  | acquire call =>
      obtain ⟨⟨_, hlock⟩, rfl⟩ := Machine.guarded hstep
      exact h.ensure hlock
  | abandon call =>
      obtain ⟨_, rfl⟩ := Machine.guarded hstep
      exact h.setCall (by simp)
  | started socket =>
      obtain ⟨htask, rfl⟩ := Machine.guarded hstep
      exact h.setTask (by rw [htask]; rfl) (by decide)
  | startReturned call =>
      obtain ⟨socket, hcall, htask, rfl⟩ := startReturned_spec hstep
      exact h.startReturned hcall htask
  | startRaised call => exact hok.elim
  | startCancelled call => exact hok.elim
  | ended socket =>
      obtain ⟨htask, rfl⟩ := Machine.guarded hstep
      exact h.setTask (by rw [htask]; rfl) (by decide)

/-! ## What calls return -/

theorem Returns.of_set {state : SocketCall} {other : Nat} {result : Option Nat}
    (h : Returns s s' other result) (hcalls : s'.calls = s.calls.set call state) :
    other = call ∧ state = .returned result := by
  obtain ⟨hnow, hbefore⟩ := h
  rw [hcalls, List.getElem?_set] at hnow
  split_ifs at hnow with hsame
  · exact ⟨hsame.symm, Option.some.inj hnow⟩
  · exact absurd hnow hbefore

theorem handsOutRunning_of_silent {move : UseMove} (hstep : s.step move = some s')
    (hsilent : ∀ call result, ¬ Returns s s' call result) (hmove : ¬ FailsStart move) :
    HandsOutRunning s move := by
  intro other hother
  rw [hstep] at hother
  cases hother
  exact ⟨fun call result hreturns => absurd hreturns (hsilent call result),
    fun hfails => absurd hfails hmove⟩

theorem not_returns_of_calls (hcalls : s'.calls = s.calls) (call : Nat) (result : Option Nat) :
    ¬ Returns s s' call result := fun h => h.2 (hcalls ▸ h.1)

theorem OneSocket.running_iff (h : OneSocket s) (hstored : s.sharedUdpSocket = some 0)
    (hstarted : s.taskOf 0 ≠ some .starting) :
    s.taskOf 0 = some .running ↔ ∀ started ∈ s.sockets, started.task ≠ .ended := by
  rcases h.stored with ⟨hnone, _⟩ | ⟨only, _, hsockets⟩
  · rw [hnone] at hstored
    cases hstored
  · rw [taskOf_single hsockets] at hstarted ⊢
    rw [hsockets]
    cases htask : only.task <;> simp_all

theorem OneSocket.handsOut_iff (h : OneSocket s) {move : UseMove}
    (hstored : s.sharedUdpSocket = some 0) (hstarted : s.taskOf 0 ≠ some .starting)
    (hstep : s.step move = some s') (hcalls : s'.calls = s.calls.set call (.returned (some 0)))
    (hcall : s.calls[call]? = some .waiting ∨ s.calls[call]? = some (.starting 0))
    (hsockets : s'.sockets = s.sockets) (hmove : ¬ FailsStart move) :
    HandsOutRunning s move ↔ ∀ started ∈ s.sockets, started.task ≠ .ended := by
  have htask : s'.taskOf 0 = s.taskOf 0 := by rw [taskOf, taskOf, hsockets]
  rw [← h.running_iff hstored hstarted, ← htask]
  constructor
  · intro hhands
    have hlt : call < s.calls.length := by
      rcases hcall with hcall | hcall <;> exact (List.getElem?_eq_some_iff.mp hcall).1
    have hreturns : Returns s s' call (some 0) := by
      constructor
      · rw [hcalls, List.getElem?_set_self hlt]
      · rcases hcall with hcall | hcall <;> simp [hcall]
    obtain ⟨socket, hsocket, hrunning⟩ := (hhands s' hstep).1 call (some 0) hreturns
    cases hsocket
    exact hrunning
  · intro hrunning other hother
    rw [hstep] at hother
    cases hother
    refine ⟨?_, fun hfails => absurd hfails hmove⟩
    intro other result hreturns
    obtain ⟨_, hresult⟩ := hreturns.of_set hcalls
    cases hresult
    exact ⟨0, rfl, hrunning⟩

theorem ensure_of_stored (call : Nat) {socket : Nat} (hstored : s.sharedUdpSocket = some socket) :
    s.ensureSharedUdpSocketIsUp call =
      { s with calls := s.calls.set call (.returned (some socket)) } := by
  unfold ensureSharedUdpSocketIsUp
  rw [hstored]

/-- Without a stored socket no call returns at once. -/
theorem ensure_of_none (call : Nat) (hnone : s.sharedUdpSocket = none) :
    ∃ state, (∀ result, state ≠ .returned result) ∧
      (s.ensureSharedUdpSocketIsUp call).calls = s.calls.set call state := by
  unfold ensureSharedUdpSocketIsUp
  rw [hnone]
  cases s.taskGroup with
  | none => exact ⟨.raised, by simp, rfl⟩
  | some group => exact ⟨.starting s.sockets.length, by simp, rfl⟩

theorem OneSocket.handsOutRunning_iff (h : OneSocket s) {move : UseMove}
    (hstep : s.step move = some s') : HandsOutRunning s move ↔ KeepsRunning s move := by
  have hunchanged : s'.calls = s.calls → ¬ FailsStart move → HandsOutRunning s move :=
    fun hcalls => handsOutRunning_of_silent hstep (not_returns_of_calls hcalls)
  have hset : ∀ call state, (∀ result, state ≠ .returned result) →
      s'.calls = s.calls.set call state → ¬ FailsStart move → HandsOutRunning s move := by
    intro call state hstate hcalls
    exact handsOutRunning_of_silent hstep fun other result hreturns =>
      hstate result (hreturns.of_set hcalls).2
  have hfailed : ∀ call, (move = .startRaised call ∨ move = .startCancelled call) →
      ¬ HandsOutRunning s move := by
    intro call hmove hhands
    obtain ⟨socket, hcall, rfl⟩ := startFailed_spec hmove hstep
    have hnone := (hhands _ hstep).2 (by rcases hmove with rfl | rfl <;> trivial)
    exact nomatch (h.holder call socket hcall).2.1.symm.trans hnone
  cases move with
  | enterUse => exact iff_of_true (hunchanged (by cases hstep; rfl) id) trivial
  | leaveUse group =>
      exact iff_of_true (hunchanged (by rw [(Machine.guarded hstep).2]) id) trivial
  | closeUse group =>
      exact iff_of_true (hunchanged (by rw [(Machine.guarded hstep).2]) id) trivial
  | started socket =>
      exact iff_of_true (hunchanged (by rw [(Machine.guarded hstep).2]) id) trivial
  | ended socket =>
      exact iff_of_true (hunchanged (by rw [(Machine.guarded hstep).2]) id) trivial
  | abandon call =>
      exact iff_of_true (hset call .raised (by simp) (by rw [(Machine.guarded hstep).2]) id) trivial
  | call =>
      refine iff_of_true (handsOutRunning_of_silent hstep ?_ id) trivial
      intro call result hreturns
      cases hstep
      exact hreturns.2 (getElem?_of_append_waiting hreturns.1 (by simp))
  | startRaised call => exact iff_of_false (hfailed call (.inl rfl)) id
  | startCancelled call => exact iff_of_false (hfailed call (.inr rfl)) id
  | startReturned call =>
      obtain ⟨socket, hcall, hstarted, rfl⟩ := startReturned_spec hstep
      obtain ⟨_, hstored, rfl⟩ := h.holder call socket hcall
      exact h.handsOut_iff hstored hstarted hstep (by rw [hstored]) (.inr hcall) rfl id
  | acquire call =>
      obtain ⟨⟨hcall, hlock⟩, rfl⟩ := Machine.guarded hstep
      rcases h.stored with ⟨hnone, hempty⟩ | ⟨only, hstored, hsockets⟩
      · obtain ⟨state, hstate, hcalls⟩ := ensure_of_none call hnone
        refine iff_of_true (hset call state hstate hcalls id) ?_
        intro started hmem
        rw [hempty] at hmem
        cases hmem
      · have hstarted : s.taskOf 0 ≠ some .starting := by
          rw [taskOf_single hsockets]
          intro htask
          exact h.free hlock only (by rw [hsockets]; exact List.mem_singleton_self only)
            (Option.some.inj htask)
        have hensure := ensure_of_stored call hstored
        exact h.handsOut_iff hstored hstarted hstep (by rw [hensure]) (.inl hcall)
          (by rw [hensure]) id

/-- In a run every socket handed out runs and every failed start can be tried again exactly where no
start fails and no call comes to the socket when its run task has ended. -/
theorem socket_handed_out_running_iff {moves : List UseMove}
    (hrun : machine.run {} moves = some s) :
    machine.Throughout HandsOutRunning {} moves ↔ machine.Throughout KeepsRunning {} moves :=
  Machine.throughout_iff_of_run (fun s _ _ (h : OneSocket s) hok hstep => h.step hok hstep)
    (fun _ _ _ h hstep => h.handsOutRunning_iff hstep) hrun .init

theorem socket_handed_out_running_iff_twice :
    machine.Throughout HandsOutRunning {} [.enterUse, .call, .call, .acquire 0, .started 0,
        .startReturned 0, .acquire 1, .leaveUse 0, .ended 0, .closeUse 0] ↔
      machine.Throughout KeepsRunning {} [.enterUse, .call, .call, .acquire 0, .started 0,
        .startReturned 0, .acquire 1, .leaveUse 0, .ended 0, .closeUse 0] :=
  socket_handed_out_running_iff (s := {
    uses := [.left]
    sharedUdpSocket := some 0
    sockets := [⟨0, .ended⟩]
    calls := [.returned (some 0), .returned (some 0)] }) (by decide)

/-- The first start fails, for example because the port is in use, and the second call gets the
socket that was never started. In a second `use()` a call gets the socket of the first one. -/
theorem socket_handed_out_not_running :
    ¬ machine.Throughout HandsOutRunning {} [.enterUse, .call, .acquire 0, .startRaised 0, .call,
        .acquire 1] ∧
      (∃ s, machine.run {} [.enterUse, .call, .acquire 0, .startRaised 0, .call, .acquire 1] =
        some s ∧ s.calls[1]? = some (.returned (some 0)) ∧ s.taskOf 0 = some .ended) ∧
      ∃ s, machine.run {} [.enterUse, .call, .acquire 0, .started 0, .startReturned 0, .leaveUse 0,
        .ended 0, .closeUse 0, .enterUse, .call, .acquire 1] = some s ∧
        s.calls[1]? = some (.returned (some 0)) ∧ s.taskOf 0 = some .ended := by
  refine ⟨?_, ⟨_, rfl, rfl, rfl⟩, _, rfl, rfl, rfl⟩
  intro hhands
  have hentered := hhands.2 _ rfl
  have hcalled := hentered.2 _ rfl
  have hacquired := hcalled.2 _ rfl
  exact nomatch (hacquired.1 _ rfl).2 trivial

end UploaderInUse

end ApUploader
