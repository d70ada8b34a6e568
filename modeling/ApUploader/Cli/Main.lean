import ApUploader.Cli.RichUi
import ApUploader.Uploader.Target
import ApUploader.Uploader.TaskGroup

/-! # The command line

The program starts a task for every target that its scanner finds. It has a loop over the
targets for each operation that the options ask for, and all loops share one generator, so
those behind the first one find it exhausted.
-/

namespace ApUploader

structure Options where
  firmware : Option String := none
  maxConcurrency : Int := 0
  retries : Int := 3
  port : Option (List UploadTarget) := none
  factoryReset : Bool := false
  flashBootloader : Bool := false

/-- The scanner of a program; that of fixed targets has the given ones left. -/
inductive ProgramScanner where
  | udpMavlinkHeartbeat
  | fixedTargetList (rest : List UploadTarget)
  | serialPort
  deriving DecidableEq, Repr

inductive TargetOperation where
  | upload | flashBootloader | factoryReset
  deriving DecidableEq, Repr

def Options.loops (options : Options) : List TargetOperation :=
  (if options.firmware.isSome then [.upload] else []) ++
    (if options.flashBootloader then [.flashBootloader] else []) ++
    if options.factoryReset then [.factoryReset] else []

structure Program where
  group : UploaderTaskGroup
  scanner : ProgramScanner
  ui : RichConsoleUI := {}
  /-- The loops that have not ended, the present one first. -/
  loops : List TargetOperation
  /-- The generator of the targets has ended. -/
  exhausted : Bool := false
  /-- The tasks of the group, with their targets. -/
  started : List (TargetOperation × UploadTarget) := []

inductive ProgramMove where
  | target (target : UploadTarget)
  /-- The present loop asks for a target and there is none. -/
  | stopIteration
  /-- The scanner raises an exception. -/
  | raised
  | wake (id : Nat) (wake : Wake)
  | event (sender : String) (event : UiEvent)

namespace ProgramScanner

def yield : ProgramScanner → UploadTarget → Option ProgramScanner
  | .fixedTargetList (port :: rest), target =>
      if port = target then some (.fixedTargetList rest) else none
  | .fixedTargetList [], _ => none
  | scanner, _ => some scanner

/-- Whether the scanner may have no more targets. -/
def mayEnd : ProgramScanner → Bool
  | .fixedTargetList rest => rest.isEmpty
  | _ => true

theorem yield_eq_fixed {scanner : ProgramScanner} {target : UploadTarget}
    {rest : List UploadTarget} (h : scanner.yield target = some (.fixedTargetList rest)) :
    scanner = .fixedTargetList (target :: rest) := by
  cases scanner with
  | fixedTargetList left =>
      cases left with
      | nil => cases h
      | cons port left =>
          simp only [yield] at h
          split_ifs at h with hsame
          cases h
          rw [hsame]
  | udpMavlinkHeartbeat | serialPort => cases h

end ProgramScanner

namespace Program

/-- `uploader` up to its loops. -/
def uploader (options : Options) : Except Exn Program :=
  if options.firmware.isSome ∧ options.factoryReset then
    .error (.runtimeError "cannot use --factory-reset together with a firmware image")
  else if options.firmware.isSome ∧ options.flashBootloader then
    .error (.runtimeError "cannot use --flash-bootloader together with a firmware image")
  else
    let group := UploaderTaskGroup.new (max options.maxConcurrency 0) (max options.retries 0).toNat
    match options.port.getD [] with
    | [] => .ok {
        group := group
        scanner := .serialPort
        ui := RichConsoleUI.handleEvent {} "" (.log 20
          "Finding serial ports transmitting MAVLink heartbeats, ^C to exit...")
        loops := options.loops }
    | ["udp"] => .ok {
        group := group
        scanner := .udpMavlinkHeartbeat
        ui := RichConsoleUI.handleEvent {} "" (.log 20
          "Listening on UDP port 14550 for MAVLink heartbeats, ^C to exit...")
        loops := options.loops }
    | ports => .ok { group := group, scanner := .fixedTargetList ports, loops := options.loops }

def step (p : Program) : ProgramMove → Option Program
  | .target target =>
      match p.loops, p.exhausted with
      | operation :: _, false => do
          let scanner ← p.scanner.yield target
          let group ← p.group.step .startTask
          some { p with
            scanner := scanner
            group := group
            started := p.started ++ [(operation, target)] }
      | _, _ => none
  | .stopIteration =>
      match p.loops with
      | _ :: rest =>
          if p.exhausted ∨ p.scanner.mayEnd then some { p with loops := rest, exhausted := true }
          else none
      | [] => none
  | .raised => if p.loops ≠ [] then some { p with loops := [] } else none
  | .wake id wake => (p.group.step (.wake id wake)).map fun group => { p with group := group }
  | .event sender event => some { p with ui := p.ui.handleEvent sender event }

def machine : Machine Program ProgramMove := ⟨step⟩

def targets : List ProgramMove → List UploadTarget
  | [] => []
  | .target target :: rest => target :: targets rest
  | _ :: rest => targets rest

/-! ## What the program starts -/

theorem length_perform {id : Nat} {next : SuspendedTask} {ops : List SlotOp}
    {g g' : UploaderTaskGroup} (h : UploaderTaskGroup.perform id next ops g = some g') :
    g'.tasks.length = g.tasks.length := by
  induction ops generalizing g with
  | nil =>
      cases h
      exact List.length_set
  | cons op ops ih =>
      unfold UploaderTaskGroup.perform at h
      split at h
      · obtain ⟨limiter, -, hrest⟩ := Option.bind_eq_some_iff.mp h
        have hsame := ih hrest
        exact hsame
      · split_ifs at h
        have hsame := ih h
        exact hsame
      · split at h
        · have hsame := ih h
          exact hsame
        · cases h
          exact List.length_set
      · cases h

theorem length_wake {id : Nat} {wake : Wake} {g g' : UploaderTaskGroup}
    (h : g.step (.wake id wake) = some g') : g'.tasks.length = g.tasks.length := by
  obtain ⟨task, -, hrest⟩ := Option.bind_eq_some_iff.mp h
  obtain ⟨⟨ops, next⟩, -, hperform⟩ := Option.bind_eq_some_iff.mp hrest
  exact length_perform hperform

/-- All tasks have the operation of the first loop, and those of a fixed list its first targets. -/
structure Accounted (options : Options) (p : Program) : Prop where
  operation : ∀ e ∈ p.started, options.loops.head? = some e.1
  present : p.exhausted = false → p.loops = [] ∨ p.loops = options.loops
  tasks : p.group.tasks.length = p.started.length
  balanced : p.group.Balanced (max options.maxConcurrency 0)
  fixed : ∀ rest, p.scanner = .fixedTargetList rest →
    options.port.getD [] = p.started.map Prod.snd ++ rest ∧ (p.exhausted = true → rest = [])

variable {options : Options} {p p' : Program}

theorem uploader_started (h : uploader options = .ok p) : p.started = [] := by
  unfold uploader at h
  split at h
  · cases h
  · split at h
    · cases h
    · dsimp only at h
      split at h <;> cases h <;> rfl

theorem uploader_accounted (h : uploader options = .ok p) : Accounted options p := by
  have hgroup := UploaderTaskGroup.new_balanced (max options.maxConcurrency 0)
    (max options.retries 0).toNat
  unfold uploader at h
  split at h
  · cases h
  · split at h
    · cases h
    · dsimp only at h
      split at h
      · cases h
        exact ⟨nofun, fun _ => .inr rfl, rfl, hgroup, nofun⟩
      · cases h
        exact ⟨nofun, fun _ => .inr rfl, rfl, hgroup, nofun⟩
      · cases h
        refine ⟨nofun, fun _ => .inr rfl, rfl, hgroup, fun rest hrest => ?_⟩
        cases hrest
        exact ⟨rfl, nofun⟩

theorem step_target {target : UploadTarget} (hstep : p.step (.target target) = some p') :
    ∃ operation rest scanner, p.loops = operation :: rest ∧ p.exhausted = false ∧
      p.scanner.yield target = some scanner ∧
      p' = { p with
        scanner := scanner
        group := { p.group with tasks := p.group.tasks ++ [{}] }
        started := p.started ++ [(operation, target)] } := by
  unfold Program.step at hstep
  dsimp only at hstep
  split at hstep
  · next operation rest hloops hexhausted =>
      obtain ⟨scanner, hscanner, hrest⟩ := Option.bind_eq_some_iff.mp hstep
      cases hrest
      exact ⟨operation, rest, scanner, hloops, hexhausted, hscanner, rfl⟩
  · cases hstep

theorem step_stopIteration (hstep : p.step .stopIteration = some p') :
    ∃ operation rest, p.loops = operation :: rest ∧
      (p.exhausted = true ∨ p.scanner.mayEnd = true) ∧
      p' = { p with loops := rest, exhausted := true } := by
  unfold Program.step at hstep
  dsimp only at hstep
  split at hstep
  · next operation rest hloops =>
      obtain ⟨hends, rfl⟩ := Machine.guarded hstep
      exact ⟨operation, rest, hloops, hends, rfl⟩
  · cases hstep

theorem Accounted.step {move : ProgramMove} (h : Accounted options p)
    (hstep : machine.step p move = some p') :
    Accounted options p' ∧ p'.started.map Prod.snd = p.started.map Prod.snd ++ targets [move] := by
  cases move with
  | target target =>
      obtain ⟨operation, rest, scanner, hloops, hexhausted, hscanner, rfl⟩ := step_target hstep
      have hsame : options.loops = operation :: rest := by
        rcases h.present hexhausted with hnil | hsame
        · rw [hnil] at hloops
          cases hloops
        · rw [← hsame, hloops]
      refine ⟨⟨?_, ?_, ?_, ?_, ?_⟩, ?_⟩
      · intro e he
        rcases List.mem_append.mp he with hold | hnew
        · exact h.operation e hold
        · rw [List.mem_singleton.mp hnew, hsame]
          rfl
      · exact fun _ => h.present hexhausted
      · simp [h.tasks]
      · have hgroup : p.group.step .startTask =
            some { p.group with tasks := p.group.tasks ++ [{}] } := rfl
        exact h.balanced.step hgroup
      · intro left hleft
        dsimp only at hleft
        rw [hleft] at hscanner
        have hports := (h.fixed _ (ProgramScanner.yield_eq_fixed hscanner)).1
        refine ⟨by simp [hports], fun hended => ?_⟩
        rw [hexhausted] at hended
        cases hended
      · rw [List.map_append]
        rfl
  | stopIteration =>
      obtain ⟨operation, rest, hloops, hends, rfl⟩ := step_stopIteration hstep
      refine ⟨⟨h.operation, nofun, h.tasks, h.balanced, fun left hleft => ?_⟩,
        (List.append_nil _).symm⟩
      obtain ⟨hports, hended⟩ := h.fixed left hleft
      refine ⟨hports, fun _ => ?_⟩
      rcases hends with hexhausted | hends
      · exact hended hexhausted
      · dsimp only at hleft
        rw [hleft] at hends
        exact List.isEmpty_iff.mp hends
  | raised =>
      obtain ⟨-, rfl⟩ := Machine.guarded hstep
      exact ⟨⟨h.operation, fun _ => .inl rfl, h.tasks, h.balanced, h.fixed⟩,
        (List.append_nil _).symm⟩
  | wake id wake =>
      obtain ⟨group, hgroup, rfl⟩ := Option.map_eq_some_iff.mp hstep
      exact ⟨⟨h.operation, h.present, (length_wake hgroup).trans h.tasks, h.balanced.step hgroup,
        h.fixed⟩, (List.append_nil _).symm⟩
  | event sender event =>
      cases hstep
      exact ⟨⟨h.operation, h.present, h.tasks, h.balanced, h.fixed⟩, (List.append_nil _).symm⟩

theorem targets_cons (move : ProgramMove) (moves : List ProgramMove) :
    targets (move :: moves) = targets [move] ++ targets moves := by
  cases move <;> rfl

theorem Accounted.run {moves : List ProgramMove} (h : Accounted options p)
    (hrun : machine.run p moves = some p') :
    Accounted options p' ∧ p'.started.map Prod.snd = p.started.map Prod.snd ++ targets moves := by
  induction moves generalizing p with
  | nil =>
      cases hrun
      exact ⟨h, (List.append_nil _).symm⟩
  | cons move moves ih =>
      obtain ⟨next, hstep, hrest⟩ := Machine.exists_of_run_cons hrun
      obtain ⟨hnext, hstarted⟩ := h.step hstep
      obtain ⟨hlast, hmore⟩ := ih hnext hrest
      refine ⟨hlast, ?_⟩
      rw [hmore, hstarted, targets_cons move moves, List.append_assoc]

theorem callers_le {maxConcurrency : Int} {g : UploaderTaskGroup}
    (h : g.Balanced maxConcurrency) (hpos : 0 < maxConcurrency) :
    (g.callers.length : Int) ≤ maxConcurrency := by
  have hsome := h.limited
  rw [decide_eq_true hpos, Option.isSome_iff_exists] at hsome
  obtain ⟨limiter, hlimiter⟩ := hsome
  have hheld : ∀ id ∈ g.callers, id ∈ limiter.holders := by
    intro id hcaller
    obtain ⟨task, htask, hpoint⟩ := UploaderTaskGroup.mem_callers.mp hcaller
    exact (h.holders limiter hlimiter id).mpr ⟨task, htask, .inl hpoint⟩
  have hle := Semaphore.length_le_capacity g.callers_nodup hheld
  have hcapacity := h.limiter limiter hlimiter
  omega

/-- Every target gets one task, with the operation of the first loop whatever else is asked for;
the tasks never run more functions than allowed, and a fixed list is told once, in order. -/
theorem started_run {moves : List ProgramMove} (hbegin : uploader options = .ok p)
    (hrun : machine.run p moves = some p') :
    (∀ operation, options.loops.head? = some operation →
        p'.started = (targets moves).map fun target => (operation, target)) ∧
      (options.loops = [] → targets moves = []) ∧
      p'.group.tasks.length = (targets moves).length ∧
      (0 < options.maxConcurrency → (p'.group.callers.length : Int) ≤ options.maxConcurrency) ∧
      (∀ rest, p'.scanner = .fixedTargetList rest →
        options.port.getD [] = targets moves ++ rest ∧ (p'.exhausted = true → rest = [])) := by
  have hnone : p.started = [] := uploader_started hbegin
  obtain ⟨h, htargets⟩ := (uploader_accounted hbegin).run hrun
  rw [hnone, List.map_nil, List.nil_append] at htargets
  have hlength : (targets moves).length = p'.started.length := by rw [← htargets, List.length_map]
  refine ⟨fun operation hfirst => ?_, fun hnil => ?_, h.tasks.trans hlength.symm,
    fun hpos => ?_, ?_⟩
  · rw [← htargets, List.map_map]
    refine (List.map_id _).symm.trans (List.map_congr_left fun e he => ?_)
    have hsame := h.operation e he
    rw [hfirst, Option.some.injEq] at hsame
    exact Prod.ext hsame.symm rfl
  · rw [← htargets]
    cases hstarted : p'.started with
    | nil => rfl
    | cons e rest =>
        have hfirst := h.operation e (by simp [hstarted])
        rw [hnil] at hfirst
        cases hfirst
  · have hle := callers_le h.balanced (by omega)
    omega
  · rw [← htargets]
    exact h.fixed

/-- With both maintenance operations asked for, only the bootloader is flashed. -/
theorem started_run_both :
    let options : Options :=
      { port := some ["COM3", "COM4"], flashBootloader := true, factoryReset := true }
    let moves : List ProgramMove :=
      [.target "COM3", .target "COM4", .stopIteration, .stopIteration]
    ∃ p p', uploader options = .ok p ∧ machine.run p moves = some p' ∧ p'.loops = [] ∧
      p'.started = (targets moves).map fun target => (.flashBootloader, target) := by
  intro options moves
  let p : Program :=
    { group := .new 0 3
      scanner := .fixedTargetList ["COM3", "COM4"]
      loops := [.flashBootloader, .factoryReset] }
  have hbegin : uploader options = .ok p := rfl
  have hrun : machine.run p moves = some _ := rfl
  exact ⟨_, _, hbegin, hrun, rfl, (started_run hbegin hrun).1 .flashBootloader rfl⟩

end Program

end ApUploader
