import ApUploader.Logic.Keyed
import ApUploader.Uploader.Grammar
import Mathlib.Data.List.AList
import Mathlib.Data.Rat.Floor

/-! # The console user interface

Every sender of events has a line in the progress display, which is added with its first
event and stays when the upload is tried again. Log events go to the console above the
lines.
-/

namespace ApUploader

/-- What the interface is told: an event of an upload, or a message for the log. -/
inductive UiEvent where
  | uploader (event : UploaderEvent)
  | log (level : Int) (message : String)
  deriving DecidableEq

structure ProgressTask where
  source : String
  description : String
  completed : Int := 0
  started : Bool := false
  stopped : Bool := false
  deriving Repr, DecidableEq

structure RichConsoleUI where
  tasks : List ProgressTask := []
  eventSourceToTaskId : AList fun _ : String => Nat := ∅
  /-- The lines that were printed. -/
  console : List String := []

/-! ## Texts and numbers -/

def ljust (text : String) (width : Nat) : String :=
  text ++ String.ofList (List.replicate (width - text.length) ' ')

/-- The format `04x`. -/
def hex4 (n : Nat) : String :=
  let digits := Nat.toDigits 16 n
  String.ofList (List.replicate (4 - digits.length) '0' ++ digits)

/-- `round()`: to the nearest integer, and to the even one of two. -/
def round (q : ℚ) : Int :=
  let below := ⌊q⌋
  let rest := q - below
  if rest < 1 / 2 ∨ (rest = 1 / 2 ∧ below % 2 = 0) then below else below + 1

def UploadStep.description : UploadStep → String
  | .connecting => "Connecting..."
  | .erasing => "Erasing..."
  | .uploading => "Uploading..."
  | .verifying => "Verifying..."
  | .rebooting => "Rebooting..."
  | .finished => "Finished."

/-- The description of a task that has finished; what is not said counts as false. -/
def finishedDescription (success cancelled retrying : Option Bool) : String :=
  if success = some true then "[green bold]Finished.    [/green bold]"
  else if cancelled = some true then "[yellow bold]Cancelled    [/yellow bold]"
  else if retrying = some true then "[yellow bold]Waiting...   [/yellow bold]"
  else "[red bold]Failed :(    [/red bold]"

namespace RichConsoleUI

/-- `add_task`. -/
def newTask (source : String) : ProgressTask where
  source := source
  description := "Starting..."

/-- The task of a source, which is added when there is none. -/
def getTaskId (ui : RichConsoleUI) (source : String) : Nat × RichConsoleUI :=
  match ui.eventSourceToTaskId.lookup source with
  | some taskId => (taskId, ui)
  | none =>
      (ui.tasks.length, { ui with
        tasks := ui.tasks ++ [newTask source]
        eventSourceToTaskId := ui.eventSourceToTaskId.insert source ui.tasks.length })

def change (ui : RichConsoleUI) (source : String) (f : ProgressTask → ProgressTask) :
    RichConsoleUI :=
  let (taskId, ui) := ui.getTaskId source
  { ui with tasks := ui.tasks.modify taskId f }

/-- The levels are those of the `logging` module. -/
def log (ui : RichConsoleUI) (message sender : String) (level : Int) : RichConsoleUI :=
  let sign :=
    if 40 ≤ level then "[red bold]X[/red bold]"
    else if 30 ≤ level then "[yellow bold]![/yellow bold]"
    else "[green bold]>[/green bold]"
  let line :=
    if sender = "" then s!"{sign} {message}"
    else s!"{sign} [bold white]{ljust sender 15}[/bold white] {message}"
  { ui with console := ui.console ++ [line] }

def handleEvent (ui : RichConsoleUI) (sender : String) : UiEvent → RichConsoleUI
  | .uploader (.progress progress) =>
      ui.change sender fun task => { task with completed := round (progress * 100) }
  | .uploader (.step step) =>
      ui.change sender fun task =>
        { task with
          started := task.started || step = .uploading
          description := ljust step.description 13 }
  | .uploader (.lifecycle type success cancelled retrying) =>
      ui.change sender fun task =>
        if type = .finished then
          { task with
            description := finishedDescription success cancelled retrying
            stopped := true }
        else task
  | .uploader (.crcMismatch expected observed) =>
      ui.log s!"CRC mismatch, expected 0x{hex4 expected}, got 0x{hex4 observed}" sender 40
  | .log level message => ui.log message sender level

/-- The events of all senders, in the order in which they come. -/
def handleEvents (events : List (String × UiEvent)) : RichConsoleUI :=
  events.foldl (fun ui e => ui.handleEvent e.1 e.2) {}

def line (ui : RichConsoleUI) (sender : String) : Option ProgressTask := do
  let taskId ← ui.eventSourceToTaskId.lookup sender
  ui.tasks[taskId]?

/-! ## What the lines show -/

/-- What an event does to the task of its sender, unless it is for the log. -/
def taskChange : UiEvent → Option (ProgressTask → ProgressTask)
  | .uploader (.progress progress) =>
      some fun task => { task with completed := round (progress * 100) }
  | .uploader (.step step) =>
      some fun task =>
        { task with
          started := task.started || step = .uploading
          description := ljust step.description 13 }
  | .uploader (.lifecycle type success cancelled retrying) =>
      some fun task =>
        if type = .finished then
          { task with
            description := finishedDescription success cancelled retrying
            stopped := true }
        else task
  | .uploader (.crcMismatch _ _) | .log _ _ => none

/-- The line of a sender behind one of its events. -/
def shown (sender : String) (event : UiEvent) (line : Option ProgressTask) : Option ProgressTask :=
  match taskChange event with
  | some f => some (f (line.getD (newTask sender)))
  | none => line

/-- Sources and tasks correspond. -/
structure Tidy (ui : RichConsoleUI) : Prop where
  listed : ∀ sender taskId, ui.eventSourceToTaskId.lookup sender = some taskId →
    (ui.tasks.map ProgressTask.source)[taskId]? = some sender
  known : ∀ taskId sender, (ui.tasks.map ProgressTask.source)[taskId]? = some sender →
    ui.eventSourceToTaskId.lookup sender = some taskId

variable {ui : RichConsoleUI} {sender : String}

theorem tidy_new : ({} : RichConsoleUI).Tidy where
  listed := nofun
  known := nofun

theorem Tidy.add (h : ui.Tidy) {sender : String}
    (hlookup : ui.eventSourceToTaskId.lookup sender = none) :
    ({ ui with
      tasks := ui.tasks ++ [newTask sender]
      eventSourceToTaskId := ui.eventSourceToTaskId.insert sender ui.tasks.length } :
      RichConsoleUI).Tidy := by
  have hlength : (ui.tasks.map ProgressTask.source).length = ui.tasks.length := List.length_map _
  refine ⟨?_, ?_⟩
  · intro other taskId hother
    rw [List.map_append]
    by_cases hsame : other = sender
    · subst hsame
      rw [AList.lookup_insert, Option.some.injEq] at hother
      subst hother
      rw [← hlength]
      simp [newTask]
    · rw [AList.lookup_insert_ne hsame] at hother
      have hold := h.listed other taskId hother
      rw [List.getElem?_append_left (List.getElem?_eq_some_iff.mp hold).1]
      exact hold
  · intro taskId other hother
    rw [List.map_append] at hother
    by_cases hnew : taskId < (ui.tasks.map ProgressTask.source).length
    · rw [List.getElem?_append_left hnew] at hother
      have hold := h.known taskId other hother
      have hne : other ≠ sender := by
        rintro rfl
        rw [hlookup] at hold
        cases hold
      rw [AList.lookup_insert_ne hne]
      exact hold
    · rw [List.getElem?_append_right (by omega)] at hother
      have hlast : taskId = ui.tasks.length ∧ other = sender := by
        cases hrest : taskId - (ui.tasks.map ProgressTask.source).length with
        | zero =>
            rw [hrest] at hother
            simp only [List.map_cons, List.map_nil, List.getElem?_cons_zero,
              Option.some.injEq] at hother
            exact ⟨by omega, hother.symm⟩
        | succ n =>
            rw [hrest] at hother
            cases hother
      rw [hlast.1, hlast.2]
      exact AList.lookup_insert _

theorem Tidy.getTaskId (h : ui.Tidy) (sender : String) :
    (ui.getTaskId sender).2.Tidy ∧
      (ui.getTaskId sender).2.eventSourceToTaskId.lookup sender = some (ui.getTaskId sender).1 ∧
      (ui.getTaskId sender).2.line sender = some ((ui.line sender).getD (newTask sender)) ∧
      ∀ other, other ≠ sender → (ui.getTaskId sender).2.line other = ui.line other := by
  unfold RichConsoleUI.getTaskId
  split
  · next taskId hlookup =>
      have hlisted := h.listed sender taskId hlookup
      rw [List.getElem?_map, Option.map_eq_some_iff] at hlisted
      obtain ⟨task, htask, -⟩ := hlisted
      refine ⟨h, hlookup, ?_, fun _ _ => rfl⟩
      simp [line, hlookup, htask]
  · next hlookup =>
      have hlength : (ui.tasks.map ProgressTask.source).length = ui.tasks.length :=
        List.length_map _
      refine ⟨h.add hlookup, AList.lookup_insert _, ?_, ?_⟩
      · simp [line, hlookup]
      · intro other hother
        simp only [line, AList.lookup_insert_ne hother]
        cases hold : ui.eventSourceToTaskId.lookup other with
        | none => rfl
        | some taskId =>
            have hlisted := h.listed other taskId hold
            have hlt := (List.getElem?_eq_some_iff.mp hlisted).1
            exact List.getElem?_append_left (by omega)

theorem map_source_modify {f : ProgressTask → ProgressTask}
    (hf : ∀ task, (f task).source = task.source) (tasks : List ProgressTask) (taskId : Nat) :
    (tasks.modify taskId f).map ProgressTask.source = tasks.map ProgressTask.source := by
  apply List.ext_getElem?
  intro i
  rw [List.getElem?_map, List.getElem?_map, List.getElem?_modify]
  split <;> cases tasks[i]? <;> simp [hf]

theorem Tidy.change (h : ui.Tidy) (sender : String) {f : ProgressTask → ProgressTask}
    (hf : ∀ task, (f task).source = task.source) :
    (ui.change sender f).Tidy ∧
      (ui.change sender f).line sender = some (f ((ui.line sender).getD (newTask sender))) ∧
      ∀ other, other ≠ sender → (ui.change sender f).line other = ui.line other := by
  obtain ⟨htidy, hlookup, hline, hothers⟩ := h.getTaskId sender
  unfold RichConsoleUI.change
  generalize ui.getTaskId sender = r at *
  obtain ⟨taskId, next⟩ := r
  dsimp only at *
  have hsources := map_source_modify hf next.tasks taskId
  refine ⟨⟨?_, ?_⟩, ?_, ?_⟩
  · rw [hsources]
    exact htidy.listed
  · rw [hsources]
    exact htidy.known
  · simp only [line, hlookup, Option.bind_eq_bind, Option.bind_some] at hline ⊢
    simp [hline]
  · intro other hother
    rw [← hothers other hother]
    simp only [line]
    cases hold : next.eventSourceToTaskId.lookup other with
    | none => rfl
    | some otherId =>
        have hne : taskId ≠ otherId := by
          rintro rfl
          have hsame := (htidy.listed other taskId hold).symm.trans
            (htidy.listed sender taskId hlookup)
          exact hother (Option.some.inj hsame)
        simp only [Option.bind_eq_bind, Option.bind_some]
        simp [hne]

/-- A source is added behind the others when it has no task. -/
theorem Tidy.getTaskId_sources (h : ui.Tidy) (sender : String) :
    (ui.getTaskId sender).2.tasks.map ProgressTask.source =
      ui.tasks.map ProgressTask.source ++
        if sender ∈ ui.tasks.map ProgressTask.source then [] else [sender] := by
  unfold RichConsoleUI.getTaskId
  split
  · next taskId hlookup =>
      have hmem := List.mem_of_getElem? (h.listed sender taskId hlookup)
      rw [if_pos hmem, List.append_nil]
  · next hlookup =>
      have hnot : sender ∉ ui.tasks.map ProgressTask.source := by
        intro hmem
        obtain ⟨taskId, htask⟩ := List.mem_iff_getElem?.mp hmem
        rw [h.known taskId sender htask] at hlookup
        cases hlookup
      rw [if_neg hnot, List.map_append]
      rfl

theorem Tidy.change_sources (h : ui.Tidy) (sender : String) {f : ProgressTask → ProgressTask}
    (hf : ∀ task, (f task).source = task.source) :
    (ui.change sender f).tasks.map ProgressTask.source =
      ui.tasks.map ProgressTask.source ++
        if sender ∈ ui.tasks.map ProgressTask.source then [] else [sender] :=
  (map_source_modify hf _ _).trans (h.getTaskId_sources sender)

/-! ## All events -/

theorem taskChange_source {event : UiEvent} {f : ProgressTask → ProgressTask}
    (h : taskChange event = some f) (task : ProgressTask) : (f task).source = task.source := by
  cases event with
  | log level message => cases h
  | uploader event =>
      cases event with
      | crcMismatch expected observed => cases h
      | progress progress =>
          cases h
          rfl
      | step step =>
          cases h
          rfl
      | lifecycle type success cancelled retrying =>
          cases h
          dsimp only
          split <;> rfl

/-- An event changes the task of its sender, or is printed. -/
theorem handleEvent_cases (ui : RichConsoleUI) (sender : String) (event : UiEvent) :
    (∃ f, taskChange event = some f ∧ ui.handleEvent sender event = ui.change sender f) ∨
      (taskChange event = none ∧
        ∃ text, ui.handleEvent sender event = { ui with console := ui.console ++ [text] }) := by
  cases event with
  | log level message => exact .inr ⟨rfl, _, rfl⟩
  | uploader event =>
      cases event with
      | crcMismatch expected observed => exact .inr ⟨rfl, _, rfl⟩
      | progress progress => exact .inl ⟨_, rfl, rfl⟩
      | step step => exact .inl ⟨_, rfl, rfl⟩
      | lifecycle type success cancelled retrying => exact .inl ⟨_, rfl, rfl⟩

theorem independent : Keyed.Independent
    (fun (ui : RichConsoleUI) (e : String × UiEvent) => ui.handleEvent e.1 e.2)
    line shown Tidy where
  keeps ui e h := by
    rcases ui.handleEvent_cases e.1 e.2 with ⟨f, hf, hchange⟩ | ⟨_, printed, hprinted⟩
    · rw [hchange]
      exact (h.change e.1 (taskChange_source hf)).1
    · rw [hprinted]
      exact ⟨h.listed, h.known⟩
  same ui sender event h := by
    rcases ui.handleEvent_cases sender event with ⟨f, hf, hchange⟩ | ⟨hnone, printed, hprinted⟩
    · dsimp only
      rw [hchange, (h.change sender (taskChange_source hf)).2.1, shown, hf]
    · dsimp only
      rw [hprinted, shown, hnone]
      rfl
  other ui sender event other h hother := by
    rcases ui.handleEvent_cases sender event with ⟨f, hf, hchange⟩ | ⟨_, printed, hprinted⟩
    · dsimp only
      rw [hchange, (h.change sender (taskChange_source hf)).2.2 other hother]
    · dsimp only
      rw [hprinted]
      rfl

theorem tidy_handleEvents (events : List (String × UiEvent)) : (handleEvents events).Tidy :=
  independent.foldl_keeps tidy_new events

/-- What the line of a sender shows depends on the events of this sender alone. -/
theorem line_handleEvents (events : List (String × UiEvent)) (sender : String) :
    (handleEvents events).line sender =
      (handleEvents (events.filter fun e => e.1 = sender)).line sender :=
  independent.cell_foldl_filter tidy_new events sender

theorem eraseDups_concat (xs : List String) (x : String) :
    (xs ++ [x]).eraseDups = xs.eraseDups ++ if x ∈ xs.eraseDups then [] else [x] := by
  rw [List.eraseDups_append]
  by_cases hmem : x ∈ xs <;> simp [List.removeAll, List.eraseDups_cons, hmem]

/-- Every sender has one line, and the lines stand in the order of their first events. -/
theorem sources_handleEvents (events : List (String × UiEvent)) :
    (handleEvents events).tasks.map ProgressTask.source =
      ((events.filter fun e => (taskChange e.2).isSome).map Prod.fst).eraseDups := by
  induction events using List.reverseRecOn with
  | nil => rfl
  | append_singleton events e ih =>
      have hlast : handleEvents (events ++ [e]) = (handleEvents events).handleEvent e.1 e.2 := by
        rw [handleEvents, List.foldl_append]
        rfl
      rw [hlast, List.filter_append, List.map_append]
      rcases (handleEvents events).handleEvent_cases e.1 e.2 with
        ⟨f, hf, hchange⟩ | ⟨hnone, printed, hprinted⟩
      · rw [hchange, (tidy_handleEvents events).change_sources e.1 (taskChange_source hf), ih]
        simp [hf, eraseDups_concat]
      · rw [hprinted]
        simp [hnone, ih]

/-- A line that has come to the end of an upload. -/
structure Ended (trace : List UploaderEvent) (task : ProgressTask) : Prop where
  stopped : task.stopped = true
  description : task.description = finishedDescription (some true) none none ↔
    .step .finished ∈ trace

/-- Events for the log leave a line as it is. -/
theorem foldl_shown_log (sender : String) {later : List UiEvent}
    (hlater : ∀ event ∈ later, taskChange event = none) (line : Option ProgressTask) :
    later.foldl (fun line event => shown sender event line) line = line := by
  induction later with
  | nil => rfl
  | cons event later ih =>
      have hevent : shown sender event line = line := by
        rw [shown, hlater event List.mem_cons_self]
      rw [List.foldl_cons, hevent]
      exact ih fun event hmem => hlater event (List.mem_cons_of_mem _ hmem)

theorem finishedDescription_eq_iff (success cancelled retrying : Bool) :
    finishedDescription (some success) (some cancelled) (some retrying) =
      finishedDescription (some true) none none ↔ success = true := by
  cases success <;> cases cancelled <;> cases retrying <;> decide

/-- The line of a sender behind an upload, whatever the events of the others: it says whether the
upload has gone through all its steps. -/
theorem line_after_upload {events : List (String × UiEvent)} {sender : String}
    {earlier later : List UiEvent} {trace : List UploaderEvent}
    (hevents : Keyed.ofKey sender events = earlier ++ trace.map .uploader ++ later)
    (htrace : FollowsGrammar trace) (hlater : ∀ event ∈ later, taskChange event = none) :
    ∃ task, (handleEvents events).line sender = some task ∧ Ended trace task := by
  obtain ⟨body, timeouts, success, cancelled, retrying, rfl, _, htimeouts, hsuccess⟩ := htrace
  have hline := independent.cell_foldl tidy_new events sender
  rw [hevents, List.foldl_append, foldl_shown_log sender hlater, List.map_append, List.foldl_append,
    List.foldl_append] at hline
  refine ⟨_, hline, rfl, ?_⟩
  refine (finishedDescription_eq_iff success cancelled retrying).trans (hsuccess.trans ?_)
  rcases htimeouts with rfl | rfl <;> simp

def timeoutTrace : List UploaderEvent :=
  [.lifecycle .started none none none, .step .connecting, .lifecycle .timeout none none none,
    .lifecycle .finished (some false) (some false) (some false)]

/-- An upload that times out while another one begins, and the message of its task. -/
def timedOut : List (String × UiEvent) :=
  [("10.0.0.1", .uploader (.lifecycle .started none none none)),
    ("10.0.0.2", .uploader (.lifecycle .started none none none)),
    ("10.0.0.1", .uploader (.step .connecting)),
    ("10.0.0.1", .uploader (.lifecycle .timeout none none none)),
    ("10.0.0.2", .uploader (.step .connecting)),
    ("10.0.0.1", .uploader (.lifecycle .finished (some false) (some false) (some false))),
    ("10.0.0.1", .log 40 "timeout")]

theorem line_after_upload_timed_out :
    ∃ task, (handleEvents timedOut).line "10.0.0.1" = some task ∧ Ended timeoutTrace task := by
  have hevents : Keyed.ofKey "10.0.0.1" timedOut =
      [] ++ timeoutTrace.map .uploader ++ [.log 40 "timeout"] := by
    decide
  refine line_after_upload hevents ?_ (by simp [taskChange])
  refine ⟨[], [.lifecycle .timeout none none none], false, false, false, rfl, ?_, .inr rfl, by simp⟩
  exact unfinishedSteps_nil.reported

end RichConsoleUI

end ApUploader
