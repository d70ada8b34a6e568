import ApUploader.Logic.Machine
import ApUploader.Uploader.Target
import Mathlib.Logic.Function.Basic

/-! # The scanner for serial ports

The scanner lists the serial ports again and again, inspects those that are new and
yields those whose inspection was successful. Inspections run in tasks of their own
and write their results into the table of the ports. A scan is suspended where it
yields, so its pieces and the ends of the inspections are the moves.
-/

namespace ApUploader

inductive SerialPortState where
  | toYield | yielded | ignored | inspecting | new
  deriving DecidableEq, Repr

structure ListPortInfo where
  name : String
  device : String
  deriving DecidableEq, Repr

structure Inspection where
  name : String
  running : Bool := true
  /-- A scan has not found the port any more since the task was started. -/
  outdated : Bool := false
  deriving DecidableEq, Repr

/-- A scan suspended at a `yield`: the names so far and the ports that are left. -/
structure SuspendedScan where
  names : List String
  rest : List ListPortInfo
  deriving DecidableEq, Repr

inductive ScanEvent where
  | scanned (names : List String)
  | started (id : Nat) (name : String)
  | finished (id : Nat) (result : Bool)
  | yielded (name : String) (target : UploadTarget)
  deriving DecidableEq, Repr

structure SerialPortScanner where
  seenPorts : String → Option SerialPortState := fun _ => none
  inspections : List Inspection := []
  suspended : Option SuspendedScan := none
  events : List ScanEvent := []

inductive ScanMove where
  /-- `comports()` returns the ports. -/
  | scan (ports : List ListPortInfo)
  /-- The next target is asked for. -/
  | resume
  /-- `when_done` is called. -/
  | finish (id : Nat) (result : Bool)
  deriving DecidableEq, Repr

namespace SerialPortScanner

def setPort (s : SerialPortScanner) (name : String) (state : SerialPortState) :
    SerialPortScanner :=
  { s with seenPorts := Function.update s.seenPorts name (some state) }

def record (s : SerialPortScanner) (event : ScanEvent) : SerialPortScanner :=
  { s with events := s.events ++ [event] }

/-- `tg.start_soon(self._inspect_port, ...)`. -/
def startSoon (s : SerialPortScanner) (name : String) : SerialPortScanner :=
  ({ s with inspections := s.inspections ++ [{ name := name }] } : SerialPortScanner).record
    (.started s.inspections.length name)

def removeUnseen (s : SerialPortScanner) (names : List String) : SerialPortScanner :=
  { s with
    seenPorts := fun name => if name ∈ names then s.seenPorts name else none
    inspections := s.inspections.map fun inspection =>
      if inspection.name ∈ names then inspection else { inspection with outdated := true } }

/-- The loop over the ports, up to the next `yield` or to the end of the scan. -/
def visitPorts (s : SerialPortScanner) (names : List String) :
    List ListPortInfo → SerialPortScanner
  | [] => s.removeUnseen names
  | port :: rest =>
      let names := names ++ [port.name]
      match (s.seenPorts port.name).getD .new with
      | .toYield =>
          { (s.setPort port.name .yielded).record (.yielded port.name port.device) with
            suspended := some ⟨names, rest⟩ }
      | .yielded => visitPorts s names rest
      | .ignored => visitPorts s names rest
      | .inspecting => visitPorts s names rest
      | .new => visitPorts ((s.setPort port.name .inspecting).startSoon port.name) names rest

def whenDone (s : SerialPortScanner) (name : String) (result : Bool) : SerialPortScanner :=
  if result then s.setPort name .toYield else s.setPort name .ignored

def step (s : SerialPortScanner) : ScanMove → Option SerialPortScanner
  | .scan ports =>
      match s.suspended with
      | some _ => none
      | none => some ((s.record (.scanned (ports.map ListPortInfo.name))).visitPorts [] ports)
  | .resume =>
      match s.suspended with
      | some scan => some ({ s with suspended := none }.visitPorts scan.names scan.rest)
      | none => none
  | .finish id result =>
      match s.inspections[id]? with
      | some inspection =>
          if inspection.running = true then
            some (({ s with
              inspections := s.inspections.set id { inspection with running := false }
            }.whenDone inspection.name result).record (.finished id result))
          else none
      | none => none

def machine : Machine SerialPortScanner ScanMove := ⟨step⟩

/-! ## What is asked of a run -/

/-- A scan did not find the port, and behind it an inspection of the port was started and
successful. -/
def Renewed (name : String) (between : List ScanEvent) : Prop :=
  ∃ front names middle id stretch back, name ∉ names ∧
    between = front ++ .scanned names ::
      (middle ++ .started id name :: (stretch ++ .finished id true :: back))

/-- The latest inspection of the port has found nothing, and no scan has missed the port since it
was started. -/
def Rejected (name : String) (events : List ScanEvent) : Prop :=
  ∃ front id middle back,
    events = front ++ .started id name :: (middle ++ .finished id false :: back) ∧
    (∀ other, .started other name ∉ middle ++ back) ∧
    ∀ names, .scanned names ∈ middle ++ back → name ∈ names

/-- The port is offered at most once per appearance, and not when it was rejected. -/
structure OncePerAppearance (name : String) (events : List ScanEvent) : Prop where
  renewed : ∀ front target between target' back,
    events = front ++ .yielded name target :: (between ++ .yielded name target' :: back) →
      Renewed name between
  accepted : ∀ front target back, events = front ++ .yielded name target :: back →
    ¬ Rejected name front

def InTime (s : SerialPortScanner) : ScanMove → Prop
  | .finish id _ => ∀ inspection, s.inspections[id]? = some inspection →
      inspection.outdated = false
  | _ => True

instance (s : SerialPortScanner) : ∀ move, Decidable (s.InTime move)
  | .finish id _ =>
      match hid : s.inspections[id]? with
      | none => .isTrue fun _ hinspection => by cases hid.symm.trans hinspection
      | some inspection =>
          decidable_of_iff (inspection.outdated = false) (by simp [InTime, hid])
  | .scan _ => .isTrue trivial
  | .resume => .isTrue trivial

end SerialPortScanner

end ApUploader
