import ApUploader.Connection.Frame
import ApUploader.Connection.Pass
import ApUploader.Logic.Monitor

/-! # What a device has been asked and has reported

An inquiry is read off the trace of the command loop: the item a GET_DEVICE has
asked for, and the reports that came back as responses to such questions. A guard
over it allows the destructive commands only behind sufficient reports. A property
of the trace that the recording of permitted actions keeps is kept by every operation.
-/

namespace ApUploader

open Effect Protocol

variable {σ κ : Type}

/-- The commands that change the flash memory. -/
def OpCode.destructive : OpCode → Bool
  | .chipErase | .progMulti => true
  | _ => false

def Action.opcode? : Action → Option OpCode
  | .sent _ raw _ _ => raw.head?.bind OpCode.ofByte?
  | _ => none

/-- The item that the bytes of a GET_DEVICE ask for. -/
def queried : Bytes → Option DeviceInfoItem
  | code :: item :: _ =>
      if OpCode.ofByte? code = some .getDevice then DeviceInfoItem.ofByte? item else none
  | _ => none

abbrev Report : Type := DeviceInfoItem × Nat

structure Inquiry where
  /-- The item of the question that is open. -/
  asked : Option DeviceInfoItem := none
  reports : List Report := []

namespace Inquiry

def answered (inquiry : Inquiry) (r : Response) : List Report :=
  match inquiry.asked, r.type with
  | some item, .ok => [(item, LittleEndian.decode r.payload)]
  | _, _ => []

def next (inquiry : Inquiry) : Action → Inquiry
  | .sent _ raw _ .done => { inquiry with asked := queried raw }
  | .sent _ _ _ (.raised _) => { inquiry with asked := none }
  | .received (.ok _) => inquiry
  | .received (.error _) => { inquiry with asked := none }
  | .reported (.response r) => ⟨none, inquiry.reports ++ inquiry.answered r⟩
  | .reported _ => { inquiry with asked := none }
  | .direct _ _ => inquiry

/-- Destructive commands are handed over only behind reports that are `enough`. -/
def guard (enough : List Report → Prop) : Monitor Inquiry Action where
  next := next
  allowed inquiry a := ∀ code, a.opcode? = some code → code.destructive = true →
    enough inquiry.reports

/-- Reports are only ever added. -/
theorem next_reports (inquiry : Inquiry) (a : Action) :
    inquiry.reports <+: (inquiry.next a).reports := by
  unfold next
  split
  case h_5 => exact List.prefix_append _ _
  all_goals exact List.prefix_rfl

theorem reports_extended (enough : List Report → Prop) (inquiry : Inquiry) (trace : List Action) :
    inquiry.reports <+: ((guard enough).run inquiry trace).reports := by
  induction trace generalizing inquiry with
  | nil => exact List.prefix_rfl
  | cons a rest ih => exact (next_reports inquiry a).trans (ih (inquiry.next a))

/-- What all the reports of a trace have in common holds of the reports behind which it was
allowed to be destructive. -/
theorem accepts_strengthen {enough : List Report → Prop} {P : Report → Prop} {inquiry : Inquiry}
    {trace : List Action} (h : (guard enough).Accepts inquiry trace)
    (hP : ∀ report ∈ ((guard enough).run inquiry trace).reports, P report) :
    (guard fun reports => enough reports ∧ ∀ report ∈ reports, P report).Accepts inquiry trace := by
  induction trace generalizing inquiry with
  | nil => trivial
  | cons a rest ih =>
      obtain ⟨hallowed, hrest⟩ := h
      refine ⟨fun code hcode hdestructive => ⟨hallowed code hcode hdestructive, ?_⟩, ih hrest hP⟩
      intro report hmem
      exact hP report ((reports_extended enough inquiry (a :: rest)).subset hmem)

theorem accepts_mono {enough enough' : List Report → Prop}
    (himp : ∀ reports, enough reports → enough' reports) {inquiry : Inquiry} {trace : List Action}
    (h : (guard enough).Accepts inquiry trace) : (guard enough').Accepts inquiry trace := by
  induction trace generalizing inquiry with
  | nil => trivial
  | cons a rest ih =>
      obtain ⟨hallowed, hrest⟩ := h
      exact ⟨fun code hcode hdestructive => himp _ (hallowed code hcode hdestructive), ih hrest⟩

end Inquiry

def inquiry (trace : List Action) : Inquiry := trace.foldl Inquiry.next {}

@[simp] theorem inquiry_concat (trace : List Action) (a : Action) :
    inquiry (trace ++ [a]) = (inquiry trace).next a := by
  simp [inquiry]

/-! ## The bytes of a command -/

namespace Command

variable {c : Command} {raw : Bytes}

theorem opcode?_sent (h : c.toBytes = .ok raw) (which : Outgoing) (synced : Bool)
    (completion : Completion) :
    (Action.sent which raw synced completion).opcode? = some c.type := by
  obtain ⟨rest, rfl⟩ := toBytes_head h
  exact OpCode.ofByte?_toByte c.type

def item? (c : Command) : Option DeviceInfoItem := c.toBytes.toOption.bind queried

theorem queried_eq (h : c.toBytes = .ok raw) : queried raw = c.item? := by
  unfold item?
  rw [h]
  rfl

theorem item?_eq_none (h : c.type ≠ .getDevice) : c.item? = none := by
  unfold item?
  cases hraw : c.toBytes with
  | error error => rfl
  | ok raw =>
      obtain ⟨rest, rfl⟩ := toBytes_head hraw
      cases rest with
      | nil => rfl
      | cons item rest => simp [Except.toOption, queried, h]

@[simp] theorem getDeviceInfo_item? (item : DeviceInfoItem) :
    (getDeviceInfo item).item? = some item := by
  cases item <;> rfl

def report (c : Command) (payload : Bytes) : List Report :=
  c.item?.toList.map fun item => (item, LittleEndian.decode payload)

theorem report_eq_nil (h : c.type ≠ .getDevice) (payload : Bytes) : c.report payload = [] := by
  simp [report, item?_eq_none h]

end Command

/-! ## Properties of the trace -/

/-- The property stays when an action is recorded, a sent command being a permitted one. -/
def ClosedUnder (permitted : OpCode → Prop) (P : List Action → Prop) : Prop :=
  ∀ trace a, P trace → (∀ code, a.opcode? = some code → permitted code) → P (trace ++ [a])

/-- The protocol is well formed and the trace has the property. -/
structure Watching (P : List Action → Prop) (w : Link σ) : Prop where
  wellFormed : w.protocol.WellFormed
  history : P w.trace

section Watching

variable {permitted : OpCode → Prop} {P : List Action → Prop}

theorem ClosedUnder.sent (hP : ClosedUnder permitted P) {trace : List Action} {c : Command}
    {raw : Bytes} (h : P trace) (hc : permitted c.type) (hraw : c.toBytes = .ok raw)
    (which : Outgoing) (synced : Bool) (completion : Completion) :
    P (trace ++ [.sent which raw synced completion]) := by
  apply hP trace _ h
  intro code hcode
  rw [Command.opcode?_sent hraw] at hcode
  cases hcode
  exact hc

theorem ClosedUnder.quiet (hP : ClosedUnder permitted P) {trace : List Action} (h : P trace)
    {a : Action} (ha : a.opcode? = none) : P (trace ++ [a]) := by
  apply hP trace a h
  intro code hcode
  rw [ha] at hcode
  cases hcode

theorem ClosedUnder.fault (hP : ClosedUnder permitted P) {T : Transport σ} {call : Call}
    {l l' : Locals} {w w' : Link σ} {error : Exn} (hsync : permitted .getSync)
    (hcommand : permitted call.command.type) (h : P w.trace)
    (hfault : Fault T call l w l' error w') : P w'.trace := by
  cases hfault with
  | getSync => exact hP.sent h hsync Command.getSync_toBytes _ _ _
  | command _ _ _ raw hraw => exact hP.sent h hcommand hraw _ _ _
  | timeout | excess => exact hP.quiet h rfl

theorem ClosedUnder.failure (hP : ClosedUnder permitted P) {T : Transport σ} {call : Call}
    {l : Locals} {w w' : Link σ} {error : Exn} (hsync : permitted .getSync)
    (hcommand : permitted call.command.type) (h : P w.trace)
    (hfailure : Failure T call l w error w') : P w'.trace := by
  cases hfailure with
  | unencodable | invalidState => exact h
  | getSync => exact hP.sent h hsync Command.getSync_toBytes _ _ _
  | command _ _ _ raw hraw => exact hP.sent h hcommand hraw _ _ _
  | unfed | unreceived | response | closed => exact hP.quiet h rfl

theorem watching_pass (T : Transport σ) {call : Call} (hP : ClosedUnder permitted P)
    (hsync : permitted .getSync) (hcommand : permitted call.command.type) (l : Locals) :
    Preserves (Watching P) (pass T call l) := by
  intro w h
  have hw := h.wellFormed
  apply wp_pass hw
  case hasked =>
    intro _ _ s
    exact ⟨startWaitingForResponse_wellFormed _ 0,
      hP.sent h.history hsync Command.getSync_toBytes _ _ _⟩
  case hhanded =>
    intro _ _ _ raw hraw s
    exact ⟨startWaitingForResponse_wellFormed _ _, hP.sent h.history hcommand hraw _ _ _⟩
  case hfed =>
    intro _ data p s _ hfeed
    exact ⟨feed_wellFormed (settle_wellFormed hw) hfeed, hP.quiet h.history rfl⟩
  case hagreed =>
    exact fun r q hyields _ => ⟨(response_spec hyields).2.2, hP.quiet h.history rfl⟩
  case hreturned =>
    exact fun r q hyields _ _ => ⟨(response_spec hyields).2.2, hP.quiet h.history rfl⟩
  case hretried =>
    exact fun l' error w' hfault _ =>
      ⟨hfault.wellFormed, hP.fault hsync hcommand h.history hfault⟩
  case hexhausted =>
    exact fun l' error w' hfault _ =>
      ⟨hfault.wellFormed, hP.fault hsync hcommand h.history hfault⟩
  case hfailed =>
    exact fun error w' hfailure =>
      ⟨hfailure.wellFormed hw, hP.failure hsync hcommand h.history hfailure⟩
  case hnever => exact fun _ _ _ => ⟨settle_wellFormed hw, h.history⟩

/-- The operations keep a property of the trace that the permitted commands keep. -/
theorem framed_watching (R : Runtime σ) (hP : ClosedUnder permitted P)
    (hsync : permitted .getSync) :
    BootloaderConnection.Framed (κ := κ) R permitted (fun w => Watching P w.link) where
  transport _ _ h := ⟨h.wellFormed, h.history⟩
  locked _ _ h := h
  mode _ _ h := h
  direct _ _ _ h := ⟨h.wellFormed, hP.quiet h.history rfl⟩
  command fuel call hcall := by
    refine .zoom (J := Watching P) ?_ (fun _ h => h) (fun _ _ _ h => h)
    exact .loop (watching_pass R.toTransport hP hsync hcall) fuel _

end Watching

end ApUploader
