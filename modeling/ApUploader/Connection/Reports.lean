import ApUploader.Connection.Inquiry
import ApUploader.Connection.ReplyLength

/-! # The reports a call adds

A call of the command loop that returns has handed its command over and adds to the
reports exactly the returned payload, under the item it has asked for. Between two
calls no question is open, so the operations account for every report.
-/

namespace ApUploader

open Effect Protocol

variable {σ κ α : Type}

/-! ## The reports of a call -/

/-- Between two calls no question is open. -/
structure Settled (reports : List Report) (w : Link σ) : Prop where
  wellFormed : w.protocol.WellFormed
  asked : (inquiry w.trace).asked = none
  reports : (inquiry w.trace).reports = reports

/-- The command has been handed over, behind these reports. -/
def HandedOver (c : Command) (reports : List Report) (trace : List Action) : Prop :=
  ∃ front which raw synced back, c.toBytes = .ok raw ∧
    trace = front ++ .sent which raw synced .done :: back ∧ (inquiry front).reports = reports

theorem HandedOver.concat {c : Command} {reports : List Report} {trace : List Action}
    (h : HandedOver c reports trace) (a : Action) : HandedOver c reports (trace ++ [a]) := by
  obtain ⟨front, which, raw, synced, back, hraw, rfl, hreports⟩ := h
  exact ⟨front, which, raw, synced, back ++ [a], hraw, by simp, hreports⟩

/-- A destructive command behind reports that are not enough is one the guard refuses. -/
theorem HandedOver.not_accepts {c : Command} {reports : List Report} {trace : List Action}
    (h : HandedOver c reports trace) (hc : c.type.destructive = true)
    {enough : List Report → Prop} (hreports : ¬ enough reports) :
    ¬ (Inquiry.guard enough).Accepts {} trace := by
  obtain ⟨front, which, raw, synced, back, hraw, rfl, rfl⟩ := h
  intro haccepts
  have hallowed : (Inquiry.guard enough).allowed (inquiry front) (.sent which raw synced .done) :=
    haccepts.allowed_at
  exact hreports (hallowed _ (Command.opcode?_sent hraw _ _ _) hc)

/-- What holds at the head of the loop: the question that is open is the command's own. -/
structure Asking (call : Call) (known : List Report) (l : Locals) (w : Link σ) : Prop where
  wellFormed : w.protocol.WellFormed
  reports : (inquiry w.trace).reports = known
  idle : l.sent = false → (inquiry w.trace).asked = none
  outstanding : l.sent = true → w.protocol.Waiting →
    (inquiry w.trace).asked = call.command.item?
  handed : l.sent = true → HandedOver call.command known w.trace

/-- The errors behind which `ensureInBootloader` goes on. -/
def Exn.isInterruption (error : Exn) : Prop := error = .timeoutError ∨ error = .excessDataError

def answersCall (call : Call) (known : List Report) : Post Exn (Link σ) Bytes where
  ok payload w := Settled (known ++ call.command.report payload) w ∧
    HandedOver call.command known w.trace
  raised error w := error.isInterruption → Settled known w
  running _ := True

theorem not_interruption_runtimeError (message : String) :
    ¬ (Exn.runtimeError message).isInterruption := by simp [Exn.isInterruption]

namespace Asking

variable {T : Transport σ} {call : Call} {known : List Report} {l l' : Locals} {w w' : Link σ}
  {error : Exn}

/-- A fault leaves no question open. -/
theorem fault (h : Asking call known l w) (hfault : Fault T call l w l' error w') :
    Settled known w' := by
  refine ⟨hfault.wellFormed, ?_, ?_⟩
  · cases hfault <;> simp [Link.afterSend, Link.afterReceive, Link.afterEvent, Inquiry.next]
  · cases hfault <;>
      simpa [Link.afterSend, Link.afterReceive, Link.afterEvent, Inquiry.next] using h.reports

theorem retried (h : Asking call known l w) (hfault : Fault T call l w l' error w') :
    Asking call known { l' with retriesLeft := l'.retriesLeft - 1 } w' := by
  have hsettled := h.fault hfault
  obtain ⟨a, htrace⟩ := hfault.trace
  refine ⟨hfault.wellFormed, hsettled.reports, fun _ => hsettled.asked,
    fun _ hwait => (hfault.not_waiting hwait).elim, fun hsent => ?_⟩
  rw [htrace]
  exact (h.handed (hfault.sent hsent)).concat a

theorem failed (h : Asking call known l w) (hfailure : Failure T call l w error w')
    (hinterruption : error.isInterruption) : Settled known w' := by
  have hwf := hfailure.wellFormed h.wellFormed
  cases hfailure with
  | unencodable _ hsent => exact ⟨hwf, h.idle hsent, h.reports⟩
  | invalidState => exact (not_interruption_runtimeError _ hinterruption).elim
  | getSync | command | unreceived =>
      exact ⟨hwf, by simp [Link.afterSend, Link.afterReceive, Inquiry.next],
        by simpa [Link.afterSend, Link.afterReceive, Inquiry.next] using h.reports⟩
  | unfed _ data _ hfeed =>
      cases feed_eq_error hfeed
      exact (not_interruption_runtimeError _ hinterruption).elim
  | response r q _ _ herror =>
      obtain ⟨message, rfl⟩ := Response.getPayload_eq_error herror
      exact (not_interruption_runtimeError _ hinterruption).elim
  | closed => exact (not_interruption_runtimeError _ hinterruption).elim

theorem returned (h : Asking call known l w) {r : Response} {q : Protocol}
    (hyields : w.protocol.Yields (some (.response r)) q) (htype : r.type = .ok)
    (hsent : l.sent = true) :
    Settled (known ++ call.command.report r.payload)
      { w.afterEvent (.response r) with protocol := q } := by
  obtain ⟨hwait, _, hwf⟩ := response_spec hyields
  have hasked := h.outstanding hsent hwait
  refine ⟨hwf, by simp [Link.afterEvent, Inquiry.next], ?_⟩
  simp only [Link.afterEvent, inquiry_concat, Inquiry.next, h.reports, Inquiry.answered, hasked,
    htype, Command.report]
  cases call.command.item? <;> rfl

end Asking

theorem asking_pass (T : Transport σ) {call : Call} {known : List Report} {l : Locals}
    {w : Link σ} (h : Asking call known l w) :
    wp (pass T call l) (roundPost (Asking call known) (answersCall call known)) w := by
  have hw := h.wellFormed
  apply wp_pass hw
  case hasked =>
    intro _ _ s
    refine ⟨startWaitingForResponse_wellFormed _ 0, ?_, fun _ => ?_, by simp, by simp⟩
    · simpa [Link.afterSend, Inquiry.next] using h.reports
    · simp only [Link.afterSend, inquiry_concat]
      rfl
  case hhanded =>
    intro _ _ hsent raw hraw s
    refine ⟨startWaitingForResponse_wellFormed _ _, ?_, by simp, fun _ _ => ?_, fun _ => ?_⟩
    · simpa [Link.afterSend, Inquiry.next] using h.reports
    · simpa [Link.afterSend, Inquiry.next] using Command.queried_eq hraw
    · exact ⟨w.trace, .command, raw, w.protocol.inSync, [], hraw, rfl, h.reports⟩
  case hfed =>
    intro hstarved data p s _ hfeed
    have hwait := waiting_of_starved hstarved
    refine ⟨feed_wellFormed (settle_wellFormed hw) hfeed, ?_, fun hsent => ?_,
      fun hsent _ => ?_, fun hsent => (h.handed hsent).concat _⟩
    · simpa [Link.afterReceive, Inquiry.next] using h.reports
    · simpa [Link.afterReceive, Inquiry.next] using h.idle hsent
    · simpa [Link.afterReceive, Inquiry.next] using h.outstanding hsent hwait
  case hagreed =>
    intro r q hyields hsent
    refine ⟨(response_spec hyields).2.2, ?_, by simp [Link.afterEvent, Inquiry.next],
      by simp [hsent], by simp [hsent]⟩
    simp [Link.afterEvent, Inquiry.next, h.reports, Inquiry.answered, h.idle hsent]
  case hreturned =>
    intro r q hyields htype hsent
    exact ⟨h.returned hyields htype hsent, (h.handed hsent).concat _⟩
  case hretried => exact fun l' error w' hfault _ => h.retried hfault
  case hexhausted => exact fun l' error w' hfault _ _ => h.fault hfault
  case hfailed => exact fun error w' hfailure => h.failed hfailure
  case hnever => exact fun _ _ _ => trivial

theorem wp_answersCall (T : Transport σ) (call : Call) (fuel : Nat) {known : List Report}
    {w : Link σ} (h : Settled known w) :
    wp (processCommandInner T call fuel) (answersCall call known) w := by
  apply wp_loop_invariant (Asking call known) (fun _ _ _ => trivial)
    (fun _ _ h => asking_pass T h)
  exact ⟨h.wellFormed, h.reports, fun _ => h.asked, by simp [Call.locals], by simp [Call.locals]⟩

/-! ## The reports of the operations -/

namespace BootloaderConnection

variable {R : Runtime σ} {fuel : Nat} {known : List Report} {w : BootloaderConnection σ κ}

theorem wp_inner_settled (call : Call) (h : Settled known w.link) :
    wp (inner R fuel call) ⟨fun payload w =>
        Settled (known ++ call.command.report payload) w.link ∧
          HandedOver call.command known w.link.trace,
      fun error w => error.isInterruption → Settled known w.link, fun _ => True⟩ w := by
  unfold inner
  rw [wp_zoom]
  exact wp_answersCall R.toTransport call fuel h

theorem wp_withLock_ifReturns (ok : α → Link σ → Prop) {body : Coroutine σ κ α}
    (hbody : ∀ w : BootloaderConnection σ κ, Settled known w.link →
      wp body (.ifReturns fun value w => ok value w.link) w) (h : Settled known w.link) :
    wp (withLock R body) (.ifReturns fun value w => ok value w.link) w := by
  apply wp_withLock
  · exact fun _ => trivial
  · exact fun _ _ _ => trivial
  · intro _ s _
    exact hbody _ ⟨h.wellFormed, h.asked, h.reports⟩

theorem wp_processCommand_settled (call : Call) (h : Settled known w.link) :
    wp (processCommand R fuel call) (.ifReturns fun payload w =>
      Settled (known ++ call.command.report payload) w.link ∧
        HandedOver call.command known w.link.trace) w := by
  have hbody : ∀ w : BootloaderConnection σ κ, Settled known w.link →
      wp (inner R fuel call) (.ifReturns fun payload w =>
        Settled (known ++ call.command.report payload) w.link ∧
          HandedOver call.command known w.link.trace) w := fun w h =>
    wp_mono (wp_inner_settled call h) (fun _ _ h => h) (fun _ _ _ => trivial)
      (fun _ _ => trivial)
  exact wp_withLock_ifReturns (fun payload link =>
    Settled (known ++ call.command.report payload) link ∧
      HandedOver call.command known link.trace) hbody h

theorem wp_processCommand_length (call : Call) (h : w.link.protocol.WellFormed) {n : Nat}
    (hn : call.command.responseLength = n) :
    wp (processCommand R fuel call) (.ifReturns fun payload _ => payload.length = n) w := by
  apply wp_processCommand
  · exact fun _ => trivial
  · exact fun _ _ _ => trivial
  · intro _ s _
    refine wp_mono (wp_replyLength R.toTransport call fuel h) (fun payload link hcarries => ?_)
      (fun _ _ _ => trivial) (fun _ _ => trivial)
    obtain ⟨_, _, _, hdeclared, _⟩ := hcarries
    have hlength := (hdeclared (by omega)).2
    change payload.length = n
    omega

/-- What an operation that asks for an item returns is what the device has reported. -/
theorem wp_getDeviceInfo_settled (item : DeviceInfoItem) (h : Settled known w.link) :
    wp (getDeviceInfo R fuel item) (.ifReturns fun value w =>
      Settled (known ++ [(item, value)]) w.link ∧ value < 2 ^ 32) w := by
  have hfour : (Command.getDeviceInfo item).responseLength = (4 : Nat) := rfl
  refine wp_bind_ifReturns (wp_ifReturns_and (wp_processCommand_settled _ h)
    (wp_processCommand_length { command := .getDeviceInfo item } h.wellFormed hfour)) ?_
  rintro payload w ⟨⟨hsettled, _⟩, hlength⟩
  have hword := LittleEndian.decode_lt payload
  rw [hlength] at hword
  refine ⟨?_, hword⟩
  simpa [Command.report] using hsettled

theorem wp_eraseFlashMemory_settled (h : Settled known w.link) :
    wp (eraseFlashMemory R fuel) (.ifReturns fun _ w => Settled known w.link ∧
      HandedOver .eraseFlashMemory known w.link.trace) w := by
  refine wp_bind_ifReturns (wp_processCommand_settled { command := .eraseFlashMemory } h) ?_
  rintro payload w ⟨hsettled, hhanded⟩
  rw [Command.report_eq_nil (by decide), List.append_nil] at hsettled
  exact ⟨hsettled, hhanded⟩

theorem wp_getSerialNumber_settled (h : Settled known w.link) :
    wp (getSerialNumber R fuel) (.ifReturns fun _ w => Settled known w.link) w := by
  have hword : ∀ address (w : BootloaderConnection σ κ), Settled known w.link →
      wp (getSerialNumberWord R fuel address) (.ifReturns fun _ w => Settled known w.link) w := by
    intro address w h
    unfold getSerialNumberWord
    rw [wp_bind, wp_ofExcept]
    cases hcommand : Command.readWordFromSerialNumberArea address with
    | error error => trivial
    | ok command =>
        have htype := Command.readWordFromSerialNumberArea_type hcommand
        refine wp_bind_ifReturns (wp_processCommand_settled { command := command } h) ?_
        rintro payload w ⟨hsettled, _⟩
        rw [Command.report_eq_nil (by simp [htype]), List.append_nil] at hsettled
        exact hsettled
  refine wp_bind_ifReturns (hword 0 w h) fun _ w h => ?_
  refine wp_bind_ifReturns (hword 4 w h) fun _ w h => ?_
  refine wp_bind_ifReturns (hword 8 w h) fun _ w h => ?_
  exact h

/-- The probe asks for the board ID, a second time when the first answer did not come. -/
theorem wp_ensureInBootloader_settled {onRebooted : κ → κ} (h : Settled known w.link) :
    wp (ensureInBootloader R fuel onRebooted) (.ifReturns fun _ w =>
      ∃ boardId, Settled (known ++ [(.boardId, boardId)]) w.link) w := by
  have hprobe : ∀ (call : Call) (w : BootloaderConnection σ κ),
      call.command = .getDeviceInfo .boardId → Settled known w.link →
      wp (inner R fuel call) ⟨fun _ w => ∃ boardId, Settled (known ++ [(.boardId, boardId)]) w.link,
        fun error w => error.isInterruption → Settled known w.link, fun _ => True⟩ w := by
    intro call w hcall h
    refine wp_mono (wp_inner_settled call h) ?_ (fun _ _ h => h) (fun _ h => h)
    rintro payload w ⟨hsettled, _⟩
    rw [hcall] at hsettled
    exact ⟨LittleEndian.decode payload, by simpa [Command.report] using hsettled⟩
  have hbody : ∀ w : BootloaderConnection σ κ, Settled known w.link →
      wp (((do
            let _ ← inner R fuel
              { command := .getDeviceInfo .boardId, maxRetries := 1, timeout := some 50 }) :
            Coroutine σ κ Unit).catching fun error =>
          if error = .timeoutError ∨ error = .excessDataError then some do
            sendMavlinkRebootCommand R true
            Proc.modify (fun w => { w with client := onRebooted w.client })
            let _ ← inner R fuel
              { command := .getDeviceInfo .boardId, maxRetries := 5, timeout := some 500 }
          else none) (.ifReturns fun _ w =>
            ∃ boardId, Settled (known ++ [(.boardId, boardId)]) w.link) w := by
    intro w h
    rw [wp_catching, wp_bind]
    refine wp_mono (hprobe _ w rfl h) (fun _ _ h => h) (fun error w h => ?_) (fun _ _ => trivial)
    by_cases herror : error = .timeoutError ∨ error = .excessDataError
    · have hsettled : Settled known w.link := h herror
      simp only [herror, ↓reduceIte, wp_bind, sendMavlinkRebootCommand]
      apply wp_transportSend
      · intro s
        refine wp_mono (hprobe _ _ rfl ?_) (fun _ _ h => h) (fun _ _ _ => trivial)
          (fun _ _ => trivial)
        exact ⟨hsettled.wellFormed, by simpa [Inquiry.next] using hsettled.asked,
          by simpa [Inquiry.next] using hsettled.reports⟩
      · exact fun _ _ => trivial
    · simp only [herror, ↓reduceIte]
      trivial
  unfold ensureInBootloader
  refine wp_bind_ifReturns (wp_withLock_ifReturns (fun _ link =>
    ∃ boardId, Settled (known ++ [(.boardId, boardId)]) link) hbody h) ?_
  exact fun _ _ h => h

end BootloaderConnection

end ApUploader
