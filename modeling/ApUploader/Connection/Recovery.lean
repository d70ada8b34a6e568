import ApUploader.Connection.Wire

/-! # Recovery after a failed call

Whatever a call did, it leaves the protocol at rest: bytes are left over only in
sync, and an outstanding reply is still short of data. Over a wire with nothing
on its way such a state costs at most two retries before the loop is clean, one
for the outstanding reply and one for a payload that survives the reset.
-/

namespace ApUploader

open Effect Protocol

variable {δ σ : Type}

/-! ## States between calls -/

/-- What holds at the head of the loop: only a synced or waiting state has a buffer. -/
structure Tidy (p : Protocol) : Prop where
  wellFormed : p.WellFormed
  idle : p.state = .idle → p.buffer = []
  error : p.state = .error → p.buffer = [] ∧ p.payload = []

/-- What holds between calls: besides, an outstanding reply needs more data. -/
structure Resting (p : Protocol) : Prop extends Tidy p where
  waiting : p.Waiting → p.settle.Starved

theorem tidy_of_waiting {p : Protocol} (hw : p.WellFormed) (h : p.Waiting) : Tidy p := by
  refine ⟨hw, fun hs => ?_, fun hs => ?_⟩
  · rcases h with h | h | h <;> simp [h] at hs
  · rcases h with h | h | h <;> simp [h] at hs

theorem resting_of_inSync {p : Protocol} (hw : p.WellFormed) (h : p.inSync = true) :
    Resting p := by
  have hs := inSync_eq_true.mp h
  refine ⟨⟨hw, by simp [hs], by simp [hs]⟩, fun hwait => ?_⟩
  rw [inSync_of_waiting hwait] at h
  cases h

theorem resting_reset (p : Protocol) : Resting p.reset :=
  ⟨⟨reset_wellFormed p, fun _ => rfl, by simp [reset]⟩, by simp [Waiting, reset]⟩

theorem resting_sendFailed {p : Protocol} (hbuffer : p.buffer = []) (hpayload : p.payload = []) :
    Resting p.sendFailed :=
  ⟨⟨sendFailed_wellFormed p, by simp [sendFailed], fun _ => ⟨hbuffer, hpayload⟩⟩,
    by simp [Waiting, sendFailed]⟩

theorem starved_of_empty {p : Protocol} (hw : p.WellFormed) (h : p.Waiting)
    (hbuffer : p.buffer = []) : p.settle.Starved := by
  rcases h with hs | hs | hs
  · have hsettle : p.settle = p := by simp [settle, settleLength, settleResponse, hs, hbuffer]
    exact .inl ⟨by rw [hsettle, hs], by rw [hsettle, hbuffer]; exact Nat.zero_lt_succ 3⟩
  · have hpos := (hw.response hs).1
    have hshort : ¬ p.bytesExpected ≤ 0 := by omega
    have hsettle : p.settle = p := by
      simp [settle, settleLength, settleResponse, hs, hbuffer]
      omega
    exact .inr (.inl ⟨by rw [hsettle, hs], by rw [hsettle, hbuffer]; exact hpos⟩)
  · rw [settle_of_waitSync hs]
    exact .inr (.inr ⟨hs, .inl hbuffer⟩)

theorem resting_of_empty {p : Protocol} (hw : p.WellFormed) (h : p.Waiting)
    (hbuffer : p.buffer = []) : Resting p :=
  ⟨tidy_of_waiting hw h, fun _ => starved_of_empty hw h hbuffer⟩

theorem resting_of_starved {p : Protocol} (hw : p.WellFormed) (h : p.settle.Starved) :
    Resting p.settle := by
  have hwait := settle_waiting (waiting_of_starved h)
  exact ⟨tidy_of_waiting (settle_wellFormed hw) hwait, fun _ => by rwa [settle_settle]⟩

def restingAfter : Post Exn (Link σ) Bytes :=
  ⟨fun _ w => Resting w.protocol, fun _ w => Resting w.protocol, fun _ => True⟩

theorem resting_fault {T : Transport σ} {call : Call} {l l' : Locals} {w w' : Link σ}
    {error : Exn} (h : Fault T call l w l' error w') : Resting w'.protocol := by
  cases h with
  | getSync hquiet =>
      obtain ⟨_, hbuffer, hpayload, _⟩ := not_waiting_of_quiet hquiet
      exact resting_sendFailed hbuffer hpayload
  | command hquiet =>
      obtain ⟨_, hbuffer, hpayload, _⟩ := not_waiting_of_quiet hquiet
      apply resting_sendFailed
      · simpa using hbuffer
      · unfold startWaitingForResponse startWaitingForSync
        split_ifs <;> first | rfl | exact hpayload
  | timeout | excess => exact resting_reset _

theorem resting_failure {T : Transport σ} {call : Call} {l : Locals} {w w' : Link σ}
    {error : Exn} (h : Tidy w.protocol) (hfailure : Failure T call l w error w') :
    Resting w'.protocol := by
  have hw := h.wellFormed
  cases hfailure with
  | unencodable hsync | invalidState hsync => exact resting_of_inSync hw hsync
  | getSync hquiet =>
      have hwait : w.protocol.startWaitingForSync.Waiting := .inr (.inr rfl)
      exact resting_of_empty (startWaitingForResponse_wellFormed _ 0) hwait
        (not_waiting_of_quiet hquiet).2.1
  | command hquiet =>
      have hbuffer : (w.protocol.startWaitingForResponse
          call.command.responseLength).buffer = [] := by
        simpa using (not_waiting_of_quiet hquiet).2.1
      exact resting_of_empty (startWaitingForResponse_wellFormed _ _)
        (startWaitingForResponse_waiting _ _) hbuffer
  | unfed hstarved | unreceived hstarved => exact resting_of_starved hw hstarved
  | response r q hyields =>
      obtain ⟨_, hsync, hwf⟩ := response_spec hyields
      exact resting_of_inSync hwf hsync
  | closed hbuffer => exact ⟨h, fun hwait => starved_of_empty hw hwait hbuffer⟩

theorem tidy_pass (T : Transport σ) {call : Call} {l : Locals} {w : Link σ}
    (h : Tidy w.protocol) :
    wp (pass T call l) (roundPost (fun _ w => Tidy w.protocol) restingAfter) w := by
  have hw := h.wellFormed
  apply wp_pass hw
  case hasked =>
    intro _ _ s
    have hwait : w.protocol.startWaitingForSync.Waiting := .inr (.inr rfl)
    exact tidy_of_waiting (startWaitingForResponse_wellFormed _ 0) hwait
  case hhanded =>
    intro _ _ _ raw _ s
    exact tidy_of_waiting (startWaitingForResponse_wellFormed _ _)
      (startWaitingForResponse_waiting _ _)
  case hfed =>
    intro hstarved data p s _ hfeed
    have hwait := waiting_of_feed (settle_waiting (waiting_of_starved hstarved)) hfeed
    exact tidy_of_waiting (feed_wellFormed (settle_wellFormed hw) hfeed) hwait
  case hagreed =>
    intro r q hyields _
    obtain ⟨_, hsync, hwf⟩ := response_spec hyields
    exact (resting_of_inSync hwf hsync).toTidy
  case hreturned =>
    intro r q hyields _ _
    obtain ⟨_, hsync, hwf⟩ := response_spec hyields
    exact resting_of_inSync hwf hsync
  case hretried => exact fun l' error w' hfault _ => (resting_fault hfault).toTidy
  case hexhausted => exact fun l' error w' hfault _ => resting_fault hfault
  case hfailed => exact fun error w' hfailure => resting_failure h hfailure
  case hnever => exact fun _ _ _ => trivial

theorem wp_restingAfter (T : Transport σ) (call : Call) (fuel : Nat) {w : Link σ}
    (h : Resting w.protocol) : wp (processCommandInner T call fuel) restingAfter w :=
  wp_loop_invariant (fun _ w => Tidy w.protocol) (fun _ _ _ => trivial)
    (fun _ _ h => tidy_pass T h) fuel h.toTidy

/-- The protocol states a history of ended calls can lead to, over any transports. -/
inductive CallReachable : Protocol → Prop where
  | new : CallReachable .new
  | call {σ : Type} (T : Transport σ) (call : Call) (fuel : Nat) {w w' : Link σ}
      {outcome : Outcome Exn Bytes} (before : CallReachable w.protocol)
      (run : processCommandInner T call fuel w = (outcome, w')) (ended : outcome.ended) :
      CallReachable w'.protocol

theorem CallReachable.resting {p : Protocol} (h : CallReachable p) : Resting p := by
  induction h with
  | new =>
      have hidle : ¬ Protocol.new.Waiting := by decide
      exact ⟨⟨new_wellFormed, fun _ => rfl, fun hs => by cases hs⟩, fun hwait => (hidle hwait).elim⟩
  | @call σ T call fuel w w' outcome _ run ended ih =>
      have hrun := wp_restingAfter T call fuel ih
      unfold wp at hrun
      rw [run] at hrun
      cases outcome with
      | ok payload => exact hrun
      | raised error => exact hrun
      | running => exact ended.elim

/-! ## Back to a clean state -/

/-- Left-over bytes or a left-over payload are reported at once. -/
theorem nextEvent_of_stray {p : Protocol} (hw : p.WellFormed) (hwait : ¬ p.Waiting)
    (hopen : p.bufferClosed = false) (hdata : p.payload ++ p.buffer ≠ []) :
    p.nextEvent = (.ok (some (.excessData (p.payload ++ p.buffer))),
      { p with payload := [], buffer := [] }) := by
  obtain ⟨event, q, hstep, hyields⟩ := nextEvent_yields hw
  rw [hstep]
  cases hyields with
  | closed hbuffer hclosed => simp [hopen] at hclosed
  | quiet _ hbuffer hpayload _ => simp [hbuffer, hpayload] at hdata
  | stray => rfl
  | starved hstarved => exact (hwait (waiting_of_starved hstarved)).elim
  | desync hstate => exact (hwait (waiting_of_settle (.inr (.inr hstate)))).elim
  | response hstate => exact (hwait (waiting_of_settle (.inr (.inr hstate)))).elim

theorem clean_reset {p : Protocol} (h : p.payload = []) : Clean p.reset :=
  ⟨by simp [Waiting, reset], rfl, h, rfl⟩

section Recovery

variable {respond : Bytes → δ → Bytes × δ} {cut : Nat → Nat} {silence : ReceiveOutcome}
  {call : Call} {l : Locals} {w : Link (Wire δ)}

/-- The loop gets clean with at most `n` faults. -/
def CleansUp (T : Transport (Wire δ)) (call : Call) (n : Nat) (l : Locals) (w : Link (Wire δ)) :
    Prop :=
  ∃ k l' w', Rounds (pass T call) k l w l' w' ∧ Clean w'.protocol ∧ l'.sent = false ∧
    w'.transport = w.transport ∧ faults w'.trace ≤ faults w.trace + n

theorem cleansUp_of_clean {T : Transport (Wire δ)} {n : Nat} (h : Clean w.protocol)
    (hsent : l.sent = false) : CleansUp T call n l w :=
  ⟨0, l, w, .refl _ _, h, hsent, rfl, by omega⟩

/-- Left-over data costs one fault. -/
theorem cleansUp_of_stray (T : Transport (Wire δ)) (call : Call) (hw : w.protocol.WellFormed)
    (hwait : ¬ w.protocol.Waiting) (hopen : w.protocol.bufferClosed = false)
    (hsent : l.sent = false) (hleft : 0 < l.retriesLeft) : CleansUp T call 1 l w := by
  by_cases hdata : w.protocol.payload ++ w.protocol.buffer = []
  · obtain ⟨hpayload, hbuffer⟩ := List.append_eq_nil_iff.mp hdata
    exact cleansUp_of_clean ⟨hwait, hbuffer, hpayload, hopen⟩ hsent
  · have hevent := nextEvent_of_stray hw hwait hopen hdata
    have hpass := pass_excess call (T := T) hevent hleft
    refine ⟨1, _, _, .one hpass, clean_reset rfl, hsent, rfl, ?_⟩
    simp [Action.isFault]

/-- Over a silent wire a resting protocol costs at most two faults. -/
theorem cleansUp_of_resting (respond : Bytes → δ → Bytes × δ) (cut : Nat → Nat) (call : Call)
    (h : Resting w.protocol) (hopen : w.protocol.bufferClosed = false)
    (hpending : w.transport.pending = []) (hsent : l.sent = false) (hleft : 2 ≤ l.retriesLeft) :
    CleansUp (wireTransport respond cut (.ended (.error .timeoutError))) call 2 l w := by
  by_cases hwait : w.protocol.Waiting
  · have hstarved := h.waiting hwait
    have hevent := nextEvent_of_starved h.wellFormed hopen hstarved
    have hreceive : (wireTransport respond cut (.ended (.error .timeoutError))).receive
        (receiveTimeout call l) w.transport =
        (.ended (.error .timeoutError), w.transport) := by simp [wireTransport, hpending]
    have hpass := pass_timeout call hevent hreceive (by omega)
    have hidle := not_waiting_reset w.protocol.settle
    have hrest : 0 < l.retriesLeft - 1 := by omega
    obtain ⟨k, l', w', hrounds, hclean, hsent', htransport, hfaults⟩ :=
      cleansUp_of_stray (wireTransport respond cut (.ended (.error .timeoutError))) call
        (l := { l with retriesLeft := l.retriesLeft - 1 })
        (w := ⟨w.protocol.settle.reset, w.transport,
          w.trace ++ [.received (.error .timeoutError)]⟩)
        (reset_wellFormed _) hidle rfl hsent hrest
    refine ⟨1 + k, l', w', (Rounds.one hpass).trans hrounds, hclean, hsent', htransport, ?_⟩
    simp only [faults_concat, Action.isFault, ↓reduceIte] at hfaults
    omega
  · obtain ⟨k, l', w', hrounds, hclean, hsent', htransport, hfaults⟩ :=
      cleansUp_of_stray (wireTransport respond cut (.ended (.error .timeoutError))) call
        h.wellFormed hwait hopen hsent (by omega)
    exact ⟨k, l', w', hrounds, hclean, hsent', htransport, by omega⟩

/-- The device answers GET_SYNC and the command, in any state and as declared. -/
structure Answers (respond : Bytes → δ → Bytes × δ) (c : Command) (raw : Bytes)
    (payload : δ → Bytes) : Prop where
  encoded : c.toBytes = .ok raw
  sync : ∀ d, (respond syncBytes d).1 = (Response.success []).toBytes
  declares : ∀ d, Declares c.responseLength (payload d)
  reply : ∀ d, (respond raw d).1 =
    (Response.success (replyBody c.responseLength (payload d))).toBytes

/-- From a clean state the loop returns the device's payload without a fault. -/
theorem ends_of_clean (cut : Nat → Nat) (silence : ReceiveOutcome) {raw : Bytes}
    {payload : δ → Bytes} (h : Answers respond call.command raw payload) (hclean : Clean w.protocol)
    (hsent : l.sent = false) (hpending : w.transport.pending = []) :
    ∃ d w', (d = w.transport.device ∨ d = (respond syncBytes w.transport.device).2) ∧
      Ends (pass (wireTransport respond cut silence) call) l w (payload d) w' ∧
      AtRest (respond raw d).2 w' ∧ faults w'.trace = faults w.trace := by
  cases hsync : w.protocol.inSync with
  | true =>
      obtain ⟨w', hends, hrest, hfaults⟩ := exchange_command respond cut silence call
        hclean hsync hsent hpending h.encoded (h.declares _) (h.reply _)
      exact ⟨_, w', .inl rfl, hends, hrest, hfaults⟩
  | false =>
      obtain ⟨k, w₁, hrounds, hrest, hfaults⟩ := exchange_sync respond cut silence call
        (l := l) hclean hsync hpending (h.sync _)
      have hclean₁ : Clean w₁.protocol := hrest.protocol ▸ clean_synced
      have hsync₁ : w₁.protocol.inSync = true := by rw [hrest.protocol]; rfl
      obtain ⟨w', hends, hrest', hfaults'⟩ := exchange_command respond cut silence call
        (l := ⟨some .getSync, l.retriesLeft, false⟩) hclean₁ hsync₁ rfl hrest.pending h.encoded
        (h.declares _) (h.reply _)
      refine ⟨w₁.transport.device, w', .inr hrest.device, hrounds.ends hends, hrest', ?_⟩
      rw [hfaults', hfaults]

/-- After any history of calls, a device that answers at once is understood within two retries. -/
theorem recovers_after_any_history {raw : Bytes} {payload : δ → Bytes}
    (hreach : CallReachable w.protocol) (hopen : w.protocol.bufferClosed = false)
    (hpending : w.transport.pending = []) (hanswers : Answers respond call.command raw payload)
    (hretries : 2 ≤ call.maxRetries) :
    ∃ d w', (d = w.transport.device ∨ d = (respond syncBytes w.transport.device).2) ∧
      (∃ enough, ∀ fuel, enough ≤ fuel → processCommandInner
        (wireTransport respond cut (.ended (.error .timeoutError))) call fuel w =
          (.ok (payload d), w')) ∧
      AtRest (respond raw d).2 w' ∧ faults w'.trace ≤ faults w.trace + 2 := by
  obtain ⟨k, l, w₁, hrounds, hclean, hsent, htransport, hfaults⟩ :=
    cleansUp_of_resting respond cut call (l := call.locals) hreach.resting hopen hpending rfl
      hretries
  obtain ⟨d, w', hd, hends, hrest, hfaults'⟩ := ends_of_clean cut
    (.ended (.error .timeoutError)) (l := l) hanswers hclean hsent (htransport ▸ hpending)
  rw [htransport] at hd
  refine ⟨d, w', hd, (hrounds.ends hends).loop_eq, hrest, ?_⟩
  omega

end Recovery

/-- A call for the CRC that is cancelled behind its payload and the first sync byte. -/
def cancelledCall : Outcome Exn Bytes × Link (List (Except Exn Bytes)) :=
  processCommandInner scripted { command := .getCrc } 20
    ⟨.new, [.ok [0x12, 0x10], .ok [1, 2, 3, 4, 0x12], .error .cancelled], []⟩

theorem recovers_after_any_history_cancelled :
    ∃ enough w', (∀ fuel, enough ≤ fuel → processCommandInner
        (wireTransport (fun _ (d : Unit) => ([0x12, 0x10], d)) (fun _ => 0)
          (.ended (.error .timeoutError))) { command := .eraseFlashMemory, maxRetries := 2 } fuel
        ⟨cancelledCall.2.protocol, ⟨(), [], 0⟩, []⟩ = (.ok [], w')) ∧ faults w'.trace ≤ 2 := by
  have hraised : cancelledCall.1 = .raised .cancelled := by decide +kernel
  have hrun : cancelledCall = (.raised .cancelled, cancelledCall.2) := Prod.ext hraised rfl
  have hreach : CallReachable cancelledCall.2.protocol :=
    .call scripted { command := .getCrc } 20 .new hrun trivial
  obtain ⟨_, w', _, ⟨enough, hends⟩, _, hfaults⟩ := @recovers_after_any_history Unit
    (fun _ d => ([0x12, 0x10], d)) (fun _ => 0)
    { command := .eraseFlashMemory, maxRetries := 2 }
    ⟨cancelledCall.2.protocol, ⟨(), [], 0⟩, []⟩ [0x23, 0x20] (fun _ => []) hreach
    (by decide +kernel) rfl ⟨rfl, fun _ => rfl, fun _ => by decide, fun _ => rfl⟩ (by decide)
  exact ⟨enough, w', hends, hfaults⟩

end ApUploader
