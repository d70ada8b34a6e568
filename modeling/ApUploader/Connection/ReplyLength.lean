import ApUploader.Connection.Pass
import ApUploader.Protocol.Awaiting

/-! # The length of a returned payload

A ghost history collects the bytes received since the command was last handed
over. As long as the reply is outstanding the protocol is the awaiting state that
has received exactly this history, so what the loop returns is a stretch of it in
front of the sync bytes, cut at the declared length or at the announced one.
-/

namespace ApUploader

open Effect Protocol

variable {σ : Type}

/-! ## The history -/

def replyBytesStep (received : Bytes) : Action → Bytes
  | .sent .command _ _ _ => []
  | .received (.ok data) => received ++ data
  | _ => received

/-- The bytes received since the command was last handed to the transport. -/
def replyBytes (trace : List Action) : Bytes := trace.foldl replyBytesStep []

@[simp] theorem replyBytes_concat (trace : List Action) (a : Action) :
    replyBytes (trace ++ [a]) = replyBytesStep (replyBytes trace) a := by
  simp [replyBytes]

/-! ## Reopening the buffer -/

/-- The protocol as it would be had the receiver not been closed. -/
def Protocol.reopen (p : Protocol) : Protocol := { p with bufferClosed := false }

theorem reopen_startWaitingForResponse (p : Protocol) (n : Int) :
    (p.startWaitingForResponse n).reopen = p.reopen.startWaitingForResponse n := by
  unfold startWaitingForResponse startWaitingForSync reopen
  split_ifs <;> rfl

theorem reopen_settle (p : Protocol) : p.settle.reopen = p.reopen.settle := by
  have hlength : p.settleLength.reopen = p.reopen.settleLength := by
    by_cases h : p.state = .waitResponseLength ∧ 4 ≤ p.buffer.length
    · have h' : p.reopen.state = .waitResponseLength ∧ 4 ≤ p.reopen.buffer.length := h
      unfold settleLength
      rw [if_pos h, if_pos h', reopen_startWaitingForResponse]
      rfl
    · have h' : ¬ (p.reopen.state = .waitResponseLength ∧ 4 ≤ p.reopen.buffer.length) := h
      unfold settleLength
      rw [if_neg h, if_neg h']
  have hresponse : ∀ q : Protocol, q.settleResponse.reopen = q.reopen.settleResponse := by
    intro q
    by_cases h : q.state = .waitResponse ∧ q.bytesExpected ≤ q.buffer.length
    · have h' : q.reopen.state = .waitResponse ∧
          q.reopen.bytesExpected ≤ q.reopen.buffer.length := h
      unfold settleResponse
      rw [if_pos h, if_pos h']
      rfl
    · have h' : ¬ (q.reopen.state = .waitResponse ∧
          q.reopen.bytesExpected ≤ q.reopen.buffer.length) := h
      unfold settleResponse
      rw [if_neg h, if_neg h']
  unfold settle
  rw [hresponse, hlength]

theorem reopen_of_open {p : Protocol} (h : p.bufferClosed = false) : p.reopen = p := by
  cases p
  subst h
  rfl

theorem reading_feed {n : Int} {received data : Bytes} {p p' : Protocol}
    (h : Reading n received p.reopen) (hfeed : p.feed data = .ok p') :
    Reading n (received ++ data) p'.reopen := by
  unfold Protocol.feed at hfeed
  split_ifs at hfeed with hdata hclosed
  · cases hfeed
    exact h.append data
  · cases hfeed
    have hnil : data = [] := by simpa using hdata
    rw [hnil, List.append_nil]
    exact h

/-! ## The shape of what has been read -/

/-- The history holds the payload at its declared place in front of the success marker. -/
def CarriesReply (n : Int) (payload received : Bytes) : Prop :=
  ∃ front rest, received = front ++ payload ++ [OpCode.inSync.toByte, OpCode.ok.toByte] ++ rest ∧
    (0 ≤ n → front = [] ∧ (payload.length : Int) = n) ∧
    (n < 0 → front.length = 4 ∧ payload.length = LittleEndian.decode front)

theorem awaiting_fixed_waitSync {n : Nat} {received : Bytes}
    (h : (awaiting n received).settle.state = .waitSync) :
    n ≤ received.length ∧ (awaiting n received).settle.payload = received.take n ∧
      (awaiting n received).settle.buffer = received.drop n := by
  by_cases hfull : n ≤ received.length
  · rw [settle_awaiting_full hfull]
    exact ⟨hfull, rfl, rfl⟩
  · obtain ⟨hsettle, hstate⟩ := settle_awaiting_short (not_le.mp hfull)
    rw [hsettle, hstate] at h
    cases h

/-- Once the protocol waits for sync its payload is cut out of the history as declared. -/
theorem awaiting_waitSync {n : Int} {received : Bytes} (rest : Bytes)
    (h : (awaiting n received).settle.state = .waitSync)
    (hbuffer : (awaiting n received).settle.buffer =
      [OpCode.inSync.toByte, OpCode.ok.toByte] ++ rest) :
    CarriesReply n (awaiting n received).settle.payload received := by
  by_cases hn : n < 0
  · by_cases hpart : 4 ≤ received.length
    · rw [settle_awaiting_prefix_full hn hpart] at h hbuffer ⊢
      obtain ⟨hle, hpayload, hrest⟩ := awaiting_fixed_waitSync h
      rw [hpayload]
      rw [hrest] at hbuffer
      refine ⟨received.take 4, rest, ?_, by omega, fun _ => ⟨by simpa using hpart, ?_⟩⟩
      · rw [List.append_assoc, ← hbuffer, List.append_assoc, List.take_append_drop,
          List.take_append_drop]
      · simpa using hle
    · obtain ⟨hsettle, hstate⟩ := settle_awaiting_prefix_short hn (not_le.mp hpart)
      rw [hsettle, hstate] at h
      cases h
  · obtain ⟨m, rfl⟩ := Int.eq_ofNat_of_zero_le (not_lt.mp hn)
    obtain ⟨hle, hpayload, hrest⟩ := awaiting_fixed_waitSync h
    rw [hpayload]
    rw [hrest] at hbuffer
    refine ⟨[], rest, ?_, fun _ => ⟨rfl, by simpa using hle⟩, by omega⟩
    rw [List.nil_append, List.append_assoc, ← hbuffer, List.take_append_drop]

/-! ## The loop -/

/-- What holds at the head of the loop: an outstanding reply is read from the history. -/
structure ReadsReply (call : Call) (l : Locals) (w : Link σ) : Prop where
  wellFormed : w.protocol.WellFormed
  reads : l.sent = true → w.protocol.Waiting →
    Reading call.command.responseLength (replyBytes w.trace) w.protocol.reopen

def replyLength (call : Call) : Post Exn (Link σ) Bytes :=
  .ifReturns fun payload w =>
    CarriesReply call.command.responseLength payload (replyBytes w.trace)

/-- The response to the command carries what was read since it was handed over. -/
theorem ReadsReply.carries {call : Call} {l : Locals} {w : Link σ} {r : Response} {q : Protocol}
    (h : ReadsReply call l w) (hyields : w.protocol.Yields (some (.response r)) q)
    (htype : r.type = .ok) (hsent : l.sent = true) :
    CarriesReply call.command.responseLength r.payload (replyBytes w.trace) := by
  obtain ⟨hwait, _, _⟩ := response_spec hyields
  have hread : w.protocol.settle.reopen =
      (awaiting call.command.responseLength (replyBytes w.trace)).settle := by
    rw [reopen_settle]
    exact h.reads hsent hwait
  cases hyields with
  | response hstate type rest _ hbuffer =>
      have hstatus : type = .ok := htype
      subst hstatus
      have hwaits : w.protocol.settle.reopen.state = .waitSync := hstate
      have hmarker : w.protocol.settle.reopen.buffer =
          [OpCode.inSync.toByte, OpCode.ok.toByte] ++ rest := hbuffer
      rw [hread] at hwaits hmarker
      have hcarries := awaiting_waitSync rest hwaits hmarker
      rwa [← hread] at hcarries

theorem readsReply_pass (T : Transport σ) {call : Call} {l : Locals} {w : Link σ}
    (h : ReadsReply call l w) :
    wp (pass T call l) (roundPost (ReadsReply call) (replyLength call)) w := by
  have hw := h.wellFormed
  apply wp_pass hw
  case hasked => exact fun _ _ s => ⟨startWaitingForResponse_wellFormed _ 0, by simp⟩
  case hhanded =>
    intro hquiet _ _ raw _ s
    obtain ⟨_, hbuffer, hpayload, hopen⟩ := not_waiting_of_quiet hquiet
    have hstart := startWaitingForResponse_clean call.command.responseLength hpayload hopen
    rw [hbuffer] at hstart
    refine ⟨startWaitingForResponse_wellFormed _ _, fun _ _ => ?_⟩
    dsimp only [Link.afterSend]
    rw [hstart, replyBytes_concat]
    rw [reopen_of_open (awaiting_bufferClosed _ _)]
    exact Reading.awaiting _ []
  case hfed =>
    intro hstarved data p s _ hfeed
    refine ⟨feed_wellFormed (settle_wellFormed hw) hfeed, fun hsent _ => ?_⟩
    have hread := h.reads hsent (waiting_of_starved hstarved)
    have hsettled : Reading call.command.responseLength (replyBytes w.trace)
        w.protocol.settle.reopen := by
      rw [reopen_settle]
      exact hread.settle
    dsimp only [Link.afterReceive]
    rw [replyBytes_concat]
    exact reading_feed hsettled hfeed
  case hagreed =>
    exact fun r q hyields hsent => ⟨(response_spec hyields).2.2, by simp [hsent]⟩
  case hreturned =>
    intro r q hyields htype hsent
    have htrace : replyBytes (w.trace ++ [.reported (.response r)]) = replyBytes w.trace := by
      rw [replyBytes_concat]
      rfl
    change CarriesReply _ _ (replyBytes (w.trace ++ [_]))
    rw [htrace]
    exact h.carries hyields htype hsent
  case hretried =>
    exact fun l' error w' hfault _ =>
      ⟨hfault.wellFormed, fun _ hwait => (hfault.not_waiting hwait).elim⟩
  case hexhausted => exact fun _ _ _ _ _ => trivial
  case hfailed => exact fun _ _ _ => trivial
  case hnever => exact fun _ _ _ => trivial

theorem wp_replyLength (T : Transport σ) (call : Call) (fuel : Nat) {w : Link σ}
    (hw : w.protocol.WellFormed) : wp (processCommandInner T call fuel) (replyLength call) w := by
  apply wp_loop_invariant (ReadsReply call) (fun _ _ _ => trivial)
    (fun l w h => readsReply_pass T h)
  exact ⟨hw, by simp [Call.locals]⟩

/-- A call that returns normally returns a reply of exactly the declared length. -/
theorem returned_payload_length (T : Transport σ) (call : Call) (fuel : Nat) {w w' : Link σ}
    {payload : Bytes} (hreach : w.protocol.Reachable)
    (hreturned : processCommandInner T call fuel w = (.ok payload, w')) :
    CarriesReply call.command.responseLength payload (replyBytes w'.trace) :=
  wp_ifReturns_iff.mp (wp_replyLength T call fuel hreach.wellFormed) payload w' hreturned

/-- A chip description whose prefix is split and whose payload imitates a sync marker. -/
theorem returned_payload_length_chip_description :
    ∃ w', processCommandInner scripted { command := .getChipDescription } 20
        ⟨.new, [.ok [0x12, 0x10], .ok [2, 0], .ok [0, 0, 0x12, 0x10, 0x12], .ok [0x10]], []⟩ =
          (.ok [0x12, 0x10], w') ∧
      CarriesReply (-1) [0x12, 0x10] (replyBytes w'.trace) := by
  have hreturned : (processCommandInner scripted { command := .getChipDescription } 20
      ⟨.new, [.ok [0x12, 0x10], .ok [2, 0], .ok [0, 0, 0x12, 0x10, 0x12], .ok [0x10]], []⟩).1 =
        .ok [0x12, 0x10] := by decide +kernel
  rcases hrun : processCommandInner scripted { command := .getChipDescription } 20
    ⟨.new, [.ok [0x12, 0x10], .ok [2, 0], .ok [0, 0, 0x12, 0x10, 0x12], .ok [0x10]], []⟩
    with ⟨outcome, w'⟩
  rw [hrun] at hreturned
  have houtcome : outcome = .ok [0x12, 0x10] := hreturned
  subst houtcome
  exact ⟨w', rfl, returned_payload_length scripted _ 20 .new hrun⟩

end ApUploader
