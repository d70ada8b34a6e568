import ApUploader.Connection.Loop

/-! # What one pass of the command loop can do

`TurnOf` lists the turns a pass can take on a well-formed protocol. From the list
comes `wp_pass`, the one rule by which invariants of the loop are proved: a case
for each way a pass ends, with the faults and the failures as relations of their own.
-/

namespace ApUploader

open Effect Protocol

variable {σ : Type}

def syncBytes : Bytes := [OpCode.getSync.toByte, OpCode.eoc.toByte]

theorem sendTurn_getSync (call : Call) (l : Locals) (p : Protocol) :
    sendTurn call l .getSync p =
      .send .getSync syncBytes (resumeSend { l with commandToSend := some .getSync } .getSync
        p.startWaitingForSync) := by
  have hlen : Command.getSync.responseLength = 0 := rfl
  have hraw : Command.getSync.toBytes = .ok syncBytes := rfl
  have htype : Command.getSync.type = .getSync := rfl
  simp [sendTurn, Call.outgoing, Protocol.send, htype, hraw, hlen]

theorem sendTurn_command {call : Call} {l : Locals} {p : Protocol} {raw : Bytes}
    (hsync : p.inSync = true) (hraw : call.command.toBytes = .ok raw) :
    sendTurn call l .command p =
      .send .command raw (resumeSend { l with commandToSend := some .command } .command
        (p.startWaitingForResponse call.command.responseLength)) := by
  simp [sendTurn, Call.outgoing, Protocol.send, hsync, hraw]

theorem sendTurn_unencodable {call : Call} {l : Locals} {p : Protocol} {error : Exn}
    (hsync : p.inSync = true) (hraw : call.command.toBytes = .error error) :
    sendTurn call l .command p = .done none (.raised error p) := by
  simp [sendTurn, Call.outgoing, Protocol.send, hsync, hraw]

def answer (l : Locals) (r : Response) (p : Protocol) : Next :=
  match r.getPayloadOrRaiseException with
  | .error error => .raised error p
  | .ok payload => if l.sent then .returned payload p else .loop l p

inductive TurnOf (call : Call) (l : Locals) (p : Protocol) : Turn → Prop where
  | getSync (hquiet : p.Yields none p) (hsync : p.inSync = false) :
      TurnOf call l p (.send .getSync syncBytes
        (resumeSend { l with sent := false, commandToSend := some .getSync } .getSync
          p.startWaitingForSync))
  | command (hquiet : p.Yields none p) (hsync : p.inSync = true) (hsent : l.sent = false)
      (raw : Bytes) (hraw : call.command.toBytes = .ok raw) :
      TurnOf call l p (.send .command raw
        (resumeSend { l with commandToSend := some .command } .command
          (p.startWaitingForResponse call.command.responseLength)))
  | unencodable (hsync : p.inSync = true) (hsent : l.sent = false) (error : Exn)
      (hraw : call.command.toBytes = .error error) :
      TurnOf call l p (.done none (.raised error p))
  | invalidState (hsync : p.inSync = true) (hsent : l.sent = true) :
      TurnOf call l p (.done none (.raised (.runtimeError "invalid state") p))
  | receive (hstarved : p.settle.Starved) :
      TurnOf call l p (.receive (receiveTimeout call l) p.settle (resumeReceive l p.settle))
  | response (r : Response) (q : Protocol) (hyields : p.Yields (some (.response r)) q) :
      TurnOf call l p (.done (some (.response r)) (answer l r q))
  | excess (payload : Bytes) (q : Protocol) (hyields : p.Yields (some (.excessData payload)) q) :
      TurnOf call l p (.done (some (.excessData payload)) (fault l .excessDataError q.reset))
  | closed (hbuffer : p.buffer = []) (hclosed : p.bufferClosed = true) :
      TurnOf call l p (.done (some .connectionClosed)
        (.raised (.runtimeError "unexpected event: ConnectionClosed()") p))

theorem turn_cases {p : Protocol} (hw : p.WellFormed) (call : Call) (l : Locals) :
    TurnOf call l p (turn call l p) := by
  obtain ⟨event, q, hstep, hyields⟩ := nextEvent_yields hw
  cases hyields with
  | closed hbuffer hclosed =>
      have htext : "unexpected event: " ++ Event.connectionClosed.repr =
          "unexpected event: ConnectionClosed()" := rfl
      have hturn : turn call l p = .done (some .connectionClosed)
          (.raised (.runtimeError "unexpected event: ConnectionClosed()") p) := by
        simp only [turn, hstep, htext]
      rw [hturn]
      exact .closed hbuffer hclosed
  | quiet hstate hbuffer hpayload hopen =>
      have hquiet : p.Yields none p := .quiet hstate hbuffer hpayload hopen
      cases hsync : p.inSync with
      | false =>
          have hturn : turn call l p = sendTurn call { l with sent := false } .getSync p := by
            simp [turn, hstep, hsync]
          rw [hturn, sendTurn_getSync]
          exact .getSync hquiet hsync
      | true =>
          cases hsent : l.sent with
          | true =>
              have hturn : turn call l p =
                  .done none (.raised (.runtimeError "invalid state") p) := by
                simp [turn, hstep, hsync, hsent]
              rw [hturn]
              exact .invalidState hsync hsent
          | false =>
              have hturn : turn call l p = sendTurn call l .command p := by
                simp [turn, hstep, hsync, hsent]
              rw [hturn]
              cases hraw : call.command.toBytes with
              | ok raw =>
                  rw [sendTurn_command hsync hraw]
                  exact .command hquiet hsync hsent raw hraw
              | error error =>
                  rw [sendTurn_unencodable hsync hraw]
                  exact .unencodable hsync hsent error hraw
  | stray hstate hdata =>
      simp only [turn, hstep]
      exact .excess _ _ (.stray hstate hdata)
  | starved hstarved =>
      simp only [turn, hstep]
      exact .receive hstarved
  | desync hstate n hpos hle =>
      simp only [turn, hstep]
      exact .excess _ _ (.desync hstate n hpos hle)
  | response hstate type rest htype hbuffer =>
      simp only [turn, hstep]
      exact .response _ _ (.response hstate type rest htype hbuffer)

def Link.afterSend (w : Link σ) (which : Outgoing) (raw : Bytes) (completion : Completion) (s : σ) :
    Link σ :=
  { w with
    transport := s
    trace := w.trace ++ [.sent which raw w.protocol.inSync completion] }

def Link.afterReceive (w : Link σ) (result : Except Exn Bytes) (s : σ) : Link σ :=
  { w with transport := s, trace := w.trace ++ [.received result] }

def Link.afterEvent (w : Link σ) (event : Event) : Link σ :=
  { w with trace := w.trace ++ [.reported event] }

/-! ## The ways a pass ends -/

/-- The faults that a retry pays for, each with the error it raises when no retry is left. -/
inductive Fault (T : Transport σ) (call : Call) (l : Locals) (w : Link σ) :
    Locals → Exn → Link σ → Prop where
  | getSync (hquiet : w.protocol.Yields none w.protocol) (hsync : w.protocol.inSync = false)
      (error : Exn) (s : σ) (hsend : T.send syncBytes w.transport = (.raised error, s)) :
      Fault T call l w { l with sent := false, commandToSend := some .getSync } error
        { w.afterSend .getSync syncBytes (.raised error) s with
          protocol := w.protocol.startWaitingForSync.sendFailed }
  | command (hquiet : w.protocol.Yields none w.protocol) (hsync : w.protocol.inSync = true)
      (hsent : l.sent = false) (raw : Bytes) (hraw : call.command.toBytes = .ok raw)
      (error : Exn) (s : σ) (hsend : T.send raw w.transport = (.raised error, s)) :
      Fault T call l w { l with commandToSend := some .command } error
        { w.afterSend .command raw (.raised error) s with
          protocol := (w.protocol.startWaitingForResponse
            call.command.responseLength).sendFailed }
  | timeout (hstarved : w.protocol.settle.Starved) (s : σ)
      (hreceived : T.receive (receiveTimeout call l) w.transport =
        (.ended (.error .timeoutError), s)) :
      Fault T call l w l .timeoutError
        { w.afterReceive (.error .timeoutError) s with protocol := w.protocol.settle.reset }
  | excess (payload : Bytes) (q : Protocol)
      (hyields : w.protocol.Yields (some (.excessData payload)) q) :
      Fault T call l w l .excessDataError
        { w.afterEvent (.excessData payload) with protocol := q.reset }

namespace Fault

variable {T : Transport σ} {call : Call} {l l' : Locals} {w w' : Link σ} {error : Exn}

theorem wellFormed (h : Fault T call l w l' error w') : w'.protocol.WellFormed := by
  cases h with
  | getSync | command => exact sendFailed_wellFormed _
  | timeout | excess => exact reset_wellFormed _

theorem not_waiting (h : Fault T call l w l' error w') : ¬ w'.protocol.Waiting := by
  cases h with
  | getSync | command => exact not_waiting_sendFailed _
  | timeout | excess => exact not_waiting_reset _

theorem not_inSync (h : Fault T call l w l' error w') : w'.protocol.inSync = false := by
  cases h <;> simp [inSync, sendFailed, reset]

theorem retriesLeft (h : Fault T call l w l' error w') : l'.retriesLeft = l.retriesLeft := by
  cases h <;> rfl

/-- A fault takes back no hand-over that it has not replaced by GET_SYNC. -/
theorem sent (h : Fault T call l w l' error w') (hsent : l'.sent = true) : l.sent = true := by
  cases h with
  | getSync => cases hsent
  | command | timeout | excess => exact hsent

theorem trace (h : Fault T call l w l' error w') : ∃ a, w'.trace = w.trace ++ [a] := by
  cases h <;> exact ⟨_, rfl⟩

end Fault

/-- The errors that end a call at once, whatever retries are left. -/
inductive Failure (T : Transport σ) (call : Call) (l : Locals) (w : Link σ) :
    Exn → Link σ → Prop where
  | unencodable (hsync : w.protocol.inSync = true) (hsent : l.sent = false) (error : Exn)
      (hraw : call.command.toBytes = .error error) : Failure T call l w error w
  | invalidState (hsync : w.protocol.inSync = true) (hsent : l.sent = true) :
      Failure T call l w (.runtimeError "invalid state") w
  | getSync (hquiet : w.protocol.Yields none w.protocol) (hsync : w.protocol.inSync = false)
      (error : Exn) (herror : error.isException = false) (s : σ) :
      Failure T call l w error
        { w.afterSend .getSync syncBytes (.raised error) s with
          protocol := w.protocol.startWaitingForSync }
  | command (hquiet : w.protocol.Yields none w.protocol) (hsync : w.protocol.inSync = true)
      (hsent : l.sent = false) (raw : Bytes) (hraw : call.command.toBytes = .ok raw)
      (error : Exn) (herror : error.isException = false) (s : σ) :
      Failure T call l w error
        { w.afterSend .command raw (.raised error) s with
          protocol := w.protocol.startWaitingForResponse call.command.responseLength }
  | unfed (hstarved : w.protocol.settle.Starved) (data : Bytes) (error : Exn)
      (hfeed : w.protocol.settle.feed data = .error error) (s : σ) :
      Failure T call l w error
        { w.afterReceive (.ok data) s with protocol := w.protocol.settle }
  | unreceived (hstarved : w.protocol.settle.Starved) (error : Exn)
      (herror : error ≠ .timeoutError) (s : σ) :
      Failure T call l w error
        { w.afterReceive (.error error) s with protocol := w.protocol.settle }
  | response (r : Response) (q : Protocol) (hyields : w.protocol.Yields (some (.response r)) q)
      (error : Exn) (herror : r.getPayloadOrRaiseException = .error error) :
      Failure T call l w error { w.afterEvent (.response r) with protocol := q }
  | closed (hbuffer : w.protocol.buffer = []) (hclosed : w.protocol.bufferClosed = true) :
      Failure T call l w (.runtimeError "unexpected event: ConnectionClosed()")
        (w.afterEvent .connectionClosed)

theorem Failure.wellFormed {T : Transport σ} {call : Call} {l : Locals} {w w' : Link σ}
    {error : Exn} (hw : w.protocol.WellFormed) (h : Failure T call l w error w') :
    w'.protocol.WellFormed := by
  cases h with
  | unencodable | invalidState | closed => exact hw
  | getSync => exact startWaitingForResponse_wellFormed _ 0
  | command => exact startWaitingForResponse_wellFormed _ _
  | unfed | unreceived => exact settle_wellFormed hw
  | response r q hyields => exact (response_spec hyields).2.2

theorem holds_fault {l : Locals} {error : Exn} {p : Protocol} {w : Link σ}
    {post : Post Exn (Link σ) (Locals ⊕ Bytes)}
    (hlast : l.retriesLeft = 0 → post.raised error { w with protocol := p })
    (hretry : 0 < l.retriesLeft →
      post.ok (.inl { l with retriesLeft := l.retriesLeft - 1 }) { w with protocol := p }) :
    post.Holds ((fault l error p).land w) := by
  unfold fault
  by_cases h : l.retriesLeft = 0
  · simpa [h, Next.land, Post.Holds] using hlast h
  · simpa [h, Next.land, Post.Holds] using hretry (by omega)

theorem holds_resumeSend {l : Locals} {which : Outgoing} {p : Protocol} {w : Link σ}
    {completion : Completion} {post : Post Exn (Link σ) (Locals ⊕ Bytes)}
    (hdone : completion = .done →
      post.ok (.inl { l with sent := l.sent || which == .command }) { w with protocol := p })
    (hfault : ∀ error, completion = .raised error →
      post.Holds ((fault l error p.sendFailed).land w))
    (hcancelled : ∀ error, completion = .raised error → error.isException = false →
      post.raised error { w with protocol := p }) :
    post.Holds ((resumeSend l which p completion).land w) := by
  cases completion with
  | done => exact hdone rfl
  | raised error =>
      simp only [resumeSend]
      cases hexception : error.isException with
      | true => exact hfault error rfl
      | false => exact hcancelled error rfl hexception

theorem holds_resumeReceive {l : Locals} {p : Protocol} {w : Link σ}
    {result : Except Exn Bytes} {post : Post Exn (Link σ) (Locals ⊕ Bytes)}
    (hdata : ∀ data p', result = .ok data → p.feed data = .ok p' →
      post.ok (.inl l) { w with protocol := p' })
    (hunfed : ∀ data error, result = .ok data → p.feed data = .error error →
      post.raised error { w with protocol := p })
    (hfault : result = .error .timeoutError →
      post.Holds ((fault l .timeoutError p.reset).land w))
    (herror : ∀ error, result = .error error → error ≠ .timeoutError →
      post.raised error { w with protocol := p }) :
    post.Holds ((resumeReceive l p result).land w) := by
  cases result with
  | ok data =>
      simp only [resumeReceive]
      cases hfeed : p.feed data with
      | ok p' => exact hdata data p' rfl hfeed
      | error error => exact hunfed data error rfl hfeed
  | error error =>
      by_cases htimeout : error = .timeoutError
      · subst htimeout
        exact hfault rfl
      · have hresume : resumeReceive l p (.error error) = .raised error p := by
          cases error <;> first | rfl | contradiction
        rw [hresume]
        exact herror error rfl htimeout

theorem holds_answer {l : Locals} {r : Response} {p : Protocol} {w : Link σ}
    {post : Post Exn (Link σ) (Locals ⊕ Bytes)}
    (hfailed : ∀ error, r.getPayloadOrRaiseException = .error error →
      post.raised error { w with protocol := p })
    (hreturned : r.type = .ok → l.sent = true → post.ok (.inr r.payload) { w with protocol := p })
    (hagreed : l.sent = false → post.ok (.inl l) { w with protocol := p }) :
    post.Holds ((answer l r p).land w) := by
  unfold answer
  cases hr : r.getPayloadOrRaiseException with
  | error error => exact hfailed error hr
  | ok payload =>
      obtain ⟨htype, rfl⟩ := Response.getPayload_eq_ok hr
      cases hsent : l.sent with
      | true => exact hreturned htype hsent
      | false => exact hagreed hsent

/-- The rule by which invariants of the loop are proved, with a case for each way a pass ends. -/
theorem wp_pass {T : Transport σ} {call : Call} {l : Locals} {w : Link σ}
    {post : Post Exn (Link σ) (Locals ⊕ Bytes)} (hw : w.protocol.WellFormed)
    (hasked : w.protocol.Yields none w.protocol → w.protocol.inSync = false → ∀ s,
      post.ok (.inl { l with sent := false, commandToSend := some .getSync })
        { w.afterSend .getSync syncBytes .done s with
          protocol := w.protocol.startWaitingForSync })
    (hhanded : w.protocol.Yields none w.protocol → w.protocol.inSync = true → l.sent = false →
      ∀ raw, call.command.toBytes = .ok raw → ∀ s,
      post.ok (.inl { l with sent := true, commandToSend := some .command })
        { w.afterSend .command raw .done s with
          protocol := w.protocol.startWaitingForResponse call.command.responseLength })
    (hfed : w.protocol.settle.Starved → ∀ data p s,
      T.receive (receiveTimeout call l) w.transport = (.ended (.ok data), s) →
      w.protocol.settle.feed data = .ok p →
      post.ok (.inl l) { w.afterReceive (.ok data) s with protocol := p })
    (hagreed : ∀ r q, w.protocol.Yields (some (.response r)) q → l.sent = false →
      post.ok (.inl l) { w.afterEvent (.response r) with protocol := q })
    (hreturned : ∀ r q, w.protocol.Yields (some (.response r)) q → r.type = .ok → l.sent = true →
      post.ok (.inr r.payload) { w.afterEvent (.response r) with protocol := q })
    (hretried : ∀ l' error w', Fault T call l w l' error w' → 0 < l.retriesLeft →
      post.ok (.inl { l' with retriesLeft := l'.retriesLeft - 1 }) w')
    (hexhausted : ∀ l' error w', Fault T call l w l' error w' → l.retriesLeft = 0 →
      post.raised error w')
    (hfailed : ∀ error w', Failure T call l w error w' → post.raised error w')
    (hnever : w.protocol.settle.Starved → ∀ s,
      T.receive (receiveTimeout call l) w.transport = (.never, s) →
      post.running { w with protocol := w.protocol.settle, transport := s }) :
    wp (pass T call l) post w := by
  have hfault : ∀ {l' error p} {w' : Link σ}, Fault T call l w l' error { w' with protocol := p } →
      post.Holds ((fault l' error p).land w') := by
    intro l' error p w' h
    have hleft := h.retriesLeft
    exact holds_fault (fun hlast => hexhausted _ _ _ h (by omega))
      (fun hretry => hretried _ _ _ h (by omega))
  have hcases := turn_cases hw call l
  unfold wp pass
  generalize turn call l w.protocol = t at hcases
  cases hcases with
  | getSync hquiet hsync =>
      rcases hsend : T.send syncBytes w.transport with ⟨completion, s⟩
      simp only [hsend]
      apply holds_resumeSend
      · rintro rfl
        exact hasked hquiet hsync s
      · rintro error rfl
        exact hfault (.getSync hquiet hsync error s hsend)
      · rintro error rfl hexception
        exact hfailed _ _ (.getSync hquiet hsync error hexception s)
  | command hquiet hsync hsent raw hraw =>
      rcases hsend : T.send raw w.transport with ⟨completion, s⟩
      simp only [hsend]
      apply holds_resumeSend
      · rintro rfl
        rw [hsent]
        exact hhanded hquiet hsync hsent raw hraw s
      · rintro error rfl
        exact hfault (.command hquiet hsync hsent raw hraw error s hsend)
      · rintro error rfl hexception
        exact hfailed _ _ (.command hquiet hsync hsent raw hraw error hexception s)
  | unencodable hsync hsent error hraw =>
      simpa [Next.land, Post.Holds] using hfailed _ _ (.unencodable hsync hsent error hraw)
  | invalidState hsync hsent =>
      simpa [Next.land, Post.Holds] using hfailed _ _ (.invalidState hsync hsent)
  | receive hstarved =>
      rcases hreply : T.receive (receiveTimeout call l) w.transport with ⟨outcome, s⟩
      simp only [hreply]
      cases outcome with
      | never => exact hnever hstarved s hreply
      | ended result =>
          apply holds_resumeReceive
          · rintro data p rfl hfeed
            exact hfed hstarved data p s hreply hfeed
          · rintro data error rfl hfeed
            exact hfailed _ _ (.unfed hstarved data error hfeed s)
          · rintro rfl
            exact hfault (.timeout hstarved s hreply)
          · rintro error rfl htimeout
            exact hfailed _ _ (.unreceived hstarved error htimeout s)
  | response r q hyields =>
      apply holds_answer
      · exact fun error herror => hfailed _ _ (.response r q hyields error herror)
      · exact hreturned r q hyields
      · exact hagreed r q hyields
  | excess payload q hyields => exact hfault (.excess payload q hyields)
  | closed hbuffer hclosed => exact hfailed _ _ (.closed hbuffer hclosed)

end ApUploader
