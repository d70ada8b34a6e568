import ApUploader.Connection.Pass
import ApUploader.Logic.Completes
import ApUploader.Protocol.Awaiting

/-! # A device that answers at once

A `Wire` joins the loop to a device whose reply to each message is on its way as
soon as the message has been handed over, cut into arbitrary non-empty chunks.
One exchange over a wire takes finitely many passes of the loop, none of them a
fault, and leaves the protocol clean and in sync.
-/

namespace ApUploader

open Effect Protocol

variable {δ σ : Type}

structure Wire (δ : Type) where
  device : δ
  pending : Bytes := []
  reads : Nat := 0

/-- The `k`-th receive takes up to `cut k + 1` of the bytes on their way; `silence` is how a
receive ends when there are none. -/
def wireTransport (respond : Bytes → δ → Bytes × δ) (cut : Nat → Nat) (silence : ReceiveOutcome) :
    Transport (Wire δ) where
  send raw s := (.done, { s with
    device := (respond raw s.device).2
    pending := s.pending ++ (respond raw s.device).1 })
  receive _ s :=
    if s.pending = [] then (silence, s)
    else (.ended (.ok (s.pending.take (cut s.reads + 1))), { s with
      pending := s.pending.drop (cut s.reads + 1)
      reads := s.reads + 1 })

/-! ## Faults -/

def Action.isFault : Action → Bool
  | .sent _ _ _ (.raised _) => true
  | .received (.error .timeoutError) => true
  | .reported (.excessData _) => true
  | _ => false

def faults (trace : List Action) : Nat := trace.countP Action.isFault

@[simp] theorem faults_concat (trace : List Action) (a : Action) :
    faults (trace ++ [a]) = faults trace + if a.isFault then 1 else 0 := by
  simp [faults, List.countP_append, List.countP_singleton]

/-! ## Single passes -/

section Passes

variable {T : Transport σ} (call : Call) {l : Locals} {w : Link σ} {p q : Protocol} {s : σ}
  {data payload raw : Bytes}

theorem pass_data (hevent : w.protocol.nextEvent = (.ok (some .needMoreData), q))
    (hreceive : T.receive (receiveTimeout call l) w.transport = (.ended (.ok data), s))
    (hfeed : q.feed data = .ok p) :
    pass T call l w = (.ok (.inl l), ⟨p, s, w.trace ++ [.received (.ok data)]⟩) := by
  simp [pass, turn, hevent, hreceive, resumeReceive, hfeed, Next.land]

theorem pass_timeout (hevent : w.protocol.nextEvent = (.ok (some .needMoreData), q))
    (hreceive : T.receive (receiveTimeout call l) w.transport =
      (.ended (.error .timeoutError), s)) (hleft : 0 < l.retriesLeft) :
    pass T call l w = (.ok (.inl { l with retriesLeft := l.retriesLeft - 1 }),
      ⟨q.reset, s, w.trace ++ [.received (.error .timeoutError)]⟩) := by
  have hne : l.retriesLeft ≠ 0 := by omega
  simp [pass, turn, hevent, hreceive, resumeReceive, fault, hne, Next.land]

theorem pass_never (hevent : w.protocol.nextEvent = (.ok (some .needMoreData), q))
    (hreceive : T.receive (receiveTimeout call l) w.transport = (.never, s)) :
    pass T call l w = (.running, { w with protocol := q, transport := s }) := by
  simp [pass, turn, hevent, hreceive]

theorem pass_excess (hevent : w.protocol.nextEvent = (.ok (some (.excessData payload)), q))
    (hleft : 0 < l.retriesLeft) :
    pass T call l w = (.ok (.inl { l with retriesLeft := l.retriesLeft - 1 }),
      ⟨q.reset, w.transport, w.trace ++ [.reported (.excessData payload)]⟩) := by
  have hne : l.retriesLeft ≠ 0 := by omega
  simp [pass, turn, hevent, fault, hne, Next.land]

theorem pass_getSync (hevent : w.protocol.nextEvent = (.ok none, w.protocol))
    (hsync : w.protocol.inSync = false) (hsend : T.send syncBytes w.transport = (.done, s)) :
    pass T call l w = (.ok (.inl ⟨some .getSync, l.retriesLeft, false⟩),
      ⟨w.protocol.startWaitingForSync, s, w.trace ++ [.sent .getSync syncBytes false .done]⟩) := by
  simp [pass, turn, hevent, hsync, sendTurn_getSync, hsend, resumeSend, Next.land]

theorem pass_command (hevent : w.protocol.nextEvent = (.ok none, w.protocol))
    (hsync : w.protocol.inSync = true) (hsent : l.sent = false)
    (hraw : call.command.toBytes = .ok raw) (hsend : T.send raw w.transport = (.done, s)) :
    pass T call l w = (.ok (.inl ⟨some .command, l.retriesLeft, true⟩),
      ⟨w.protocol.startWaitingForResponse call.command.responseLength, s,
        w.trace ++ [.sent .command raw true .done]⟩) := by
  simp [pass, turn, hevent, hsync, hsent, sendTurn_command hsync hraw, hsend, resumeSend, Next.land]

theorem pass_syncReply
    (hevent : w.protocol.nextEvent = (.ok (some (.response ⟨.ok, payload⟩)), q))
    (hsent : l.sent = false) :
    pass T call l w = (.ok (.inl l),
      ⟨q, w.transport, w.trace ++ [.reported (.response ⟨.ok, payload⟩)]⟩) := by
  simp [pass, turn, hevent, Response.getPayloadOrRaiseException, hsent, Next.land]

theorem pass_reply
    (hevent : w.protocol.nextEvent = (.ok (some (.response ⟨.ok, payload⟩)), q))
    (hsent : l.sent = true) :
    pass T call l w = (.ok (.inr payload),
      ⟨q, w.transport, w.trace ++ [.reported (.response ⟨.ok, payload⟩)]⟩) := by
  simp [pass, turn, hevent, Response.getPayloadOrRaiseException, hsent, Next.land]

end Passes

/-! ## Exchanges -/

/-- Nothing is left over: the protocol has no received bytes or payload and is open. -/
structure Clean (p : Protocol) : Prop where
  notWaiting : ¬ p.Waiting
  buffer : p.buffer = []
  payload : p.payload = []
  isOpen : p.bufferClosed = false

theorem Clean.nextEvent {p : Protocol} (h : Clean p) : p.nextEvent = (.ok none, p) := by
  have hl : p.state ≠ .waitResponseLength := fun hs => h.notWaiting (.inl hs)
  have hr : p.state ≠ .waitResponse := fun hs => h.notWaiting (.inr (.inl hs))
  have hs : p.state ≠ .waitSync := fun hs => h.notWaiting (.inr (.inr hs))
  simp [Protocol.nextEvent, h.isOpen, waitResponseLengthBlock, hl, waitResponseBlock, hr,
    waitSyncBlock, hs, purgeExcessData, h.buffer, h.payload]

theorem clean_synced : Clean (synced []) := ⟨by decide, rfl, rfl, rfl⟩

/-- The state of a wire between two exchanges, `d` being the device's. -/
structure AtRest (d : δ) (w : Link (Wire δ)) : Prop where
  protocol : w.protocol = synced []
  device : w.transport.device = d
  pending : w.transport.pending = []

section Exchanges

variable (respond : Bytes → δ → Bytes × δ) (cut : Nat → Nat) (silence : ReceiveOutcome)
  (call : Call) {l : Locals} {w : Link (Wire δ)}

/-- As long as what has arrived is not complete, the loop takes the rest from the wire. -/
theorem rounds_receiving {n : Int} {received : Bytes} (hw : w.protocol.WellFormed)
    (hread : Reading n received w.protocol)
    (hstarved : ∀ b, b <+: received ++ w.transport.pending →
      b.length < (received ++ w.transport.pending).length → (awaiting n b).settle.Starved) :
    ∃ k w', Rounds (pass (wireTransport respond cut silence) call) k l w l w' ∧
      w'.protocol.WellFormed ∧ Reading n (received ++ w.transport.pending) w'.protocol ∧
      w'.transport.device = w.transport.device ∧ w'.transport.pending = [] ∧
      faults w'.trace = faults w.trace := by
  induction hlen : w.transport.pending.length using Nat.strong_induction_on
    generalizing w received with
  | _ len ih =>
      by_cases hpending : w.transport.pending = []
      · rw [hpending, List.append_nil]
        exact ⟨0, w, .refl _ _, hw, hread, rfl, hpending, rfl⟩
      · have hpos : 0 < w.transport.pending.length := List.length_pos_iff.mpr hpending
        have hnow : w.protocol.settle.Starved := by
          rw [hread]
          exact hstarved received (List.prefix_append _ _) (by simp [hpos])
        let chunk := w.transport.pending.take (cut w.transport.reads + 1)
        have hchunk : chunk ≠ [] := by simp [chunk, hpending]
        have hevent := nextEvent_of_starved hw hread.isOpen hnow
        have hopen : w.protocol.settle.bufferClosed = false := hread.settle.isOpen
        have hreceive : (wireTransport respond cut silence).receive (receiveTimeout call l)
            w.transport = (.ended (.ok chunk), { w.transport with
              pending := w.transport.pending.drop (cut w.transport.reads + 1)
              reads := w.transport.reads + 1 }) := by
          simp [wireTransport, hpending, chunk]
        have hpass := pass_data call hevent hreceive (feed_of_open hopen hchunk)
        have hwhole : received ++ chunk ++ w.transport.pending.drop (cut w.transport.reads + 1) =
            received ++ w.transport.pending := by
          rw [List.append_assoc, List.take_append_drop]
        have hless : (w.transport.pending.drop (cut w.transport.reads + 1)).length < len := by
          rw [← hlen, List.length_drop]
          omega
        obtain ⟨k, w', hrounds, hwf, hreading, hdevice, hdone, hfaults⟩ :=
          ih _ hless (w := ⟨w.protocol.settle.append chunk, { w.transport with
              pending := w.transport.pending.drop (cut w.transport.reads + 1)
              reads := w.transport.reads + 1 }, w.trace ++ [.received (.ok chunk)]⟩)
            ((settle_wellFormed hw).withBuffer _ _) (hread.settle.append chunk)
            (by simpa only [hwhole] using hstarved) rfl
        rw [hwhole] at hreading
        refine ⟨1 + k, w', (Rounds.one hpass).trans hrounds, hwf, hreading, hdevice, hdone, ?_⟩
        rw [hfaults]
        simp [Action.isFault]

/-- The passes that read a reply from the wire, up to its last byte. -/
theorem rounds_reading {n : Int} (payload : Bytes) {received : Bytes} (status : UInt8)
    (hpayload : Declares n payload) (hw : w.protocol.WellFormed)
    (hread : Reading n received w.protocol)
    (hrest : received ++ w.transport.pending =
      replyBody n payload ++ [OpCode.inSync.toByte, status]) :
    ∃ k w', Rounds (pass (wireTransport respond cut silence) call) k l w l w' ∧
      w'.protocol.WellFormed ∧
      Reading n (replyBody n payload ++ [OpCode.inSync.toByte, status]) w'.protocol ∧
      w'.transport.device = w.transport.device ∧ w'.transport.pending = [] ∧
      faults w'.trace = faults w.trace := by
  rw [← hrest]
  apply rounds_receiving respond cut silence call hw hread
  intro b hpart hshort
  rw [hrest] at hpart hshort
  exact starved_of_prefix hpayload hpart (by simpa using hshort)

/-- A clean protocol out of sync gets in sync with one GET_SYNC. -/
theorem exchange_sync (hclean : Clean w.protocol) (hsync : w.protocol.inSync = false)
    (hpending : w.transport.pending = [])
    (hreply : (respond syncBytes w.transport.device).1 = (Response.success []).toBytes) :
    ∃ k w', Rounds (pass (wireTransport respond cut silence) call) k l w
        ⟨some .getSync, l.retriesLeft, false⟩ w' ∧
      AtRest (respond syncBytes w.transport.device).2 w' ∧ faults w'.trace = faults w.trace := by
  have hsend : (wireTransport respond cut silence).send syncBytes w.transport =
      (.done, { w.transport with
        device := (respond syncBytes w.transport.device).2
        pending := (Response.success []).toBytes }) := by
    simp [wireTransport, hpending, hreply]
  have hpass := pass_getSync call (l := l) hclean.nextEvent hsync hsend
  have hstart : w.protocol.startWaitingForSync = awaiting 0 [] := by
    rw [← startWaitingForResponse_zero, startWaitingForResponse_clean 0 hclean.payload
      hclean.isOpen, hclean.buffer]
  rw [hstart] at hpass
  obtain ⟨k, w', hrounds, hwf, hread, hdevice, hdone, hfaults⟩ :=
    rounds_reading respond cut silence call [] 0x10 (l := ⟨some .getSync, l.retriesLeft, false⟩)
      (w := ⟨awaiting 0 [], { w.transport with
        device := (respond syncBytes w.transport.device).2
        pending := (Response.success []).toBytes },
        w.trace ++ [.sent .getSync syncBytes false .done]⟩)
      (by decide) (awaiting_wellFormed 0 []) (Reading.awaiting 0 []) rfl
  have hsettle : w'.protocol.settle =
      syncing [] (OpCode.inSync.toByte :: ResponseType.ok.toByte :: []) :=
    hread.trans (settle_replyBody (n := 0) (by decide) _)
  have hevent := nextEvent_of_reply hwf hread.isOpen (by decide) hsettle
  have hlast := pass_syncReply call (T := wireTransport respond cut silence)
    (l := ⟨some .getSync, l.retriesLeft, false⟩) hevent rfl
  refine ⟨1 + k + 1, _, ((Rounds.one hpass).trans hrounds).trans (.one hlast),
    ⟨rfl, hdevice, hdone⟩, ?_⟩
  simp [hfaults, Action.isFault]

/-- A clean protocol in sync sends the command and returns the payload of the reply. -/
theorem exchange_command (hclean : Clean w.protocol) (hsync : w.protocol.inSync = true)
    (hsent : l.sent = false) (hpending : w.transport.pending = []) {raw payload : Bytes}
    (hraw : call.command.toBytes = .ok raw)
    (hpayload : Declares call.command.responseLength payload)
    (hreply : (respond raw w.transport.device).1 =
      (Response.success (replyBody call.command.responseLength payload)).toBytes) :
    ∃ w', Ends (pass (wireTransport respond cut silence) call) l w payload w' ∧
      AtRest (respond raw w.transport.device).2 w' ∧ faults w'.trace = faults w.trace := by
  have hsend : (wireTransport respond cut silence).send raw w.transport =
      (.done, { w.transport with
        device := (respond raw w.transport.device).2
        pending := (Response.success
          (replyBody call.command.responseLength payload)).toBytes }) := by
    simp [wireTransport, hpending, hreply]
  have hpass := pass_command call (l := l) hclean.nextEvent hsync hsent hraw hsend
  rw [startWaitingForResponse_clean _ hclean.payload hclean.isOpen, hclean.buffer] at hpass
  obtain ⟨k, w', hrounds, hwf, hread, hdevice, hdone, hfaults⟩ :=
    rounds_reading respond cut silence call payload 0x10 (l := ⟨some .command, l.retriesLeft, true⟩)
      (w := ⟨awaiting call.command.responseLength [], { w.transport with
        device := (respond raw w.transport.device).2
        pending := (Response.success (replyBody call.command.responseLength payload)).toBytes },
        w.trace ++ [.sent .command raw true .done]⟩)
      hpayload (awaiting_wellFormed _ []) (Reading.awaiting _ []) rfl
  have hsettle : w'.protocol.settle =
      syncing payload (OpCode.inSync.toByte :: ResponseType.ok.toByte :: []) :=
    hread.trans (settle_replyBody hpayload _)
  have hevent := nextEvent_of_reply hwf hread.isOpen (by decide) hsettle
  have hlast := pass_reply call (T := wireTransport respond cut silence)
    (l := ⟨some .command, l.retriesLeft, true⟩) hevent rfl
  refine ⟨_, ⟨1 + k, _, _, (Rounds.one hpass).trans hrounds, hlast⟩, ⟨rfl, hdevice, hdone⟩, ?_⟩
  simp [hfaults, Action.isFault]

/-- A wire that stays silent leaves the loop waiting for the rest of a short reply. -/
theorem hangs_of_short_reply {raw : Bytes} {n : Nat} {d : δ} (hrest : AtRest d w)
    (hraw : call.command.toBytes = .ok raw) (hn : call.command.responseLength = n)
    (hshort : (respond raw d).1.length < n) :
    Hangs (fun fuel => processCommandInner (wireTransport respond cut .never) call fuel) w := by
  have hclean : Clean w.protocol := hrest.protocol ▸ clean_synced
  have hsync : w.protocol.inSync = true := by rw [hrest.protocol]; rfl
  have hsend : (wireTransport respond cut .never).send raw w.transport =
      (.done, { w.transport with
        device := (respond raw d).2
        pending := (respond raw d).1 }) := by
    simp [wireTransport, hrest.pending, hrest.device]
  have hpass := pass_command call (l := call.locals) hclean.nextEvent hsync rfl hraw hsend
  rw [startWaitingForResponse_clean _ hclean.payload hclean.isOpen, hclean.buffer, hn] at hpass
  have hstarved : ∀ b : Bytes, b.length < n → (awaiting n b).settle.Starved :=
    fun b hb => starved_of_short hb
  have hprefixes : ∀ b, b <+: [] ++ (respond raw d).1 →
      b.length < ([] ++ (respond raw d).1).length → (awaiting n b).settle.Starved := by
    intro b hpart _
    have hle := hpart.length_le
    rw [List.nil_append] at hle
    exact hstarved b (by omega)
  obtain ⟨k, w', hrounds, hwf, hread, _, hdone, _⟩ :=
    rounds_receiving respond cut .never call (l := ⟨some .command, call.maxRetries, true⟩)
      (w := ⟨awaiting n [], { w.transport with
        device := (respond raw d).2
        pending := (respond raw d).1 }, w.trace ++ [.sent .command raw true .done]⟩)
      (awaiting_wellFormed (n : Int) []) (Reading.awaiting (n : Int) []) hprefixes
  have hnow : w'.protocol.settle.Starved := by
    rw [hread]
    exact hstarved _ (by simpa using hshort)
  have hevent := nextEvent_of_starved hwf hread.isOpen hnow
  have hlast := pass_never call (T := wireTransport respond cut .never)
    (l := ⟨some .command, call.maxRetries, true⟩) hevent (s := w'.transport)
    (by simp [wireTransport, hdone])
  exact ((Rounds.one hpass).trans hrounds).hangs (by rw [hlast])

end Exchanges

end ApUploader
