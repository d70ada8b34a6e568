import ApUploader.Connection.Conversation

/-! # Which transmission a reply belongs to

A reply does not name its command, so the host goes by the order of the replies.
That is sound as long as a GET_SYNC is handed over only when nothing else is on its
way: then everything in flight or heard belongs to the last transmission. A late
acknowledgment behind which a GET_SYNC was sent is taken for the reply to the
GET_SYNC, and the reply to the GET_SYNC for that of the command.
-/

namespace ApUploader

open Protocol

/-! ## Replies are read to their end -/

theorem not_starved_of_response {p q : Protocol} {r : Response}
    (h : p.Yields (some (.response r)) q) : ¬ p.settle.Starved := by
  cases h with
  | response hstate type rest htype hbuffer =>
      rintro (⟨hs, _⟩ | ⟨hs, _⟩ | ⟨_, hb⟩)
      · rw [hstate] at hs
        cases hs
      · rw [hstate] at hs
        cases hs
      · simp [hbuffer] at hb

/-- A protocol that reports a response has been fed the whole reply and has nothing left. -/
theorem reply_read_whole {p q : Protocol} {r : Response} {n : Int} {payload heard ahead : Bytes}
    {status : UInt8} (hyields : p.Yields (some (.response r)) q) (hread : Reading n heard p)
    (hpayload : Declares n payload)
    (hbytes : heard ++ ahead = replyBody n payload ++ [OpCode.inSync.toByte, status]) :
    ahead = [] ∧ q.buffer = [] := by
  have hfed := not_starved_of_response hyields
  have hlength := congrArg List.length hbytes
  simp only [List.length_append, List.length_cons, List.length_nil] at hlength
  have hwhole : (replyBody n payload).length + 2 ≤ heard.length := by
    by_contra hshort
    apply hfed
    rw [hread]
    apply starved_of_prefix hpayload
    · rw [← hbytes]
      exact List.prefix_append _ _
    · omega
  have hahead : ahead = [] := List.eq_nil_of_length_eq_zero (by omega)
  rw [hahead, List.append_nil] at hbytes
  have hsettle : p.settle = syncing payload [OpCode.inSync.toByte, status] := by
    rw [hread, hbytes]
    exact settle_replyBody hpayload _
  cases hyields with
  | response hstate type rest htype hbuffer =>
      have hrest : OpCode.inSync.toByte :: type.toByte :: rest =
          [OpCode.inSync.toByte, status] := by
        rw [← hbuffer, hsettle]
        rfl
      have hnone : rest = [] := (List.cons.inj (List.cons.inj hrest).2).2
      exact ⟨hahead, hnone⟩

/-- The reply is one the device can give to its request. -/
def Reply.Legal (reply : Reply) : Prop :=
  ∃ type payload, (type = .ok → Declares reply.request.command.responseLength payload) ∧
    reply.bytes = answerBytes reply.request.command type payload

theorem answerBytes_ok (c : Command) (payload : Bytes) : answerBytes c .ok payload =
    replyBody c.responseLength payload ++ [OpCode.inSync.toByte, OpCode.ok.toByte] := rfl

theorem answerBytes_failed {c : Command} {type : ResponseType} (h : type ≠ .ok)
    (payload : Bytes) : answerBytes c type payload = [OpCode.inSync.toByte, type.toByte] := by
  cases type with
  | ok => exact (h rfl).elim
  | _ => rfl

theorem Reply.Legal.read_whole {reply : Reply} (h : reply.Legal) {p q : Protocol} {r : Response}
    {heard ahead : Bytes} (hyields : p.Yields (some (.response r)) q)
    (hread : Reading reply.request.command.responseLength heard p)
    (hbytes : heard ++ ahead = reply.bytes) : ahead = [] ∧ q.buffer = [] := by
  obtain ⟨type, payload, hpayload, hreply⟩ := h
  by_cases htype : type = .ok
  · rw [hreply, htype, answerBytes_ok] at hbytes
    exact reply_read_whole hyields hread (hpayload htype) hbytes
  · rw [hreply, answerBytes_failed htype] at hbytes
    by_cases hzero : reply.request.command.responseLength = 0
    · rw [hzero] at hread
      have hnone : Declares 0 [] := by decide
      have hbody : heard ++ ahead = replyBody 0 [] ++ [OpCode.inSync.toByte, type.toByte] := hbytes
      exact reply_read_whole hyields hread hnone hbody
    · have hlength := congrArg List.length hbytes
      simp only [List.length_append, List.length_cons, List.length_nil] at hlength
      refine (not_starved_of_response hyields ?_).elim
      rw [hread]
      exact starved_of_two hzero (by omega)

/-! ## The invariant -/

/-- Everything on its way or heard belongs to the last transmission. -/
inductive Follows (t : Transmission) (s : Conversation) : Prop where
  | asked (hrequests : s.requests = [t]) (hreplies : s.replies = []) (harrived : s.arrived = [])
      (hheard : s.heard = [])
  | lost (hsilent : s.Silent) (hheard : s.heard = [])
  | answered (reply : Reply) (hmem : reply ∈ s.produced) (hlegal : reply.Legal)
      (hrequest : reply.request = t) (hrequests : s.requests = []) (hreplies : s.replies = [reply])
      (harrived : s.arrived = []) (hheard : s.heard = [])
  | delivered (reply : Reply) (hmem : reply ∈ s.produced) (hlegal : reply.Legal)
      (hrequest : reply.request = t) (hrequests : s.requests = []) (hreplies : s.replies = [])
      (hbytes : s.heard ++ s.arrived = reply.marked)

/-- The host reads the reply to the last transmission of its call. -/
structure Exchange (s : Conversation) (call : Call) (l : Locals) (t : Transmission) : Prop where
  running : s.running = some (call, l)
  current : t.call = s.calls
  sent : l.sent = true → t.which = .command
  reading : Reading t.command.responseLength (s.heard.map Prod.snd) s.protocol
  follows : Follows t s

structure Orderly (s : Conversation) : Prop where
  wellFormed : s.protocol.WellFormed
  quiet : s.protocol.inSync = true → s.Silent
  waiting : s.protocol.Waiting → ∃ call l t, Exchange s call l t
  returned : ∀ r ∈ s.returned, r.Attributed s.produced

open Conversation

variable {s s' : Conversation} {call : Call} {l : Locals}

theorem orderly_start : Orderly {} := by
  refine ⟨new_wellFormed, ?_, ?_, by simp⟩
  · intro hsync
    cases hsync
  · intro hwait
    simp [Waiting, Protocol.new] at hwait

/-! ## Passes of the host -/

theorem Orderly.idle (h : Orderly s) {p : Protocol} (hw : p.WellFormed)
    (hquiet : p.inSync = true → s.Silent) (hidle : ¬ p.Waiting) (running : Option (Call × Locals)) :
    Orderly { s with protocol := p, running := running } :=
  ⟨hw, fun hsync => ⟨(hquiet hsync).requests, (hquiet hsync).replies, (hquiet hsync).arrived⟩,
    fun hwait => (hidle hwait).elim, h.returned⟩

theorem Orderly.fault (h : Orderly s) (error : Exn) (p : Protocol) :
    Orderly (s.land call (fault l error p.reset)) := by
  have hquiet : p.reset.inSync = true → s.Silent := fun hsync => by cases hsync
  have hidle := not_waiting_reset p
  unfold ApUploader.fault
  split_ifs
  · exact h.idle (reset_wellFormed p) hquiet hidle _
  · exact h.idle (reset_wellFormed p) hquiet hidle _

/-- A message handed over while nothing is on its way is the only one to be followed. -/
theorem Orderly.transmit (h : Orderly s) (hsilent : s.Silent) {which : Outgoing}
    (hsent : l.sent = true → which = .command) :
    Orderly ((s.transmit call which).land call
      (.loop l (awaiting (call.outgoing which).responseLength []))) := by
  let t : Transmission := ⟨s.transmissions, s.calls, which, call.outgoing which⟩
  let c := call.outgoing which
  have hrequests : s.requests ++ [t] = [t] := by
    rw [hsilent.requests]
    rfl
  have hwaiting : (awaiting c.responseLength []).Waiting := awaiting_waiting _ _
  have hread : Reading c.responseLength [] (awaiting c.responseLength []) := Reading.awaiting _ _
  refine ⟨awaiting_wellFormed _ _, ?_, ?_, h.returned⟩
  · intro hsync
    have hout : (awaiting c.responseLength []).inSync = true := hsync
    rw [inSync_of_waiting hwaiting] at hout
    cases hout
  · intro _
    have hfollows : Follows t ((s.transmit call which).land call
        (.loop l (awaiting c.responseLength []))) :=
      .asked hrequests hsilent.replies hsilent.arrived rfl
    exact ⟨call, l, t, rfl, rfl, hsent, hread, hfollows⟩

theorem starved_of_unheard (c : Command) : (awaiting c.responseLength []).settle.Starved := by
  rcases c.responseLength_cases with ⟨hn, _⟩ | hn | hn
  · rw [hn]
    exact starved_of_short_prefix (by decide) (by decide)
  · rw [hn]
    exact .inr (.inr ⟨rfl, .inl rfl⟩)
  · rw [hn]
    exact starved_of_short (n := 4) (by decide)

/-- Only a reply that has been delivered and heard to its end is reported. -/
theorem Exchange.heard_whole {t : Transmission} (h : Exchange s call l t) {r : Response}
    {q : Protocol} (hyields : s.protocol.Yields (some (.response r)) q) :
    s.Silent ∧ q.buffer = [] ∧
      ∃ reply ∈ s.produced, reply.request = t ∧ s.heard = reply.marked := by
  have hread := h.reading
  have hheard : s.heard ≠ [] := by
    intro hnone
    rw [hnone] at hread
    apply not_starved_of_response hyields
    rw [hread]
    exact starved_of_unheard _
  cases h.follows with
  | asked _ _ _ hnone => exact (hheard hnone).elim
  | lost _ hnone => exact (hheard hnone).elim
  | answered _ _ _ _ _ _ _ hnone => exact (hheard hnone).elim
  | delivered reply hmem hlegal hrequest hrequests hreplies hbytes =>
      rw [← hrequest] at hread
      have hsplit : s.heard.map Prod.snd ++ s.arrived.map Prod.snd = reply.bytes := by
        rw [← List.map_append, hbytes]
        simp [Reply.marked]
      obtain ⟨harrived, hbuffer⟩ := hlegal.read_whole hyields hread hsplit
      have hempty : s.arrived = [] := List.map_eq_nil_iff.mp harrived
      rw [hempty, List.append_nil] at hbytes
      exact ⟨⟨hrequests, hreplies, hempty⟩, hbuffer, reply, hmem, hrequest, hbytes⟩

theorem Orderly.answer (h : Orderly s) (hrunning : s.running = some (call, l)) {r : Response}
    {q : Protocol} (hyields : s.protocol.Yields (some (.response r)) q) :
    Orderly (s.land call (answer l r q)) := by
  obtain ⟨hwait, hsync, hw⟩ := response_spec hyields
  have hidle : ¬ q.Waiting := by
    intro hq
    rw [inSync_of_waiting hq] at hsync
    cases hsync
  obtain ⟨call', l', t, hexchange⟩ := h.waiting hwait
  obtain ⟨hsilent, hbuffer, reply, hmem, hrequest, hheard⟩ := hexchange.heard_whole hyields
  have hquiet : q.inSync = true → s.Silent := fun _ => hsilent
  have hsame : (call', l') = (call, l) := by
    rw [hexchange.running] at hrunning
    exact Option.some.inj hrunning
  cases hsame
  unfold ApUploader.answer
  cases r.getPayloadOrRaiseException with
  | error error => exact h.idle hw hquiet hidle none
  | ok payload =>
      dsimp only
      split_ifs with hsent
      · refine ⟨hw, fun _ => ⟨hsilent.requests, hsilent.replies, hsilent.arrived⟩,
          fun hwait => (hidle hwait).elim, fun r hr => ?_⟩
        rcases List.mem_append.mp hr with hr | hr
        · exact h.returned r hr
        · rw [List.mem_singleton.mp hr]
          refine ⟨reply, hmem, ?_, ?_, ?_⟩
          · rw [hrequest]
            exact hexchange.current
          · rw [hrequest]
            exact hexchange.sent hsent
          · simp [hbuffer, hheard]
      · exact h.idle hw hquiet hidle _

/-- A pass of the host keeps the order unless it resyncs over messages on their way. -/
theorem Orderly.pass (h : Orderly s) (hrunning : s.running = some (call, l))
    (hresync : ∀ raw resume, turn call l s.protocol = .send .getSync raw resume → s.Silent)
    (hstep : s.passStep call (turn call l s.protocol) = some s') : Orderly s' := by
  have hturn := turn_cases h.wellFormed call l
  generalize turn call l s.protocol = turn at hturn hresync hstep
  have hsynced : s.protocol.inSync = true → ¬ s.protocol.Waiting := by
    intro hsync hwait
    rw [inSync_of_waiting hwait] at hsync
    cases hsync
  cases hturn with
  | getSync hquiet hsync =>
      obtain ⟨_, hbuffer, hpayload, hopen⟩ := not_waiting_of_quiet hquiet
      have hstart : s.protocol.startWaitingForSync = awaiting 0 [] := by
        rw [← startWaitingForResponse_zero, startWaitingForResponse_clean 0 hpayload hopen, hbuffer]
      cases hstep
      rw [hstart]
      exact h.transmit (hresync _ _ rfl) (fun hsent => by cases hsent)
  | command hquiet hsync hsent raw hraw =>
      obtain ⟨_, hbuffer, hpayload, hopen⟩ := not_waiting_of_quiet hquiet
      cases hstep
      rw [startWaitingForResponse_clean _ hpayload hopen, hbuffer]
      exact h.transmit (h.quiet hsync) (fun _ => rfl)
  | unencodable hsync _ error _ =>
      cases hstep
      exact h.idle h.wellFormed h.quiet (hsynced hsync) none
  | invalidState hsync _ =>
      cases hstep
      exact h.idle h.wellFormed h.quiet (hsynced hsync) none
  | receive hstarved => cases hstep
  | response r q hyields =>
      cases hstep
      exact h.answer hrunning hyields
  | excess payload q hyields =>
      cases hstep
      exact h.fault _ q
  | closed hbuffer hclosed =>
      cases hstep
      refine h.idle h.wellFormed h.quiet (fun hwait => ?_) none
      obtain ⟨_, _, _, hexchange⟩ := h.waiting hwait
      rw [hexchange.reading.isOpen] at hclosed
      cases hclosed

/-- Bytes arrive only for the transmission that is followed, and receiving some keeps the rest. -/
theorem Follows.receive {t : Transmission} (h : Follows t s) {count : Nat}
    (hcount : count < s.arrived.length) (p : Protocol) (running : Option (Call × Locals)) :
    Follows t { s with
      protocol := p
      running := running
      arrived := s.arrived.drop (count + 1)
      heard := s.heard ++ s.arrived.take (count + 1) } := by
  have hsome : s.arrived ≠ [] := by
    intro hnone
    simp [hnone] at hcount
  cases h with
  | asked _ _ hnone _ => exact (hsome hnone).elim
  | lost hsilent _ => exact (hsome hsilent.arrived).elim
  | answered _ _ _ _ _ _ hnone _ => exact (hsome hnone).elim
  | delivered reply hmem hlegal hrequest hrequests hreplies hbytes =>
      refine .delivered reply hmem hlegal hrequest hrequests hreplies ?_
      rw [List.append_assoc, List.take_append_drop]
      exact hbytes

theorem Orderly.receive (h : Orderly s) (hrunning : s.running = some (call, l)) {count : Nat}
    (hstep : s.receiveStep call count (turn call l s.protocol) = some s') : Orderly s' := by
  have hturn := turn_cases h.wellFormed call l
  generalize turn call l s.protocol = turn at hturn hstep
  cases hturn with
  | receive hstarved =>
      unfold receiveStep at hstep
      split_ifs at hstep with hcount
      cases hstep
      let data := (s.arrived.take (count + 1)).map Prod.snd
      have hdata : data ≠ [] := by
        intro hnone
        have hlength := congrArg List.length hnone
        simp only [data, List.length_map, List.length_take, List.length_nil] at hlength
        omega
      have hwait := waiting_of_starved hstarved
      obtain ⟨call', l', t, hexchange⟩ := h.waiting hwait
      have hsame : (call', l') = (call, l) := by
        rw [hexchange.running] at hrunning
        exact Option.some.inj hrunning
      cases hsame
      have hread := hexchange.reading.settle
      have hfeed := feed_of_open hread.isOpen hdata
      have hresume : resumeReceive l s.protocol.settle (.ok data) =
          .loop l (s.protocol.settle.append data) := by
        simp only [resumeReceive, hfeed]
      have hwaiting : (s.protocol.settle.append data).Waiting := settle_waiting hwait
      change Orderly (land _ call (resumeReceive l s.protocol.settle (.ok data)))
      rw [hresume]
      refine ⟨feed_wellFormed (settle_wellFormed h.wellFormed) hfeed, ?_, ?_, h.returned⟩
      · intro hsync
        have hout : (s.protocol.settle.append data).inSync = true := hsync
        rw [inSync_of_waiting hwaiting] at hout
        cases hout
      · intro _
        refine ⟨call, l, t, rfl, hexchange.current, hexchange.sent, ?_,
          hexchange.follows.receive hcount _ _⟩
        have happend := hread.append data
        rw [← List.map_append] at happend
        exact happend
  | _ => cases hstep

theorem Orderly.timeout (h : Orderly s)
    (hstep : s.timeoutStep call (turn call l s.protocol) = some s') : Orderly s' := by
  have hturn := turn_cases h.wellFormed call l
  generalize turn call l s.protocol = turn at hturn hstep
  cases hturn with
  | receive hstarved =>
      cases hstep
      exact h.fault _ _
  | _ => cases hstep

/-! ## Moves of the channels and the device -/

/-- A move of the channels or the device that keeps what is on its way to the last transmission. -/
theorem Orderly.elsewhere (h : Orderly s) (hprotocol : s'.protocol = s.protocol)
    (hrunning : s'.running = s.running) (hcalls : s'.calls = s.calls) (hheard : s'.heard = s.heard)
    (hreturned : s'.returned = s.returned) (hproduced : s.produced ⊆ s'.produced)
    (hsilent : s.Silent → s'.Silent) (hfollows : ∀ t, Follows t s → Follows t s') : Orderly s' := by
  refine ⟨?_, ?_, ?_, ?_⟩
  · rw [hprotocol]
    exact h.wellFormed
  · intro hsync
    rw [hprotocol] at hsync
    exact hsilent (h.quiet hsync)
  · intro hwait
    rw [hprotocol] at hwait
    obtain ⟨call, l, t, hexchange⟩ := h.waiting hwait
    refine ⟨call, l, t, ?_, ?_, hexchange.sent, ?_, hfollows t hexchange.follows⟩
    · rw [hrunning]
      exact hexchange.running
    · rw [hcalls]
      exact hexchange.current
    · rw [hprotocol, hheard]
      exact hexchange.reading
  · intro r hr
    rw [hreturned] at hr
    obtain ⟨reply, hmem, hattributed⟩ := h.returned r hr
    exact ⟨reply, hproduced hmem, hattributed⟩

/-- The device answers the transmission that is followed. -/
theorem Orderly.answered (h : Orderly s) {request : Transmission} {rest : List Transmission}
    (hrequests : s.requests = request :: rest) {reply : Reply} (hrequest : reply.request = request)
    (hlegal : reply.Legal) :
    Orderly { s with
      requests := rest
      replies := s.replies ++ [reply]
      produced := s.produced ++ [reply] } := by
  have hsome : s.requests ≠ [] := by
    rw [hrequests]
    exact List.cons_ne_nil _ _
  refine h.elsewhere rfl rfl rfl rfl rfl (List.subset_append_left _ _) ?_ ?_
  · intro hsilent
    exact (hsome hsilent.requests).elim
  · intro t hfollows
    cases hfollows with
    | asked hone hreplies harrived hheard =>
        rw [hrequests] at hone
        have hhead := List.cons.inj hone
        refine .answered reply ?_ hlegal (hrequest.trans hhead.1) hhead.2 ?_ harrived hheard
        · exact List.mem_append_right _ (List.mem_singleton.mpr rfl)
        · simp [hreplies]
    | lost hsilent _ => exact (hsome hsilent.requests).elim
    | answered _ _ _ _ hnone => exact (hsome hnone).elim
    | delivered _ _ _ _ hnone => exact (hsome hnone).elim

theorem Orderly.deliver (h : Orderly s) {reply : Reply} {rest : List Reply}
    (hreplies : s.replies = reply :: rest) :
    Orderly { s with replies := rest, arrived := s.arrived ++ reply.marked } := by
  have hsome : s.replies ≠ [] := by
    rw [hreplies]
    exact List.cons_ne_nil _ _
  refine h.elsewhere rfl rfl rfl rfl rfl (List.Subset.refl _) ?_ ?_
  · intro hsilent
    exact (hsome hsilent.replies).elim
  · intro t hfollows
    cases hfollows with
    | asked _ hnone => exact (hsome hnone).elim
    | lost hsilent _ => exact (hsome hsilent.replies).elim
    | answered reply' hmem hlegal hrequest hrequests hone harrived hheard =>
        rw [hreplies] at hone
        have hhead := List.cons.inj hone
        refine .delivered reply' hmem hlegal hrequest hrequests hhead.2 ?_
        simp [harrived, hheard, hhead.1]
    | delivered _ _ _ _ _ hnone => exact (hsome hnone).elim

theorem eraseIdx_singleton {α : Type} (x : α) (index : Nat) :
    [x].eraseIdx index = [] ∨ [x].eraseIdx index = [x] := by
  cases index with
  | zero => exact .inl rfl
  | succ index => exact .inr rfl

theorem Orderly.loseRequest (h : Orderly s) (index : Nat) :
    Orderly { s with requests := s.requests.eraseIdx index } := by
  have hnone : s.requests = [] → s.requests.eraseIdx index = [] := by
    intro hempty
    simp [hempty]
  refine h.elsewhere rfl rfl rfl rfl rfl (List.Subset.refl _) ?_ ?_
  · intro hsilent
    exact ⟨hnone hsilent.requests, hsilent.replies, hsilent.arrived⟩
  · intro t hfollows
    cases hfollows with
    | asked hone hreplies harrived hheard =>
        rcases eraseIdx_singleton t index with hlost | hkept
        · exact .lost ⟨by simp only [hone, hlost], hreplies, harrived⟩ hheard
        · exact .asked (by simp only [hone, hkept]) hreplies harrived hheard
    | lost hsilent hheard =>
        exact .lost ⟨hnone hsilent.requests, hsilent.replies, hsilent.arrived⟩ hheard
    | answered reply hmem hlegal hrequest hrequests hreplies harrived hheard =>
        exact .answered reply hmem hlegal hrequest (hnone hrequests) hreplies harrived hheard
    | delivered reply hmem hlegal hrequest hrequests hreplies hbytes =>
        exact .delivered reply hmem hlegal hrequest (hnone hrequests) hreplies hbytes

theorem Orderly.loseReply (h : Orderly s) (index : Nat) :
    Orderly { s with replies := s.replies.eraseIdx index } := by
  have hnone : s.replies = [] → s.replies.eraseIdx index = [] := by
    intro hempty
    simp [hempty]
  refine h.elsewhere rfl rfl rfl rfl rfl (List.Subset.refl _) ?_ ?_
  · intro hsilent
    exact ⟨hsilent.requests, hnone hsilent.replies, hsilent.arrived⟩
  · intro t hfollows
    cases hfollows with
    | asked hrequests hreplies harrived hheard =>
        exact .asked hrequests (hnone hreplies) harrived hheard
    | lost hsilent hheard =>
        exact .lost ⟨hsilent.requests, hnone hsilent.replies, hsilent.arrived⟩ hheard
    | answered reply hmem hlegal hrequest hrequests hone harrived hheard =>
        rcases eraseIdx_singleton reply index with hlost | hkept
        · exact .lost ⟨hrequests, by simp only [hone, hlost], harrived⟩ hheard
        · exact .answered reply hmem hlegal hrequest hrequests (by simp only [hone, hkept]) harrived
            hheard
    | delivered reply hmem hlegal hrequest hrequests hreplies hbytes =>
        exact .delivered reply hmem hlegal hrequest hrequests (hnone hreplies) hbytes

/-! ## Runs -/

theorem turn?_bind {f : Call × Turn → Option Conversation} (h : s.turn?.bind f = some s') :
    ∃ call l, s.running = some (call, l) ∧ f (call, turn call l s.protocol) = some s' := by
  cases hrunning : s.running with
  | none => simp [turn?, hrunning] at h
  | some current => exact ⟨current.1, current.2, rfl, by simpa [turn?, hrunning] using h⟩

theorem Orderly.begin (h : Orderly s) (hnone : s.running = none) (call : Call) :
    Orderly { s with running := some (call, call.locals), calls := s.calls + 1 } := by
  have hidle : ¬ s.protocol.Waiting := by
    intro hwait
    obtain ⟨_, _, _, hexchange⟩ := h.waiting hwait
    rw [hexchange.running] at hnone
    cases hnone
  exact ⟨h.wellFormed, fun hsync => ⟨(h.quiet hsync).requests, (h.quiet hsync).replies,
    (h.quiet hsync).arrived⟩, fun hwait => (hidle hwait).elim, h.returned⟩

/-- A step keeps the order unless it resyncs over messages on their way. -/
theorem Orderly.step (h : Orderly s) {move : Move} (hok : s.ResyncsInSilence move)
    (hstep : s.step move = some s') : Orderly s' := by
  cases move with
  | call call =>
      cases hrunning : s.running with
      | none =>
          simp only [Conversation.step, hrunning, Option.some.injEq] at hstep
          rw [← hstep]
          exact h.begin hrunning call
      | some current => simp [Conversation.step, hrunning] at hstep
  | pass =>
      obtain ⟨call, l, hrunning, hpass⟩ := turn?_bind hstep
      refine h.pass hrunning ?_ hpass
      intro raw resume hturn
      have hresyncs : s.resyncs = true := by simp [resyncs, turn?, hrunning, hturn]
      obtain ⟨hrequests, hreplies, harrived⟩ := hok rfl hresyncs
      exact ⟨hrequests, hreplies, harrived⟩
  | receive count =>
      obtain ⟨call, l, hrunning, hreceive⟩ := turn?_bind hstep
      exact h.receive hrunning hreceive
  | timeout =>
      obtain ⟨call, l, _, htimeout⟩ := turn?_bind hstep
      exact h.timeout htimeout
  | answer type payload =>
      cases hrequests : s.requests with
      | nil => simp [Conversation.step, hrequests] at hstep
      | cons request rest =>
          simp only [Conversation.step, hrequests] at hstep
          split_ifs at hstep with hillegal
          cases hstep
          refine h.answered hrequests rfl ⟨type, payload, fun htype => ?_, rfl⟩
          by_contra hpayload
          exact hillegal ⟨htype, hpayload⟩
  | deliver =>
      cases hreplies : s.replies with
      | nil => simp [Conversation.step, hreplies] at hstep
      | cons reply rest =>
          simp only [Conversation.step, hreplies, Option.some.injEq] at hstep
          rw [← hstep]
          exact h.deliver hreplies
  | loseRequest index =>
      cases hstep
      exact h.loseRequest index
  | loseReply index =>
      cases hstep
      exact h.loseReply index

/-- Where no GET_SYNC is handed over while messages are on their way, every call that returns has
taken a reply to its own command. -/
theorem replies_attributed_to_their_calls {moves : List Move} {s : Conversation}
    (hrun : machine.run {} moves = some s)
    (hsilence : machine.Throughout ResyncsInSilence {} moves) :
    ∀ r ∈ s.returned, r.Attributed s.produced := by
  have hstep : ∀ s move s', Orderly s → s.ResyncsInSilence move → machine.step s move = some s' →
      Orderly s' := fun s move s' h hok hmove => h.step hok hmove
  exact (machine.run_invariant hstep hsilence hrun orderly_start).returned

/-- A write pointer after an acknowledgment that was lost on its way. -/
def lostAcknowledgmentRun : List Move :=
  [.call { command := ⟨.progMulti, [1]⟩, maxRetries := 0 }, .pass, .answer .ok [], .deliver,
    .receive 1, .pass, .pass, .answer .ok [], .loseReply 0, .timeout,
    .call { command := .getWritePointer }, .pass, .answer .ok [], .deliver, .receive 0, .receive 0,
    .pass, .pass, .answer .ok [1, 0, 0, 0], .deliver, .receive 2, .receive 2, .pass]

theorem replies_attributed_to_their_calls_lost :
    ∃ s, machine.run {} lostAcknowledgmentRun = some s ∧
      s.returned.map Returned.payload = [[1, 0, 0, 0]] ∧
      ∀ r ∈ s.returned, r.Attributed s.produced := by
  have hpayloads : (machine.run {} lostAcknowledgmentRun).map
      (fun s => s.returned.map Returned.payload) = some [[1, 0, 0, 0]] := by decide +kernel
  have hsilence : machine.Throughout ResyncsInSilence {} lostAcknowledgmentRun := by decide +kernel
  obtain ⟨s, hrun, hreturned⟩ := Option.map_eq_some_iff.mp hpayloads
  exact ⟨s, hrun, hreturned, replies_attributed_to_their_calls hrun hsilence⟩

/-- An erasure behind a chunk whose acknowledgment comes too late. -/
def lateAcknowledgmentRun : List Move :=
  [.call { command := ⟨.progMulti, [1]⟩, maxRetries := 0 }, .pass, .answer .ok [], .deliver,
    .receive 1, .pass, .pass, .timeout, .call { command := .eraseFlashMemory }, .pass,
    .answer .ok [], .answer .ok [], .deliver, .deliver, .receive 1, .pass, .pass, .receive 1, .pass]

/-- The erasure returns on the reply to GET_SYNC, before the device has seen it. -/
theorem reply_to_sync_taken_for_erasure :
    ¬ ∀ moves s, machine.run {} moves = some s → ∀ r ∈ s.returned, r.Attributed s.produced := by
  intro hclaim
  have hwrong : (machine.run {} lateAcknowledgmentRun).map
      (fun s => decide (∀ r ∈ s.returned, r.Attributed s.produced)) = some false := by
    decide +kernel
  obtain ⟨s, hrun, hfalse⟩ := Option.map_eq_some_iff.mp hwrong
  exact of_decide_eq_false hfalse (hclaim _ s hrun)

end ApUploader
