import ApUploader.Protocol.Desync

/-! # Where the payload of a reply comes from

A command that declares a payload clears the stored one when it is sent. GET_SYNC
does not: it may be sent from any state, and a payload that is stored at that time is
reported with the reply to it when nothing but the sync bytes comes first.
-/

namespace ApUploader.Protocol

/-- Feeding and polling for as long as the polls return NEED_MORE_DATA: the bytes that were taken,
and the state. -/
inductive Awaits (p : Protocol) : Bytes → Protocol → Prop where
  | start : Awaits p [] p
  | feed {bytes data : Bytes} {q r : Protocol} (h : Awaits p bytes q)
      (hfeed : q.feed data = .ok r) :
      Awaits p (bytes ++ data) r
  | starved {bytes : Bytes} {q r : Protocol} (h : Awaits p bytes q)
      (hstep : q.nextEvent = (.ok (some .needMoreData), r)) : Awaits p bytes r

def headerLength (n : Int) : Nat := if n < 0 then 4 else 0

/-- The reply is made of what was unparsed at the time of the send and of what was fed since: behind
the length prefix, if there is one, comes the payload, then the sync byte and the status byte. -/
def TakenFrom (n : Int) (bytes : Bytes) (reply : Response) (rest : Bytes) : Prop :=
  ∃ header : Bytes, header.length = headerLength n ∧
    bytes = header ++ reply.payload ++ OpCode.inSync.toByte :: reply.type.toByte :: rest ∧
    (0 ≤ n → reply.payload.length = n)

/-- Whatever is fed, if the next event is a response it is made of these bytes. -/
def RepliesAfresh (p : Protocol) (c : Command) (q : Protocol) : Prop :=
  ∀ bytes r reply s, q.Awaits bytes r → r.nextEvent = (.ok (some (.response reply)), s) →
    TakenFrom c.responseLength (p.buffer ++ bytes) reply s.buffer

/-- The next event can be a response without a payload: a sync byte and a status byte come first, or
nothing contradicts them yet and they may still be fed. -/
def syncMayFollow (p : Protocol) : Bool :=
  match p.buffer with
  | [] => !p.bufferClosed
  | [first] => first == OpCode.inSync.toByte && !p.bufferClosed
  | first :: status :: _ => first == OpCode.inSync.toByte && status ∈ acceptedStatus

/-! ## Awaiting -/

/-- While a reply is awaited the state is settled as if all bytes had been there at the start. -/
structure AwaitsSettled (p : Protocol) (bytes : Bytes) (q : Protocol) : Prop where
  wellFormed : q.WellFormed
  settle_eq : q.settle = { (p.append bytes).settle with bufferClosed := q.bufferClosed }
  closed : p.bufferClosed = true → q.bufferClosed = true ∧ bytes = []

theorem AwaitsSettled.feed {p q r : Protocol} {bytes data : Bytes} (h : p.AwaitsSettled bytes q)
    (hfeed : q.feed data = .ok r) : p.AwaitsSettled (bytes ++ data) r := by
  have hw := feed_wellFormed h.wellFormed hfeed
  unfold Protocol.feed at hfeed
  split_ifs at hfeed with hdata hclosed
  · cases hfeed
    refine ⟨hw, ?_, fun hp => ?_⟩
    · calc (q.append data).settle
          = (q.settle.append data).settle := (settle_append q data).symm
        _ = { (p.append bytes).settle.append data with bufferClosed := q.bufferClosed }.settle := by
            rw [h.settle_eq]
            rfl
        _ = { (p.append (bytes ++ data)).settle with bufferClosed := q.bufferClosed } := by
            rw [settle_withClosed, settle_append]
            simp [append]
    · exact (hclosed (h.closed hp).1).elim
  · cases hfeed
    have hnil : data = [] := not_not.mp hdata
    subst hnil
    rw [List.append_nil]
    refine ⟨hw, ?_, fun hp => ⟨rfl, (h.closed hp).2⟩⟩
    rw [settle_withClosed, h.settle_eq]

theorem Awaits.settled {p q : Protocol} {bytes : Bytes} (h : p.Awaits bytes q)
    (hw : p.WellFormed) : p.AwaitsSettled bytes q := by
  induction h with
  | start =>
      refine ⟨hw, ?_, fun hp => ⟨hp, rfl⟩⟩
      rw [append_nil, ← settle_bufferClosed]
  | feed _ hfeed ih => exact ih.feed hfeed
  | starved _ hstep ih =>
      obtain ⟨_, _, hpoll, hyields⟩ := nextEvent_yields ih.wellFormed
      rw [hstep] at hpoll
      cases hpoll
      cases hyields with
      | starved =>
          refine ⟨settle_wellFormed ih.wellFormed, ?_, fun hp => ?_⟩
          · rw [settle_settle, settle_bufferClosed, ih.settle_eq]
          · rw [settle_bufferClosed]
            exact ih.closed hp

/-- What a response says of the settled state: its payload is stored, and its two bytes come
first. -/
theorem Awaits.response {p q r : Protocol} {bytes : Bytes} {reply : Response}
    (h : p.Awaits bytes q) (hw : p.WellFormed)
    (hstep : q.nextEvent = (.ok (some (.response reply)), r)) :
    (p.append bytes).settle.state = .waitSync ∧ (p.append bytes).settle.payload = reply.payload ∧
      (p.append bytes).settle.buffer = OpCode.inSync.toByte :: reply.type.toByte :: r.buffer ∧
      reply.type.toByte ∈ acceptedStatus := by
  have hsettled := h.settled hw
  obtain ⟨_, _, hpoll, hyields⟩ := nextEvent_yields hsettled.wellFormed
  rw [hstep] at hpoll
  cases hpoll
  have heq := hsettled.settle_eq
  cases hyields with
  | response hstate type rest htype hbuffer =>
      have haccept : type.toByte ∈ acceptedStatus := by
        cases type <;> first | decide | contradiction
      rw [heq] at hstate hbuffer ⊢
      exact ⟨hstate, rfl, hbuffer, haccept⟩

/-! ## The settled reply -/

section Settled

variable {p : Protocol}

theorem settleResponse_takes {n : Nat}
    (hs : (p.startWaitingForResponse n).settleResponse.state = .waitSync)
    (hpayload : n = 0 → p.payload = []) :
    p.buffer = (p.startWaitingForResponse n).settleResponse.payload ++
        (p.startWaitingForResponse n).settleResponse.buffer ∧
      (p.startWaitingForResponse n).settleResponse.payload.length = n := by
  rcases Nat.eq_zero_or_pos n with rfl | hpos
  · simp [startWaitingForSync, settleResponse, hpayload]
  · simp only [startWaitingForResponse_pos _ hpos, settleResponse, true_and] at hs ⊢
    split_ifs at hs ⊢ with hfull
    simp [startWaitingForSync, hfull]

theorem settle_takes {n : Int} (hs : (p.startWaitingForResponse n).settle.state = .waitSync)
    (hpayload : n = 0 → p.payload = []) :
    ∃ header : Bytes, header.length = headerLength n ∧
      p.buffer = header ++ (p.startWaitingForResponse n).settle.payload ++
        (p.startWaitingForResponse n).settle.buffer ∧
      (0 ≤ n → (p.startWaitingForResponse n).settle.payload.length = n) := by
  by_cases hn : n < 0
  · by_cases hfull : 4 ≤ p.buffer.length
    · have hsettle : (p.startWaitingForResponse n).settle =
          ({ p with state := .waitResponseLength, payload := [], bytesExpected := 4,
                    buffer := p.buffer.drop 4 }.startWaitingForResponse
            (LittleEndian.decode (p.buffer.take 4))).settleResponse := by
        simp [startWaitingForResponse_neg _ hn, settle, settleLength, hfull]
      rw [hsettle] at hs ⊢
      obtain ⟨hbuffer, _⟩ := settleResponse_takes hs fun _ => rfl
      refine ⟨p.buffer.take 4, by simp [headerLength, hn, hfull], ?_, fun h => by omega⟩
      rw [List.append_assoc, ← hbuffer]
      exact (List.take_append_drop 4 p.buffer).symm
    · simp [startWaitingForResponse_neg _ hn, settle, settleLength, settleResponse, hfull] at hs
  · obtain ⟨m, rfl⟩ := Int.eq_ofNat_of_zero_le (not_lt.mp hn)
    have hsettle : (p.startWaitingForResponse m).settle =
        (p.startWaitingForResponse m).settleResponse := by
      unfold settle
      rw [settleLength_of_ne]
      unfold startWaitingForResponse startWaitingForSync
      split_ifs <;> simp
    rw [hsettle] at hs ⊢
    obtain ⟨hbuffer, hlength⟩ := settleResponse_takes hs fun h => hpayload (by omega)
    exact ⟨[], by simp [headerLength, hn], by simpa using hbuffer, fun _ => by rw [hlength]⟩

end Settled

/-! ## Stale payloads -/

theorem syncMayFollow_of_pair {p : Protocol} {bytes rest : Bytes} {status : UInt8}
    (hbytes : p.buffer ++ bytes = OpCode.inSync.toByte :: status :: rest)
    (hstatus : status ∈ acceptedStatus) (hclosed : p.bufferClosed = true → bytes = []) :
    p.syncMayFollow = true := by
  have hopen : bytes ≠ [] → p.bufferClosed = false := by
    intro hsome
    simpa using fun h => hsome (hclosed h)
  unfold syncMayFollow
  match p.buffer, hbytes with
  | [], hbytes =>
      have hsome : bytes ≠ [] := by
        rintro rfl
        simp at hbytes
      simp [hopen hsome]
  | [first], hbytes =>
      have hsome : bytes ≠ [] := by
        rintro rfl
        simp at hbytes
      simp only [List.cons_append, List.cons.injEq] at hbytes
      simp [hopen hsome, hbytes.1]
  | first :: second :: _, hbytes =>
      simp only [List.cons_append, List.cons.injEq] at hbytes
      simp [hbytes.1, hbytes.2.1, hstatus]

theorem pair_of_syncMayFollow {p : Protocol} (h : p.syncMayFollow = true) :
    ∃ bytes status rest, p.buffer ++ bytes = OpCode.inSync.toByte :: status :: rest ∧
      status ∈ acceptedStatus ∧ (bytes ≠ [] → p.bufferClosed = false) := by
  unfold syncMayFollow at h
  have hok : OpCode.ok.toByte ∈ acceptedStatus := by decide
  match hbuffer : p.buffer, h with
  | [], h =>
      exact ⟨[OpCode.inSync.toByte, OpCode.ok.toByte], _, [], rfl, hok, fun _ => by simpa using h⟩
  | [first], h =>
      simp only [Bool.and_eq_true, beq_iff_eq, Bool.not_eq_true'] at h
      exact ⟨[OpCode.ok.toByte], _, [], by rw [h.1]; rfl, hok, fun _ => h.2⟩
  | first :: status :: rest, h =>
      simp only [Bool.and_eq_true, beq_iff_eq, decide_eq_true_eq] at h
      exact ⟨[], status, rest, by rw [h.1, List.append_nil], h.2, fun h => (h rfl).elim⟩

theorem awaits_append {p : Protocol} {bytes : Bytes} (h : bytes ≠ [] → p.bufferClosed = false) :
    p.Awaits bytes (p.append bytes) := by
  by_cases hnil : bytes = []
  · subst hnil
    rw [append_nil]
    exact .start
  · exact Awaits.feed .start (feed_of_open (h hnil) hnil)

/-- A reply that comes first is reported with the stored payload, also on a closed protocol. -/
theorem nextEvent_of_pair {p : Protocol} {type : ResponseType} {rest : Bytes} (hw : p.WellFormed)
    (hstate : p.state = .waitSync)
    (hbuffer : p.buffer = OpCode.inSync.toByte :: type.toByte :: rest)
    (hstatus : type.toByte ∈ acceptedStatus) :
    p.nextEvent = (.ok (some (.response ⟨type, p.payload⟩)),
      { p with buffer := rest }.moveToInSyncState) := by
  rw [nextEvent_eq_settle hw (by simp [hbuffer]), settle_of_waitSync hstate]
  simp [hstate, waitSyncBlock, readStatus, hbuffer, hstatus, hw.sync hstate, Response.fromOpcode,
    List.findIdx?_cons]

/-- Where a reply can come first, GET_SYNC is answered with the stored payload. -/
theorem response_of_syncMayFollow {p : Protocol} (h : p.syncMayFollow = true) :
    ∃ bytes r type s, p.startWaitingForSync.Awaits bytes r ∧
      r.nextEvent = (.ok (some (.response ⟨type, p.payload⟩)), s) := by
  obtain ⟨bytes, status, rest, hbytes, hstatus, hopen⟩ := pair_of_syncMayFollow h
  obtain ⟨type, _, rfl⟩ := accepted_cases hstatus
  have hw : (p.startWaitingForSync.append bytes).WellFormed := by
    constructor <;> simp [startWaitingForSync]
  exact ⟨bytes, _, type, _, awaits_append hopen, nextEvent_of_pair hw rfl hbytes hstatus⟩

/-- A reply is made of bytes that were not parsed before the command was sent, exactly when no
payload was stored, or the command declares one, or the reply cannot come first. -/
theorem repliesAfresh_iff {p q : Protocol} {c : Command} {raw : Bytes}
    (hsend : p.send (.command c) = .ok (raw, q)) :
    p.RepliesAfresh c q ↔
      p.payload = [] ∨ c.responseLength ≠ 0 ∨ p.syncMayFollow = false := by
  obtain ⟨_, hc, _, _, rfl⟩ := send_spec hsend
  cases hc
  constructor
  · intro hfresh
    by_contra hstale
    simp only [not_or, not_not, Bool.not_eq_false] at hstale
    obtain ⟨hpayload, hlength, hfollow⟩ := hstale
    obtain ⟨bytes, r, type, s, hawaits, hstep⟩ := response_of_syncMayFollow hfollow
    rw [← startWaitingForResponse_zero, ← hlength] at hawaits
    obtain ⟨_, _, _, hempty⟩ := hfresh bytes r _ s hawaits hstep
    have hzero := hempty (by omega)
    rw [hlength] at hzero
    exact hpayload (List.length_eq_zero_iff.mp (by simpa using hzero))
  · intro hcondition bytes r reply s hawaits hstep
    have hw := startWaitingForResponse_wellFormed p c.responseLength
    obtain ⟨hstate, hpayload, hbuffer, hstatus⟩ := hawaits.response hw hstep
    rw [append_startWaitingForResponse] at hstate hpayload hbuffer
    by_cases hkept : c.responseLength = 0 ∧ p.payload ≠ []
    · -- the payload would be stale, but the sync bytes cannot come first
      have hfollow : p.syncMayFollow = false := by simpa [hkept.1, hkept.2] using hcondition
      rw [hkept.1, startWaitingForResponse_zero, settle_of_waitSync rfl] at hbuffer
      have hclosed : p.bufferClosed = true → bytes = [] := fun h =>
        ((hawaits.settled hw).closed (by simpa using h)).2
      rw [syncMayFollow_of_pair hbuffer hstatus hclosed] at hfollow
      cases hfollow
    · have hempty : c.responseLength = 0 → (p.append bytes).payload = [] := by
        intro hzero
        by_contra hsome
        exact hkept ⟨hzero, hsome⟩
      obtain ⟨header, hheader, hbytes, hlength⟩ := settle_takes hstate hempty
      rw [hpayload] at hbytes hlength
      rw [hbuffer] at hbytes
      exact ⟨header, hheader, hbytes, hlength⟩

/-- Behind a reply cut off by a reset, unless a stray byte has to be read before the next one. -/
theorem repliesAfresh_iff_cut_off :
    ¬ (new.after halfReceived).reset.RepliesAfresh .getSync
        ((new.after halfReceived).reset.apply (.send (.command .getSync))) ∧
      ((new.after halfReceived).reset.append [0x21]).RepliesAfresh .getSync
        (((new.after halfReceived).reset.append [0x21]).apply (.send (.command .getSync))) := by
  have hcut : (new.after halfReceived).reset.send (.command .getSync) = .ok
      ([0x21, 0x20], (new.after halfReceived).reset.apply (.send (.command .getSync))) := rfl
  have hstray : ((new.after halfReceived).reset.append [0x21]).send (.command .getSync) = .ok
      ([0x21, 0x20],
        ((new.after halfReceived).reset.append [0x21]).apply (.send (.command .getSync))) := rfl
  rw [repliesAfresh_iff hcut]
  exact ⟨by decide, (repliesAfresh_iff hstray).mpr (.inr (.inr (by decide)))⟩

/-- The reply to GET_SYNC carries the payload of the reply that a reset has cut off. -/
theorem stale_payload_after_reset :
    ¬ ∀ (p q : Protocol) (c : Command) (raw : Bytes), Reachable p →
      p.send (.command c) = .ok (raw, q) → p.RepliesAfresh c q := by
  intro h
  let p := (new.after halfReceived).reset
  have hp : Reachable p := .apply .reset (Reachable.new.after halfReceived)
  have hstep : ((p.apply (.send (.command .getSync))).append
      [OpCode.inSync.toByte, OpCode.ok.toByte]).nextEvent =
        (.ok (some (.response ⟨.ok, [1, 2, 3, 4]⟩)), synced []) := by decide
  obtain ⟨_, _, _, hempty⟩ := h p _ .getSync _ hp rfl _ _ _ _ (awaits_append fun _ => rfl) hstep
  exact absurd (hempty (by decide)) (by decide)

end ApUploader.Protocol
