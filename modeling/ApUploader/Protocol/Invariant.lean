import ApUploader.Protocol.Machine
import Mathlib.Tactic.SplitIfs

/-! # What one call of `nextEvent` can do

`WellFormed` is the invariant of every reachable state. On well-formed states
`nextEvent` is described once, by the relation `Yields`, and later results only
look at its six cases. `settle` is the part of `nextEvent` that moves complete
reply data out of the buffer without reporting anything.
-/

namespace ApUploader.Protocol

/-! ## Operations on single fields -/

@[simp] theorem startWaitingForResponse_buffer (p : Protocol) (n : Int) :
    (p.startWaitingForResponse n).buffer = p.buffer := by
  unfold startWaitingForResponse startWaitingForSync
  split_ifs <;> rfl

@[simp] theorem startWaitingForResponse_bufferClosed (p : Protocol) (n : Int) :
    (p.startWaitingForResponse n).bufferClosed = p.bufferClosed := by
  unfold startWaitingForResponse startWaitingForSync
  split_ifs <;> rfl

theorem startWaitingForResponse_neg (p : Protocol) {n : Int} (h : n < 0) :
    p.startWaitingForResponse n =
      { p with state := .waitResponseLength, payload := [], bytesExpected := 4 } := by
  simp [startWaitingForResponse, h]

@[simp] theorem startWaitingForResponse_zero (p : Protocol) :
    p.startWaitingForResponse 0 = p.startWaitingForSync := by
  simp [startWaitingForResponse]

theorem startWaitingForResponse_pos (p : Protocol) {n : Nat} (h : 0 < n) :
    p.startWaitingForResponse n =
      { p with state := .waitResponse, payload := [], bytesExpected := n } := by
  have hneg : ¬ ((n : Int) < 0) := by omega
  have hzero : n ≠ 0 := by omega
  simp [startWaitingForResponse, hneg, hzero]

/-- The three states in which a reply is outstanding. -/
def Waiting (p : Protocol) : Prop :=
  p.state = .waitResponseLength ∨ p.state = .waitResponse ∨ p.state = .waitSync

instance (p : Protocol) : Decidable p.Waiting := by unfold Waiting; infer_instance

theorem startWaitingForResponse_waiting (p : Protocol) (n : Int) :
    (p.startWaitingForResponse n).Waiting := by
  unfold startWaitingForResponse startWaitingForSync Waiting
  split_ifs <;> simp

@[simp] theorem inSync_eq_true {p : Protocol} : p.inSync = true ↔ p.state = .inSync := by
  simp [inSync]

/-! ## The invariant -/

structure WellFormed (p : Protocol) : Prop where
  length : p.state = .waitResponseLength → p.bytesExpected = 4 ∧ p.payload = []
  response : p.state = .waitResponse → 0 < p.bytesExpected ∧ p.payload = []
  sync : p.state = .waitSync → p.bytesExpected = 2
  synced : p.state = .inSync → p.payload = []

theorem new_wellFormed : new.WellFormed := by
  constructor <;> simp [new]

theorem startWaitingForResponse_wellFormed (p : Protocol) (n : Int) :
    (p.startWaitingForResponse n).WellFormed := by
  unfold startWaitingForResponse startWaitingForSync
  split_ifs with hneg hzero
  · constructor <;> simp
  · constructor <;> simp
  · have hpos : 0 < n.toNat := by omega
    constructor <;> simp [hpos]

theorem reset_wellFormed (p : Protocol) : p.reset.WellFormed := by
  constructor <;> simp [reset]

theorem sendFailed_wellFormed (p : Protocol) : p.sendFailed.WellFormed := by
  constructor <;> simp [sendFailed]

theorem WellFormed.withBuffer {p : Protocol} (h : p.WellFormed) (buffer : Bytes) (closed : Bool) :
    { p with buffer := buffer, bufferClosed := closed }.WellFormed :=
  ⟨h.length, h.response, h.sync, h.synced⟩

theorem feed_wellFormed {p p' : Protocol} {data : Bytes} (h : p.WellFormed)
    (hfeed : p.feed data = .ok p') : p'.WellFormed := by
  unfold feed at hfeed
  split_ifs at hfeed
  · cases hfeed
    exact h.withBuffer _ _
  · cases hfeed
    exact h.withBuffer _ _

/-- A successful `send` encodes a command and waits for its reply. -/
theorem send_spec {p p' : Protocol} {event : Event} {raw : Bytes}
    (h : p.send event = .ok (raw, p')) :
    ∃ c, event = .command c ∧ (p.inSync ∨ c.type = .getSync) ∧ c.toBytes = .ok raw ∧
      p' = p.startWaitingForResponse c.responseLength := by
  cases event with
  | command c =>
      simp only [send] at h
      split_ifs at h with hgate
      cases hraw : c.toBytes with
      | error e => simp [hraw] at h
      | ok result =>
          simp only [hraw, Except.ok.injEq, Prod.mk.injEq] at h
          obtain ⟨rfl, rfl⟩ := h
          refine ⟨c, rfl, ?_, hraw, rfl⟩
          by_cases hs : p.inSync = true
          · exact .inl hs
          · right
            simpa [hs] using hgate
  | needMoreData => simp [send] at h
  | excessData payload => simp [send] at h
  | connectionClosed => simp [send] at h
  | response r => simp [send] at h

/-! ## Settling -/

def settleLength (p : Protocol) : Protocol :=
  if p.state = .waitResponseLength ∧ 4 ≤ p.buffer.length then
    { p with buffer := p.buffer.drop 4 }.startWaitingForResponse
      (LittleEndian.decode (p.buffer.take 4))
  else p

def settleResponse (p : Protocol) : Protocol :=
  if p.state = .waitResponse ∧ p.bytesExpected ≤ p.buffer.length then
    { p with payload := p.buffer.take p.bytesExpected, buffer := p.buffer.drop p.bytesExpected
             }.startWaitingForSync
  else p

/-- Move a complete length prefix and a complete payload out of the buffer. -/
def settle (p : Protocol) : Protocol := p.settleLength.settleResponse

theorem settleLength_wellFormed {p : Protocol} (h : p.WellFormed) : p.settleLength.WellFormed := by
  unfold settleLength
  split_ifs
  · exact startWaitingForResponse_wellFormed _ _
  · exact h

theorem settleResponse_wellFormed {p : Protocol} (h : p.WellFormed) :
    p.settleResponse.WellFormed := by
  unfold settleResponse
  split_ifs
  · constructor <;> simp [startWaitingForSync]
  · exact h

theorem settle_wellFormed {p : Protocol} (h : p.WellFormed) : p.settle.WellFormed :=
  settleResponse_wellFormed (settleLength_wellFormed h)

theorem settle_of_not_waiting {p : Protocol} (h : ¬ p.Waiting) : p.settle = p := by
  have hl : p.state ≠ .waitResponseLength := fun hs => h (.inl hs)
  have hr : p.state ≠ .waitResponse := fun hs => h (.inr (.inl hs))
  simp [settle, settleLength, settleResponse, hl, hr]

theorem settle_of_waitSync {p : Protocol} (h : p.state = .waitSync) : p.settle = p := by
  simp [settle, settleLength, settleResponse, h]

@[simp] theorem settle_bufferClosed (p : Protocol) : p.settle.bufferClosed = p.bufferClosed := by
  unfold settle settleResponse settleLength startWaitingForSync
  split_ifs <;> simp

theorem settle_waiting {p : Protocol} (h : p.Waiting) : p.settle.Waiting := by
  have hlength : p.settleLength.Waiting := by
    unfold settleLength
    split_ifs
    · exact startWaitingForResponse_waiting _ _
    · exact h
  unfold settle settleResponse
  split_ifs
  · simp [Waiting, startWaitingForSync]
  · exact hlength

/-- A settled state in which nothing more can be taken from the buffer. -/
def Starved (p : Protocol) : Prop :=
  p.state = .waitResponseLength ∧ p.buffer.length < 4 ∨
    p.state = .waitResponse ∧ p.buffer.length < p.bytesExpected ∨
    p.state = .waitSync ∧ (p.buffer = [] ∨ p.buffer = [OpCode.inSync.toByte])

theorem settle_cases {p : Protocol} (hw : p.WellFormed) (h : p.Waiting) :
    p.settle.state = .waitResponseLength ∧ p.settle.buffer.length < 4 ∨
      p.settle.state = .waitResponse ∧ p.settle.buffer.length < p.settle.bytesExpected ∨
      p.settle.state = .waitSync := by
  have hresponse : ∀ q : Protocol, q.WellFormed → (q.state = .waitResponse ∨ q.state = .waitSync) →
      q.settleResponse.state = .waitResponse ∧
          q.settleResponse.buffer.length < q.settleResponse.bytesExpected ∨
        q.settleResponse.state = .waitSync := by
    intro q _ hq
    unfold settleResponse
    split_ifs with hfull
    · exact .inr rfl
    · rcases hq with hq | hq
      · left
        exact ⟨hq, by simpa [hq] using hfull⟩
      · exact .inr hq
  by_cases hl : p.state = .waitResponseLength
  · by_cases hfull : 4 ≤ p.buffer.length
    · right
      apply hresponse _ (settleLength_wellFormed hw)
      simp only [settleLength, hl, hfull, and_self, ↓reduceIte]
      have hnn : ¬ ((LittleEndian.decode (p.buffer.take 4) : Nat) : Int) < 0 := by omega
      unfold startWaitingForResponse startWaitingForSync
      split_ifs <;> simp
    · left
      have hsettle : p.settle = p := by simp [settle, settleLength, settleResponse, hl, hfull]
      rw [hsettle]
      exact ⟨hl, by omega⟩
  · right
    have hkeep : p.settleLength = p := by simp [settleLength, hl]
    unfold settle
    rw [hkeep]
    exact hresponse p hw (h.resolve_left hl)

/-! ## The cases of `nextEvent` -/

theorem settleLength_state {p : Protocol} (h : p.state = .waitResponseLength)
    (hfull : 4 ≤ p.buffer.length) : p.settleLength.state ≠ .waitResponseLength := by
  have hnn : ¬ ((LittleEndian.decode (p.buffer.take 4) : Nat) : Int) < 0 := by omega
  simp only [settleLength, h, hfull, and_self, ↓reduceIte, startWaitingForResponse, hnn,
    startWaitingForSync]
  split_ifs <;> simp

private theorem waitResponseLengthBlock_eq {p : Protocol} (hw : p.WellFormed) :
    p.waitResponseLengthBlock =
      if p.settleLength.state = .waitResponseLength then
        .returned (.ok (some .needMoreData), p.settleLength)
      else .fallsThrough p.settleLength := by
  by_cases hl : p.state = .waitResponseLength
  · have hexp : p.bytesExpected = 4 := (hw.length hl).1
    by_cases hfull : 4 ≤ p.buffer.length
    · have hshort : ¬ p.buffer.length < 4 := by omega
      rw [if_neg (settleLength_state hl hfull)]
      simp [waitResponseLengthBlock, settleLength, hl, hexp, hshort, hfull]
    · have hshort : p.buffer.length < 4 := by omega
      simp [waitResponseLengthBlock, settleLength, hl, hexp, hshort, hfull]
  · simp [waitResponseLengthBlock, settleLength, hl]

private theorem waitResponseBlock_eq {p : Protocol} (hw : p.WellFormed) :
    p.waitResponseBlock =
      if p.settleResponse.state = .waitResponse then
        .returned (.ok (some .needMoreData), p.settleResponse)
      else .fallsThrough p.settleResponse := by
  by_cases hr : p.state = .waitResponse
  · have hpos : p.bytesExpected ≠ 0 := by have := (hw.response hr).1; omega
    by_cases hfull : p.bytesExpected ≤ p.buffer.length
    · have hshort : ¬ p.buffer.length < p.bytesExpected := by omega
      simp [waitResponseBlock, settleResponse, hr, hpos, hshort, hfull, startWaitingForSync]
    · have hshort : p.buffer.length < p.bytesExpected := by omega
      simp [waitResponseBlock, settleResponse, hr, hpos, hshort, hfull]
  · simp [waitResponseBlock, settleResponse, hr]

theorem settleResponse_state_ne {p : Protocol} (h : p.state ≠ .waitResponseLength) :
    p.settleResponse.state ≠ .waitResponseLength := by
  unfold settleResponse startWaitingForSync
  split_ifs
  · simp
  · exact h

/-- On well-formed states the blocks of `nextEvent` settle the state and then look for sync. -/
theorem nextEvent_eq_settle {p : Protocol} (hw : p.WellFormed)
    (hopen : ¬ (p.buffer = [] ∧ p.bufferClosed = true)) :
    p.nextEvent =
      if p.settle.state = .waitResponseLength ∨ p.settle.state = .waitResponse then
        (.ok (some .needMoreData), p.settle)
      else p.settle.waitSyncBlock := by
  unfold nextEvent
  rw [if_neg hopen, waitResponseLengthBlock_eq hw]
  by_cases hl : p.settleLength.state = .waitResponseLength
  · have hsettle : p.settle = p.settleLength := by simp [settle, settleResponse, hl]
    simp [hsettle, hl]
  · have hne : p.settle.state ≠ .waitResponseLength := settleResponse_state_ne hl
    have hblock : p.settleLength.waitResponseBlock =
        if p.settle.state = .waitResponse then .returned (.ok (some .needMoreData), p.settle)
        else .fallsThrough p.settle := waitResponseBlock_eq (settleLength_wellFormed hw)
    rw [if_neg hl]
    dsimp only
    rw [hblock]
    by_cases hr : p.settle.state = .waitResponse
    · rw [if_pos hr, if_pos (.inr hr)]
    · rw [if_neg hr, if_neg (not_or.mpr ⟨hne, hr⟩)]

/-- Everything one call of `nextEvent` can return and leave behind. -/
inductive Yields (p : Protocol) : Option Event → Protocol → Prop where
  | closed (hbuffer : p.buffer = []) (hclosed : p.bufferClosed = true) :
      Yields p (some .connectionClosed) p
  | quiet (hstate : ¬ p.Waiting) (hbuffer : p.buffer = []) (hpayload : p.payload = [])
      (hopen : p.bufferClosed = false) : Yields p none p
  | stray (hstate : ¬ p.Waiting) (hdata : p.payload ++ p.buffer ≠ []) :
      Yields p (some (.excessData (p.payload ++ p.buffer))) { p with payload := [], buffer := [] }
  | starved (hstarved : p.settle.Starved) : Yields p (some .needMoreData) p.settle
  | desync (hstate : p.settle.state = .waitSync) (n : Nat) (hpos : 0 < n)
      (hle : n ≤ p.settle.buffer.length) :
      Yields p (some (.excessData (p.settle.payload ++ p.settle.buffer.take n)))
        { p.settle with payload := [], buffer := p.settle.buffer.drop n }
  | response (hstate : p.settle.state = .waitSync) (type : ResponseType) (rest : Bytes)
      (htype : type ≠ .badSiliconRev)
      (hbuffer : p.settle.buffer = OpCode.inSync.toByte :: type.toByte :: rest) :
      Yields p (some (.response ⟨type, p.settle.payload⟩))
        { p.settle with buffer := rest }.moveToInSyncState

private theorem purge_waiting {q : Protocol} {n : Nat} (hpos : 0 < n)
    (hle : n ≤ q.buffer.length) :
    q.purgeExcessData (some n) =
      (some (.excessData (q.payload ++ q.buffer.take n)),
        { q with payload := [], buffer := q.buffer.drop n }) := by
  simp [purgeExcessData, hpos, Nat.min_eq_left hle]

private theorem purge_all {q : Protocol} (h : q.payload ++ q.buffer ≠ []) :
    q.purgeExcessData none =
      (some (.excessData (q.payload ++ q.buffer)), { q with payload := [], buffer := [] }) := by
  have hne : q.payload ≠ [] ∨ 0 < q.buffer.length := by
    rw [List.length_pos_iff]
    by_contra hcon
    simp only [not_or, not_not] at hcon
    exact h (by simp [hcon.1, hcon.2])
  simp [purgeExcessData, hne]

theorem accepted_cases {byte : UInt8} (h : byte ∈ acceptedStatus) :
    ∃ type : ResponseType, type ≠ .badSiliconRev ∧ byte = type.toByte := by
  simp only [acceptedStatus, List.mem_cons, List.not_mem_nil, or_false] at h
  rcases h with rfl | rfl | rfl
  · exact ⟨.ok, by decide, rfl⟩
  · exact ⟨.failed, by decide, rfl⟩
  · exact ⟨.invalid, by decide, rfl⟩

/-- On well-formed states `nextEvent` raises nothing and does one of the six things. -/
theorem nextEvent_yields {p : Protocol} (hw : p.WellFormed) :
    ∃ event q, p.nextEvent = (.ok event, q) ∧ Yields p event q := by
  by_cases hclosed : p.buffer = [] ∧ p.bufferClosed = true
  · exact ⟨_, _, if_pos hclosed, .closed hclosed.1 hclosed.2⟩
  have heq := nextEvent_eq_settle hw hclosed
  by_cases hwait : p.Waiting
  · rcases settle_cases hw hwait with ⟨hs, hlen⟩ | ⟨hs, hlen⟩ | hs
    · exact ⟨_, _, by rw [heq]; simp [hs], .starved (.inl ⟨hs, hlen⟩)⟩
    · exact ⟨_, _, by rw [heq]; simp [hs], .starved (.inr (.inl ⟨hs, hlen⟩))⟩
    · have hexp := (settle_wellFormed hw).sync hs
      rw [heq]
      simp only [hs, reduceCtorEq, or_self, ↓reduceIte, waitSyncBlock, hexp]
      by_cases hb : p.settle.buffer = []
      · exact ⟨_, _, by simp [hb], .starved (.inr (.inr ⟨hs, .inl hb⟩))⟩
      · have hlen : 0 < p.settle.buffer.length := List.length_pos_iff.mpr hb
        simp only [hb, ↓reduceIte]
        cases hfind : p.settle.buffer.findIdx? (· == OpCode.inSync.toByte) with
        | none =>
            have hpurge := purge_all (q := p.settle) (by simp [hb])
            refine ⟨_, _, by rw [hpurge], ?_⟩
            simpa using Yields.desync hs p.settle.buffer.length hlen le_rfl
        | some index =>
            have hfound := List.findIdx?_eq_some_iff_getElem.mp hfind
            obtain ⟨hindex, hsync, _⟩ := hfound
            cases index with
            | succ n =>
                have hpurge := purge_waiting (q := p.settle) (n := n + 1) (by omega) (by omega)
                refine ⟨_, _, ?_, .desync hs (n + 1) (Nat.succ_pos n) (by omega)⟩
                simp [hpurge]
            | zero =>
                obtain ⟨first, tail, hcons⟩ := List.exists_cons_of_ne_nil hb
                have hfirst : first = OpCode.inSync.toByte := by simpa [hcons] using hsync
                subst hfirst
                cases tail with
                | nil =>
                    exact ⟨_, _, by simp [readStatus, hcons],
                      .starved (.inr (.inr ⟨hs, .inr hcons⟩))⟩
                | cons status rest =>
                    by_cases haccept : status ∈ acceptedStatus
                    · obtain ⟨type, htype, rfl⟩ := accepted_cases haccept
                      exact ⟨_, _, by simp [readStatus, hcons, haccept, Response.fromOpcode],
                        .response hs type rest htype hcons⟩
                    · have hpurge := purge_waiting (q := p.settle) (n := 2) (by omega)
                        (by simp [hcons])
                      refine ⟨_, _, ?_, .desync hs 2 (by omega) (by simp [hcons])⟩
                      simp only [readStatus, hpurge]
                      simp [hcons, haccept]
  · rw [heq]
    rw [settle_of_not_waiting hwait]
    have hl : p.state ≠ .waitResponseLength := fun hs => hwait (.inl hs)
    have hr : p.state ≠ .waitResponse := fun hs => hwait (.inr (.inl hs))
    have hsync : p.state ≠ .waitSync := fun hs => hwait (.inr (.inr hs))
    simp only [hl, hr, or_self, ↓reduceIte, waitSyncBlock, hsync]
    by_cases hdata : p.payload ++ p.buffer = []
    · obtain ⟨hpayload, hbuffer⟩ := List.append_eq_nil_iff.mp hdata
      refine ⟨_, _, by simp [purgeExcessData, hpayload, hbuffer], .quiet hwait hbuffer hpayload ?_⟩
      simpa [hbuffer] using hclosed
    · exact ⟨_, _, by rw [purge_all hdata], .stray hwait hdata⟩

theorem Yields.wellFormed {p q : Protocol} {event : Option Event} (hw : p.WellFormed)
    (h : Yields p event q) : q.WellFormed := by
  have hsettle := settle_wellFormed hw
  cases h with
  | closed => exact hw
  | quiet => exact hw
  | stray hstate =>
      exact ⟨fun hs => (hstate (.inl hs)).elim, fun hs => (hstate (.inr (.inl hs))).elim,
        fun hs => (hstate (.inr (.inr hs))).elim, fun _ => rfl⟩
  | starved => exact hsettle
  | desync hstate =>
      exact ⟨by simp [hstate], by simp [hstate], fun _ => hsettle.sync hstate, by simp [hstate]⟩
  | response => constructor <;> simp [moveToInSyncState]

theorem nextEvent_wellFormed {p : Protocol} (hw : p.WellFormed) : p.nextEvent.2.WellFormed := by
  obtain ⟨event, q, hstep, hyields⟩ := nextEvent_yields hw
  rw [hstep]
  exact hyields.wellFormed hw

theorem apply_wellFormed {p : Protocol} (hw : p.WellFormed) (op : Op) :
    (p.apply op).WellFormed := by
  cases op with
  | feed data =>
      simp only [apply]
      split
      · next p' hfeed => exact feed_wellFormed hw hfeed
      · exact hw
  | nextEvent => exact nextEvent_wellFormed hw
  | send event =>
      simp only [apply]
      split
      · next raw p' hsend =>
          obtain ⟨c, _, _, _, rfl⟩ := send_spec hsend
          exact startWaitingForResponse_wellFormed _ _
      · exact hw
  | sendFailed => exact sendFailed_wellFormed p
  | reset => exact reset_wellFormed p

theorem Reachable.wellFormed {p : Protocol} (h : Reachable p) : p.WellFormed := by
  induction h with
  | new => exact new_wellFormed
  | apply op _ ih => exact apply_wellFormed ih op

/-! ## Consequences of the cases -/

theorem inSync_of_waiting {p : Protocol} (h : p.Waiting) : p.inSync = false := by
  rcases h with h | h | h <;> simp [inSync, h]

theorem waiting_of_settle {p : Protocol} (h : p.settle.Waiting) : p.Waiting := by
  by_contra hp
  rw [settle_of_not_waiting hp] at h
  exact hp h

theorem waiting_of_starved {p : Protocol} (h : p.settle.Starved) : p.Waiting := by
  apply waiting_of_settle
  rcases h with ⟨h, _⟩ | ⟨h, _⟩ | ⟨h, _⟩
  · exact .inl h
  · exact .inr (.inl h)
  · exact .inr (.inr h)

theorem not_waiting_of_quiet {p q : Protocol} (h : p.Yields none q) :
    ¬ p.Waiting ∧ p.buffer = [] ∧ p.payload = [] ∧ p.bufferClosed = false := by
  cases h with
  | quiet hstate hbuffer hpayload hopen => exact ⟨hstate, hbuffer, hpayload, hopen⟩

theorem response_spec {p q : Protocol} {r : Response} (h : p.Yields (some (.response r)) q) :
    p.Waiting ∧ q.inSync = true ∧ q.WellFormed := by
  cases h with
  | response hstate type rest htype hbuffer =>
      refine ⟨waiting_of_settle (.inr (.inr hstate)), by simp [moveToInSyncState], ?_⟩
      constructor <;> simp [moveToInSyncState]

theorem Yields.bufferClosed_eq {p q : Protocol} {event : Option Event} (h : Yields p event q) :
    q.bufferClosed = p.bufferClosed := by
  cases h <;> simp [moveToInSyncState]

theorem Yields.isOpen {p q : Protocol} {event : Option Event} (h : Yields p event q)
    (hopen : p.bufferClosed = false) : q.bufferClosed = false :=
  h.bufferClosed_eq.trans hopen

theorem feed_state {p p' : Protocol} {data : Bytes} (h : p.feed data = .ok p') :
    p'.state = p.state := by
  unfold feed at h
  split_ifs at h <;> cases h <;> rfl

theorem waiting_of_feed {p p' : Protocol} {data : Bytes} (h : p.Waiting)
    (hfeed : p.feed data = .ok p') : p'.Waiting := by
  unfold Waiting
  rw [feed_state hfeed]
  exact h

theorem feed_eq_error {p : Protocol} {data : Bytes} {error : Exn} (h : p.feed data = .error error) :
    error = .runtimeError "receiver closed" := by
  unfold feed at h
  split_ifs at h
  cases h
  rfl

theorem not_waiting_reset (p : Protocol) : ¬ p.reset.Waiting := by simp [Waiting, reset]

theorem not_waiting_sendFailed (p : Protocol) : ¬ p.sendFailed.Waiting := by
  simp [Waiting, sendFailed]

end ApUploader.Protocol
