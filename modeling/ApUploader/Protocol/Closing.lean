import ApUploader.Protocol.Resync
import ApUploader.Protocol.Run

/-! # Polling a closed protocol

Closing only shows at the top of `nextEvent`, and only once the buffer is empty. Each
test for missing bytes further down still asks for more data, so a closed protocol
that stopped inside a reply asks for bytes that `feed` refuses.
-/

namespace ApUploader.Protocol

def close (p : Protocol) : Protocol := { p with bufferClosed := true }

@[simp] theorem close_buffer (p : Protocol) : p.close.buffer = p.buffer := rfl

@[simp] theorem close_state (p : Protocol) : p.close.state = p.state := rfl

theorem WellFormed.close {p : Protocol} (h : p.WellFormed) : p.close.WellFormed := h.withBuffer _ _

theorem purgeExcessData_close (p : Protocol) (upTo : Option Nat) :
    p.close.purgeExcessData upTo =
      ((p.purgeExcessData upTo).1, (p.purgeExcessData upTo).2.close) := by
  unfold purgeExcessData close
  dsimp only
  split_ifs <;> rfl

theorem readStatus_close (p : Protocol) :
    p.close.readStatus = (p.readStatus.1, p.readStatus.2.close) := by
  unfold readStatus
  rw [purgeExcessData_close, close_buffer]
  cases p.buffer[1]? with
  | none => rfl
  | some status =>
      by_cases hstatus : status ∉ acceptedStatus
      · simp [hstatus]
      · simp only [hstatus, ↓reduceIte]
        cases hresponse : Response.fromOpcode status p.payload with
        | ok r => simp [close, hresponse, moveToInSyncState]
        | error e => simp [close, hresponse, moveToInSyncState]

theorem waitSyncBlock_close (p : Protocol) :
    p.close.waitSyncBlock = (p.waitSyncBlock.1, p.waitSyncBlock.2.close) := by
  have hexpected : p.close.bytesExpected = p.bytesExpected := rfl
  unfold waitSyncBlock
  rw [purgeExcessData_close, readStatus_close, close_state, close_buffer, hexpected]
  split_ifs
  · rfl
  · rfl
  · cases p.buffer.findIdx? (· == OpCode.inSync.toByte) with
    | none => rfl
    | some index =>
        cases index with
        | zero => rfl
        | succ n => simp [purgeExcessData_close]
  · rfl

theorem nextEvent_close {p : Protocol} (hw : p.WellFormed) (hbuffer : p.buffer ≠ []) :
    p.close.nextEvent = (p.nextEvent.1, p.nextEvent.2.close) := by
  have hsettle : p.close.settle = p.settle.close := settle_withClosed p true
  rw [nextEvent_eq_settle hw.close (by simp [hbuffer]), nextEvent_eq_settle hw (by simp [hbuffer]),
    hsettle, waitSyncBlock_close, close_state]
  split_ifs <;> rfl

/-- Polling comes to ConnectionClosed and never asks for more data. -/
def PollsToClosed (p : Protocol) : Prop :=
  (∃ n, .returned (some .connectionClosed) ∈ p.results (List.replicate n .nextEvent)) ∧
    ∀ n, .returned (some .needMoreData) ∉ p.results (List.replicate n .nextEvent)

section Polls

variable {p q : Protocol} {event : Event}

theorem results_poll (h : p.nextEvent = (.ok (some event), q)) (n : Nat) :
    p.results (List.replicate (n + 1) .nextEvent) =
      .returned (some event) :: q.results (List.replicate n .nextEvent) := by
  simp [results, List.replicate_succ, Transducer.outputs, machine, observe, apply, h]

theorem pollsToClosed_of_event (h : p.nextEvent = (.ok (some event), q))
    (hmore : event ≠ .needMoreData) (hend : event ≠ .connectionClosed) :
    p.PollsToClosed ↔ q.PollsToClosed := by
  have hlater : ∀ wanted, wanted ≠ event → ∀ n,
      (.returned (some wanted) ∈ p.results (List.replicate (n + 1) .nextEvent) ↔
        .returned (some wanted) ∈ q.results (List.replicate n .nextEvent)) := by
    intro wanted hne n
    simp [results_poll h, hne]
  constructor
  · intro hpolls
    obtain ⟨⟨n, hclosed⟩, hnever⟩ := hpolls
    cases n with
    | zero => simp [results, Transducer.outputs] at hclosed
    | succ n =>
        exact ⟨⟨n, (hlater _ hend.symm n).mp hclosed⟩,
          fun k hk => hnever (k + 1) ((hlater _ hmore.symm k).mpr hk)⟩
  · intro hpolls
    obtain ⟨⟨n, hclosed⟩, hnever⟩ := hpolls
    refine ⟨⟨n + 1, (hlater _ hend.symm n).mpr hclosed⟩, fun k hk => ?_⟩
    cases k with
    | zero => simp [results, Transducer.outputs] at hk
    | succ k => exact hnever k ((hlater _ hmore.symm k).mp hk)

theorem pollsToClosed_congr (h : p.nextEvent = q.nextEvent) :
    p.PollsToClosed ↔ q.PollsToClosed := by
  have hresults : ∀ n, p.results (List.replicate n .nextEvent) =
      q.results (List.replicate n .nextEvent) := by
    intro n
    cases n with
    | zero => rfl
    | succ n => simp [results, List.replicate_succ, Transducer.outputs, machine, observe, apply, h]
  simp [PollsToClosed, hresults]

theorem not_pollsToClosed (h : p.nextEvent = (.ok (some .needMoreData), q)) :
    ¬ p.PollsToClosed := by
  intro hpolls
  apply hpolls.2 1
  rw [results_poll h]
  exact List.mem_cons_self

theorem pollsToClosed_of_nil (hbuffer : p.buffer = []) (hclosed : p.bufferClosed = true) :
    p.PollsToClosed := by
  have hstep : p.nextEvent = (.ok (some .connectionClosed), p) := by
    simp [nextEvent, hbuffer, hclosed]
  refine ⟨⟨1, ?_⟩, fun n hn => ?_⟩
  · rw [results_poll hstep]
    exact List.mem_cons_self
  · induction n with
    | zero => simp [results, Transducer.outputs] at hn
    | succ n ih =>
        rw [results_poll hstep] at hn
        simp only [List.mem_cons, Result.returned.injEq, Option.some.injEq, reduceCtorEq,
          false_or] at hn
        exact ih hn

/-- Outside an exchange the rest of the buffer is reported, and then the end. -/
theorem pollsToClosed_of_not_waiting (hw : p.WellFormed) (hopen : p.bufferClosed = false)
    (hstate : ¬ p.Waiting) : p.close.PollsToClosed := by
  by_cases hbuffer : p.buffer = []
  · exact pollsToClosed_of_nil hbuffer rfl
  · have hstep := nextEvent_close hw hbuffer
    rw [nextEvent_stray hw hopen hstate (by simp [hbuffer])] at hstep
    rw [pollsToClosed_of_event hstep (by simp) (by simp)]
    exact pollsToClosed_of_nil rfl rfl

end Polls

/-- Waiting for sync, a closed protocol comes to the end unless the scanner leaves a sync byte. -/
theorem pollsToClosed_scan {payload data tail : Bytes} {pieces : List Bytes}
    (h : SyncScan data pieces tail) :
    (syncing payload data).close.PollsToClosed ↔ tail ≠ [OpCode.inSync.toByte] := by
  induction pieces generalizing payload data with
  | nil =>
      cases h with
      | halted hhalted =>
          have hw := syncing_wellFormed payload tail
          have hsettle : (syncing payload tail).settle = syncing payload tail :=
            settle_of_waitSync rfl
          cases hhalted with
          | nothing => exact iff_of_true (pollsToClosed_of_nil rfl rfl) (by simp)
          | marker =>
              have hstarved : (syncing payload [OpCode.inSync.toByte]).settle.Starved := by
                rw [hsettle]
                exact .inr (.inr ⟨rfl, .inr rfl⟩)
              have hstep := nextEvent_close hw (by simp [syncing])
              rw [nextEvent_of_starved hw rfl hstarved] at hstep
              exact iff_of_false (not_pollsToClosed hstep) (by simp)
          | pair rest hmem =>
              obtain ⟨type, htype, rfl⟩ := accepted_cases hmem
              have hstep := nextEvent_close hw (by simp [syncing])
              rw [nextEvent_of_reply hw rfl htype hsettle] at hstep
              rw [pollsToClosed_of_event hstep (by simp) (by simp)]
              have hsynced : (synced rest).WellFormed := by
                constructor <;> simp [synced, new]
              exact iff_of_true
                (pollsToClosed_of_not_waiting hsynced rfl (by simp [Waiting, synced])) (by simp)
  | cons piece pieces ih =>
      have hw := syncing_wellFormed payload data
      have hdata : data ≠ [] := h.ne_nil
      obtain ⟨rest, hscan, hstep⟩ := nextEvent_scan hw rfl (settle_of_waitSync rfl) h
      have hclosed := nextEvent_close hw hdata
      rw [hstep] at hclosed
      rw [pollsToClosed_of_event hclosed (by simp) (by simp)]
      exact ih hscan

/-! ## Where a closed protocol gets stuck -/

/-- The scanner finds no pair and stops at a lone sync byte at the end. -/
def EndsInLoneSync (bytes : Bytes) : Prop := NoStatusSeen bytes ∧ ¬ Even (syncsAtEnd bytes)

theorem pollsToClosed_syncing (payload data : Bytes) :
    (syncing payload data).close.PollsToClosed ↔ ¬ EndsInLoneSync data := by
  obtain ⟨pieces, tail, hscan⟩ : ∃ pieces tail, SyncScan data pieces tail :=
    MarkerScan.scan_total data
  rw [pollsToClosed_scan hscan, EndsInLoneSync,
    ← (hscan.leaves inSync_not_mem_acceptedStatus).marker_iff]

def behindPayload (p : Protocol) : Option Bytes :=
  match p.state with
  | .waitResponseLength =>
      let n := 4 + LittleEndian.decode (p.buffer.take 4)
      if n ≤ p.buffer.length then some (p.buffer.drop n) else none
  | .waitResponse =>
      if p.bytesExpected ≤ p.buffer.length then some (p.buffer.drop p.bytesExpected) else none
  | _ => some p.buffer

/-- Nothing is buffered, or no reply is outstanding, or the payload of the reply is complete and
behind it stands something that does not end in a lone sync byte. -/
def ReadsToTheEnd (p : Protocol) : Prop :=
  p.buffer = [] ∨ ¬ p.Waiting ∨
    ∃ tail, p.behindPayload = some tail ∧ tail ≠ [] ∧ ¬ EndsInLoneSync tail

theorem settle_behindPayload {p : Protocol} (hwait : p.Waiting) :
    p.behindPayload = if p.settle.state = .waitSync then some p.settle.buffer else none := by
  rcases hwait with hs | hs | hs
  · by_cases hlen : 4 ≤ p.buffer.length
    · simp only [behindPayload, settle, settleLength, hs, hlen, and_self, ↓reduceIte]
      generalize LittleEndian.decode (p.buffer.take 4) = n
      rcases Nat.eq_zero_or_pos n with rfl | hpos
      · simp [startWaitingForSync, settleResponse, hlen]
      · simp only [startWaitingForResponse_pos _ hpos, settleResponse, true_and, List.length_drop,
          startWaitingForSync, List.drop_drop]
        by_cases hfull : 4 + n ≤ p.buffer.length
        · have hrest : n ≤ p.buffer.length - 4 := by omega
          simp [hfull, hrest]
        · have hrest : ¬ n ≤ p.buffer.length - 4 := by omega
          simp [hfull, hrest]
    · have hshort : ¬ 4 + LittleEndian.decode (p.buffer.take 4) ≤ p.buffer.length := by omega
      simp [behindPayload, settle, settleLength, settleResponse, hs, hlen, hshort]
  · by_cases hfull : p.bytesExpected ≤ p.buffer.length
    · simp [behindPayload, settle, settleLength, settleResponse, startWaitingForSync, hs, hfull]
    · simp [behindPayload, settle, settleLength, settleResponse, hs, hfull]
  · simp [behindPayload, settle, settleLength, settleResponse, hs]

theorem nextEvent_settle {p : Protocol} (hw : p.WellFormed) (hopen : p.bufferClosed = false) :
    p.settle.nextEvent = p.nextEvent := by
  simpa using nextEvent_settle_append [] hw hopen

/-- A closed protocol comes to ConnectionClosed without asking for more data exactly when it is not
stopped inside a reply. -/
theorem pollsToClosed_iff {p : Protocol} (hp : Reachable p) (hclosed : p.bufferClosed = true) :
    p.PollsToClosed ↔ p.ReadsToTheEnd := by
  obtain ⟨q, hopen, hw, rfl⟩ : ∃ q : Protocol,
      q.bufferClosed = false ∧ q.WellFormed ∧ p = q.close := by
    refine ⟨{ p with bufferClosed := false }, rfl, hp.wellFormed.withBuffer _ _, ?_⟩
    cases p
    simp only at hclosed
    rw [hclosed]
    rfl
  by_cases hbuffer : q.buffer = []
  · exact iff_of_true (pollsToClosed_of_nil hbuffer rfl) (.inl hbuffer)
  by_cases hwait : q.Waiting
  · have hstep := nextEvent_close hw hbuffer
    have htail : q.close.behindPayload =
        if q.settle.state = .waitSync then some q.settle.buffer else none :=
      settle_behindPayload hwait
    have hreads : q.close.ReadsToTheEnd ↔ (q.settle.state = .waitSync ∧ q.settle.buffer ≠ []) ∧
        ¬ EndsInLoneSync q.settle.buffer := by
      have hsame : q.close.Waiting := hwait
      unfold ReadsToTheEnd
      rw [htail]
      split_ifs with hs <;> simp [hbuffer, hsame, hs]
    rw [hreads]
    by_cases hcomplete : q.settle.state = .waitSync ∧ q.settle.buffer ≠ []
    · -- the payload is complete, and polling goes on as behind it
      rw [← nextEvent_settle hw hopen,
        ← nextEvent_close (settle_wellFormed hw) hcomplete.2] at hstep
      rw [pollsToClosed_congr hstep, settle_eq_syncing hw hopen hcomplete.1,
        pollsToClosed_syncing]
      simp [syncing, hcomplete.2]
    · -- the reply is incomplete, and the first poll asks for the rest
      have hstarved : q.settle.Starved := by
        rcases settle_cases hw hwait with hs | hs | hs
        · exact .inl hs
        · exact .inr (.inl hs)
        · exact .inr (.inr ⟨hs, .inl (by simpa [hs] using hcomplete)⟩)
      rw [nextEvent_of_starved hw hopen hstarved] at hstep
      refine iff_of_false (not_pollsToClosed hstep) ?_
      intro hreads
      exact hcomplete hreads.1
  · exact iff_of_true (pollsToClosed_of_not_waiting hw hopen hwait) (.inr (.inl hwait))

/-- The connection is closed when these bytes of the reply to GET_CRC have arrived. -/
def closedInReply (received : Bytes) : Protocol :=
  new.after [.send (.command .getSync), .feed [OpCode.inSync.toByte, OpCode.ok.toByte], .nextEvent,
    .send (.command .getCrc), .feed received, .feed []]

theorem pollsToClosed_iff_complete :
    (closedInReply [1, 2, 3, 4, 0x12, 0x10]).PollsToClosed ↔
      (closedInReply [1, 2, 3, 4, 0x12, 0x10]).ReadsToTheEnd :=
  pollsToClosed_iff (Reachable.new.after _) (by decide)

theorem not_pollsToClosed_incomplete :
    ¬ ∀ p, Reachable p → p.bufferClosed = true → p.PollsToClosed := by
  intro h
  have hstep : (closedInReply [1]).nextEvent = (.ok (some .needMoreData), closedInReply [1]) := by
    decide
  exact not_pollsToClosed hstep (h _ (Reachable.new.after _) (by decide))

end ApUploader.Protocol
