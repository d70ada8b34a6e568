import ApUploader.Protocol.Awaiting
import ApUploader.Protocol.Run

/-! # What `reset` leaves behind

`reset` assigns the buffer, its closed flag and the state, but neither the stored
payload nor the number of expected bytes. The number of expected bytes is assigned
before it is read again, so no run can tell it apart. A stored payload is reported
by the next poll.
-/

namespace ApUploader.Protocol

/-- Equal states, or equal up to the expected bytes of a reply that is not outstanding. -/
def Alike (p q : Protocol) : Prop := p = q ∨ ¬ q.Waiting ∧ ∃ n, p = { q with bytesExpected := n }

section

variable {p : Protocol} (n : Nat)

theorem withBytesExpected_feed (data : Bytes) :
    { p with bytesExpected := n }.feed data =
      (p.feed data).map fun q => { q with bytesExpected := n } := by
  unfold feed
  split_ifs <;> rfl

/-- An accepted command assigns the expected bytes. -/
theorem withBytesExpected_send (event : Event) :
    { p with bytesExpected := n }.send event = p.send event := by
  have hstart : ∀ length, { p with bytesExpected := n }.startWaitingForResponse length =
      p.startWaitingForResponse length := by
    intro length
    unfold startWaitingForResponse startWaitingForSync
    split_ifs <;> rfl
  cases event with
  | command c => simp [send, hstart, inSync]
  | _ => rfl

/-- Without an outstanding reply the expected bytes are not read. -/
theorem withBytesExpected_nextEvent (h : ¬ p.Waiting) :
    { p with bytesExpected := n }.nextEvent =
      (p.nextEvent.1, { p.nextEvent.2 with bytesExpected := n }) ∧ ¬ p.nextEvent.2.Waiting := by
  have hl : p.state ≠ .waitResponseLength := fun hs => h (.inl hs)
  have hr : p.state ≠ .waitResponse := fun hs => h (.inr (.inl hs))
  have hs : p.state ≠ .waitSync := fun hs => h (.inr (.inr hs))
  unfold nextEvent waitResponseLengthBlock waitResponseBlock waitSyncBlock purgeExcessData
  by_cases hclosed : p.buffer = [] ∧ p.bufferClosed = true
  · simp [hclosed, h]
  · by_cases hdata : p.payload ≠ [] ∨ 0 < p.buffer.length
    · simp [hclosed, hl, hr, hs, hdata, Waiting]
    · simp [hclosed, hl, hr, hs, hdata, Waiting]

end

theorem Alike.step {p q : Protocol} (h : Alike p q) (op : Op) :
    p.observe op = q.observe op ∧ Alike (p.apply op) (q.apply op) := by
  rcases h with rfl | ⟨hwait, n, rfl⟩
  · exact ⟨rfl, .inl rfl⟩
  · cases op with
    | feed data =>
        have hsame := withBytesExpected_feed (p := q) n data
        cases hfeed : q.feed data with
        | error e =>
            simp only [observe, apply, hsame, hfeed, Except.map]
            exact ⟨trivial, .inr ⟨hwait, n, rfl⟩⟩
        | ok q' =>
            have hwait' : ¬ q'.Waiting := by
              unfold Waiting at hwait ⊢
              rwa [feed_state hfeed]
            simp only [observe, apply, hsame, hfeed, Except.map]
            exact ⟨trivial, .inr ⟨hwait', n, rfl⟩⟩
    | nextEvent =>
        obtain ⟨hstep, hwait'⟩ := withBytesExpected_nextEvent n hwait
        simp only [observe, apply, hstep]
        exact ⟨trivial, .inr ⟨hwait', n, rfl⟩⟩
    | send event =>
        have hsame := withBytesExpected_send (p := q) n event
        cases hsend : q.send event with
        | error e =>
            simp only [observe, apply, hsame, hsend]
            exact ⟨trivial, .inr ⟨hwait, n, rfl⟩⟩
        | ok result =>
            simp only [observe, apply, hsame, hsend]
            exact ⟨trivial, .inl rfl⟩
    | sendFailed => exact ⟨rfl, .inr ⟨by simp [Waiting, apply, sendFailed], n, rfl⟩⟩
    | reset => exact ⟨rfl, .inr ⟨by simp [Waiting, apply, reset], n, rfl⟩⟩

/-- Without a stored payload a reset protocol differs from a new one in the expected bytes only. -/
theorem reset_alike {p : Protocol} (h : p.payload = []) : Alike p.reset new := by
  refine .inr ⟨by decide, p.bytesExpected, ?_⟩
  simp [reset, new, h]

/-- A stored payload is reported by the first poll after `reset`. -/
theorem reset_nextEvent {p : Protocol} (h : p.payload ≠ []) :
    p.reset.nextEvent.1 = .ok (some (.excessData p.payload)) := by
  have hstray := nextEvent_stray (reset_wellFormed p) rfl (by simp [Waiting, reset])
    (by simpa [reset] using h)
  rw [hstray]
  simp [reset]

/-- A reset protocol cannot be told from a new one exactly when no payload was stored. -/
theorem results_reset_iff (p : Protocol) :
    (∀ ops, p.reset.results ops = new.results ops) ↔ p.payload = [] := by
  constructor
  · intro hsame
    by_contra hpayload
    have hpoll := hsame [.nextEvent]
    have hfresh : new.nextEvent.1 = .ok none := by decide
    simp [results, Transducer.outputs, machine, observe, reset_nextEvent hpayload, hfresh] at hpoll
  · intro hpayload ops
    exact machine.outputs_eq_of_bisimulation (fun _ _ op h => h.step op) (reset_alike hpayload) ops

def halfReceived : List Op :=
  [.send (.command .getSync), .feed [OpCode.inSync.toByte, OpCode.ok.toByte], .nextEvent,
    .send (.command .getCrc), .feed [1, 2, 3, 4], .nextEvent]

theorem results_reset_halfReceived :
    ¬ ∀ p, Reachable p → ∀ ops, p.reset.results ops = new.results ops := by
  intro h
  have hsame := h _ (Reachable.new.after halfReceived) [.nextEvent]
  revert hsame
  decide

end ApUploader.Protocol
