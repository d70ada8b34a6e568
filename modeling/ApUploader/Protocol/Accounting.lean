import ApUploader.Protocol.Run
import ApUploader.Protocol.Awaiting

/-! # Every received byte is accounted for

A ledger follows a run: the bytes received, the bytes that the returned events
account for, and where a length prefix was taken. Reported bytes, stored payload
and unparsed buffer are the received bytes without the length prefixes, each of
which belongs to a command with a variable-length reply.
-/

namespace ApUploader.Protocol

/-- The bytes a result accounts for. -/
def Result.reported : Result → Bytes
  | .returned (some (.excessData payload)) => payload
  | .returned (some (.response r)) => r.payload ++ [OpCode.inSync.toByte, r.type.toByte]
  | _ => []

def accepted (p : Protocol) : Op → Bytes
  | .feed data => match p.feed data with | .ok _ => data | .error _ => []
  | _ => []

def takesPrefix (p : Protocol) : Op → Prop
  | .nextEvent => p.state = .waitResponseLength ∧ 4 ≤ p.buffer.length
  | _ => False

instance (p : Protocol) (op : Op) : Decidable (p.takesPrefix op) := by
  cases op <;> unfold takesPrefix <;> infer_instance

def announces (p : Protocol) : Op → Prop
  | .send (.command c) => c.responseLength < 0 ∧ (p.send (.command c)).isOk
  | _ => False

instance (p : Protocol) (op : Op) : Decidable (p.announces op) := by
  unfold announces
  split <;> infer_instance

structure Ledger where
  protocol : Protocol := new
  received : Bytes := []
  reported : Bytes := []
  /-- Where in the received bytes the length prefixes start. -/
  prefixes : List Nat := []
  /-- How many commands with a variable-length reply were sent. -/
  announced : Nat := 0

namespace Ledger

def enter (l : Ledger) (op : Op) : Ledger where
  protocol := l.protocol.apply op
  received := l.received ++ l.protocol.accepted op
  reported := l.reported ++ (l.protocol.observe op).reported
  prefixes :=
    if l.protocol.takesPrefix op then
      l.prefixes ++ [l.received.length - l.protocol.buffer.length]
    else l.prefixes
  announced := if l.protocol.announces op then l.announced + 1 else l.announced

def machine : Transducer Ledger Op Result := ⟨fun l => l.protocol.observe, enter⟩

def ofRun (ops : List Op) : Ledger := machine.run {} ops

theorem run_protocol (l : Ledger) (ops : List Op) :
    (machine.run l ops).protocol = l.protocol.after ops := by
  induction ops generalizing l with
  | nil => rfl
  | cons op rest ih => exact ih (l.enter op)

end Ledger

/-! ## Leaving out the prefixes -/

def Outside (starts : List Nat) (position : Nat) : Prop :=
  ∀ start ∈ starts, position < start ∨ start + 4 ≤ position

instance (starts : List Nat) : DecidablePred (Outside starts) :=
  fun _ => inferInstanceAs (Decidable (∀ _ ∈ starts, _))

def withoutPrefixes (starts : List Nat) (bytes : Bytes) : Bytes :=
  (bytes.zipIdx.filter fun (_, position) => Outside starts position).map Prod.fst

def EndBefore (starts : List Nat) (position : Nat) : Prop := ∀ start ∈ starts, start + 4 ≤ position

theorem EndBefore.mono {starts : List Nat} {m n : Nat} (h : EndBefore starts m) (hle : m ≤ n) :
    EndBefore starts n :=
  fun start hmem => (h start hmem).trans hle

theorem outside_append {starts : List Nat} {start position : Nat} :
    Outside (starts ++ [start]) position ↔
      Outside starts position ∧ (position < start ∨ start + 4 ≤ position) := by
  simp [Outside, or_imp, forall_and]

theorem zipIdx_position {bytes : Bytes} {first : Nat} {entry : UInt8 × Nat}
    (h : entry ∈ bytes.zipIdx first) : first ≤ entry.2 ∧ entry.2 < first + bytes.length := by
  obtain ⟨hle, hlt, _⟩ := List.mem_zipIdx h
  exact ⟨hle, hlt⟩

theorem withoutPrefixes_append {starts : List Nat} {front : Bytes} (back : Bytes)
    (h : EndBefore starts front.length) :
    withoutPrefixes starts (front ++ back) = withoutPrefixes starts front ++ back := by
  have hback : ∀ entry ∈ back.zipIdx front.length,
      decide (Outside starts entry.2) = true := by
    intro entry hmem
    rw [decide_eq_true_iff]
    exact fun start hstart => .inr ((h start hstart).trans (zipIdx_position hmem).1)
  unfold withoutPrefixes
  rw [List.zipIdx_append, List.filter_append, List.map_append, Nat.zero_add,
    List.filter_eq_self.mpr hback]
  simp

/-- A new block behind the others leaves out exactly its own bytes. -/
theorem withoutPrefixes_mark {starts : List Nat} {front block : Bytes}
    (hblock : block.length = 4) :
    withoutPrefixes (starts ++ [front.length]) (front ++ block) = withoutPrefixes starts front := by
  have hfront : front.zipIdx.filter
      (fun (_, position) => decide (Outside (starts ++ [front.length]) position)) =
      front.zipIdx.filter fun (_, position) => decide (Outside starts position) := by
    refine List.filter_congr fun entry hmem => ?_
    have hlt := (zipIdx_position hmem).2
    rw [decide_eq_decide, outside_append]
    exact and_iff_left (.inl (by omega))
  have hback : (block.zipIdx front.length).filter
      (fun (_, position) => decide (Outside (starts ++ [front.length]) position)) = [] := by
    refine List.filter_eq_nil_iff.mpr fun entry hmem => ?_
    have hposition := zipIdx_position hmem
    rw [decide_eq_true_iff, outside_append]
    rintro ⟨_, hout⟩
    omega
  unfold withoutPrefixes
  rw [List.zipIdx_append, List.filter_append, Nat.zero_add, hfront, hback, List.append_nil]

/-! ## Balanced books -/

/-- The bytes in front of the buffer, without the prefixes, were reported or are stored. -/
def Balanced (received reported : Bytes) (prefixes : List Nat) (p : Protocol) : Prop :=
  ∃ front, received = front ++ p.buffer ∧ EndBefore prefixes front.length ∧
    reported ++ p.payload = withoutPrefixes prefixes front

section Balanced

variable {received reported : Bytes} {prefixes : List Nat} {p q : Protocol}

theorem Balanced.total (h : Balanced received reported prefixes p) :
    reported ++ p.payload ++ p.buffer = withoutPrefixes prefixes received := by
  obtain ⟨front, rfl, hends, hfront⟩ := h
  rw [withoutPrefixes_append _ hends, hfront]

/-- Bytes move from the buffer to the stored payload and to what was reported. -/
theorem Balanced.move (h : Balanced received reported prefixes p) (taken extra : Bytes)
    (hbuffer : p.buffer = taken ++ q.buffer) (hpayload : extra ++ q.payload = p.payload ++ taken) :
    Balanced received (reported ++ extra) prefixes q := by
  obtain ⟨front, rfl, hends, hfront⟩ := h
  refine ⟨front ++ taken, by simp [hbuffer], hends.mono (by simp), ?_⟩
  rw [withoutPrefixes_append _ hends, List.append_assoc, hpayload, ← List.append_assoc, hfront]

/-- A length prefix leaves the buffer unreported. -/
theorem Balanced.skip (h : Balanced received reported prefixes p) (block : Bytes)
    (hblock : block.length = 4) (hbuffer : p.buffer = block ++ q.buffer)
    (hpayload : q.payload = p.payload) :
    Balanced received reported (prefixes ++ [received.length - p.buffer.length]) q := by
  obtain ⟨front, rfl, hends, hfront⟩ := h
  have hstart : (front ++ p.buffer).length - p.buffer.length = front.length := by simp
  refine ⟨front ++ block, by simp [hbuffer], ?_, ?_⟩
  · intro start hmem
    rw [List.length_append, hblock]
    rcases List.mem_append.mp hmem with hmem | hmem
    · exact (hends start hmem).trans (Nat.le_add_right _ _)
    · rw [List.mem_singleton.mp hmem, hstart]
  · rw [hstart, withoutPrefixes_mark hblock, hpayload, hfront]

theorem Balanced.keep (h : Balanced received reported prefixes p) (hbuffer : q.buffer = p.buffer)
    (hpayload : q.payload = p.payload) : Balanced received reported prefixes q := by
  obtain ⟨front, rfl, hends, hfront⟩ := h
  exact ⟨front, by rw [hbuffer], hends, by rw [hpayload, hfront]⟩

end Balanced

/-! ## One operation -/

section Step

variable {received reported : Bytes} {prefixes : List Nat} {p q : Protocol}

theorem startWaitingForResponse_payload (h : p.payload = []) (n : Int) :
    (p.startWaitingForResponse n).payload = [] := by
  unfold startWaitingForResponse startWaitingForSync
  split_ifs <;> simp [h]

/-- Where a poll takes the length prefix, its position joins the list. -/
def marked (received : Bytes) (prefixes : List Nat) (p : Protocol) : List Nat :=
  if p.takesPrefix .nextEvent then prefixes ++ [received.length - p.buffer.length] else prefixes

theorem Balanced.settle (h : Balanced received reported prefixes p) (hw : p.WellFormed) :
    Balanced received reported (marked received prefixes p) p.settle := by
  have hlength : Balanced received reported (marked received prefixes p) p.settleLength := by
    by_cases htake : p.state = .waitResponseLength ∧ 4 ≤ p.buffer.length
    · have hpayload := (hw.length htake.1).2
      have hmarked : marked received prefixes p =
          prefixes ++ [received.length - p.buffer.length] := if_pos htake
      rw [hmarked, settleLength, if_pos htake]
      refine h.skip (p.buffer.take 4) (by simpa using htake.2) (by simp) ?_
      rw [startWaitingForResponse_payload (by exact hpayload), hpayload]
    · have hmarked : marked received prefixes p = prefixes := if_neg htake
      rw [hmarked, settleLength, if_neg htake]
      exact h
  have hwl := settleLength_wellFormed hw
  show Balanced received reported (marked received prefixes p) p.settleLength.settleResponse
  generalize p.settleLength = s at hlength hwl
  unfold settleResponse
  split_ifs with hfull
  · have hpayload := (hwl.response hfull.1).2
    have hmove := hlength.move (s.buffer.take s.bytesExpected) []
      (q := { s with payload := s.buffer.take s.bytesExpected,
                     buffer := s.buffer.drop s.bytesExpected }.startWaitingForSync)
      (by simp [startWaitingForSync]) (by simp [startWaitingForSync, hpayload])
    rwa [List.append_nil] at hmove
  · exact hlength

theorem marked_eq_self (h : ¬ p.Waiting ∨ p.buffer = []) :
    marked received prefixes p = prefixes := by
  have hnone : ¬ p.takesPrefix .nextEvent := by
    rintro ⟨hstate, hfull⟩
    rcases h with h | h
    · exact h (.inl hstate)
    · simp [h] at hfull
  exact if_neg hnone

theorem Balanced.nextEvent {event : Option Event} (h : Balanced received reported prefixes p)
    (hw : p.WellFormed) (hyields : p.Yields event q) :
    Balanced received (reported ++ (Result.returned event).reported) (marked received prefixes p)
      q := by
  have hsettle := h.settle hw
  cases hyields with
  | closed hbuffer =>
      rw [marked_eq_self (.inr hbuffer)]
      simpa [Result.reported] using h
  | quiet hstate =>
      rw [marked_eq_self (.inl hstate)]
      simpa [Result.reported] using h
  | stray hstate =>
      rw [marked_eq_self (.inl hstate)]
      exact h.move p.buffer _ (by simp) (by simp [Result.reported])
  | starved => simpa [Result.reported] using hsettle
  | desync _ n =>
      exact hsettle.move (p.settle.buffer.take n) _ (by simp) (by simp [Result.reported])
  | response _ type rest _ hbuffer =>
      exact hsettle.move [OpCode.inSync.toByte, type.toByte] _
        (by simp [hbuffer, moveToInSyncState]) (by simp [Result.reported, moveToInSyncState])

/-- Neither a rejected nor an accepted command touches buffer and payload: a payload is stored only
out of sync, where GET_SYNC alone is accepted. -/
theorem send_payload {event : Event} {raw : Bytes} (hw : p.WellFormed)
    (h : p.send event = .ok (raw, q)) : q.payload = p.payload ∧ q.buffer = p.buffer := by
  obtain ⟨c, rfl, hgate, _, rfl⟩ := send_spec h
  refine ⟨?_, by simp⟩
  rcases hgate with hsync | htype
  · have hpayload := hw.synced (inSync_eq_true.mp hsync)
    rw [startWaitingForResponse_payload hpayload, hpayload]
  · have hzero : c.responseLength = 0 := by simp [Command.responseLength, htype]
    rw [hzero, startWaitingForResponse_zero]
    rfl

theorem waitResponseLength_of_nextEvent {event : Option Event} (h : p.Yields event q)
    (hstate : q.state = .waitResponseLength) :
    p.state = .waitResponseLength ∧ ¬ 4 ≤ p.buffer.length := by
  cases h with
  | closed hbuffer => exact ⟨hstate, by simp [hbuffer]⟩
  | quiet hnot => exact (hnot (.inl hstate)).elim
  | stray hnot => exact (hnot (.inl hstate)).elim
  | starved =>
      have hkeep : p.settleLength.state = .waitResponseLength := by
        by_contra hne
        exact settleResponse_state_ne hne hstate
      by_cases hp : p.state = .waitResponseLength
      · exact ⟨hp, fun hfull => settleLength_state hp hfull hkeep⟩
      · rw [settleLength_of_ne hp] at hkeep
        exact (hp hkeep).elim
  | desync hsync => simp [hsync] at hstate
  | response => simp [moveToInSyncState] at hstate

end Step

/-! ## Whole runs -/

namespace Ledger

structure Sound (l : Ledger) : Prop where
  wellFormed : l.protocol.WellFormed
  balanced : Balanced l.received l.reported l.prefixes l.protocol
  announced : l.prefixes.length + (if l.protocol.state = .waitResponseLength then 1 else 0) ≤
    l.announced

theorem Sound.new : Sound {} where
  wellFormed := new_wellFormed
  balanced := ⟨[], rfl, fun _ hmem => by simp at hmem, rfl⟩
  announced := by simp [Protocol.new]

/-- An operation that takes no prefix and reports nothing keeps the books balanced. -/
theorem Sound.balanced_feed {l : Ledger} (h : l.Sound) (data : Bytes) :
    Balanced (l.received ++ l.protocol.accepted (.feed data)) l.reported l.prefixes
      (l.protocol.apply (.feed data)) := by
  obtain ⟨front, hreceived, hends, hfront⟩ := h.balanced
  simp only [accepted, apply]
  cases hfeed : l.protocol.feed data with
  | error e => exact ⟨front, by simpa using hreceived, hends, hfront⟩
  | ok q =>
      unfold feed at hfeed
      split_ifs at hfeed with hdata
      · cases hfeed
        exact ⟨front, by simp [hreceived], hends, hfront⟩
      · cases hfeed
        exact ⟨front, by simpa [not_not.mp hdata] using hreceived, hends, hfront⟩

theorem Sound.enter_balanced {l : Ledger} (h : l.Sound) {op : Op} (hop : op ≠ .reset) :
    Balanced (l.enter op).received (l.enter op).reported (l.enter op).prefixes
      (l.enter op).protocol := by
  have hw := h.wellFormed
  have hbalanced := h.balanced
  cases op with
  | feed data =>
      have hquiet : (l.protocol.observe (.feed data)).reported = [] := by
        simp only [observe]
        cases l.protocol.feed data <;> rfl
      simpa [Ledger.enter, hquiet, takesPrefix] using h.balanced_feed data
  | nextEvent =>
      obtain ⟨event, q, hstep, hyields⟩ := nextEvent_yields hw
      have hnext := hbalanced.nextEvent hw hyields
      simpa [Ledger.enter, observe, accepted, apply, hstep, marked] using hnext
  | send event =>
      cases hsend : l.protocol.send event with
      | error e =>
          simpa [Ledger.enter, observe, accepted, apply, hsend, takesPrefix, Result.reported]
            using hbalanced
      | ok result =>
          obtain ⟨raw, q⟩ := result
          obtain ⟨hpayload, hbuffer⟩ := send_payload hw hsend
          simpa [Ledger.enter, observe, accepted, apply, hsend, takesPrefix, Result.reported]
            using hbalanced.keep hbuffer hpayload
  | sendFailed =>
      simpa [Ledger.enter, observe, accepted, apply, takesPrefix, Result.reported]
        using hbalanced.keep (q := l.protocol.sendFailed) rfl rfl
  | reset => exact (hop rfl).elim

/-- A length prefix is awaited from the moment its command is sent until it is taken. -/
theorem Sound.enter_announced {l : Ledger} (h : l.Sound) {op : Op} (hop : op ≠ .reset) :
    (l.enter op).prefixes.length +
        (if (l.enter op).protocol.state = .waitResponseLength then 1 else 0) ≤
      (l.enter op).announced := by
  have hannounced := h.announced
  cases op with
  | feed data =>
      have hstate : (l.protocol.apply (.feed data)).state = l.protocol.state := by
        simp only [apply]
        cases hfeed : l.protocol.feed data with
        | error e => rfl
        | ok q => exact feed_state hfeed
      simpa [Ledger.enter, takesPrefix, announces, hstate] using hannounced
  | nextEvent =>
      obtain ⟨event, q, hstep, hyields⟩ := nextEvent_yields h.wellFormed
      have hleft := waitResponseLength_of_nextEvent hyields
      have hprotocol : (l.enter .nextEvent).protocol = q := congrArg Prod.snd hstep
      have hcount : (l.enter .nextEvent).announced = l.announced := by
        simp [Ledger.enter, announces]
      rw [hprotocol, hcount]
      by_cases htake : l.protocol.takesPrefix .nextEvent
      · have hprefixes : (l.enter .nextEvent).prefixes =
            l.prefixes ++ [l.received.length - l.protocol.buffer.length] := if_pos htake
        have hne : q.state ≠ .waitResponseLength := fun hq => (hleft hq).2 htake.2
        rw [if_pos htake.1] at hannounced
        simpa [hprefixes, hne] using hannounced
      · have hprefixes : (l.enter .nextEvent).prefixes = l.prefixes := if_neg htake
        rw [hprefixes]
        by_cases hq : q.state = .waitResponseLength
        · have hp := (hleft hq).1
          simpa [hq, hp] using hannounced
        · rw [if_neg hq]
          omega
  | send event =>
      cases hsend : l.protocol.send event with
      | error e =>
          have hnot : ¬ l.protocol.announces (.send event) := by
            cases event <;> simp [announces, hsend, Except.isOk, Except.toBool]
          simpa [Ledger.enter, apply, hsend, takesPrefix, hnot] using hannounced
      | ok result =>
          obtain ⟨raw, q⟩ := result
          obtain ⟨c, rfl, _, _, rfl⟩ := send_spec hsend
          simp only [Ledger.enter, apply, hsend, takesPrefix, announces, Except.isOk,
            Except.toBool, and_true, ↓reduceIte]
          by_cases hneg : c.responseLength < 0
          · simp only [hneg, startWaitingForResponse_neg, ↓reduceIte]
            omega
          · have hne : (l.protocol.startWaitingForResponse c.responseLength).state ≠
                .waitResponseLength := by
              unfold startWaitingForResponse startWaitingForSync
              split_ifs <;> simp
            simp only [hneg, hne, ↓reduceIte]
            omega
  | sendFailed =>
      simp only [Ledger.enter, apply, takesPrefix, announces, sendFailed, reduceCtorEq, ↓reduceIte]
      omega
  | reset => exact (hop rfl).elim

theorem Sound.enter {l : Ledger} (h : l.Sound) {op : Op} (hop : op ≠ .reset) :
    (l.enter op).Sound :=
  ⟨apply_wellFormed h.wellFormed op, h.enter_balanced hop, h.enter_announced hop⟩

end Ledger

/-- In every run without `reset` the reported bytes, the stored payload and the unparsed buffer are
the received bytes without the length prefixes of the variable-length replies. -/
theorem received_bytes_accounted {ops : List Op} (h : ∀ op ∈ ops, op ≠ .reset) :
    let l := Ledger.ofRun ops
    l.reported ++ l.protocol.payload ++ l.protocol.buffer = withoutPrefixes l.prefixes l.received ∧
      l.prefixes.length ≤ l.announced := by
  have hsound : (Ledger.ofRun ops).Sound :=
    Ledger.machine.run_invariant Ledger.Sound (fun _ _ hsound hop => hsound.enter hop)
      Ledger.Sound.new h
  refine ⟨hsound.balanced.total, ?_⟩
  have hannounced := hsound.announced
  omega

theorem received_bytes_accounted_description :
    let l := Ledger.ofRun [.send (.command .getSync), .feed [0xFF, 0x12, 0x10], .nextEvent,
      .nextEvent, .send (.command .getChipDescription), .feed [3, 0, 0, 0, 97, 98, 99], .nextEvent,
      .send (.command .getSync), .feed [0x12, 0x10, 0x55], .nextEvent]
    l.reported ++ l.protocol.payload ++ l.protocol.buffer = withoutPrefixes l.prefixes l.received ∧
      l.prefixes.length ≤ l.announced :=
  received_bytes_accounted (by simp)

end ApUploader.Protocol
