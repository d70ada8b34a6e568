import ApUploader.Protocol.Invariant

/-! # Awaiting a reply

`awaiting n received` is the state after a command that declares `n` payload
bytes was sent from a clean synced state and the bytes `received` were fed.
However the bytes were chunked and however often `nextEvent` was polled in
between, the protocol behaves as this state does: `Reading` relates the two.
-/

namespace ApUploader.Protocol

/-- Add bytes to the buffer, as `feed` does on an open protocol. -/
def append (p : Protocol) (data : Bytes) : Protocol := { p with buffer := p.buffer ++ data }

@[simp] theorem append_state (p : Protocol) (data : Bytes) : (p.append data).state = p.state := rfl

@[simp] theorem append_bytesExpected (p : Protocol) (data : Bytes) :
    (p.append data).bytesExpected = p.bytesExpected := rfl

@[simp] theorem append_buffer (p : Protocol) (data : Bytes) :
    (p.append data).buffer = p.buffer ++ data := rfl

@[simp] theorem append_nil (p : Protocol) : p.append [] = p := by simp [append]

theorem WellFormed.append {p : Protocol} (h : p.WellFormed) (data : Bytes) :
    (p.append data).WellFormed :=
  h.withBuffer _ _

theorem feed_of_open {p : Protocol} {data : Bytes} (hopen : p.bufferClosed = false)
    (hdata : data ≠ []) : p.feed data = .ok (p.append data) := by
  simp [feed, hopen, hdata, append]

theorem append_startWaitingForResponse (p : Protocol) (n : Int) (data : Bytes) :
    (p.startWaitingForResponse n).append data = (p.append data).startWaitingForResponse n := by
  unfold startWaitingForResponse startWaitingForSync append
  split_ifs <;> rfl

/-! ## Settling and later bytes -/

theorem settleLength_append (p : Protocol) (data : Bytes) :
    (p.settleLength.append data).settleLength = (p.append data).settleLength := by
  by_cases hfull : p.state = .waitResponseLength ∧ 4 ≤ p.buffer.length
  · have hstate := settleLength_state hfull.1 hfull.2
    have hlong : 4 ≤ p.buffer.length + data.length := by omega
    have hleft : (p.settleLength.append data).settleLength = p.settleLength.append data := by
      simp [settleLength, append] at hstate ⊢
      simp [hstate]
    rw [hleft]
    simp only [settleLength, hfull, and_self, ↓reduceIte, append_state, append_buffer,
      List.length_append, hlong]
    rw [append_startWaitingForResponse, List.take_append_of_le_length hfull.2,
      List.drop_append_of_le_length hfull.2]
    rfl
  · have hkeep : p.settleLength = p := if_neg hfull
    rw [hkeep]

theorem settleResponse_append (p : Protocol) (data : Bytes) :
    (p.settleResponse.append data).settleResponse = (p.append data).settleResponse := by
  by_cases hfull : p.state = .waitResponse ∧ p.bytesExpected ≤ p.buffer.length
  · have hlong : p.bytesExpected ≤ p.buffer.length + data.length := by omega
    simp only [settleResponse, hfull, and_self, ↓reduceIte, List.length_append, hlong,
      startWaitingForSync, append]
    simp [List.take_append_of_le_length hfull.2, List.drop_append_of_le_length hfull.2]
  · have hkeep : p.settleResponse = p := if_neg hfull
    rw [hkeep]

theorem settleLength_of_ne {p : Protocol} (h : p.state ≠ .waitResponseLength) :
    p.settleLength = p := by
  simp [settleLength, h]

theorem settleResponse_of_ne {p : Protocol} (h : p.state ≠ .waitResponse) :
    p.settleResponse = p := by
  simp [settleResponse, h]

/-- Settling early changes nothing: later bytes lead to the same settled state. -/
theorem settle_append (p : Protocol) (data : Bytes) :
    (p.settle.append data).settle = (p.append data).settle := by
  have hlength := settleLength_append p data
  by_cases hl : p.settleLength.state = .waitResponseLength
  · have hsettle : p.settle = p.settleLength := settleResponse_of_ne (by simp [hl])
    unfold settle at hsettle ⊢
    rw [hsettle, hlength]
  · have hr : p.settle.state ≠ .waitResponseLength := settleResponse_state_ne hl
    have hleft : (p.settle.append data).settleLength = p.settle.append data :=
      settleLength_of_ne hr
    have hright : (p.append data).settleLength = p.settleLength.append data := by
      rw [← hlength]
      exact settleLength_of_ne hl
    calc
      (p.settle.append data).settle = (p.settle.append data).settleResponse := by
        rw [settle, hleft]
      _ = (p.settleLength.append data).settleResponse := settleResponse_append _ _
      _ = (p.append data).settle := by rw [settle, hright]

@[simp] theorem settle_settle (p : Protocol) : p.settle.settle = p.settle := by
  simpa using settle_append p []

theorem settle_withClosed (p : Protocol) (closed : Bool) :
    { p with bufferClosed := closed }.settle = { p.settle with bufferClosed := closed } := by
  unfold settle settleResponse settleLength startWaitingForResponse startWaitingForSync
  split_ifs <;> simp_all

/-! ## The awaiting states -/

def synced (buffer : Bytes) : Protocol := { new with state := .inSync, buffer := buffer }

/-- Waiting for a reply with `n` payload bytes after `received` has arrived. -/
def awaiting (n : Int) (received : Bytes) : Protocol :=
  { new with buffer := received }.startWaitingForResponse n

def syncing (payload buffer : Bytes) : Protocol :=
  { buffer := buffer, payload := payload, state := .waitSync, bytesExpected := 2 }

theorem awaiting_wellFormed (n : Int) (received : Bytes) : (awaiting n received).WellFormed :=
  startWaitingForResponse_wellFormed _ _

@[simp] theorem awaiting_bufferClosed (n : Int) (received : Bytes) :
    (awaiting n received).bufferClosed = false := by
  simp [awaiting, new]

theorem awaiting_append (n : Int) (received data : Bytes) :
    (awaiting n received).append data = awaiting n (received ++ data) := by
  unfold awaiting
  rw [append_startWaitingForResponse]
  rfl

theorem awaiting_waiting (n : Int) (received : Bytes) : (awaiting n received).Waiting :=
  startWaitingForResponse_waiting _ _

/-- Sending from a clean synced state starts to await the reply. -/
theorem startWaitingForResponse_clean {p : Protocol} (n : Int) (hpayload : p.payload = [])
    (hopen : p.bufferClosed = false) : p.startWaitingForResponse n = awaiting n p.buffer := by
  unfold awaiting startWaitingForResponse startWaitingForSync new
  split_ifs <;> simp [hpayload, hopen]

theorem settle_awaiting_short {n : Nat} {received : Bytes} (h : received.length < n) :
    (awaiting n received).settle = awaiting n received ∧
      (awaiting n received).state = .waitResponse := by
  have hpos : 0 < n := by omega
  have hfull : ¬ n ≤ received.length := by omega
  simp [awaiting, startWaitingForResponse_pos _ hpos, settle, settleLength, settleResponse, hfull]

theorem settle_awaiting_full {n : Nat} {received : Bytes} (h : n ≤ received.length) :
    (awaiting n received).settle = syncing (received.take n) (received.drop n) := by
  rcases Nat.eq_zero_or_pos n with rfl | hpos
  · simp [awaiting, startWaitingForSync, settle, settleLength, settleResponse, syncing, new]
  · simp [awaiting, startWaitingForResponse_pos _ hpos, settle, settleLength, settleResponse, h,
      startWaitingForSync, syncing, new]

theorem settle_awaiting_prefix_short {n : Int} (hn : n < 0) {received : Bytes}
    (h : received.length < 4) :
    (awaiting n received).settle = awaiting n received ∧
      (awaiting n received).state = .waitResponseLength := by
  have hfull : ¬ 4 ≤ received.length := by omega
  simp [awaiting, startWaitingForResponse_neg _ hn, settle, settleLength, settleResponse, hfull]

theorem settle_awaiting_prefix_full {n : Int} (hn : n < 0) {received : Bytes}
    (h : 4 ≤ received.length) :
    (awaiting n received).settle =
      (awaiting (LittleEndian.decode (received.take 4) : Nat) (received.drop 4)).settle := by
  have hstep : (awaiting n received).settleLength =
      awaiting (LittleEndian.decode (received.take 4) : Nat) (received.drop 4) := by
    simp only [awaiting, startWaitingForResponse_neg _ hn, settleLength, h, and_self, ↓reduceIte]
    exact startWaitingForResponse_clean _ rfl rfl
  have hkeep : (awaiting (LittleEndian.decode (received.take 4) : Nat)
      (received.drop 4)).settleLength =
      awaiting (LittleEndian.decode (received.take 4) : Nat) (received.drop 4) := by
    apply settleLength_of_ne
    have hnn : ¬ ((LittleEndian.decode (received.take 4) : Nat) : Int) < 0 := by omega
    simp only [awaiting, startWaitingForResponse, hnn, ↓reduceIte, startWaitingForSync]
    split_ifs <;> simp
  unfold settle
  rw [hstep, hkeep]

/-! ## Reading a reply -/

/-- The protocol behaves as if it awaited `n` payload bytes and had received `received`. -/
def Reading (n : Int) (received : Bytes) (p : Protocol) : Prop :=
  p.settle = (awaiting n received).settle

theorem Reading.awaiting (n : Int) (received : Bytes) : Reading n received (awaiting n received) :=
  rfl

theorem Reading.isOpen {n : Int} {received : Bytes} {p : Protocol} (h : Reading n received p) :
    p.bufferClosed = false := by
  have hclosed := congrArg Protocol.bufferClosed h
  simpa using hclosed

theorem Reading.append {n : Int} {received : Bytes} {p : Protocol} (h : Reading n received p)
    (data : Bytes) : Reading n (received ++ data) (p.append data) := by
  unfold Reading
  rw [← awaiting_append, ← settle_append, h, settle_append]

theorem Reading.settle {n : Int} {received : Bytes} {p : Protocol} (h : Reading n received p) :
    Reading n received p.settle := by
  unfold Reading
  rw [settle_settle]
  exact h

/-- A poll of a reading protocol is a poll of the awaiting state. -/
theorem Reading.nextEvent {n : Int} {received : Bytes} {p : Protocol} (h : Reading n received p)
    (hw : p.WellFormed) : p.nextEvent = (Protocol.awaiting n received).nextEvent := by
  have hp : ¬ (p.buffer = [] ∧ p.bufferClosed = true) := by simp [h.isOpen]
  rw [nextEvent_eq_settle hw hp, nextEvent_eq_settle (awaiting_wellFormed _ _) (by simp), h]

/-! ## What a poll returns -/

theorem nextEvent_of_starved {p : Protocol} (hw : p.WellFormed) (hopen : p.bufferClosed = false)
    (hstarved : p.settle.Starved) : p.nextEvent = (.ok (some .needMoreData), p.settle) := by
  rw [nextEvent_eq_settle hw (by simp [hopen])]
  rcases hstarved with ⟨hs, _⟩ | ⟨hs, _⟩ | ⟨hs, hbuffer⟩
  · simp [hs]
  · simp [hs]
  · have hexp := (settle_wellFormed hw).sync hs
    rcases hbuffer with hbuffer | hbuffer
    · simp [hs, waitSyncBlock, hexp, hbuffer]
    · simp [hs, waitSyncBlock, hexp, hbuffer, readStatus, List.findIdx?_cons]

/-- A complete reply is reported with its payload, and leaves a clean synced state. -/
theorem nextEvent_of_reply {p : Protocol} {payload rest : Bytes} {type : ResponseType}
    (hw : p.WellFormed) (hopen : p.bufferClosed = false) (htype : type ≠ .badSiliconRev)
    (hsettle : p.settle = syncing payload (OpCode.inSync.toByte :: type.toByte :: rest)) :
    p.nextEvent = (.ok (some (.response ⟨type, payload⟩)), synced rest) := by
  have haccept : type.toByte ∈ acceptedStatus := by cases type <;> first | decide | contradiction
  rw [nextEvent_eq_settle hw (by simp [hopen]), hsettle]
  simp [syncing, waitSyncBlock, readStatus, haccept, Response.fromOpcode, moveToInSyncState, synced,
    new, List.findIdx?_cons]

theorem synced_nextEvent : (synced []).nextEvent = (.ok none, synced []) := by decide

/-! ## Polls outside an exchange -/

section Stray

variable {p : Protocol}

theorem nextEvent_of_not_waiting (hw : p.WellFormed) (hopen : p.bufferClosed = false)
    (hstate : ¬ p.Waiting) : p.nextEvent = p.waitSyncBlock := by
  have hl : p.state ≠ .waitResponseLength := fun hs => hstate (.inl hs)
  have hr : p.state ≠ .waitResponse := fun hs => hstate (.inr (.inl hs))
  rw [nextEvent_eq_settle hw (by simp [hopen]), settle_of_not_waiting hstate]
  simp [hl, hr]

theorem nextEvent_quiet (hw : p.WellFormed) (hopen : p.bufferClosed = false)
    (hstate : ¬ p.Waiting) (hpayload : p.payload = []) (hbuffer : p.buffer = []) :
    p.nextEvent = (.ok none, p) := by
  have hsync : p.state ≠ .waitSync := fun hs => hstate (.inr (.inr hs))
  rw [nextEvent_of_not_waiting hw hopen hstate]
  simp [waitSyncBlock, hsync, purgeExcessData, hpayload, hbuffer]

theorem nextEvent_stray (hw : p.WellFormed) (hopen : p.bufferClosed = false)
    (hstate : ¬ p.Waiting) (hdata : p.payload ++ p.buffer ≠ []) :
    p.nextEvent = (.ok (some (.excessData (p.payload ++ p.buffer))),
      { p with payload := [], buffer := [] }) := by
  have hsync : p.state ≠ .waitSync := fun hs => hstate (.inr (.inr hs))
  have hsome : p.payload ≠ [] ∨ 0 < p.buffer.length := by
    rw [List.length_pos_iff]
    by_contra hcon
    simp only [not_or, not_not] at hcon
    exact hdata (by simp [hcon.1, hcon.2])
  rw [nextEvent_of_not_waiting hw hopen hstate]
  simp [waitSyncBlock, hsync, purgeExcessData, hsome]

end Stray

/-! ## Replies of the declared shape -/

/-- The payload fits a declared length; a negative one announces it in four bytes. -/
def Declares (n : Int) (payload : Bytes) : Prop :=
  if n < 0 then payload.length < 256 ^ 4 else (payload.length : Int) = n

instance (n : Int) (payload : Bytes) : Decidable (Declares n payload) := by
  unfold Declares; infer_instance

/-- What a success reply carries in front of its sync bytes. -/
def replyBody (n : Int) (payload : Bytes) : Bytes :=
  if n < 0 then LittleEndian.encode 4 payload.length ++ payload else payload

/-- Once the body of a reply has arrived only the bytes behind it are left in the buffer. -/
theorem settle_replyBody {n : Int} {payload : Bytes} (h : Declares n payload) (rest : Bytes) :
    (awaiting n (replyBody n payload ++ rest)).settle = syncing payload rest := by
  unfold Declares at h
  unfold replyBody
  have hfixed : (awaiting (payload.length : Nat) (payload ++ rest)).settle =
      syncing payload rest := by
    rw [settle_awaiting_full (by simp)]
    simp
  by_cases hn : n < 0
  · simp only [hn, ↓reduceIte] at h ⊢
    have hlen : 4 ≤ (LittleEndian.encode 4 payload.length ++ payload ++ rest).length := by simp
    rw [settle_awaiting_prefix_full hn hlen, List.append_assoc, List.take_left' (by simp),
      List.drop_left' (by simp), LittleEndian.decode_encode h]
    exact hfixed
  · simp only [hn, ↓reduceIte] at h ⊢
    rw [← h]
    exact hfixed

theorem starved_of_short {n : Nat} {received : Bytes} (h : received.length < n) :
    (awaiting n received).settle.Starved := by
  have hpos : 0 < n := by omega
  obtain ⟨hsettle, hstate⟩ := settle_awaiting_short h
  rw [hsettle]
  refine .inr (.inl ⟨hstate, ?_⟩)
  simpa [awaiting, startWaitingForResponse_pos _ hpos] using h

theorem starved_of_short_prefix {n : Int} (hn : n < 0) {received : Bytes}
    (h : received.length < 4) : (awaiting n received).settle.Starved := by
  obtain ⟨hsettle, hstate⟩ := settle_awaiting_prefix_short hn h
  rw [hsettle]
  exact .inl ⟨hstate, by simpa [awaiting] using h⟩

theorem starved_of_syncing {payload tail : Bytes} {status : UInt8}
    (hpart : tail <+: [OpCode.inSync.toByte, status]) (hshort : tail.length < 2) :
    (syncing payload tail).Starved := by
  refine .inr (.inr ⟨rfl, ?_⟩)
  match tail, hpart, hshort with
  | [], _, _ => exact .inl rfl
  | [first], hpart, _ =>
      have hfirst : first = OpCode.inSync.toByte := by simpa using hpart
      rw [hfirst]
      exact .inr rfl

/-- While the body of a success reply is incomplete the protocol asks for more data. -/
theorem starved_of_body {n : Int} {payload received rest : Bytes} (h : Declares n payload)
    (hpart : received <+: replyBody n payload ++ rest)
    (hshort : received.length < (replyBody n payload).length) :
    (awaiting n received).settle.Starved := by
  unfold Declares at h
  unfold replyBody at hpart hshort
  by_cases hn : n < 0
  · simp only [hn, ↓reduceIte, List.length_append, LittleEndian.encode_length] at h hpart hshort
    by_cases hlen : received.length < 4
    · exact starved_of_short_prefix hn hlen
    · obtain ⟨tail, rfl⟩ : LittleEndian.encode 4 payload.length <+: received := by
        refine List.prefix_of_prefix_length_le ?_ hpart (by simp; omega)
        rw [List.append_assoc]
        exact List.prefix_append _ _
      have htail : tail.length < payload.length := by
        simp only [List.length_append, LittleEndian.encode_length] at hshort
        omega
      rw [settle_awaiting_prefix_full hn (by simp), List.take_left' (by simp),
        List.drop_left' (by simp), LittleEndian.decode_encode h]
      exact starved_of_short htail
  · simp only [hn, ↓reduceIte] at h hshort
    rw [← h]
    exact starved_of_short hshort

theorem starved_of_prefix {n : Int} {payload received : Bytes} {status : UInt8}
    (h : Declares n payload)
    (hpart : received <+: replyBody n payload ++ [OpCode.inSync.toByte, status])
    (hshort : received.length < (replyBody n payload).length + 2) :
    (awaiting n received).settle.Starved := by
  by_cases hbody : (replyBody n payload).length ≤ received.length
  · obtain ⟨tail, rfl⟩ : replyBody n payload <+: received :=
      List.prefix_of_prefix_length_le (List.prefix_append _ _) hpart hbody
    rw [settle_replyBody h]
    exact starved_of_syncing (by simpa using hpart) (by simpa using hshort)
  · exact starved_of_body h hpart (by omega)

end ApUploader.Protocol
