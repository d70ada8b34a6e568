import ApUploader.Protocol.Awaiting

/-! # Replies round-trip

The bytes of a reply are fed in chunks with `nextEvent` polled in between. A
success reply of the declared shape comes out as one response with its payload;
a failure reply comes out as such only where the decoder expects no payload and
knows the status byte.
-/

namespace ApUploader.Protocol

/-! ## Chunked delivery -/

/-- What the caller does between two sends. -/
inductive Move where
  | feed (chunk : Bytes)
  | poll
  deriving DecidableEq, Repr

def drive (p : Protocol) : List Move → List (Except Exn (Option Event)) × Protocol
  | [] => ([], p)
  | .feed chunk :: rest => drive (p.apply (.feed chunk)) rest
  | .poll :: rest =>
      (p.nextEvent.1 :: (drive p.nextEvent.2 rest).1, (drive p.nextEvent.2 rest).2)

def chunks (script : List Move) : List Bytes :=
  script.filterMap fun
    | .feed chunk => some chunk
    | .poll => none

@[simp] theorem chunks_feed (chunk : Bytes) (rest : List Move) :
    chunks (.feed chunk :: rest) = chunk :: chunks rest := rfl

@[simp] theorem chunks_poll (rest : List Move) : chunks (.poll :: rest) = chunks rest := rfl

structure Splits (script : List Move) (last bytes : Bytes) : Prop where
  nonempty : ∀ chunk ∈ chunks script, chunk ≠ []
  last_ne : last ≠ []
  delivered : (chunks script).flatten ++ last = bytes

/-- A script that leaves every prefix starved only ever hears that more data is needed. -/
theorem drive_reading {n : Int} {received : Bytes} {p : Protocol} (script : List Move)
    (hw : p.WellFormed) (hread : Reading n received p)
    (hchunks : ∀ chunk ∈ chunks script, chunk ≠ [])
    (hstarved : ∀ b, b <+: received ++ (chunks script).flatten → (awaiting n b).settle.Starved) :
    (∀ result ∈ (drive p script).1, result = .ok (some .needMoreData)) ∧
      (drive p script).2.WellFormed ∧
      Reading n (received ++ (chunks script).flatten) (drive p script).2 := by
  induction script generalizing received p with
  | nil => exact ⟨by simp [drive], hw, by simpa [drive, chunks] using hread⟩
  | cons move rest ih =>
      cases move with
      | feed chunk =>
          have hne : chunk ≠ [] := hchunks chunk (by simp)
          have hfeed : p.apply (.feed chunk) = p.append chunk := by
            simp [apply, feed_of_open hread.isOpen hne]
          have hrest := ih (p := p.append chunk) (hw.withBuffer _ _) (hread.append chunk)
            (fun b hb => hchunks b (by simp [hb])) (by simpa using hstarved)
          simpa [drive, hfeed] using hrest
      | poll =>
          have hnow : p.settle.Starved := by
            rw [hread]
            exact hstarved received (List.prefix_append _ _)
          have hstep := nextEvent_of_starved hw hread.isOpen hnow
          obtain ⟨hevents, hwf, hreading⟩ := ih (settle_wellFormed hw) hread.settle hchunks hstarved
          simp only [drive, hstep, List.mem_cons]
          refine ⟨?_, hwf, hreading⟩
          rintro result (rfl | hresult)
          · rfl
          · exact hevents result hresult

/-- Sending an encodable command from a clean synced state starts reading its reply. -/
theorem send_clean {p : Protocol} {c : Command} (hw : p.WellFormed)
    (hopen : p.bufferClosed = false) (hsync : p.inSync = true) (hbuffer : p.buffer = [])
    {raw : Bytes} (hc : c.toBytes = .ok raw) :
    p.send (.command c) = .ok (raw, awaiting c.responseLength []) := by
  have hpayload := hw.synced (inSync_eq_true.mp hsync)
  have hstart := startWaitingForResponse_clean c.responseLength hpayload hopen
  simp [send, hsync, hc, hstart, hbuffer]

/-- Behind a send the bytes of a success reply are reported as one response. -/
theorem drive_success {n : Int} {payload : Bytes} (hpayload : Declares n payload)
    {script : List Move} {last : Bytes}
    (hsplit : Splits script last (Response.success (replyBody n payload)).toBytes) :
    (∀ result ∈ (drive (awaiting n []) script).1, result = .ok (some .needMoreData)) ∧
      ∃ q, (drive (awaiting n []) script).2.feed last = .ok q ∧
        q.nextEvent = (.ok (some (.response ⟨.ok, payload⟩)), synced []) := by
  have hbytes : (chunks script).flatten ++ last =
      replyBody n payload ++ [OpCode.inSync.toByte, OpCode.ok.toByte] :=
    hsplit.delivered
  have hlast : 0 < last.length := List.length_pos_iff.mpr hsplit.last_ne
  have hlen := congrArg List.length hbytes
  simp only [List.length_append, List.length_cons, List.length_nil] at hlen
  have hstarved : ∀ b, b <+: [] ++ (chunks script).flatten → (awaiting n b).settle.Starved := by
    intro b hb
    have hb' : b.length ≤ (chunks script).flatten.length := by simpa using hb.length_le
    apply starved_of_prefix hpayload
    · rw [← hbytes]
      exact hb.trans (List.prefix_append _ _)
    · omega
  obtain ⟨hevents, hwf, hread⟩ := drive_reading script (awaiting_wellFormed _ _)
    (Reading.awaiting n []) hsplit.nonempty hstarved
  have hfull := hread.append last
  rw [List.nil_append, hbytes] at hfull
  have hsettle : ((drive (awaiting n []) script).2.append last).settle =
      syncing payload [OpCode.inSync.toByte, ResponseType.ok.toByte] :=
    hfull.trans (settle_replyBody hpayload _)
  refine ⟨hevents, _, feed_of_open hread.isOpen hsplit.last_ne, ?_⟩
  exact nextEvent_of_reply (hwf.append last) hfull.isOpen (by decide) hsettle

/-- Success replies come back under every chunking and every polling. -/
theorem success_reply_round_trip {p : Protocol} (hreach : p.Reachable)
    (hopen : p.bufferClosed = false) (hsync : p.inSync = true) (hbuffer : p.buffer = [])
    {c : Command} (hc : c.Encodable) {payload : Bytes}
    (hpayload : Declares c.responseLength payload) {script : List Move} {last : Bytes}
    (hsplit : Splits script last
      (Response.success (replyBody c.responseLength payload)).toBytes) :
    ∃ raw q, p.send (.command c) = .ok (raw, q) ∧
      (∀ result ∈ (drive q script).1, result = .ok (some .needMoreData)) ∧
      ∃ q', (drive q script).2.feed last = .ok q' ∧
        ∃ q'', q'.nextEvent = (.ok (some (.response ⟨.ok, payload⟩)), q'') ∧
          q''.inSync = true ∧ q''.buffer = [] ∧ q''.nextEvent = (.ok none, q'') := by
  obtain ⟨raw, hraw⟩ := hc
  have hsend := send_clean hreach.wellFormed hopen hsync hbuffer hraw
  obtain ⟨hevents, q', hfeed, hevent⟩ := drive_success hpayload hsplit
  exact ⟨raw, _, hsend, hevents, q', hfeed, synced [], hevent, rfl, rfl, synced_nextEvent⟩

theorem synced_reachable : (synced []).Reachable := by
  have h : synced [] = ((new.apply (.send (.command .getSync))).apply
      (.feed [OpCode.inSync.toByte, OpCode.ok.toByte])).apply .nextEvent := by decide
  rw [h]
  exact ((Reachable.new.apply _).apply _).apply _

theorem success_reply_round_trip_chip_description :
    Splits [.feed [2, 0, 0], .poll, .feed [0, 0x12], .poll, .poll, .feed [0x10, 0x12]] [0x10]
        (Response.success (replyBody (-1) [0x12, 0x10])).toBytes ∧
      ∃ raw q, (synced []).send (.command .getChipDescription) = .ok (raw, q) ∧
        ∃ q', (drive q [.feed [2, 0, 0], .poll, .feed [0, 0x12], .poll, .poll,
            .feed [0x10, 0x12]]).2.feed [0x10] = .ok q' ∧
          ∃ q'', q'.nextEvent = (.ok (some (.response ⟨.ok, [0x12, 0x10]⟩)), q'') := by
  have hsplit : Splits [.feed [2, 0, 0], .poll, .feed [0, 0x12], .poll, .poll, .feed [0x10, 0x12]]
      [0x10] (Response.success (replyBody (-1) [0x12, 0x10])).toBytes := by
    constructor <;> decide
  obtain ⟨raw, q, hsend, _, q', hfeed, q'', hevent, _⟩ :=
    success_reply_round_trip synced_reachable rfl rfl rfl (c := .getChipDescription)
      ⟨_, rfl⟩ (by decide) hsplit
  exact ⟨hsplit, raw, q, hsend, q', hfeed, q'', hevent⟩

/-! ## Failure replies -/

def ReportsFailure (q : Protocol) (script : List Move) (last : Bytes) (type : ResponseType) :
    Prop :=
  (∀ result ∈ (drive q script).1, result = .ok (some .needMoreData)) ∧
    ∃ q' r q'', (drive q script).2.feed last = .ok q' ∧
      q'.nextEvent = (.ok (some (.response r)), q'') ∧ r.type = type

theorem starved_of_two {c : Command} (hc : c.responseLength ≠ 0) {received : Bytes}
    (h : received.length ≤ 2) : (awaiting c.responseLength received).settle.Starved := by
  rcases c.responseLength_cases with ⟨hn, _⟩ | hn | hn
  · rw [hn]
    exact starved_of_short_prefix (by decide) (by omega)
  · exact (hc hn).elim
  · rw [hn]
    exact starved_of_short (n := 4) (by omega)

private theorem status_toBytes (type : ResponseType) :
    (Response.mk type []).toBytes = [OpCode.inSync.toByte, type.toByte] := by
  cases type <;> rfl

private theorem drive_failure {c : Command} {type : ResponseType} {script : List Move}
    {last : Bytes} (hsplit : Splits script last (Response.mk type []).toBytes) :
    (∀ result ∈ (drive (awaiting c.responseLength []) script).1,
        result = .ok (some .needMoreData)) ∧
      ∃ q', (drive (awaiting c.responseLength []) script).2.feed last = .ok q' ∧
        q'.WellFormed ∧ Reading c.responseLength [OpCode.inSync.toByte, type.toByte] q' := by
  have hbytes : (chunks script).flatten ++ last = [OpCode.inSync.toByte, type.toByte] := by
    rw [← status_toBytes]
    exact hsplit.delivered
  have hlast : 0 < last.length := List.length_pos_iff.mpr hsplit.last_ne
  have hlen := congrArg List.length hbytes
  simp only [List.length_append, List.length_cons, List.length_nil] at hlen
  have hstarved : ∀ b, b <+: [] ++ (chunks script).flatten →
      (awaiting c.responseLength b).settle.Starved := by
    intro b hb
    have hb' : b.length ≤ (chunks script).flatten.length := by simpa using hb.length_le
    by_cases hc : c.responseLength = 0
    · have hpart : b <+: [OpCode.inSync.toByte, type.toByte] := by
        rw [← hbytes]
        exact hb.trans (List.prefix_append _ _)
      rw [hc]
      have hnone : Declares 0 [] := by decide
      exact starved_of_prefix hnone hpart (by simp [replyBody]; omega)
    · exact starved_of_two hc (by omega)
  obtain ⟨hevents, hwf, hread⟩ := drive_reading script (awaiting_wellFormed _ _)
    (Reading.awaiting c.responseLength []) hsplit.nonempty hstarved
  have hfull := hread.append last
  rw [List.nil_append, hbytes] at hfull
  exact ⟨hevents, _, feed_of_open hread.isOpen hsplit.last_ne, hwf.withBuffer _ _, hfull⟩

/-- Failure replies round-trip exactly for commands without a reply payload and for the status
bytes the decoder accepts. -/
theorem failure_reply_reported_iff {p : Protocol} (hreach : p.Reachable)
    (hopen : p.bufferClosed = false) (hsync : p.inSync = true) (hbuffer : p.buffer = [])
    {c : Command} (hc : c.Encodable) {type : ResponseType} {script : List Move} {last : Bytes}
    (hsplit : Splits script last (Response.mk type []).toBytes) :
    ∃ raw q, p.send (.command c) = .ok (raw, q) ∧
      (ReportsFailure q script last type ↔ c.responseLength = 0 ∧ type ≠ .badSiliconRev) := by
  obtain ⟨raw, hraw⟩ := hc
  refine ⟨raw, _, send_clean hreach.wellFormed hopen hsync hbuffer hraw, ?_⟩
  obtain ⟨hevents, q', hfeed, hwf, hread⟩ := drive_failure (c := c) hsplit
  have hpoll := hread.nextEvent hwf
  constructor
  · rintro ⟨_, q₁, r, q₂, hfeed', hevent, _⟩
    have hq : q₁ = q' := by
      rw [hfeed] at hfeed'
      exact (Except.ok.inj hfeed').symm
    subst hq
    by_cases hzero : c.responseLength = 0
    · refine ⟨hzero, ?_⟩
      rintro rfl
      rw [hzero] at hpoll
      have hexcess : (awaiting 0 [OpCode.inSync.toByte,
          ResponseType.badSiliconRev.toByte]).nextEvent =
          (.ok (some (.excessData [0x12, 0x14])), awaiting 0 []) := by decide
      rw [hpoll, hexcess] at hevent
      cases hevent
    · have hshort : [OpCode.inSync.toByte, type.toByte].length ≤ 2 := Nat.le_refl 2
      have hstarved := starved_of_two hzero hshort
      rw [hpoll, nextEvent_of_starved (awaiting_wellFormed _ _) (by simp) hstarved] at hevent
      cases hevent
  · rintro ⟨hzero, haccept⟩
    refine ⟨hevents, q', ⟨type, []⟩, synced [], hfeed, ?_, rfl⟩
    apply nextEvent_of_reply hwf hread.isOpen haccept
    unfold Reading at hread
    rw [hread, hzero]
    have hnone : Declares 0 [] := by decide
    exact settle_replyBody hnone _

theorem failure_reply_reported_iff_erase :
    Splits [.poll, .feed [0x12], .poll] [0x13] (Response.mk .invalid []).toBytes ∧
      ∃ raw q, (synced []).send (.command .eraseFlashMemory) = .ok (raw, q) ∧
        ReportsFailure q [.poll, .feed [0x12], .poll] [0x13] .invalid := by
  have hsplit : Splits [.poll, .feed [0x12], .poll] [0x13] (Response.mk .invalid []).toBytes := by
    constructor <;> decide
  obtain ⟨raw, q, hsend, hiff⟩ := failure_reply_reported_iff synced_reachable rfl rfl rfl
    (c := .eraseFlashMemory) ⟨_, rfl⟩ hsplit
  exact ⟨hsplit, raw, q, hsend, hiff.mpr (by decide)⟩

/-- A rejected GET_DEVICE leaves the protocol asking for more data, and a BAD_SILICON_REV reply
to CHIP_ERASE is reported as excess data. -/
theorem failure_reply_not_reported :
    (∃ raw q, (synced []).send (.command (.getDeviceInfo .boardId)) = .ok (raw, q) ∧
        ¬ ReportsFailure q [] (Response.mk .invalid []).toBytes .invalid ∧
        ∃ q', q.feed (Response.mk .invalid []).toBytes = .ok q' ∧
          q'.nextEvent = (.ok (some .needMoreData), q')) ∧
      ∃ raw q, (synced []).send (.command .eraseFlashMemory) = .ok (raw, q) ∧
        ¬ ReportsFailure q [] (Response.mk .badSiliconRev []).toBytes .badSiliconRev ∧
        ∃ q', q.feed (Response.mk .badSiliconRev []).toBytes = .ok q' ∧
          q'.nextEvent.1 = .ok (some (.excessData [0x12, 0x14])) := by
  have hdevice : ((awaiting 4 []).append [0x12, 0x13]).nextEvent =
      (.ok (some .needMoreData), (awaiting 4 []).append [0x12, 0x13]) := by decide
  have herase : ((awaiting 0 []).append [0x12, 0x14]).nextEvent =
      (.ok (some (.excessData [0x12, 0x14])), awaiting 0 []) := by decide
  refine ⟨⟨_, awaiting 4 [], rfl, ?_, _, rfl, hdevice⟩,
    _, awaiting 0 [], rfl, ?_, _, rfl, congrArg Prod.fst herase⟩
  · rintro ⟨_, q', r, q'', hfeed, hevent, _⟩
    have hq : q' = (awaiting 4 []).append [0x12, 0x13] := (Except.ok.inj hfeed).symm
    rw [hq, hdevice] at hevent
    cases hevent
  · rintro ⟨_, q', r, q'', hfeed, hevent, _⟩
    have hq : q' = (awaiting 0 []).append [0x12, 0x14] := (Except.ok.inj hfeed).symm
    rw [hq, herase] at hevent
    cases hevent

end ApUploader.Protocol
