import ApUploader.Mavlink.Chunking

/-! # What is sent comes back

An encoded message is one frame, whose header and checksum the decoder accepts, and
whose payload it fills up to the fields that were packed. The types that have numbers
only get them back. A parameter id comes back as a string, which the initializer of
its type refuses, so such a message never comes back.
-/

namespace ApUploader

namespace MAVLink

/-! ## The bytes of a frame -/

def frameHeader (mav : MAVLink) (msgId mlen : Nat) : MAVLinkHeader where
  msgId := msgId
  mlen := mlen
  seq := mav.seq
  sourceSystem := mav.sourceSystem
  sourceComponent := mav.sourceComponent

def headBytes (mav : MAVLink) (msgId mlen : Nat) (forceMavlink1 : Bool) : Bytes :=
  if forceMavlink1 then
    [0xFE, .ofNat mlen, .ofNat mav.seq, .ofNat mav.sourceSystem, .ofNat mav.sourceComponent,
      .ofNat msgId]
  else
    [0xFD, .ofNat mlen, 0, 0, .ofNat mav.seq, .ofNat mav.sourceSystem,
      .ofNat mav.sourceComponent, .ofNat msgId, 0, 0]

def wirePayload (payload : Bytes) (forceMavlink1 : Bool) : Bytes :=
  payload.take
    (if forceMavlink1 then payload.length else strippedLength payload payload.length)

def wireFrame (mav : MAVLink) (messageType : MessageType) (payload : Bytes)
    (forceMavlink1 : Bool) : Bytes :=
  let wire := wirePayload payload forceMavlink1
  let front := headBytes mav messageType.id wire.length forceMavlink1 ++ wire
  front ++ LittleEndian.encode 2 (x25crc (front.drop 1 ++ [messageType.crcExtra]))

/-- The sender's settings fit their bytes, and it does not sign. -/
structure Sends (mav : MAVLink) : Prop where
  seq : mav.seq < 256
  sourceSystem : mav.sourceSystem < 256
  sourceComponent : mav.sourceComponent < 256
  unsigned : mav.signing.signOutgoing = false

variable {sha256 : Bytes → Bytes} {mav : MAVLink} {messageType : MessageType} {payload : Bytes}
  {forceMavlink1 : Bool}

theorem encode_byte {n : Nat} (h : n < 256) :
    (Struct.Code.uint 1).encode (.int n) = some [UInt8.ofNat n] := by
  rw [Struct.Code.encode, if_pos (by simp; omega)]
  rfl

open Struct.Code in
theorem header_pack (hmav : mav.Sends) {msgId mlen : Nat} (hid : msgId < 256)
    (hlen : mlen < 256) :
    (frameHeader mav msgId mlen).pack forceMavlink1 =
      .ok (headBytes mav msgId mlen forceMavlink1) := by
  have hseq := encode_byte hmav.seq
  have hsystem := encode_byte hmav.sourceSystem
  have hcomponent := encode_byte hmav.sourceComponent
  unfold MAVLinkHeader.pack headBytes frameHeader
  cases forceMavlink1 with
  | true =>
      have hmarker : (uint 1).encode (.int PROTOCOL_MARKER_V1.toNat) = some [0xFE] :=
        encode_byte (by decide)
      simp only [↓reduceIte, Struct.pack, hmarker, hseq, hsystem, hcomponent, encode_byte hid,
        encode_byte hlen, Option.bind_some, Option.map_some, List.cons_append, List.nil_append]
  | false =>
      have hlow : msgId &&& 0xFFFF = msgId := Nat.and_two_pow_sub_one_of_lt_two_pow
        (n := 16) (by omega)
      have hhigh : msgId >>> 16 = 0 := by
        rw [Nat.shiftRight_eq_div_pow]
        omega
      have hword : (uint 2).encode (.int msgId) = some [UInt8.ofNat msgId, 0] := by
        rw [Struct.Code.encode, if_pos (by simp; omega)]
        simp [LittleEndian.encode, Nat.div_eq_of_lt hid]
      have hmarker : (uint 1).encode (.int 253) = some [0xFD] :=
        encode_byte (by decide : 253 < 256)
      have hzero : (uint 1).encode (.int (0 : Nat)) = some [0] := encode_byte (by decide)
      simp only [Bool.false_eq_true, ↓reduceIte, Struct.pack, hmarker, hzero, hseq, hsystem,
        hcomponent, encode_byte hlen, hlow, hhigh, hword, Option.bind_some, Option.map_some,
        List.cons_append, List.nil_append]

theorem packMsg_eq (hmav : mav.Sends) (hid : messageType.id < 256)
    (hlength : payload.length < 256) :
    packMsg sha256 mav messageType.id messageType.crcExtra payload forceMavlink1 =
      .ok (wireFrame mav messageType payload forceMavlink1, mav.signing) := by
  have hlen : (wirePayload payload forceMavlink1).length < 256 := by
    unfold wirePayload
    rw [List.length_take]
    omega
  have hheader : (frameHeader mav messageType.id (wirePayload payload forceMavlink1).length).pack
      forceMavlink1 = .ok (headBytes mav messageType.id
        (wirePayload payload forceMavlink1).length forceMavlink1) := header_pack hmav hid hlen
  unfold packMsg
  simp only [hmav.unsigned, Bool.false_eq_true, ↓reduceIte, false_and]
  simp only [frameHeader, wirePayload] at hheader
  rw [hheader]
  rfl

/-! ## Decoding the frame -/

theorem decode_byte {n : Nat} (h : n < 256) : LittleEndian.decode [UInt8.ofNat n] = n := by
  simp only [LittleEndian.decode, List.map_cons, List.map_nil, Nat.ofDigits_singleton]
  rw [UInt8.toNat_ofNat', Nat.mod_eq_of_lt h]

theorem headBytes_length (mav : MAVLink) (msgId mlen : Nat) (forceMavlink1 : Bool) :
    (headBytes mav msgId mlen forceMavlink1).length = if forceMavlink1 then 6 else 10 := by
  cases forceMavlink1 <;> rfl

theorem checkHeader_ok {msgbuf : Bytes} {magic : UInt8} {header : MAVLinkHeader} {headerlen : Nat}
    (hmagic : magic = PROTOCOL_MARKER_V1 ∨ magic = PROTOCOL_MARKER_V2)
    (hflags : header.incompatFlags = 0) (hlength : msgbuf.length = headerlen + (header.mlen + 2)) :
    decodeHeader.checkHeader msgbuf magic header headerlen = .ok ⟨header, headerlen, 0⟩ := by
  have hsignature : signatureLength header.incompatFlags = 0 := by
    rw [hflags]
    rfl
  unfold decodeHeader.checkHeader
  rw [hsignature]
  dsimp only
  rw [if_neg, if_neg]
  · omega
  · rcases hmagic with rfl | rfl <;> simp

open Struct.Code in
theorem decodeHeader_headBytes (hmav : mav.Sends) {msgId mlen : Nat} {rest : Bytes}
    (hid : msgId < 256) (hlen : mlen < 256) (hrest : rest.length = mlen + 2) :
    decodeHeader (headBytes mav msgId mlen forceMavlink1 ++ rest) =
      .ok ⟨frameHeader mav msgId mlen, if forceMavlink1 then 6 else 10, 0⟩ := by
  have hseq := decode_byte hmav.seq
  have hsystem := decode_byte hmav.sourceSystem
  have hcomponent := decode_byte hmav.sourceComponent
  have hmlen := decode_byte hlen
  have hmsgId := decode_byte hid
  unfold headBytes
  cases forceMavlink1 with
  | true =>
      have hunpack : Struct.unpack [char, uint 1, uint 1, uint 1, uint 1, uint 1]
          [0xFE, .ofNat mlen, .ofNat mav.seq, .ofNat mav.sourceSystem,
            .ofNat mav.sourceComponent, .ofNat msgId] =
          some [.bytes [0xFE], .int mlen, .int mav.seq, .int mav.sourceSystem,
            .int mav.sourceComponent, .int msgId] := by
        simp [Struct.unpack, Struct.Code.size, Struct.Code.decode, hmlen, hseq, hsystem,
          hcomponent, hmsgId]
      simp only [↓reduceIte, List.cons_append, List.nil_append]
      unfold decodeHeader
      dsimp only
      rw [if_neg (by decide)]
      simp only [List.take_succ_cons, List.take_zero]
      rw [hunpack]
      exact checkHeader_ok (.inl rfl) rfl (by simp [hrest]; omega)
  | false =>
      have hword : LittleEndian.decode [.ofNat msgId, 0] = msgId := by
        simp only [LittleEndian.decode, List.map_cons, List.map_nil, Nat.ofDigits_cons,
          Nat.ofDigits_nil] at hmsgId ⊢
        simpa using hmsgId
      have hunpack : Struct.unpack
          [char, uint 1, uint 1, uint 1, uint 1, uint 1, uint 1, uint 2, uint 1]
          [0xFD, .ofNat mlen, 0, 0, .ofNat mav.seq, .ofNat mav.sourceSystem,
            .ofNat mav.sourceComponent, .ofNat msgId, 0, 0] =
          some [.bytes [0xFD], .int mlen, .int 0, .int 0, .int mav.seq, .int mav.sourceSystem,
            .int mav.sourceComponent, .int msgId, .int 0] := by
        have hzero : LittleEndian.decode [0] = 0 := rfl
        simp [Struct.unpack, Struct.Code.size, Struct.Code.decode, hmlen, hseq, hsystem,
          hcomponent, hword, hzero]
      simp only [Bool.false_eq_true, ↓reduceIte, List.cons_append, List.nil_append]
      unfold decodeHeader
      dsimp only
      rw [if_pos (by decide)]
      simp only [List.take_succ_cons, List.take_zero]
      rw [hunpack]
      refine (checkHeader_ok (.inr rfl) rfl (by simp [hrest]; omega)).trans ?_
      simp [frameHeader]

theorem decodeCrc_appended (frame : FrameHeader) (hsignature : frame.signatureLen = 0)
    (front : Bytes) :
    decodeCrc messageType frame (front ++ LittleEndian.encode 2
      (x25crc (front.drop 1 ++ [messageType.crcExtra]))) =
        .ok (x25crc (front.drop 1 ++ [messageType.crcExtra])) := by
  generalize hcrc : x25crc (front.drop 1 ++ [messageType.crcExtra]) = crc
  have hlt : crc < 256 ^ 2 := hcrc ▸ x25crc_lt _
  have hbehind : (front ++ LittleEndian.encode 2 crc).length - (2 + frame.signatureLen) =
      front.length := by
    rw [hsignature, List.length_append, LittleEndian.encode_length]
    omega
  have hpack : Struct.pack [.uint 2] [.int (crc : Nat)] = some (LittleEndian.encode 2 crc) := by
    rw [Struct.pack, Struct.Code.encode, if_pos (by omega)]
    simp [Struct.pack]
  have hunpack := Struct.unpack_pack hpack
  have htake : (LittleEndian.encode 2 crc).take 2 = LittleEndian.encode 2 crc :=
    List.take_of_length_le (by rw [LittleEndian.encode_length])
  unfold decodeCrc
  dsimp only
  rw [hbehind, List.drop_left, htake, hunpack]
  simp only [List.zipWith_cons_cons, Struct.Code.stored, List.zipWith_nil_left, Int.toNat_natCast,
    List.take_left, hcrc, ne_eq, not_true_eq_false, ↓reduceIte]

theorem wirePayload_length_le (payload : Bytes) (forceMavlink1 : Bool) :
    (wirePayload payload forceMavlink1).length ≤ payload.length := List.length_take_le' _ _

/-- Filling up brings back what was dropped. -/
theorem wirePayload_filled (payload : Bytes) (forceMavlink1 : Bool) :
    wirePayload payload forceMavlink1 ++
      List.replicate (payload.length - (wirePayload payload forceMavlink1).length) 0 =
        payload := by
  unfold wirePayload
  cases forceMavlink1 with
  | true => simp
  | false =>
      have htake := take_strippedLength payload (Nat.le_refl payload.length)
      rw [List.take_length] at htake
      have hlength : (payload.take (strippedLength payload payload.length)).length =
          strippedLength payload payload.length := by
        have hle := strippedLength_le payload payload.length
        rw [List.length_take]
        omega
      simp only [Bool.false_eq_true, ↓reduceIte, hlength]
      exact htake

def arguments (messageType : MessageType) (t : List Struct.Value) : List Argument :=
  List.zipWith terminateString messageType.fieldtypes (orderFields messageType t)

/-- The payload is filled up, unpacked, and handed to the initializer. -/
theorem decodePayload_wire {values : List Struct.Value} {frame : FrameHeader} {head tail : Bytes}
    {crc : Nat} (hpack : Struct.pack messageType.unpacker values = some payload)
    (hhead : head.length = frame.headerlen) (hsignature : frame.signatureLen = 0)
    (htail : tail.length = 2) :
    decodePayload messageType frame (head ++ wirePayload payload forceMavlink1 ++ tail) crc
      false =
      match messageType.init (arguments messageType
        (List.zipWith Struct.Code.stored messageType.unpacker values)) with
      | .error emsg =>
          .error (.mavError ("Unable to instantiate MAVLink message of type " ++
            s!"{messageType.className}: {emsg}"))
      | .ok body => .ok {
          body := body
          header := some frame.header
          payload := some ((head ++ wirePayload payload forceMavlink1).drop 6)
          msgbuf := some (head ++ wirePayload payload forceMavlink1 ++ tail)
          crc := some crc } := by
  have hfilled := wirePayload_filled payload forceMavlink1
  generalize wirePayload payload forceMavlink1 = wire at hfilled ⊢
  have hsize := Struct.pack_length hpack
  have hunpack := Struct.unpack_pack hpack
  have hbehind : (head ++ wire ++ tail).length - (2 + frame.signatureLen) =
      (head ++ wire).length := by
    rw [hsignature, List.length_append, htail]
    omega
  unfold decodePayload
  dsimp only
  rw [hbehind, List.take_left, ← hhead, List.drop_left, ← hsize, hfilled, List.take_length,
    if_neg (Nat.lt_irrefl _), hunpack]
  rfl

theorem frameLength_wireFrame (hlength : payload.length < 256) :
    frameLength (wireFrame mav messageType payload forceMavlink1) =
      some (wireFrame mav messageType payload forceMavlink1).length := by
  have hlen := Nat.lt_of_le_of_lt (wirePayload_length_le payload forceMavlink1) hlength
  unfold wireFrame
  dsimp only
  generalize wirePayload payload forceMavlink1 = wire at hlen ⊢
  have hcrc : ∀ crc, (LittleEndian.encode 2 crc).length = 2 := LittleEndian.encode_length 2
  have hbyte : (UInt8.ofNat wire.length).toNat = wire.length := by
    rw [UInt8.toNat_ofNat', Nat.mod_eq_of_lt hlen]
  rw [frameLength_eq_some]
  unfold headBytes
  cases forceMavlink1 with
  | true =>
      have hannounced : announcedLength 0xFE (.ofNat wire.length) (.ofNat mav.seq)
          (headerLength 0xFE) = wire.length + 8 := by
        simp [announcedLength, headerLength, PROTOCOL_MARKER_V2, HEADER_LEN_V1, hbyte]
      simp only [↓reduceIte, List.cons_append, List.nil_append, List.length_cons,
        List.length_append, hcrc]
      rw [← hannounced]
      refine .frame (by decide) ?_
      rw [hannounced]
      simp [hcrc]
  | false =>
      have hannounced : announcedLength 0xFD (.ofNat wire.length) 0 (headerLength 0xFD) =
          wire.length + 12 := by
        simp [announcedLength, headerLength, PROTOCOL_MARKER_V2, HEADER_LEN_V2, hbyte]
      simp only [Bool.false_eq_true, ↓reduceIte, List.cons_append, List.nil_append,
        List.length_cons, List.length_append, hcrc]
      rw [← hannounced]
      refine .frame (by decide) ?_
      rw [hannounced]
      simp [hcrc]

theorem decode_wireFrame (sha256 : Bytes → Bytes) (forceMavlink1 : Bool)
    {values : List Struct.Value} (hmav : mav.Sends)
    (hmap : mavlinkMap messageType.id = some messageType) (hid : messageType.id < 256)
    (hlength : payload.length < 256)
    (hpack : Struct.pack messageType.unpacker values = some payload) :
    ∃ front crc, (decode sha256 {} (wireFrame mav messageType payload forceMavlink1)).1 =
      match messageType.init (arguments messageType
        (List.zipWith Struct.Code.stored messageType.unpacker values)) with
      | .error emsg =>
          .error (.mavError ("Unable to instantiate MAVLink message of type " ++
            s!"{messageType.className}: {emsg}"))
      | .ok body => .ok {
          body := body
          header := some (frameHeader mav messageType.id
            (wirePayload payload forceMavlink1).length)
          payload := front
          msgbuf := some (wireFrame mav messageType payload forceMavlink1)
          crc := some crc } := by
  have hlen := Nat.lt_of_le_of_lt (wirePayload_length_le payload forceMavlink1) hlength
  have hheader : ∀ crc, decodeHeader (headBytes mav messageType.id
      (wirePayload payload forceMavlink1).length forceMavlink1 ++
        wirePayload payload forceMavlink1 ++ LittleEndian.encode 2 crc) = .ok
          ⟨frameHeader mav messageType.id (wirePayload payload forceMavlink1).length,
            if forceMavlink1 then 6 else 10, 0⟩ := by
    intro crc
    rw [List.append_assoc]
    exact decodeHeader_headBytes hmav hid hlen (by simp)
  unfold decode wireFrame
  dsimp only
  rw [hheader]
  dsimp only [frameHeader]
  rw [hmap]
  dsimp only
  rw [decodeCrc_appended _ rfl]
  exact ⟨_, _, decodePayload_wire hpack (headBytes_length mav messageType.id _ forceMavlink1) rfl
    (LittleEndian.encode_length 2 _)⟩

theorem frameMessage_wireFrame (sha256 : Bytes → Bytes) (mav : MAVLink) (messageType : MessageType)
    (payload : Bytes) (forceMavlink1 : Bool) :
    frameMessage sha256 (wireFrame mav messageType payload forceMavlink1) =
      match (decode sha256 {} (wireFrame mav messageType payload forceMavlink1)).1 with
      | .ok m => m
      | .error (.mavError message) =>
          .newBadData (wireFrame mav messageType payload forceMavlink1) message
      | .error _ => .newBadData (wireFrame mav messageType payload forceMavlink1) "" := by
  obtain ⟨magic, length, incompatFlags, rest, hframe, hflags⟩ :
      ∃ magic length incompatFlags rest, wireFrame mav messageType payload forceMavlink1 =
          magic :: length :: incompatFlags :: rest ∧
        ¬ (magic = PROTOCOL_MARKER_V2 ∧
          incompatFlags &&& ~~~(UInt8.ofNat MAVLINK_IFLAG_SIGNED) ≠ 0) := by
    unfold wireFrame headBytes
    cases forceMavlink1 with
    | true => exact ⟨0xFE, _, _, _, rfl, fun h => absurd h.1 (by decide)⟩
    | false => exact ⟨0xFD, _, 0, _, rfl, fun h => absurd h.2 (by decide)⟩
  have hdecode : decodeFrame sha256 { expectedLength := headerLength magic + 2 } magic incompatFlags
      (magic :: length :: incompatFlags :: rest) =
        decode sha256 {} (magic :: length :: incompatFlags :: rest) := if_neg hflags
  rw [hframe]
  generalize decode sha256 {} (magic :: length :: incompatFlags :: rest) = result at hdecode ⊢
  obtain ⟨outcome, signing⟩ := result
  cases outcome with
  | ok m => simp only [frameMessage, hdecode]
  | error error => cases error <;> simp only [frameMessage, hdecode]

/-! ## Messages that fit -/

def Fits : MessageBody → Prop
  | .heartbeat m => (0 ≤ m.type ∧ m.type < 256) ∧ (0 ≤ m.autopilot ∧ m.autopilot < 256) ∧
      (0 ≤ m.baseMode ∧ m.baseMode < 256) ∧ (0 ≤ m.customMode ∧ m.customMode < 2 ^ 32) ∧
      (0 ≤ m.systemStatus ∧ m.systemStatus < 256) ∧
      (0 ≤ m.mavlinkVersion ∧ m.mavlinkVersion < 256)
  | .commandLong m => (0 ≤ m.targetSystem ∧ m.targetSystem < 256) ∧
      (0 ≤ m.targetComponent ∧ m.targetComponent < 256) ∧ (0 ≤ m.command ∧ m.command < 2 ^ 16) ∧
      (0 ≤ m.confirmation ∧ m.confirmation < 256)
  | .commandACK m => (0 ≤ m.command ∧ m.command < 2 ^ 16) ∧ (0 ≤ m.result ∧ m.result < 256) ∧
      (0 ≤ m.progress ∧ m.progress < 256) ∧
      (-2 ^ 31 ≤ m.resultParam2 ∧ m.resultParam2 < 2 ^ 31) ∧
      (0 ≤ m.targetSystem ∧ m.targetSystem < 256) ∧
      (0 ≤ m.targetComponent ∧ m.targetComponent < 256)
  | .paramSet m => (0 ≤ m.targetSystem ∧ m.targetSystem < 256) ∧
      (0 ≤ m.targetComponent ∧ m.targetComponent < 256) ∧ m.paramIdRaw.length ≤ 16 ∧
      (∀ b ∈ m.paramIdRaw, b < 128) ∧ (0 ≤ m.paramType ∧ m.paramType < 256)
  | .badData _ _ | .unknown _ _ => False

/-- The fields fit their wire types, where the characters of a parameter id are any bytes. -/
def FitsWire : MessageBody → Prop
  | .paramSet m => (0 ≤ m.targetSystem ∧ m.targetSystem < 256) ∧
      (0 ≤ m.targetComponent ∧ m.targetComponent < 256) ∧ (0 ≤ m.paramType ∧ m.paramType < 256)
  | body => Fits body

theorem Fits.fitsWire {body : MessageBody} (h : Fits body) : FitsWire body := by
  cases body with
  | paramSet m =>
      obtain ⟨hsystem, hcomponent, -, -, htype⟩ := h
      exact ⟨hsystem, hcomponent, htype⟩
  | _ => exact h

theorem FitsWire.packed {body : MessageBody} (h : FitsWire body) :
    ∃ messageType values payload, body.packed = some (messageType, values) ∧
      Struct.pack messageType.unpacker values = some payload ∧ payload.length < 256 ∧
      mavlinkMap messageType.id = some messageType ∧ messageType.id < 256 := by
  have hgeneral : ∀ (messageType : MessageType) (values : List Struct.Value),
      body.packed = some (messageType, values) →
      List.Forall₂ (fun code value => (Struct.Code.encode code value).isSome)
        messageType.unpacker values →
      Struct.calcsize messageType.unpacker < 256 →
      mavlinkMap messageType.id = some messageType → messageType.id < 256 →
      ∃ messageType values payload, body.packed = some (messageType, values) ∧
        Struct.pack messageType.unpacker values = some payload ∧ payload.length < 256 ∧
        mavlinkMap messageType.id = some messageType ∧ messageType.id < 256 := by
    intro messageType values hpacked hvalues hsize hmap hid
    obtain ⟨payload, hpack⟩ := Struct.exists_pack hvalues
    exact ⟨messageType, values, payload, hpacked, hpack, by rwa [Struct.pack_length hpack], hmap,
      hid⟩
  cases body with
  | heartbeat m =>
      obtain ⟨htype, hautopilot, hbase, hcustom, hstatus, hversion⟩ := h
      refine hgeneral .heartbeat _ rfl ?_ (by decide) rfl (by decide)
      simp [MessageType.heartbeat, Struct.Code.encode]
      omega
  | commandLong m =>
      obtain ⟨hsystem, hcomponent, hcommand, hconfirmation⟩ := h
      refine hgeneral .commandLong _ rfl ?_ (by decide) rfl (by decide)
      simp [MessageType.commandLong, Struct.Code.encode]
      omega
  | commandACK m =>
      obtain ⟨hcommand, hresult, hprogress, hparam, hsystem, hcomponent⟩ := h
      refine hgeneral .commandACK _ rfl ?_ (by decide) rfl (by decide)
      simp [MessageType.commandACK, Struct.Code.encode]
      omega
  | paramSet m =>
      obtain ⟨hsystem, hcomponent, htype⟩ := h
      refine hgeneral .paramSet _ rfl ?_ (by decide) rfl (by decide)
      simp [MessageType.paramSet, Struct.Code.encode]
      omega
  | badData data reason => exact absurd h id
  | unknown msgId data => exact absurd h id

/-- What is packed fits. -/
theorem FitsWire.of_pack {body : MessageBody} {values : List Struct.Value}
    (hpacked : body.packed = some (messageType, values))
    (hpack : Struct.pack messageType.unpacker values = some payload) : FitsWire body := by
  have hfields := Struct.forall₂_of_pack hpack
  cases body with
  | heartbeat m =>
      cases hpacked
      simp [MessageType.heartbeat, Struct.Code.encode] at hfields
      simp only [FitsWire, Fits]
      omega
  | commandLong m =>
      cases hpacked
      simp [MessageType.commandLong, Struct.Code.encode] at hfields
      simp only [FitsWire, Fits]
      omega
  | commandACK m =>
      cases hpacked
      simp [MessageType.commandACK, Struct.Code.encode] at hfields
      simp only [FitsWire, Fits]
      omega
  | paramSet m =>
      cases hpacked
      simp [MessageType.paramSet, Struct.Code.encode] at hfields
      simp only [FitsWire]
      omega
  | badData data reason => cases hpacked
  | unknown msgId data => cases hpacked

theorem Fits.packed {body : MessageBody} (h : Fits body) :
    ∃ messageType values payload, body.packed = some (messageType, values) ∧
      Struct.pack messageType.unpacker values = some payload ∧ payload.length < 256 ∧
      mavlinkMap messageType.id = some messageType ∧ messageType.id < 256 :=
  h.fitsWire.packed

/-! ## Parsing the frame -/

/-- A fresh parser takes the frame off, however it comes. -/
theorem parseChunks_wireFrame (sha256 : Bytes → Bytes) (mav : MAVLink) (messageType : MessageType)
    (hlength : payload.length < 256) (sourceSystem sourceComponent : Nat) {chunks : List Bytes}
    {fuel : Nat} (hchunks : chunks.flatten = wireFrame mav messageType payload forceMavlink1)
    (hfuel : chunks.flatten.length ≤ fuel) :
    ∃ self', parseChunks sha256 fuel (new sourceSystem sourceComponent) chunks =
      some (.ok [frameMessage sha256 (wireFrame mav messageType payload forceMavlink1)],
        self') := by
  have hkeyless : (new sourceSystem sourceComponent).Keyless := ⟨new_intact _ _, rfl⟩
  have hpending : (new sourceSystem sourceComponent).pending = [] := rfl
  have hcut : framing.cut (wireFrame mav messageType payload forceMavlink1) =
      ([wireFrame mav messageType payload forceMavlink1], []) := by
    have hframe : framing.length (wireFrame mav messageType payload forceMavlink1) =
        some (wireFrame mav messageType payload forceMavlink1).length :=
      frameLength_wireFrame hlength
    have hrest : framing.cut [] = ([], []) := Framing.cut_of_none rfl
    rw [Framing.cut_of_some hframe, List.take_length, List.drop_length, hrest]
  have hbound :
      (new sourceSystem sourceComponent).pending.length + chunks.flatten.length ≤ fuel := by
    rw [hpending, List.length_nil, Nat.zero_add]
    exact hfuel
  obtain ⟨self', hparse, -, -⟩ := parseChunks_keyless sha256 hkeyless hbound
  rw [hpending, Framing.cutChunks_eq rfl, List.nil_append, hchunks, hcut] at hparse
  exact ⟨self', hparse⟩

section

variable (sha256 : Bytes → Bytes) (forceMavlink1 : Bool) {values : List Struct.Value}
  (hmav : mav.Sends)
  (hmap : mavlinkMap messageType.id = some messageType) (hid : messageType.id < 256)
  (hlength : payload.length < 256) (hpack : Struct.pack messageType.unpacker values = some payload)

include hmav hmap hid hlength hpack

theorem frameMessage_accepted {body : MessageBody}
    (hinit : messageType.init (arguments messageType
      (List.zipWith Struct.Code.stored messageType.unpacker values)) = .ok body) :
    (frameMessage sha256 (wireFrame mav messageType payload forceMavlink1)).body = body ∧
      (frameMessage sha256 (wireFrame mav messageType payload forceMavlink1)).header =
        some (frameHeader mav messageType.id (wirePayload payload forceMavlink1).length) := by
  obtain ⟨front, crc, hdecode⟩ :=
    decode_wireFrame sha256 forceMavlink1 hmav hmap hid hlength hpack
  rw [hinit] at hdecode
  rw [frameMessage_wireFrame, hdecode]
  exact ⟨rfl, rfl⟩

theorem frameMessage_refused {emsg : String}
    (hinit : messageType.init (arguments messageType
      (List.zipWith Struct.Code.stored messageType.unpacker values)) = .error emsg) :
    frameMessage sha256 (wireFrame mav messageType payload forceMavlink1) =
      .newBadData (wireFrame mav messageType payload forceMavlink1)
        ("Unable to instantiate MAVLink message of type " ++
          s!"{messageType.className}: {emsg}") := by
  obtain ⟨front, crc, hdecode⟩ :=
    decode_wireFrame sha256 forceMavlink1 hmav hmap hid hlength hpack
  rw [hinit] at hdecode
  rw [frameMessage_wireFrame, hdecode]

end

/-! ## Which messages come back -/

/-- The fields of a message, where a parameter id counts up to its first zero byte. -/
def SameFields : MessageBody → MessageBody → Prop
  | .paramSet m, .paramSet m' => m'.targetSystem = m.targetSystem ∧
      m'.targetComponent = m.targetComponent ∧ m'.paramId = m.paramId ∧
      m'.paramValue = m.paramValue ∧ m'.paramType = m.paramType
  | body, body' => body' = body

/-- The encoded message, in any chunks, is one message for a fresh parser: that message. -/
def ComesBack (sha256 : Bytes → Bytes) (mav : MAVLink) (body : MessageBody)
    (forceMavlink1 : Bool) : Prop :=
  ∃ data mav', encode sha256 mav body forceMavlink1 = .ok (data, mav') ∧
    ∀ sourceSystem sourceComponent chunks fuel, chunks.flatten = data →
      (∀ chunk ∈ chunks, chunk ≠ []) → data.length ≤ fuel →
      ∃ m header self', parseChunks sha256 fuel (new sourceSystem sourceComponent) chunks =
          some (.ok [m], self') ∧
        m.getType = body.type ∧ m.header = some header ∧ header.seq = mav.seq ∧
        header.sourceSystem = mav.sourceSystem ∧ header.sourceComponent = mav.sourceComponent ∧
        SameFields body m.body

theorem encode_wireFrame (sha256 : Bytes → Bytes) (forceMavlink1 : Bool) (hmav : mav.Sends)
    {body : MessageBody} {values : List Struct.Value}
    (hpacked : body.packed = some (messageType, values))
    (hpack : Struct.pack messageType.unpacker values = some payload)
    (hid : messageType.id < 256) (hlength : payload.length < 256) :
    ∃ mav', encode sha256 mav body forceMavlink1 =
      .ok (wireFrame mav messageType payload forceMavlink1, mav') := by
  unfold encode MessageBody.pack
  rw [hpacked]
  dsimp only
  rw [hpack]
  dsimp only
  rw [packMsg_eq hmav hid hlength]
  exact ⟨_, rfl⟩

/-- The encoder refuses exactly what does not fit. -/
theorem exists_encode_iff (sha256 : Bytes → Bytes) (forceMavlink1 : Bool) (hmav : mav.Sends)
    {body : MessageBody} :
    (∃ data mav', encode sha256 mav body forceMavlink1 = .ok (data, mav')) ↔ FitsWire body := by
  constructor
  · rintro ⟨data, mav', hencode⟩
    unfold encode MessageBody.pack at hencode
    cases hpacked : body.packed with
    | none =>
        rw [hpacked] at hencode
        cases hencode
    | some packed =>
        obtain ⟨messageType, values⟩ := packed
        rw [hpacked] at hencode
        dsimp only at hencode
        cases hpack : Struct.pack messageType.unpacker values with
        | none =>
            rw [hpack] at hencode
            cases hencode
        | some payload => exact .of_pack hpacked hpack
  · intro hfits
    obtain ⟨messageType, values, payload, hpacked, hpack, hlength, -, hid⟩ := hfits.packed
    obtain ⟨mav', hencode⟩ := encode_wireFrame sha256 forceMavlink1 hmav hpacked hpack hid hlength
    exact ⟨_, mav', hencode⟩

/-- The initializers of three types take back what their messages packed. -/
theorem init_packed {body : MessageBody} {values : List Struct.Value}
    (hpacked : body.packed = some (messageType, values)) (hbody : ∀ m, body ≠ .paramSet m) :
    messageType.init (arguments messageType
      (List.zipWith Struct.Code.stored messageType.unpacker values)) = .ok body := by
  cases body with
  | heartbeat m =>
      cases hpacked
      rfl
  | commandLong m =>
      cases hpacked
      rfl
  | commandACK m =>
      cases hpacked
      rfl
  | paramSet m => exact absurd rfl (hbody m)
  | badData data reason => cases hpacked
  | unknown msgId data => cases hpacked

/-- The decoder hands over the parameter id as a string, which cannot be split at a zero byte. -/
theorem init_paramSet {m : MAVLinkParamSetMessage} {values : List Struct.Value}
    (hpacked : (MessageBody.paramSet m).packed = some (messageType, values)) :
    messageType.init (arguments messageType
      (List.zipWith Struct.Code.stored messageType.unpacker values)) =
        .error "must be str or None, not bytes" := by
  cases hpacked
  rfl

theorem sameFields_refl (body : MessageBody) : SameFields body body := by
  cases body with
  | paramSet m => exact ⟨rfl, rfl, rfl, rfl, rfl⟩
  | _ => rfl

theorem wireFrame_ne_nil (hlength : payload.length < 256) :
    wireFrame mav messageType payload forceMavlink1 ≠ [] := by
  intro hnil
  have hframe : frameLength (wireFrame mav messageType payload forceMavlink1) = some _ :=
    frameLength_wireFrame hlength
  rw [hnil] at hframe
  cases hframe

/-- No parameter setting comes back: it is bad data for the receiver. -/
theorem paramSet_lost (sha256 : Bytes → Bytes) (forceMavlink1 : Bool) (hmav : mav.Sends)
    {m : MAVLinkParamSetMessage} (hfits : Fits (.paramSet m)) :
    ¬ ComesBack sha256 mav (.paramSet m) forceMavlink1 := by
  intro h
  obtain ⟨data, last, hlast, hback⟩ := h
  obtain ⟨messageType, values, payload, hpacked, hpack, hlength, hmap, hid⟩ := hfits.packed
  obtain ⟨mav', hencode⟩ := encode_wireFrame sha256 forceMavlink1 hmav hpacked hpack hid hlength
  have hdata : data = wireFrame mav messageType payload forceMavlink1 := by
    rw [hencode] at hlast
    cases hlast
    rfl
  subst hdata
  have hwhole : [wireFrame mav messageType payload forceMavlink1].flatten =
      wireFrame mav messageType payload forceMavlink1 := by simp
  have hbad := frameMessage_refused sha256 forceMavlink1 hmav hmap hid hlength hpack
    (init_paramSet hpacked)
  obtain ⟨message, header, self', hparse, htype, -⟩ := hback 0 0 _ _ hwhole
    (by simpa using wireFrame_ne_nil hlength) (Nat.le_refl _)
  obtain ⟨self, hparse'⟩ := parseChunks_wireFrame sha256 mav messageType hlength 0 0 hwhole
    (Nat.le_of_eq (congrArg List.length hwhole))
  rw [hparse', hbad] at hparse
  cases hparse
  have hname : "BAD_DATA" ≠ "PARAM_SET" := by decide
  exact absurd htype hname

/-- A message comes back just when it is no parameter setting. -/
theorem comesBack_iff (sha256 : Bytes → Bytes) (hmav : mav.Sends) {body : MessageBody}
    (hfits : Fits body) (forceMavlink1 : Bool) :
    ComesBack sha256 mav body forceMavlink1 ↔ ∀ m, body ≠ .paramSet m := by
  obtain ⟨messageType, values, payload, hpacked, hpack, hlength, hmap, hid⟩ := hfits.packed
  obtain ⟨mav', hencode⟩ := encode_wireFrame sha256 forceMavlink1 hmav hpacked hpack hid hlength
  constructor
  · intro h m hbody
    subst hbody
    exact paramSet_lost sha256 forceMavlink1 hmav hfits h
  · intro hbody
    have hinit := init_packed hpacked hbody
    obtain ⟨hsame, hheader⟩ :=
      frameMessage_accepted sha256 forceMavlink1 hmav hmap hid hlength hpack hinit
    refine ⟨_, mav', hencode, ?_⟩
    intro sourceSystem sourceComponent chunks fuel hchunks _ hfuel
    obtain ⟨self', hparse⟩ := parseChunks_wireFrame sha256 mav messageType hlength sourceSystem
      sourceComponent hchunks (hchunks ▸ hfuel)
    refine ⟨_, _, self', hparse, congrArg MessageBody.type hsame, hheader, rfl, rfl, rfl, ?_⟩
    rw [hsame]
    exact sameFields_refl body

def rebootCommand : MAVLinkCommandLongMessage where
  targetSystem := 0
  targetComponent := 1
  command := 246
  confirmation := 1
  param1 := 0x40400000

theorem comesBack_iff_reboot :
    Sends (new 255 190) ∧ Fits (.commandLong rebootCommand) ∧
      (ComesBack (fun _ => List.replicate 32 0) (new 255 190) (.commandLong rebootCommand) true ↔
        ∀ m, MessageBody.commandLong rebootCommand ≠ .paramSet m) := by
  have hsends : Sends (new 255 190) := ⟨by decide, by decide, by decide, rfl⟩
  have hfits : Fits (.commandLong rebootCommand) := ⟨by decide, by decide, by decide, by decide⟩
  exact ⟨hsends, hfits, comesBack_iff _ hsends hfits true⟩

/-- What `reset_to_factory_defaults` sends: the parameter `FORMAT_VERSION`, set to zero. -/
def formatVersion : MAVLinkParamSetMessage where
  targetSystem := 0
  targetComponent := 1
  paramIdRaw := [70, 79, 82, 77, 65, 84, 95, 86, 69, 82, 83, 73, 79, 78]
  paramValue := 0
  paramType := 0

/-- It does not come back. -/
theorem formatVersion_lost :
    Sends (new 255 190) ∧ Fits (.paramSet formatVersion) ∧
      ¬ ComesBack (fun _ => List.replicate 32 0) (new 255 190) (.paramSet formatVersion) true := by
  have hsends : Sends (new 255 190) := ⟨by decide, by decide, by decide, rfl⟩
  have hfits : Fits (.paramSet formatVersion) :=
    ⟨by decide, by decide, by decide, by simp [formatVersion], by decide⟩
  exact ⟨hsends, hfits, paramSet_lost _ true hsends hfits⟩

end MAVLink

end ApUploader
