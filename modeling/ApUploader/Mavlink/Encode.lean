import ApUploader.Mavlink.Messages

/-! # Sending messages

A message packs its fields in the order of its format, and the frame around them is
the same for all types. Version 2 drops the zeros at the end of the payload, but keeps
its first byte. The digest of the signature is a parameter.
-/

namespace ApUploader

/-- The streams are known by link, system and component. -/
structure MAVLinkSigning where
  secretKey : Option Bytes := none
  timestamp : Nat := 0
  linkId : Nat := 0
  signOutgoing : Bool := false
  allowUnsignedCallback : Option (Nat → Bool) := none
  streamTimestamps : AList fun _ : Nat × Nat × Nat => Nat := ∅
  sigCount : Nat := 0
  badsigCount : Nat := 0
  goodsigCount : Nat := 0
  unsignedCount : Nat := 0
  rejectCount : Nat := 0

structure MAVLink where
  sourceSystem : Nat := 0
  sourceComponent : Nat := 0
  seq : Nat := 0
  buf : Bytes := []
  bufIndex : Nat := 0
  expectedLength : Nat := HEADER_LEN_V1 + 2
  havePrefixError : Bool := false
  robustParsing : Bool := true
  signing : MAVLinkSigning := {}

section

variable (sha256 : Bytes → Bytes)

def signPacket (signing : MAVLinkSigning) (msgbuf : Bytes) :
    Except MavlinkExn (Bytes × MAVLinkSigning) :=
  match signing.secretKey with
  | none => .error (.typeError "_msgbuf is not initialized")
  | some secretKey =>
      match Struct.pack [.uint 1, .uint 8] [.int signing.linkId, .int signing.timestamp] with
      | none => .error .structError
      | some stamp =>
          let msgbuf := msgbuf ++ stamp.take 7
          let sig := (sha256 (secretKey ++ msgbuf)).take 6
          .ok (msgbuf ++ sig, { signing with timestamp := signing.timestamp + 1 })

/-- The length without the zeros at the end, but at least one byte of them. -/
def strippedLength (payload : Bytes) : Nat → Nat
  | 0 => 0
  | plen + 1 =>
      if 1 < plen + 1 ∧ payload[plen]? = some 0 then strippedLength payload plen else plen + 1

def packMsg (mav : MAVLink) (msgId : Nat) (crcExtra : UInt8) (payload : Bytes)
    (forceMavlink1 : Bool) : Except MavlinkExn (Bytes × MAVLinkSigning) := do
  let plen := if forceMavlink1 then payload.length else strippedLength payload payload.length
  let payload := payload.take plen
  let header : MAVLinkHeader := {
    msgId := msgId
    incompatFlags := if mav.signing.signOutgoing then MAVLINK_IFLAG_SIGNED else 0
    compatFlags := 0
    mlen := payload.length
    seq := mav.seq
    sourceSystem := mav.sourceSystem
    sourceComponent := mav.sourceComponent }
  let packed ← header.pack forceMavlink1
  let msgbuf := packed ++ payload
  let crc := x25crc (msgbuf.drop 1 ++ [crcExtra])
  let msgbuf := msgbuf ++ LittleEndian.encode 2 crc
  if mav.signing.signOutgoing ∧ forceMavlink1 = false then signPacket sha256 mav.signing msgbuf
  else .ok (msgbuf, mav.signing)

namespace MessageBody

/-- The type of a message that can be packed, and its values in the order of the format. -/
def packed : MessageBody → Option (MessageType × List Struct.Value)
  | .heartbeat m => some (.heartbeat, [.int m.customMode, .int m.type, .int m.autopilot,
      .int m.baseMode, .int m.systemStatus, .int m.mavlinkVersion])
  | .commandLong m => some (.commandLong, [.float m.param1, .float m.param2, .float m.param3,
      .float m.param4, .float m.param5, .float m.param6, .float m.param7, .int m.command,
      .int m.targetSystem, .int m.targetComponent, .int m.confirmation])
  | .commandACK m => some (.commandACK, [.int m.command, .int m.result, .int m.progress,
      .int m.resultParam2, .int m.targetSystem, .int m.targetComponent])
  | .paramSet m => some (.paramSet, [.float m.paramValue, .int m.targetSystem,
      .int m.targetComponent, .bytes m.paramIdRaw, .int m.paramType])
  | .badData _ _ | .unknown _ _ => none

/-- Only the four types define how they are packed. -/
def pack (body : MessageBody) (mav : MAVLink) (forceMavlink1 : Bool) :
    Except MavlinkExn (Bytes × MAVLinkSigning) :=
  match body.packed with
  | none => .error (.notImplementedError "MAVLinkMessage cannot be serialized directly")
  | some (messageType, values) =>
      match Struct.pack messageType.unpacker values with
      | none => .error .structError
      | some payload =>
          packMsg sha256 mav messageType.id messageType.crcExtra payload forceMavlink1

end MessageBody

namespace MAVLink

def encode (mav : MAVLink) (body : MessageBody) (forceMavlink1 : Bool) :
    Except MavlinkExn (Bytes × MAVLink) :=
  (body.pack sha256 mav forceMavlink1).map fun (buf, signing) =>
    (buf, { mav with seq := (mav.seq + 1) % 256, signing := signing })

end MAVLink

end

/-! ## What is sent -/

theorem strippedLength_le (payload : Bytes) (n : Nat) : strippedLength payload n ≤ n := by
  induction n with
  | zero => exact Nat.le_refl 0
  | succ n ih =>
      unfold strippedLength
      split <;> omega

/-- Nothing but zeros is dropped, and filling up brings them back. -/
theorem take_strippedLength (payload : Bytes) {n : Nat} (h : n ≤ payload.length) :
    payload.take (strippedLength payload n) ++ List.replicate (n - strippedLength payload n) 0 =
      payload.take n := by
  induction n with
  | zero => simp [strippedLength]
  | succ n ih =>
      unfold strippedLength
      split
      · next hzero =>
          have hreplicate : List.replicate (n + 1 - strippedLength payload n) (0 : UInt8) =
              List.replicate (n - strippedLength payload n) 0 ++ [0] := by
            rw [Nat.succ_sub (strippedLength_le payload n), List.replicate_succ']
          rw [hreplicate, ← List.append_assoc, ih (by omega), List.take_add_one, hzero.2]
          rfl
      · simp

end ApUploader
