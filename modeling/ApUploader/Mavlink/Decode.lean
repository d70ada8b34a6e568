import ApUploader.Mavlink.Encode

/-! # Decoding a frame

The header tells the format, the id and the length of the payload. Unknown ids are
handed on undecoded; for the others the checksum, the signature if a key is set, and
the fields follow. The fields come in the order of the format, are put into the order
of the initializer, and the initializer makes the message.
-/

namespace ApUploader

structure FrameHeader where
  header : MAVLinkHeader
  headerlen : Nat
  signatureLen : Nat

namespace MAVLink

def signatureLength (incompatFlags : Nat) : Nat :=
  if incompatFlags &&& MAVLINK_IFLAG_SIGNED ≠ 0 then MAVLINK_SIGNATURE_BLOCK_LEN else 0

open Struct.Code in
/-- The first part of `decode`. -/
def decodeHeader (msgbuf : Bytes) : Except MavlinkExn FrameHeader :=
  match msgbuf with
  | [] => .error .indexError
  | first :: _ =>
      if first ≠ PROTOCOL_MARKER_V1 then
        match Struct.unpack [char, uint 1, uint 1, uint 1, uint 1, uint 1, uint 1, uint 2, uint 1]
            (msgbuf.take 10) with
        | some [.bytes [magic], .int mlen, .int incompatFlags, .int compatFlags, .int seq,
            .int sourceSystem, .int sourceComponent, .int msgIdlow, .int msgIdhigh] =>
            let header : MAVLinkHeader := {
              msgId := msgIdlow.toNat ||| (msgIdhigh.toNat <<< 16)
              incompatFlags := incompatFlags.toNat
              compatFlags := compatFlags.toNat
              mlen := mlen.toNat
              seq := seq.toNat
              sourceSystem := sourceSystem.toNat
              sourceComponent := sourceComponent.toNat }
            checkHeader magic header 10
        | _ => .error (.mavError
            "Unable to unpack MAVLink header: unpack requires a buffer of 10 bytes")
      else
        match Struct.unpack [char, uint 1, uint 1, uint 1, uint 1, uint 1] (msgbuf.take 6) with
        | some [.bytes [magic], .int mlen, .int seq, .int sourceSystem, .int sourceComponent,
            .int msgId] =>
            let header : MAVLinkHeader := {
              msgId := msgId.toNat
              mlen := mlen.toNat
              seq := seq.toNat
              sourceSystem := sourceSystem.toNat
              sourceComponent := sourceComponent.toNat }
            checkHeader magic header 6
        | _ => .error (.mavError
            "Unable to unpack MAVLink header: unpack requires a buffer of 6 bytes")
where
  checkHeader (magic : UInt8) (header : MAVLinkHeader) (headerlen : Nat) :
      Except MavlinkExn FrameHeader :=
    let signatureLen := signatureLength header.incompatFlags
    if magic ≠ PROTOCOL_MARKER_V1 ∧ magic ≠ PROTOCOL_MARKER_V2 then
      .error (.mavError s!"invalid MAVLink prefix '0x{hexPadded 2 magic.toNat}'")
    else
      let actualMsgLen : Int := (msgbuf.length : Int) - (headerlen + 2 + signatureLen : Nat)
      if (header.mlen : Int) ≠ actualMsgLen then
        .error (.mavError (s!"invalid MAVLink message length. Got {actualMsgLen} expected " ++
          s!"{header.mlen}, msgId={header.msgId} headerlen={headerlen}"))
      else .ok ⟨header, headerlen, signatureLen⟩

/-- The checksum, which covers the header, the payload and the extra byte of the type. -/
def decodeCrc (messageType : MessageType) (frame : FrameHeader) (msgbuf : Bytes) :
    Except MavlinkExn Nat :=
  let behind := 2 + frame.signatureLen
  match Struct.unpack [.uint 2] ((msgbuf.drop (msgbuf.length - behind)).take 2) with
  | some [.int crc] =>
      let crcbuf := (msgbuf.take (msgbuf.length - behind)).drop 1 ++ [messageType.crcExtra]
      if crc.toNat ≠ x25crc crcbuf then
        .error (.mavError (s!"invalid MAVLink CRC in msgID {frame.header.msgId} " ++
          s!"0x{hexPadded 4 crc.toNat} should be 0x{hexPadded 4 (x25crc crcbuf)}"))
      else .ok crc.toNat
  | _ => .error (.mavError "Unable to unpack MAVLink CRC: unpack requires a buffer of 2 bytes")

section

variable (sha256 : Bytes → Bytes)

/-- The timestamp must be later than the last one of the stream, and the digest must agree. -/
def checkSignature (signing : MAVLinkSigning) (msgbuf : Bytes)
    (sourceSystem sourceComponent : Nat) : Except MavlinkExn (Bool × MAVLinkSigning) :=
  match signing.secretKey with
  | none => .error (.typeError "No secret key supplied")
  | some secretKey =>
      let timestampBuf := (msgbuf.drop (msgbuf.length - 12)).take 6
      match msgbuf[msgbuf.length - 13]?, Struct.unpack [.uint 4, .uint 2] timestampBuf with
      | none, _ => .error .indexError
      | some linkId, some [.int tlow, .int thigh] =>
          let timestamp := tlow.toNat + (thigh.toNat <<< 32)
          let streamKey := (linkId.toNat, sourceSystem, sourceComponent)
          match signing.streamTimestamps.lookup streamKey with
          | some last => if timestamp ≤ last then .ok (false, signing) else
              .ok (compare secretKey timestamp signing)
          | none => if timestamp + 6000 * 1000 < signing.timestamp then .ok (false, signing) else
              .ok (compare secretKey timestamp
                { signing with
                  streamTimestamps := signing.streamTimestamps.insert streamKey timestamp })
      | some _, _ => .error .structError
where
  compare (secretKey : Bytes) (timestamp : Nat) (signing : MAVLinkSigning) :
      Bool × MAVLinkSigning :=
    let sig1 := (sha256 (secretKey ++ msgbuf.take (msgbuf.length - 6))).take 6
    let sig2 := msgbuf.drop (msgbuf.length - 6)
    if sig1 ≠ sig2 then (false, signing)
    else (true, { signing with timestamp := max signing.timestamp timestamp })

/-- Whether the frame is accepted, and whether its signature is right. Without a key every frame
is accepted. -/
def acceptSignature (signing : MAVLinkSigning) (frame : FrameHeader) (msgbuf : Bytes) :
    Except MavlinkExn (Bool × Bool) × MAVLinkSigning :=
  let isSigned := frame.signatureLen = MAVLINK_SIGNATURE_BLOCK_LEN
  let signing :=
    if isSigned then { signing with sigCount := signing.sigCount + 1 } else signing
  if signing.secretKey.isNone then (.ok (true, false), signing)
  else if isSigned then
    match checkSignature sha256 signing msgbuf frame.header.sourceSystem
        frame.header.sourceComponent with
    | .error error => (.error error, signing)
    | .ok (true, signing) =>
        (.ok (true, true), { signing with goodsigCount := signing.goodsigCount + 1 })
    | .ok (false, signing) =>
        let signing := { signing with badsigCount := signing.badsigCount + 1 }
        let (accepted, signing) := askCallback signing
        (.ok (accepted, false), signing)
  else
    let (accepted, signing) := askCallback signing
    (.ok (accepted, false), signing)
where
  askCallback (signing : MAVLinkSigning) : Bool × MAVLinkSigning :=
    match signing.allowUnsignedCallback with
    | none => (false, signing)
    | some callback =>
        if callback frame.header.msgId then
          (true, { signing with unsignedCount := signing.unsignedCount + 1 })
        else (false, { signing with rejectCount := signing.rejectCount + 1 })

def orderFields (messageType : MessageType) (t : List Struct.Value) : List Argument :=
  if messageType.lengths.sum = messageType.lengths.length then
    messageType.orders.filterMap fun order => t[order]?.map .value
  else
    messageType.orders.filterMap fun order =>
      let l := messageType.lengths.getD order 0
      let tip := (messageType.lengths.take order).sum
      t[tip]?.map fun field =>
        match field with
        | .bytes data => .value (.bytes data)
        | field => if l = 1 then .value field else .values ((t.drop tip).take l)

def terminateString (fieldtype : String) : Argument → Argument
  | .value (.bytes data) =>
      if fieldtype = "char" then .str (nulstrToStr (toText data)) else .value (.bytes data)
  | argument => argument

def decodePayload (messageType : MessageType) (frame : FrameHeader) (msgbuf : Bytes) (crc : Nat)
    (sigOk : Bool) : Except MavlinkExn MAVLinkMessage :=
  let csize := Struct.calcsize messageType.unpacker
  let behind := 2 + frame.signatureLen
  let mbuf := (msgbuf.take (msgbuf.length - behind)).drop frame.headerlen
  let mbuf := mbuf ++ List.replicate (csize - mbuf.length) 0
  if mbuf.length < csize then
    .error (.mavError
      s!"Bad message of type {messageType.className} length {mbuf.length} needs {csize}")
  else
    let mbuf := mbuf.take csize
    match Struct.unpack messageType.unpacker mbuf with
    | none =>
        .error (.mavError (s!"Unable to unpack MAVLink payload type={messageType.className} " ++
          s!"fmt={messageType.format} payloadLength={mbuf.length}: " ++
          s!"unpack requires a buffer of {csize} bytes"))
    | some t =>
        let tlist := orderFields messageType t
        let msgTuple := List.zipWith terminateString messageType.fieldtypes tlist
        match messageType.init msgTuple with
        | .error emsg =>
            .error (.mavError ("Unable to instantiate MAVLink message of type " ++
              s!"{messageType.className}: {emsg}"))
        | .ok body =>
            .ok {
              body := body
              header := some frame.header
              payload := some ((msgbuf.take (msgbuf.length - behind)).drop 6)
              msgbuf := some msgbuf
              crc := some crc
              signed := sigOk
              linkId := if sigOk then msgbuf[msgbuf.length - 13]?.map UInt8.toNat else none }

def decode (signing : MAVLinkSigning) (msgbuf : Bytes) :
    Except MavlinkExn MAVLinkMessage × MAVLinkSigning :=
  match decodeHeader msgbuf with
  | .error error => (.error error, signing)
  | .ok frame =>
      match mavlinkMap frame.header.msgId with
      | none => (.ok (.newUnknown frame.header.msgId msgbuf), signing)
      | some messageType =>
          match decodeCrc messageType frame msgbuf with
          | .error error => (.error error, signing)
          | .ok crc =>
              match acceptSignature sha256 signing frame msgbuf with
              | (.error error, signing) => (.error error, signing)
              | (.ok (false, _), signing) => (.error (.mavError "Invalid signature"), signing)
              | (.ok (true, sigOk), signing) =>
                  (decodePayload messageType frame msgbuf crc sigOk, signing)

end

end MAVLink

end ApUploader
