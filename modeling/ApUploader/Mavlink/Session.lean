import ApUploader.Mavlink.Replay
import ApUploader.Mavlink.RoundTrip

/-! # Signed sessions

A sender that signs puts link, clock and digest behind the checksum, and a receiver
that has its key takes the packet when the clock is fresh for the stream. The clock goes
on with every packet, so a session that begins with a fresh packet is taken as a whole.
-/

namespace ApUploader

namespace MAVLink

open MAVLinkSigning

variable {sha256 : Bytes → Bytes} {mav : MAVLink} {messageType : MessageType}
  {payload secretKey : Bytes}

/-! ## The bytes of a signed packet -/

def stream (mav : MAVLink) : StreamKey :=
  (mav.signing.linkId, mav.sourceSystem, mav.sourceComponent)

def signedHeadBytes (mav : MAVLink) (msgId mlen : Nat) : Bytes :=
  [0xFD, .ofNat mlen, 1, 0, .ofNat mav.seq, .ofNat mav.sourceSystem,
    .ofNat mav.sourceComponent, .ofNat msgId, 0, 0]

def signedFront (mav : MAVLink) (messageType : MessageType) (payload : Bytes) : Bytes :=
  let wire := wirePayload payload false
  signedHeadBytes mav messageType.id wire.length ++ wire

def signedCrc (mav : MAVLink) (messageType : MessageType) (payload : Bytes) : Nat :=
  x25crc ((signedFront mav messageType payload).drop 1 ++ [messageType.crcExtra])

def covered (mav : MAVLink) (messageType : MessageType) (payload : Bytes) : Bytes :=
  signedFront mav messageType payload ++
    LittleEndian.encode 2 (signedCrc mav messageType payload) ++
    UInt8.ofNat mav.signing.linkId :: LittleEndian.encode 6 mav.signing.timestamp

/-- The packet is decoded to the message of the sender, signed by it. -/
def Delivers (sha256 : Bytes → Bytes) (signing : MAVLinkSigning) (packet : Bytes) (mav : MAVLink)
    (body : MessageBody) : Prop :=
  ∃ m header, (decode sha256 signing packet).1 = .ok m ∧ m.body = body ∧ m.signed = true ∧
    m.linkId = some mav.signing.linkId ∧ m.header = some header ∧ header.seq = mav.seq ∧
    header.sourceSystem = mav.sourceSystem ∧ header.sourceComponent = mav.sourceComponent

end MAVLink

end ApUploader
