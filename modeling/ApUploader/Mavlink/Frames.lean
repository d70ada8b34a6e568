import ApUploader.Logic.Framing
import ApUploader.Mavlink.Parser

/-! # The frames of a stream

Without a signing key the message of a frame depends on its bytes only, and the length
of a frame on its first three. So the parser cuts the stream into frames, whatever its
other fields say: the expected length that it keeps is overwritten before it matters.
-/

namespace ApUploader

namespace MAVLink

/-! ## Cutting -/

def headerLength (magic : UInt8) : Nat :=
  if magic = PROTOCOL_MARKER_V2 then HEADER_LEN_V2 else HEADER_LEN_V1

def frameLength : Bytes → Option Nat
  | [] => none
  | magic :: rest =>
      if magic ≠ PROTOCOL_MARKER_V1 ∧ magic ≠ PROTOCOL_MARKER_V2 then some 1
      else
        match rest with
        | length :: incompatFlags :: _ =>
            if announcedLength magic length incompatFlags (headerLength magic) ≤
                rest.length + 1 then
              some (announcedLength magic length incompatFlags (headerLength magic))
            else none
        | _ => none

theorem announcedLength_ge (magic length incompatFlags : UInt8) (headerLen : Nat) :
    headerLen + 2 ≤ announcedLength magic length incompatFlags headerLen := by
  unfold announcedLength
  omega

theorem headerLength_ge (magic : UInt8) : 6 ≤ headerLength magic := by
  unfold headerLength HEADER_LEN_V1 HEADER_LEN_V2
  split <;> omega

/-- A stray byte, or a frame that is complete. -/
inductive FrontFrame : Bytes → Nat → Prop where
  | stray {magic rest} (hmagic : magic ≠ PROTOCOL_MARKER_V1 ∧ magic ≠ PROTOCOL_MARKER_V2) :
      FrontFrame (magic :: rest) 1
  | frame {magic length incompatFlags rest}
      (hmagic : ¬ (magic ≠ PROTOCOL_MARKER_V1 ∧ magic ≠ PROTOCOL_MARKER_V2))
      (hle : announcedLength magic length incompatFlags (headerLength magic) ≤ rest.length + 3) :
      FrontFrame (magic :: length :: incompatFlags :: rest)
        (announcedLength magic length incompatFlags (headerLength magic))

theorem frameLength_eq_some {data : Bytes} {n : Nat} :
    frameLength data = some n ↔ FrontFrame data n := by
  constructor
  · intro h
    unfold frameLength at h
    split at h
    · cases h
    · next magic rest =>
        split at h
        · next hmagic =>
            cases h
            exact .stray hmagic
        · next hmagic =>
            split at h
            · split at h
              · next hle =>
                  cases h
                  exact .frame hmagic hle
              · cases h
            · cases h
  · intro h
    cases h with
    | stray hmagic => exact if_pos hmagic
    | frame hmagic hle =>
        rw [frameLength, if_neg hmagic]
        exact if_pos hle

theorem FrontFrame.append {data : Bytes} {n : Nat} (h : FrontFrame data n) (more : Bytes) :
    FrontFrame (data ++ more) n := by
  cases h with
  | stray hmagic => exact .stray hmagic
  | frame hmagic hle =>
      refine .frame hmagic ?_
      simp only [List.append_eq, List.length_append]
      omega

def framing : Framing UInt8 where
  length := frameLength
  length_pos := by
    intro data n h
    cases frameLength_eq_some.mp h with
    | stray => decide
    | frame => exact Nat.lt_of_lt_of_le (Nat.succ_pos _) (announcedLength_ge _ _ _ _)
  length_le := by
    intro data n h
    cases frameLength_eq_some.mp h with
    | stray => exact Nat.succ_le_succ (Nat.zero_le _)
    | frame _ hle => exact hle
  stable := by
    intro data n more h
    exact frameLength_eq_some.mpr ((frameLength_eq_some.mp h).append more)

/-! ## Parsing one frame -/

variable (sha256 : Bytes → Bytes)

def frameMessage : Bytes → MAVLinkMessage
  | magic :: length :: incompatFlags :: rest =>
      let frame := magic :: length :: incompatFlags :: rest
      match (decodeFrame sha256 { expectedLength := headerLength magic + 2 } magic incompatFlags
        frame).1 with
      | .ok m => m
      | .error (.mavError message) => .newBadData frame message
      | .error _ => .newBadData frame ""
  | frame => .newBadData frame "Bad prefix"

variable {sha256}

def messageBytes (m : MAVLinkMessage) : Bytes := m.msgbuf.getD []

theorem decodePayload_outcome {messageType : MessageType} {frame : FrameHeader} {msgbuf : Bytes}
    {crc : Nat} {sigOk : Bool} :
    (∃ m, decodePayload messageType frame msgbuf crc sigOk = .ok m ∧ m.msgbuf = some msgbuf) ∨
      ∃ message, decodePayload messageType frame msgbuf crc sigOk = .error (.mavError message) := by
  unfold decodePayload
  dsimp only
  split
  · exact .inr ⟨_, rfl⟩
  · split
    · exact .inr ⟨_, rfl⟩
    · split
      · exact .inr ⟨_, rfl⟩
      · exact .inl ⟨_, rfl, rfl⟩

theorem decodeHeader_outcome {msgbuf : Bytes} (h : msgbuf ≠ []) :
    (∃ frame, decodeHeader msgbuf = .ok frame) ∨
      ∃ message, decodeHeader msgbuf = .error (.mavError message) := by
  have hcheck : ∀ magic header headerlen,
      (∃ frame, decodeHeader.checkHeader msgbuf magic header headerlen = .ok frame) ∨
        ∃ message, decodeHeader.checkHeader msgbuf magic header headerlen =
          .error (.mavError message) := by
    intro magic header headerlen
    unfold decodeHeader.checkHeader
    dsimp only
    split
    · exact .inr ⟨_, rfl⟩
    · split
      · exact .inr ⟨_, rfl⟩
      · exact .inl ⟨_, rfl⟩
  unfold decodeHeader
  split
  · exact absurd rfl h
  · split
    · split
      · exact hcheck _ _ _
      · exact .inr ⟨_, rfl⟩
    · split
      · exact hcheck _ _ _
      · exact .inr ⟨_, rfl⟩

theorem decodeCrc_outcome (messageType : MessageType) (frame : FrameHeader) (msgbuf : Bytes) :
    (∃ crc, decodeCrc messageType frame msgbuf = .ok crc) ∨
      ∃ message, decodeCrc messageType frame msgbuf = .error (.mavError message) := by
  unfold decodeCrc
  dsimp only
  split
  · split
    · exact .inr ⟨_, rfl⟩
    · exact .inl ⟨_, rfl⟩
  · exact .inr ⟨_, rfl⟩

theorem acceptSignature_keyless (sha256 : Bytes → Bytes) {signing : MAVLinkSigning}
    (h : signing.secretKey = none) (frame : FrameHeader) (msgbuf : Bytes) :
    ∃ signing', acceptSignature sha256 signing frame msgbuf = (.ok (true, false), signing') ∧
      signing'.secretKey = none := by
  unfold acceptSignature
  dsimp only
  split
  · rw [if_pos (by simp [h])]
    exact ⟨_, rfl, h⟩
  · rw [if_pos (by simp [h])]
    exact ⟨_, rfl, h⟩

/-- Without a key a frame is decoded as it always is, or refused with a `MAVError`. -/
theorem decode_keyless (sha256 : Bytes → Bytes) {signing : MAVLinkSigning} {msgbuf : Bytes}
    (hkey : signing.secretKey = none) (hmsgbuf : msgbuf ≠ []) :
    ∃ signing', decode sha256 signing msgbuf = ((decode sha256 {} msgbuf).1, signing') ∧
      signing'.secretKey = none ∧
      ((∃ m, (decode sha256 {} msgbuf).1 = .ok m ∧ m.msgbuf = some msgbuf) ∨
        ∃ message, (decode sha256 {} msgbuf).1 = .error (.mavError message)) := by
  unfold decode
  rcases decodeHeader_outcome hmsgbuf with ⟨frame, hframe⟩ | ⟨message, hframe⟩
  · rw [hframe]
    dsimp only
    cases hmap : mavlinkMap frame.header.msgId with
    | none => exact ⟨signing, rfl, hkey, .inl ⟨_, rfl, rfl⟩⟩
    | some messageType =>
        rcases decodeCrc_outcome messageType frame msgbuf with ⟨crc, hcrc⟩ | ⟨message, hcrc⟩
        · obtain ⟨signing', haccept, hkey'⟩ := acceptSignature_keyless sha256 hkey frame msgbuf
          have hnone : ({} : MAVLinkSigning).secretKey = none := rfl
          obtain ⟨fresh, hfresh, -⟩ := acceptSignature_keyless sha256 hnone frame msgbuf
          simp only [hcrc, haccept, hfresh]
          exact ⟨signing', rfl, hkey', decodePayload_outcome⟩
        · simp only [hcrc]
          exact ⟨signing, rfl, hkey, .inr ⟨message, rfl⟩⟩
  · rw [hframe]
    exact ⟨signing, rfl, hkey, .inr ⟨message, rfl⟩⟩

end MAVLink

end ApUploader
