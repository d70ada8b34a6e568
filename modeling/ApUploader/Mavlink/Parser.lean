import ApUploader.Mavlink.Decode

/-! # Parsing a stream

The parser keeps the received bytes and an index of the first one that has not been
consumed. One call takes one frame or one stray byte off. What it throws is returned
beside the parser behind it.
-/

namespace ApUploader

namespace MAVLink

def new (sourceSystem sourceComponent : Nat) : MAVLink where
  sourceSystem := sourceSystem
  sourceComponent := sourceComponent

def pending (self : MAVLink) : Bytes := self.buf.drop self.bufIndex

def bufLen (self : MAVLink) : Nat := self.buf.length - self.bufIndex

def announcedLength (magic length incompatFlags : UInt8) (headerLen : Nat) : Nat :=
  (if magic = PROTOCOL_MARKER_V2 ∧ incompatFlags.toNat &&& MAVLINK_IFLAG_SIGNED ≠ 0 then
    length.toNat + MAVLINK_SIGNATURE_BLOCK_LEN else length.toNat) + (headerLen + 2)

/-- Three bytes tell the expected length. The magic byte and the flags are local variables, which
are not bound otherwise. -/
def readHeader (self : MAVLink) (headerLen : Nat) : Option (UInt8 × UInt8) × MAVLink :=
  match self.pending with
  | magic :: length :: incompatFlags :: _ =>
      (some (magic, incompatFlags), { self with
        expectedLength := announcedLength magic length incompatFlags headerLen })
  | _ => (none, self)

def isHeartbeat (message : MAVLinkMessage) : Bool := message.getType = "HEARTBEAT"

section

variable (sha256 : Bytes → Bytes)

def decodeFrame (self : MAVLink) (magic incompatFlags : UInt8) (mbuf : Bytes) :
    Except MavlinkExn MAVLinkMessage × MAVLinkSigning :=
  if magic = PROTOCOL_MARKER_V2 ∧ incompatFlags &&& ~~~(UInt8.ofNat MAVLINK_IFLAG_SIGNED) ≠ 0 then
    (.error (.mavError (s!"invalid incompat_flags 0x{hexDigits incompatFlags.toNat} " ++
      s!"0x{hexDigits magic.toNat} {self.expectedLength}")), self.signing)
  else decode sha256 self.signing mbuf

/-- Take a frame off the buffer. What cannot be decoded is bad data. -/
def takeFrame (self : MAVLink) (headerLen : Nat) (head : Option (UInt8 × UInt8)) :
    Except MavlinkExn (Option MAVLinkMessage) × MAVLink :=
  let mbuf := self.pending.take self.expectedLength
  let self := { self with
    bufIndex := self.bufIndex + self.expectedLength
    expectedLength := headerLen + 2 }
  match head with
  | none => (.error .unboundLocalError, self)
  | some (magic, incompatFlags) =>
      match decodeFrame sha256 self magic incompatFlags mbuf with
      | (.ok m, signing) => (.ok (some m), { self with signing := signing })
      | (.error (.mavError message), signing) =>
          if self.robustParsing then
            (.ok (some (.newBadData mbuf message)), { self with signing := signing })
          else (.error (.mavError message), { self with signing := signing })
      | (.error error, signing) => (.error error, { self with signing := signing })

def parseFrame (self : MAVLink) (headerLen : Nat) :
    Except MavlinkExn (Option MAVLinkMessage) × MAVLink :=
  let (head, self) := readHeader { self with havePrefixError := false } headerLen
  if headerLen + 2 ≤ self.expectedLength ∧ self.expectedLength ≤ self.bufLen then
    takeFrame sha256 self headerLen head
  else (.ok none, self)

def parseCharLegacy (self : MAVLink) : Except MavlinkExn (Option MAVLinkMessage) × MAVLink :=
  match self.pending with
  | [] => parseFrame sha256 self HEADER_LEN_V1
  | magic :: _ =>
      let headerLen := if magic = PROTOCOL_MARKER_V2 then HEADER_LEN_V2 else HEADER_LEN_V1
      if magic ≠ PROTOCOL_MARKER_V1 ∧ magic ≠ PROTOCOL_MARKER_V2 then
        let self := { self with bufIndex := self.bufIndex + 1 }
        if self.robustParsing then
          (.ok (some (.newBadData [magic] "Bad prefix")),
            { self with expectedLength := headerLen + 2 })
        else if self.havePrefixError then (.ok none, self)
        else (.error (.mavError s!"invalid MAVLink prefix '0x{hexDigits magic.toNat}'"),
          { self with havePrefixError := true })
      else parseFrame sha256 self headerLen

/-- An empty buffer is freed. -/
def parseChar (self : MAVLink) (c : Bytes) : Except MavlinkExn (Option MAVLinkMessage) × MAVLink :=
  match parseCharLegacy sha256 { self with buf := self.buf ++ c } with
  | (.ok none, self) =>
      if self.bufLen = 0 ∧ self.bufIndex ≠ 0 then (.ok none, { self with buf := [], bufIndex := 0 })
      else (.ok none, self)
  | result => result

/-- The loop of `parse_buffer`, with the messages so far; `none` when the fuel does not suffice. -/
def parseMore : Nat → MAVLink → List MAVLinkMessage →
    Option (Except MavlinkExn (List MAVLinkMessage) × MAVLink)
  | 0, _, _ => none
  | fuel + 1, self, ret =>
      match parseChar sha256 self [] with
      | (.error error, self) => some (.error error, self)
      | (.ok none, self) => some (.ok ret, self)
      | (.ok (some m), self) => parseMore fuel self (ret ++ [m])

def parseBuffer (fuel : Nat) (self : MAVLink) (s : Bytes) :
    Option (Except MavlinkExn (Option (List MAVLinkMessage)) × MAVLink) :=
  match parseChar sha256 self s with
  | (.error error, self) => some (.error error, self)
  | (.ok none, self) => some (.ok none, self)
  | (.ok (some m), self) =>
      (parseMore sha256 fuel self [m]).map fun (ret, self) => (ret.map some, self)

/-- The messages of the chunks, one call for each; the exception of a call ends them. -/
def parseChunks (fuel : Nat) (self : MAVLink) :
    List Bytes → Option (Except MavlinkExn (List MAVLinkMessage) × MAVLink)
  | [] => some (.ok [], self)
  | chunk :: chunks =>
      match parseBuffer sha256 fuel self chunk with
      | none => none
      | some (.error error, self) => some (.error error, self)
      | some (.ok messages, self) =>
          (parseChunks fuel self chunks).map fun (later, self) =>
            (later.map (messages.getD [] ++ ·), self)

/-- The loop of `_wait_for_heartbeat` over the data that is received: the heartbeat, or nothing
when it still waits. What was parsed behind the heartbeat is dropped. -/
def waitForHeartbeat (fuel : Nat) (self : MAVLink) :
    List Bytes → Option (Except MavlinkExn (Option MAVLinkMessage) × MAVLink)
  | [] => some (.ok none, self)
  | data :: rest =>
      match parseBuffer sha256 fuel self data with
      | none => none
      | some (.error error, self) => some (.error error, self)
      | some (.ok messages, self) =>
          match (messages.getD []).find? isHeartbeat with
          | some message => some (.ok (some message), self)
          | none => waitForHeartbeat fuel self rest

/-! ## More fuel -/

variable {sha256} {fuel fuel' : Nat} {self : MAVLink}

theorem parseMore_mono {ret : List MAVLinkMessage}
    {result : Except MavlinkExn (List MAVLinkMessage) × MAVLink} (hfuel : fuel ≤ fuel')
    (h : parseMore sha256 fuel self ret = some result) :
    parseMore sha256 fuel' self ret = some result := by
  induction fuel generalizing fuel' self ret with
  | zero => cases h
  | succ fuel ih =>
      obtain ⟨more, rfl⟩ : ∃ more, fuel' = more + 1 := ⟨fuel' - 1, by omega⟩
      unfold parseMore at h ⊢
      split at h
      · exact h
      · exact h
      · exact ih (by omega) h

theorem parseBuffer_mono {s : Bytes}
    {result : Except MavlinkExn (Option (List MAVLinkMessage)) × MAVLink} (hfuel : fuel ≤ fuel')
    (h : parseBuffer sha256 fuel self s = some result) :
    parseBuffer sha256 fuel' self s = some result := by
  unfold parseBuffer at h ⊢
  split at h
  · exact h
  · exact h
  · obtain ⟨more, hmore, rfl⟩ := Option.map_eq_some_iff.mp h
    rw [parseMore_mono hfuel hmore]
    rfl

end

end MAVLink

end ApUploader
