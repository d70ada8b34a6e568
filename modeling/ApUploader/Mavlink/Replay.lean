import ApUploader.Mavlink.Traffic

/-! # Replayed frames

A frame that has been taken for signed may be sent again. The decoder refuses it only
if it was the first one of its stream, since that timestamp is the only one it keeps.
Who claims a stream first shuts out whoever is behind in time, with a right digest or
without one.
-/

namespace ApUploader

namespace MAVLink

open MAVLinkSigning

variable {sha256 : Bytes → Bytes} {signing : MAVLinkSigning} {msgbuf : Bytes}
  {mav mav' mav'' : MAVLink} {m : MAVLinkMessage}

/-- Two parties with one key, the first packet of the one that signs, and the digests of its first
two packets. -/
def listeningParty : MAVLink where
  sourceSystem := 255
  sourceComponent := 190
  signing := { secretKey := some (List.replicate 32 7) }

def signingParty : MAVLink where
  sourceSystem := 1
  sourceComponent := 1
  signing := { secretKey := some (List.replicate 32 7), timestamp := 1000, signOutgoing := true }

def firstPacket : Bytes :=
  [253, 9, 1, 0, 0, 1, 1, 0, 0, 0, 0, 0, 0, 0, 2, 3, 81, 4, 3, 0, 230, 0, 232, 3, 0, 0, 0, 0,
    151, 123, 64, 33, 230, 207]

def digests (data : Bytes) : Bytes :=
  if data = List.replicate 32 7 ++ firstPacket.take 28 then
    [151, 123, 64, 33, 230, 207, 80, 15, 208, 208, 137, 178, 18, 14, 164, 217, 148, 226, 240, 8,
      196, 22, 33, 46, 189, 54, 126, 136, 90, 249, 33, 122]
  else
    [183, 59, 207, 122, 91, 119, 64, 238, 150, 134, 70, 13, 48, 72, 224, 245, 73, 0, 253, 254,
      187, 1, 119, 203, 163, 147, 123, 10, 174, 241, 152, 79]

theorem digests_length (data : Bytes) : 6 ≤ (digests data).length := by
  unfold digests
  split <;> decide

/-! ## What is taken in a run -/

def streamOf (msgbuf : Bytes) : Option StreamKey :=
  match decodeHeader msgbuf, linkOf msgbuf with
  | .ok frame, some link => some (link, frame.header.sourceSystem, frame.header.sourceComponent)
  | _, _ => none

theorem Genuine.streamOf {secretKey : Bytes} {stream : StreamKey} {timestamp : Nat}
    (h : Genuine sha256 secretKey msgbuf stream timestamp) : streamOf msgbuf = some stream := by
  obtain ⟨frame, _, _, _, hwell, hbears, _⟩ := h
  obtain ⟨link, hlink, rfl⟩ := hbears.stream
  unfold MAVLink.streamOf
  rw [hwell.header, hlink]

theorem Genuine.timestampOf {secretKey : Bytes} {stream : StreamKey} {timestamp : Nat}
    (h : Genuine sha256 secretKey msgbuf stream timestamp) :
    timestampOf msgbuf = some timestamp := by
  obtain ⟨_, _, _, _, _, hbears, _⟩ := h
  exact hbears.timestamp

/-- A frame of a known stream is taken if it is genuine and later than the one kept. -/
theorem takenAsSigned_iff {secretKey : Bytes} {stream : StreamKey} {first : Nat}
    (hkey : signing.secretKey = some secretKey)
    (hfirst : signing.streamTimestamps.lookup stream = some first)
    (hstream : streamOf msgbuf = some stream) :
    TakenAsSigned sha256 signing msgbuf ↔
      ∃ timestamp, Genuine sha256 secretKey msgbuf stream timestamp ∧ first < timestamp := by
  constructor
  · intro htaken
    obtain ⟨secretKey', stream', timestamp, hkey', hgenuine, hfresh, _⟩ := htaken.genuine
    have hsame := hgenuine.streamOf.symm.trans hstream
    rw [hkey] at hkey'
    cases hkey'
    cases hsame
    exact ⟨timestamp, hgenuine, (fresh_known hfirst).mp hfresh⟩
  · intro ⟨timestamp, hgenuine, hlt⟩
    exact takenAsSigned_of_genuine hkey hgenuine ((fresh_known hfirst).mpr hlt)

theorem TakenAsSigned.known (h : TakenAsSigned sha256 signing msgbuf) :
    ∃ secretKey stream first timestamp, signing.secretKey = some secretKey ∧
      Genuine sha256 secretKey msgbuf stream timestamp ∧
      (decode sha256 signing msgbuf).2.streamTimestamps.lookup stream = some first ∧
      first ≤ timestamp ∧ timestamp ≤ (decode sha256 signing msgbuf).2.timestamp := by
  obtain ⟨secretKey, stream, timestamp, hkey, hgenuine, hfresh, hknows, hclock⟩ := h.genuine
  refine ⟨secretKey, stream, _, timestamp, hkey, hgenuine, hknows, ?_, hclock⟩
  rcases hlookup : signing.streamTimestamps.lookup stream with _ | first
  · exact Nat.le_refl _
  · exact Nat.le_of_lt ((fresh_known hlookup).mp hfresh)

theorem ReadBetween.genuine {before after : MAVLinkSigning} (h : ReadBetween sha256 before after m)
    (hsigned : m.signed = true) :
    ∃ secretKey frame stream first timestamp, before.secretKey = some secretKey ∧
      m.msgbuf = some frame ∧ Genuine sha256 secretKey frame stream timestamp ∧
      after.streamTimestamps.lookup stream = some first ∧ first ≤ timestamp ∧
      timestamp ≤ after.timestamp := by
  rcases h with ⟨data, reason, rfl⟩ | ⟨signing, frame, hbefore, hdecode, hafter⟩
  · cases hsigned
  · have htaken : TakenAsSigned sha256 signing frame := ⟨m, hdecode, hsigned⟩
    obtain ⟨secretKey, stream, first, timestamp, hkey, hgenuine, hfirst, hle, hclock⟩ :=
      htaken.known
    have hmsgbuf : m.msgbuf = some frame := by
      by_cases hformed : ∃ frame' messageType crc, WellFormed frame frame' messageType crc
      · obtain ⟨frame', messageType, crc, hwell⟩ := hformed
        rw [hwell.decode_eq] at hdecode
        split at hdecode
        · cases hdecode
        · cases hdecode
        · exact (decodePayload_signed hdecode).2
      · obtain ⟨msgId, rfl⟩ := (decode_of_not_wellFormed sha256 signing hformed).2 m hdecode
        cases hsigned
    exact ⟨secretKey, frame, stream, first, timestamp, hbefore.secretKey.symm.trans hkey, hmsgbuf,
      hgenuine, hafter.streams stream _ hfirst, hle, hclock.trans hafter.timestamp⟩

/-- A message that was read as signed is read again whenever its frame is replayed, unless it bears
the timestamp that is kept of its stream. -/
theorem replayed_iff {fuel : Nat} {data : Bytes} {messages : List MAVLinkMessage}
    {moves : List Traffic}
    (hparse : parseBuffer sha256 fuel mav data = some (.ok (some messages), mav'))
    (hm : m ∈ messages) (hsigned : m.signed = true)
    (hrun : (traffic sha256).run mav' moves = some mav'') :
    ∃ frame stream first timestamp, m.msgbuf = some frame ∧ streamOf frame = some stream ∧
      timestampOf frame = some timestamp ∧
      mav'.signing.streamTimestamps.lookup stream = some first ∧ first ≤ timestamp ∧
      (TakenAsSigned sha256 mav''.signing frame ↔ first ≠ timestamp) := by
  obtain ⟨hkept, hreads⟩ := parseBuffer_reads hparse
  obtain ⟨secretKey, frame, stream, first, timestamp, hkey, hmsgbuf, hgenuine, hfirst, hle, _⟩ :=
    (hreads messages rfl m hm).genuine hsigned
  refine ⟨frame, stream, first, timestamp, hmsgbuf, hgenuine.streamOf, hgenuine.timestampOf, hfirst,
    hle, ?_⟩
  have hrun' := (traffic_run hrun).signing
  have hkey' : mav''.signing.secretKey = some secretKey :=
    hrun'.secretKey.trans (hkept.signing.secretKey.trans hkey)
  rw [takenAsSigned_iff hkey' (hrun'.streams stream first hfirst) hgenuine.streamOf]
  constructor
  · intro ⟨timestamp', hgenuine', hlt⟩
    obtain ⟨_, rfl⟩ := hgenuine.unique hgenuine'
    exact Nat.ne_of_lt hlt
  · intro hne
    exact ⟨timestamp, hgenuine, Nat.lt_of_le_of_ne hle hne⟩

theorem replayed_iff_first : ∃ messages mav m frame stream first timestamp,
    parseBuffer digests 2 listeningParty firstPacket = some (.ok (some messages), mav) ∧
      m ∈ messages ∧ m.signed = true ∧ m.msgbuf = some frame ∧ streamOf frame = some stream ∧
      timestampOf frame = some timestamp ∧
      mav.signing.streamTimestamps.lookup stream = some first ∧ first ≤ timestamp ∧
      (TakenAsSigned digests mav.signing frame ↔ first ≠ timestamp) := by
  obtain ⟨messages, mav, hparse, m, hm, hsigned⟩ : ∃ messages mav,
      parseBuffer digests 2 listeningParty firstPacket = some (.ok (some messages), mav) ∧
        ∃ m ∈ messages, m.signed = true := ⟨_, _, rfl, _, List.mem_singleton.mpr rfl, rfl⟩
  obtain ⟨frame, stream, first, timestamp, hreplayed⟩ :=
    replayed_iff hparse hm hsigned (by rfl : (traffic digests).run mav [] = some mav)
  exact ⟨messages, mav, m, frame, stream, first, timestamp, hparse, hm, hsigned, hreplayed⟩

/-- With a key and without a callback, what is read in a run is bad data, of an unknown type, or
signed with the key. -/
theorem read_authentic {secretKey data : Bytes} {fuel : Nat} {messages : List MAVLinkMessage}
    {moves : List Traffic} (hkey : mav.signing.secretKey = some secretKey)
    (hcallback : mav.signing.allowUnsignedCallback = none)
    (hrun : (traffic sha256).run mav moves = some mav')
    (hparse : parseBuffer sha256 fuel mav' data = some (.ok (some messages), mav''))
    (hm : m ∈ messages) :
    (∃ data reason, m = .newBadData data reason) ∨ (∃ msgId frame, m = .newUnknown msgId frame) ∨
      m.signed = true ∧ ∃ frame stream timestamp, m.msgbuf = some frame ∧
        Genuine sha256 secretKey frame stream timestamp ∧ timestamp ≤ mav''.signing.timestamp := by
  have hrun' := (traffic_run hrun).signing
  have hread := (parseBuffer_reads hparse).2 messages rfl m hm
  by_cases hsigned : m.signed = true
  · obtain ⟨secretKey', frame, stream, _, timestamp, hkey', hmsgbuf, hgenuine, _, _, hclock⟩ :=
      hread.genuine hsigned
    rw [hrun'.secretKey.trans hkey] at hkey'
    cases hkey'
    exact .inr (.inr ⟨hsigned, frame, stream, timestamp, hmsgbuf, hgenuine, hclock⟩)
  · rcases hread with hbad | ⟨signing, frame, hbefore, hdecode, _⟩
    · exact .inl hbad
    · by_cases hformed : ∃ header messageType crc, WellFormed frame header messageType crc
      · obtain ⟨header, messageType, crc, hwell⟩ := hformed
        have hjudged := acceptSignature_judged sha256 signing header frame
        have hkey' := hbefore.secretKey.trans (hrun'.secretKey.trans hkey)
        have hcallback' :=
          hbefore.allowUnsignedCallback.trans (hrun'.allowUnsignedCallback.trans hcallback)
        rw [hwell.decode_eq] at hdecode
        generalize acceptSignature sha256 signing header frame = result at hjudged hdecode
        obtain ⟨verdict, signing'⟩ := result
        cases hjudged with
        | keyless hnone =>
            rw [hkey'] at hnone
            cases hnone
        | unsigned _ hrefused =>
            rw [hrefused hcallback'] at hdecode
            cases hdecode
        | unreadable => cases hdecode
        | accepted => exact absurd (decodePayload_signed hdecode).1 hsigned
        | rejected _ _ _ _ hrefused =>
            rw [hrefused hcallback'] at hdecode
            cases hdecode
      · obtain ⟨msgId, rfl⟩ := (decode_of_not_wellFormed sha256 signing hformed).2 m hdecode
        exact .inr (.inl ⟨msgId, frame, rfl⟩)

theorem read_authentic_first : ∃ messages mav,
    parseBuffer digests 2 listeningParty firstPacket = some (.ok (some messages), mav) ∧
      ∀ m ∈ messages, (∃ data reason, m = .newBadData data reason) ∨
        (∃ msgId frame, m = .newUnknown msgId frame) ∨
        m.signed = true ∧ ∃ frame stream timestamp, m.msgbuf = some frame ∧
          Genuine digests (List.replicate 32 7) frame stream timestamp ∧
          timestamp ≤ mav.signing.timestamp := by
  obtain ⟨messages, mav, hparse⟩ : ∃ messages mav,
      parseBuffer digests 2 listeningParty firstPacket = some (.ok (some messages), mav) :=
    ⟨_, _, rfl⟩
  exact ⟨messages, mav, hparse, fun m hm => read_authentic rfl rfl
    (by rfl : (traffic digests).run listeningParty [] = some listeningParty) hparse hm⟩

/-! ## The clock of a sender -/

theorem timestampOf_append {front stamp digest : Bytes} (hstamp : stamp.length = 6)
    (hdigest : digest.length = 6) :
    timestampOf (front ++ stamp ++ digest) = some (LittleEndian.decode stamp) := by
  have hlow : (stamp.take 4).length = 4 := by rw [List.length_take, hstamp]; rfl
  have hhigh : (stamp.drop 4).length = 2 := by rw [List.length_drop, hstamp]
  have hbehind : (front ++ stamp ++ digest).length - 12 = front.length := by
    rw [List.length_append, List.length_append, hstamp, hdigest]
    omega
  have htake : ((front ++ stamp ++ digest).drop ((front ++ stamp ++ digest).length - 12)).take 6 =
      stamp := by
    rw [hbehind, List.append_assoc, List.drop_left, ← hstamp, List.take_left]
  have hunpack : Struct.unpack [.uint 4, .uint 2] stamp =
      some [.int (LittleEndian.decode (stamp.take 4)),
        .int (LittleEndian.decode (stamp.drop 4))] := by
    have hwhole : (stamp.drop 4).take 2 = stamp.drop 4 :=
      List.take_of_length_le (Nat.le_of_eq hhigh)
    have hnone : (stamp.drop 4).drop 2 = [] := List.drop_of_length_le (Nat.le_of_eq hhigh)
    simp only [Struct.unpack, Struct.Code.size, Struct.Code.decode, hstamp, hhigh, hwhole, hnone]
    rfl
  have hsplit : LittleEndian.decode stamp = LittleEndian.decode (stamp.take 4) +
      256 ^ 4 * LittleEndian.decode (stamp.drop 4) := by
    conv_lhs => rw [← List.take_append_drop 4 stamp]
    rw [LittleEndian.decode_append, hlow]
  unfold ApUploader.timestampOf
  rw [htake, hunpack, hsplit]
  simp only [Int.toNat_natCast, Nat.shiftLeft_eq, Option.some.injEq]
  omega

/-- Of the eight bytes of the clock the two high ones are cut off. -/
theorem stamp_spec {linkId timestamp : Nat} {stamp : Bytes}
    (h : Struct.pack [.uint 1, .uint 8] [.int linkId, .int timestamp] = some stamp) :
    stamp.take 7 = UInt8.ofNat linkId :: LittleEndian.encode 6 timestamp ∧ linkId < 256 := by
  obtain ⟨value, rest, link, back, hvalues, hlink, hback, rfl⟩ := Struct.exists_of_pack_cons h
  cases hvalues
  obtain ⟨value, rest, clock, nothing, hvalues, hclock, hnothing, rfl⟩ :=
    Struct.exists_of_pack_cons hback
  cases hvalues
  cases hnothing
  obtain ⟨rfl, hbound⟩ : link = [UInt8.ofNat linkId] ∧ linkId < 256 := by
    rw [Struct.Code.encode] at hlink
    split_ifs at hlink with hfits
    · cases hlink
      refine ⟨rfl, ?_⟩
      omega
  obtain rfl : clock = LittleEndian.encode 8 timestamp := by
    rw [Struct.Code.encode] at hclock
    split_ifs at hclock
    · cases hclock
      rfl
  refine ⟨?_, hbound⟩
  rw [List.append_nil, List.singleton_append, List.take_succ_cons,
    LittleEndian.take_encode (by decide : 6 ≤ 8)]

theorem encode_signed {body : MessageBody} {packet : Bytes}
    (hdigest : ∀ data, 6 ≤ (sha256 data).length) (hsign : mav.signing.signOutgoing = true)
    (h : mav.encode sha256 body false = .ok (packet, mav'))
    (hclock : mav.signing.timestamp < 2 ^ 48) :
    linkOf packet = some mav.signing.linkId ∧ timestampOf packet = some mav.signing.timestamp ∧
      mav'.signing.timestamp = mav.signing.timestamp + 1 ∧
      ∃ secretKey, mav.signing.secretKey = some secretKey ∧ Authentic sha256 secretKey packet := by
  obtain ⟨buf, hpacket⟩ := (encode_spec h).2.1 hsign rfl
  obtain ⟨_, htick, secretKey, stamp, hkey, hstamp, rfl⟩ := signPacket_spec hpacket
  obtain ⟨hseven, hlinkBound⟩ := stamp_spec hstamp
  rw [hseven]
  generalize hdata : secretKey ++ (buf ++ UInt8.ofNat mav.signing.linkId ::
    LittleEndian.encode 6 mav.signing.timestamp) = data
  have hsix : ((sha256 data).take 6).length = 6 := by
    have hlong := hdigest data
    rw [List.length_take]
    omega
  have hstampLength := LittleEndian.encode_length 6 mav.signing.timestamp
  have hassoc : buf ++ UInt8.ofNat mav.signing.linkId ::
      LittleEndian.encode 6 mav.signing.timestamp =
        (buf ++ [UInt8.ofNat mav.signing.linkId]) ++
          LittleEndian.encode 6 mav.signing.timestamp := by
    simp
  refine ⟨?_, ?_, htick, secretKey, hkey, ?_⟩
  · have hindex : (buf ++ UInt8.ofNat mav.signing.linkId ::
        LittleEndian.encode 6 mav.signing.timestamp ++ (sha256 data).take 6).length - 13 =
          buf.length := by
      simp only [List.length_append, List.length_cons, hstampLength, hsix]
      omega
    unfold linkOf
    rw [hindex, List.append_assoc, List.getElem?_append_right (Nat.le_refl _), Nat.sub_self]
    simp only [List.cons_append, List.getElem?_cons_zero, Option.map_some, UInt8.toNat_ofNat',
      Option.some.injEq]
    exact Nat.mod_eq_of_lt hlinkBound
  · rw [hassoc, timestampOf_append hstampLength hsix, LittleEndian.decode_encode]
    exact hclock
  · have hfront : (buf ++ UInt8.ofNat mav.signing.linkId ::
        LittleEndian.encode 6 mav.signing.timestamp ++ (sha256 data).take 6).length - 6 =
          (buf ++ UInt8.ofNat mav.signing.linkId ::
            LittleEndian.encode 6 mav.signing.timestamp).length := by
      rw [List.length_append, hsix, Nat.add_sub_cancel]
    unfold Authentic
    rw [hfront, List.take_left, List.drop_left, hdata]

/-- A packet is signed later than those its sender signed before, whatever came in between. -/
theorem sent_later {body body' : MessageBody} {packet packet' : Bytes} {mav₁ mav₂ mav₃ : MAVLink}
    {moves : List Traffic} (hdigest : ∀ data, 6 ≤ (sha256 data).length)
    (hsign : mav.signing.signOutgoing = true)
    (hfirst : mav.encode sha256 body false = .ok (packet, mav₁))
    (hrun : (traffic sha256).run mav₁ moves = some mav₂)
    (hsecond : mav₂.encode sha256 body' false = .ok (packet', mav₃))
    (hclock : mav₂.signing.timestamp < 2 ^ 48) :
    linkOf packet = linkOf packet' ∧
      ∃ timestamp timestamp', timestampOf packet = some timestamp ∧
        timestampOf packet' = some timestamp' ∧ timestamp < timestamp' := by
  have hrun' := (traffic_run hrun).signing
  have hsent := (encode_spec hfirst).1
  have hticked : mav.signing.timestamp + 1 = mav₁.signing.timestamp := by
    obtain ⟨buf, hpacket⟩ := (encode_spec hfirst).2.1 hsign rfl
    exact (signPacket_spec hpacket).2.1.symm
  have hlt : mav.signing.timestamp < mav₂.signing.timestamp := by
    have hclocks := hrun'.timestamp
    omega
  obtain ⟨hlink, hstamp, _⟩ := encode_signed hdigest hsign hfirst (hlt.trans hclock)
  have hsign' : mav₂.signing.signOutgoing = true :=
    hrun'.signOutgoing.trans (hsent.signOutgoing.trans hsign)
  obtain ⟨hlink', hstamp', _⟩ := encode_signed hdigest hsign' hsecond hclock
  refine ⟨?_, _, _, hstamp, hstamp', hlt⟩
  rw [hlink, hlink', hrun'.linkId, hsent.linkId]

/-- A heartbeat of a vehicle on the ground. -/
def groundHeartbeat : MAVLinkHeartbeatMessage where
  type := 2
  autopilot := 3
  baseMode := 81
  customMode := 0
  systemStatus := 4
  mavlinkVersion := 3

theorem sent_later_heartbeats : ∃ packet mav packet' mav',
    signingParty.encode digests (.heartbeat groundHeartbeat) false = .ok (packet, mav) ∧
      mav.encode digests (.heartbeat groundHeartbeat) false = .ok (packet', mav') ∧
      linkOf packet = linkOf packet' ∧
      ∃ timestamp timestamp', timestampOf packet = some timestamp ∧
        timestampOf packet' = some timestamp' ∧ timestamp < timestamp' := by
  obtain ⟨packet, mav, hfirst, packet', mav', hsecond, hclock⟩ : ∃ packet mav,
      signingParty.encode digests (.heartbeat groundHeartbeat) false = .ok (packet, mav) ∧
        ∃ packet' mav', mav.encode digests (.heartbeat groundHeartbeat) false =
          .ok (packet', mav') ∧ mav.signing.timestamp < 2 ^ 48 :=
    ⟨_, _, rfl, _, _, rfl, by decide⟩
  exact ⟨packet, mav, packet', mav', hfirst, hsecond, sent_later digests_length rfl hfirst
    (by rfl : (traffic digests).run mav [] = some mav) hsecond hclock⟩

end MAVLink

end ApUploader
