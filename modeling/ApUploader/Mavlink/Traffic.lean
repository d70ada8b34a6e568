import ApUploader.Logic.Machine
import ApUploader.Mavlink.Parser
import ApUploader.Mavlink.Signing

/-! # Traffic

What a party sends and receives in a run leaves its address as it is and leads the state
of its signatures to a later one. What it reads was decoded somewhere in between, and
what it signs bears its clock.
-/

namespace ApUploader

namespace MAVLink

open MAVLinkSigning

variable {sha256 : Bytes → Bytes} {signing signing' : MAVLinkSigning} {msgbuf : Bytes}

/-! ## Decoding -/

/-- A frame of a known type with a right checksum. -/
structure WellFormed (msgbuf : Bytes) (frame : FrameHeader) (messageType : MessageType)
    (crc : Nat) : Prop where
  header : decodeHeader msgbuf = .ok frame
  known : mavlinkMap frame.header.msgId = some messageType
  checksum : decodeCrc messageType frame msgbuf = .ok crc

theorem WellFormed.decode_eq {frame : FrameHeader} {messageType : MessageType} {crc : Nat}
    (h : WellFormed msgbuf frame messageType crc) :
    decode sha256 signing msgbuf =
      match acceptSignature sha256 signing frame msgbuf with
      | (.error error, signing) => (.error error, signing)
      | (.ok (false, _), signing) => (.error (.mavError "Invalid signature"), signing)
      | (.ok (true, sigOk), signing) =>
          (decodePayload messageType frame msgbuf crc sigOk, signing) := by
  unfold decode
  rw [h.header]
  dsimp only
  rw [h.known]
  have hchecksum := h.checksum
  dsimp only
  generalize decodeCrc messageType frame msgbuf = checksum at hchecksum ⊢
  subst hchecksum
  rfl

/-- Other frames do not come to the signatures: they are errors, or messages of unknown types. -/
theorem decode_of_not_wellFormed (sha256 : Bytes → Bytes) (signing : MAVLinkSigning)
    (h : ¬ ∃ frame messageType crc, WellFormed msgbuf frame messageType crc) :
    (decode sha256 signing msgbuf).2 = signing ∧
      ∀ m, (decode sha256 signing msgbuf).1 = .ok m → ∃ msgId, m = .newUnknown msgId msgbuf := by
  unfold decode
  cases hheader : decodeHeader msgbuf with
  | error error => exact ⟨rfl, fun _ hm => by cases hm⟩
  | ok frame =>
      dsimp only
      cases hmap : mavlinkMap frame.header.msgId with
      | none => exact ⟨rfl, fun _ hm => ⟨_, (Except.ok.inj hm).symm⟩⟩
      | some messageType =>
          dsimp only
          cases hcrc : decodeCrc messageType frame msgbuf with
          | error error => exact ⟨rfl, fun _ hm => by cases hm⟩
          | ok crc => exact absurd ⟨frame, messageType, crc, hheader, hmap, hcrc⟩ h

theorem decode_later (sha256 : Bytes → Bytes) (signing : MAVLinkSigning) (msgbuf : Bytes) :
    Later signing (decode sha256 signing msgbuf).2 := by
  by_cases h : ∃ frame messageType crc, WellFormed msgbuf frame messageType crc
  · obtain ⟨frame, messageType, crc, hwell⟩ := h
    have hlater := acceptSignature_later sha256 signing frame msgbuf
    rw [hwell.decode_eq]
    generalize acceptSignature sha256 signing frame msgbuf = result at hlater ⊢
    obtain ⟨verdict, signing'⟩ := result
    cases verdict with
    | error error => exact hlater
    | ok verdict =>
        obtain ⟨accepted, sigOk⟩ := verdict
        cases accepted <;> exact hlater
  · rw [(decode_of_not_wellFormed sha256 signing h).1]
    exact .refl signing

theorem decodePayload_signed {messageType : MessageType} {frame : FrameHeader} {crc : Nat}
    {sigOk : Bool} {m : MAVLinkMessage}
    (h : decodePayload messageType frame msgbuf crc sigOk = .ok m) :
    m.signed = sigOk ∧ m.msgbuf = some msgbuf := by
  unfold decodePayload at h
  dsimp only at h
  split at h
  · cases h
  · split at h
    · cases h
    · split at h
      · cases h
      · cases h
        exact ⟨rfl, rfl⟩

def TakenAsSigned (sha256 : Bytes → Bytes) (signing : MAVLinkSigning) (msgbuf : Bytes) : Prop :=
  ∃ m, (decode sha256 signing msgbuf).1 = .ok m ∧ m.signed = true

/-- What is right about a signed frame at any time: its checksum, its digest, and its fields. -/
def Genuine (sha256 : Bytes → Bytes) (secretKey msgbuf : Bytes) (stream : StreamKey)
    (timestamp : Nat) : Prop :=
  ∃ frame messageType crc m, WellFormed msgbuf frame messageType crc ∧
    Bears frame msgbuf stream timestamp ∧ Authentic sha256 secretKey msgbuf ∧
    decodePayload messageType frame msgbuf crc true = .ok m

/-- A frame bears one stream and one timestamp. -/
theorem Bears.unique {frame : FrameHeader} {stream stream' : StreamKey} {timestamp timestamp' : Nat}
    (h : Bears frame msgbuf stream timestamp) (h' : Bears frame msgbuf stream' timestamp') :
    stream = stream' ∧ timestamp = timestamp' := by
  obtain ⟨link, hlink, rfl⟩ := h.stream
  obtain ⟨link', hlink', rfl⟩ := h'.stream
  rw [hlink] at hlink'
  cases hlink'
  exact ⟨rfl, Option.some.inj (h.timestamp.symm.trans h'.timestamp)⟩

theorem WellFormed.unique {frame frame' : FrameHeader} {messageType messageType' : MessageType}
    {crc crc' : Nat} (h : WellFormed msgbuf frame messageType crc)
    (h' : WellFormed msgbuf frame' messageType' crc') :
    frame = frame' ∧ messageType = messageType' ∧ crc = crc' := by
  have hframe := Except.ok.inj (h.header.symm.trans h'.header)
  subst hframe
  have htype := Option.some.inj (h.known.symm.trans h'.known)
  subst htype
  exact ⟨rfl, rfl, Except.ok.inj (h.checksum.symm.trans h'.checksum)⟩

theorem Genuine.unique {secretKey secretKey' : Bytes} {stream stream' : StreamKey}
    {timestamp timestamp' : Nat} (h : Genuine sha256 secretKey msgbuf stream timestamp)
    (h' : Genuine sha256 secretKey' msgbuf stream' timestamp') :
    stream = stream' ∧ timestamp = timestamp' := by
  obtain ⟨frame, _, _, _, hwell, hbears, _⟩ := h
  obtain ⟨_, _, _, _, hwell', hbears', _⟩ := h'
  obtain ⟨rfl, _, _⟩ := hwell.unique hwell'
  exact hbears.unique hbears'

/-- A right signature with a fresh timestamp is accepted. -/
theorem acceptSignature_fresh {frame : FrameHeader} {secretKey : Bytes} {stream : StreamKey}
    {timestamp : Nat} (hkey : signing.secretKey = some secretKey)
    (hbears : Bears frame msgbuf stream timestamp) (hauthentic : Authentic sha256 secretKey msgbuf)
    (hfresh : signing.Fresh stream timestamp) :
    (acceptSignature sha256 signing frame msgbuf).1 = .ok (true, true) := by
  have hjudged := acceptSignature_judged sha256 signing frame msgbuf
  generalize (acceptSignature sha256 signing frame msgbuf).1 = verdict,
    (acceptSignature sha256 signing frame msgbuf).2 = signing' at hjudged ⊢
  cases hjudged with
  | keyless hnone =>
      rw [hkey] at hnone
      cases hnone
  | unsigned hframe => exact absurd hbears.signed hframe
  | unreadable hnone =>
      obtain ⟨link, hlink, _⟩ := hbears.stream
      rw [hlink, hbears.timestamp] at hnone
      simp at hnone
  | accepted => rfl
  | rejected hkey' hbears' hrefused =>
      rw [hkey] at hkey'
      cases hkey'
      obtain ⟨rfl, rfl⟩ := hbears.unique hbears'
      exact absurd ⟨hfresh, hauthentic⟩ hrefused

theorem WellFormed.decode_fresh {frame : FrameHeader} {messageType : MessageType} {crc : Nat}
    {secretKey : Bytes} {stream : StreamKey} {timestamp : Nat}
    (h : WellFormed msgbuf frame messageType crc) (hkey : signing.secretKey = some secretKey)
    (hbears : Bears frame msgbuf stream timestamp) (hauthentic : Authentic sha256 secretKey msgbuf)
    (hfresh : signing.Fresh stream timestamp) :
    (decode sha256 signing msgbuf).1 = decodePayload messageType frame msgbuf crc true := by
  rw [h.decode_eq]
  have haccepted := acceptSignature_fresh hkey hbears hauthentic hfresh
  rcases hverdict : acceptSignature sha256 signing frame msgbuf with ⟨verdict, signing'⟩
  rw [hverdict] at haccepted
  cases haccepted
  rfl

/-- A frame is taken for signed if it is genuine and its timestamp fresh. -/
theorem takenAsSigned_of_genuine {secretKey : Bytes} {stream : StreamKey} {timestamp : Nat}
    (hkey : signing.secretKey = some secretKey)
    (hgenuine : Genuine sha256 secretKey msgbuf stream timestamp)
    (hfresh : signing.Fresh stream timestamp) : TakenAsSigned sha256 signing msgbuf := by
  obtain ⟨frame, messageType, crc, m, hwell, hbears, hauthentic, hpayload⟩ := hgenuine
  exact ⟨m, (hwell.decode_fresh hkey hbears hauthentic hfresh).trans hpayload,
    (decodePayload_signed hpayload).1⟩

/-- And only then; behind it the stream is known, and the clock is not behind it. -/
theorem TakenAsSigned.genuine (h : TakenAsSigned sha256 signing msgbuf) :
    ∃ secretKey stream timestamp, signing.secretKey = some secretKey ∧
      Genuine sha256 secretKey msgbuf stream timestamp ∧ signing.Fresh stream timestamp ∧
      Knows signing (decode sha256 signing msgbuf).2 stream timestamp ∧
      timestamp ≤ (decode sha256 signing msgbuf).2.timestamp := by
  obtain ⟨m, hdecode, hsigned⟩ := h
  by_cases hformed : ∃ frame messageType crc, WellFormed msgbuf frame messageType crc
  · obtain ⟨frame, messageType, crc, hwell⟩ := hformed
    have hjudged := acceptSignature_judged sha256 signing frame msgbuf
    rw [hwell.decode_eq] at hdecode ⊢
    generalize acceptSignature sha256 signing frame msgbuf = result at hjudged hdecode ⊢
    obtain ⟨verdict, signing'⟩ := result
    dsimp only at hjudged
    have hunsigned : ∀ accepted, verdict = .ok (accepted, false) → False := by
      rintro accepted rfl
      cases accepted with
      | false => cases hdecode
      | true => exact absurd ((decodePayload_signed hdecode).1.symm.trans hsigned) (by decide)
    cases hjudged with
    | keyless => exact (hunsigned _ rfl).elim
    | unsigned => exact (hunsigned _ rfl).elim
    | unreadable => cases hdecode
    | accepted hkey hbears hfresh hauthentic hknows hclock =>
        exact ⟨_, _, _, hkey, ⟨frame, messageType, crc, m, hwell, hbears, hauthentic, hdecode⟩,
          hfresh, hknows, hclock⟩
    | rejected => exact (hunsigned _ rfl).elim
  · obtain ⟨msgId, rfl⟩ := (decode_of_not_wellFormed sha256 signing hformed).2 m hdecode
    cases hsigned

/-! ## Parsing -/

structure Kept (mav mav' : MAVLink) : Prop where
  sourceSystem : mav'.sourceSystem = mav.sourceSystem
  sourceComponent : mav'.sourceComponent = mav.sourceComponent
  seq : mav'.seq = mav.seq
  signing : Later mav.signing mav'.signing

/-- The message stands for bad data, or was decoded between the two states. -/
def ReadBetween (sha256 : Bytes → Bytes) (before after : MAVLinkSigning) (m : MAVLinkMessage) :
    Prop :=
  (∃ data reason, m = .newBadData data reason) ∨
    ∃ signing msgbuf, Later before signing ∧ (decode sha256 signing msgbuf).1 = .ok m ∧
      Later (decode sha256 signing msgbuf).2 after

variable {mav mav' mav'' : MAVLink} {m : MAVLinkMessage}

theorem Kept.refl (mav : MAVLink) : Kept mav mav := ⟨rfl, rfl, rfl, .refl _⟩

theorem Kept.trans (h : Kept mav mav') (h' : Kept mav' mav'') : Kept mav mav'' where
  sourceSystem := h'.sourceSystem.trans h.sourceSystem
  sourceComponent := h'.sourceComponent.trans h.sourceComponent
  seq := h'.seq.trans h.seq
  signing := h.signing.trans h'.signing

theorem ReadBetween.widen {before before' after after' : MAVLinkSigning}
    (h : ReadBetween sha256 before after m) (hbefore : Later before' before)
    (hafter : Later after after') : ReadBetween sha256 before' after' m := by
  rcases h with hbad | ⟨signing, msgbuf, hlater, hdecode, hend⟩
  · exact .inl hbad
  · exact .inr ⟨signing, msgbuf, hbefore.trans hlater, hdecode, hend.trans hafter⟩

/-- What a call of the parser does: it keeps the settings, and its message is read from the
stream. -/
structure Parses (sha256 : Bytes → Bytes) (mav : MAVLink)
    (result : Except MavlinkExn (Option MAVLinkMessage) × MAVLink) : Prop where
  kept : Kept mav result.2
  read : ∀ m, result.1 = .ok (some m) → ReadBetween sha256 mav.signing result.2.signing m

theorem Parses.silent {result : Except MavlinkExn (Option MAVLinkMessage) × MAVLink}
    (hkept : Kept mav result.2) (hsilent : ∀ m, result.1 ≠ .ok (some m)) :
    Parses sha256 mav result := ⟨hkept, fun m hm => absurd hm (hsilent m)⟩

theorem Parses.after {result : Except MavlinkExn (Option MAVLinkMessage) × MAVLink}
    (h : Parses sha256 mav' result) (hkept : Kept mav mav') : Parses sha256 mav result :=
  ⟨hkept.trans h.kept, fun m hm => (h.read m hm).widen hkept.signing (.refl _)⟩

theorem decodeFrame_later (sha256 : Bytes → Bytes) (mav : MAVLink) (magic incompatFlags : UInt8)
    (mbuf : Bytes) :
    Later mav.signing (decodeFrame sha256 mav magic incompatFlags mbuf).2 ∧
      ∀ m, (decodeFrame sha256 mav magic incompatFlags mbuf).1 = .ok m →
        ReadBetween sha256 mav.signing (decodeFrame sha256 mav magic incompatFlags mbuf).2 m := by
  unfold decodeFrame
  split_ifs
  · exact ⟨.refl _, fun m hm => by cases hm⟩
  · refine ⟨decode_later sha256 _ mbuf, ?_⟩
    intro m hm
    exact .inr ⟨mav.signing, mbuf, .refl _, hm, .refl _⟩

theorem takeFrame_parses (sha256 : Bytes → Bytes) (mav : MAVLink) (headerLen : Nat)
    (head : Option (UInt8 × UInt8)) : Parses sha256 mav (takeFrame sha256 mav headerLen head) := by
  unfold takeFrame
  dsimp only
  cases head with
  | none => exact .silent ⟨rfl, rfl, rfl, .refl _⟩ fun m hm => by cases hm
  | some head =>
      obtain ⟨magic, incompatFlags⟩ := head
      dsimp only
      obtain ⟨hlater, hread⟩ := decodeFrame_later sha256
        { mav with
          bufIndex := mav.bufIndex + mav.expectedLength
          expectedLength := headerLen + 2 }
        magic incompatFlags (mav.pending.take mav.expectedLength)
      split
      · next m signing hframe =>
          rw [hframe] at hlater hread
          refine ⟨⟨rfl, rfl, rfl, hlater⟩, ?_⟩
          intro m' hm'
          cases hm'
          exact hread _ rfl
      · next message signing hframe =>
          rw [hframe] at hlater
          split
          · refine ⟨⟨rfl, rfl, rfl, hlater⟩, ?_⟩
            intro m' hm'
            cases hm'
            exact .inl ⟨_, _, rfl⟩
          · exact .silent ⟨rfl, rfl, rfl, hlater⟩ fun m hm => by cases hm
      · next error signing _ hframe =>
          rw [hframe] at hlater
          exact .silent ⟨rfl, rfl, rfl, hlater⟩ fun m hm => by cases hm

theorem readHeader_kept (mav : MAVLink) (headerLen : Nat) :
    Kept mav (mav.readHeader headerLen).2 := by
  unfold readHeader
  split
  · exact ⟨rfl, rfl, rfl, .refl _⟩
  · exact .refl mav

theorem parseFrame_parses (sha256 : Bytes → Bytes) (mav : MAVLink) (headerLen : Nat) :
    Parses sha256 mav (parseFrame sha256 mav headerLen) := by
  have hfront : Kept mav { mav with havePrefixError := false } := ⟨rfl, rfl, rfl, .refl _⟩
  have hhead := hfront.trans (readHeader_kept { mav with havePrefixError := false } headerLen)
  unfold parseFrame
  dsimp only
  split_ifs
  · exact (takeFrame_parses sha256 _ headerLen _).after hhead
  · exact .silent hhead fun m hm => by cases hm

theorem parseCharLegacy_parses (sha256 : Bytes → Bytes) (mav : MAVLink) :
    Parses sha256 mav (parseCharLegacy sha256 mav) := by
  unfold parseCharLegacy
  split
  · exact parseFrame_parses sha256 mav HEADER_LEN_V1
  · dsimp only
    split
    · split
      · -- a stray byte is bad data
        refine ⟨⟨rfl, rfl, rfl, .refl _⟩, ?_⟩
        intro m hm
        cases hm
        exact .inl ⟨_, _, rfl⟩
      · split
        · exact .silent ⟨rfl, rfl, rfl, .refl _⟩ fun m hm => by cases hm
        · exact .silent ⟨rfl, rfl, rfl, .refl _⟩ fun m hm => by cases hm
    · exact parseFrame_parses sha256 mav _

theorem parseChar_parses (sha256 : Bytes → Bytes) (mav : MAVLink) (c : Bytes) :
    Parses sha256 mav (parseChar sha256 mav c) := by
  have hfront : Kept mav { mav with buf := mav.buf ++ c } := ⟨rfl, rfl, rfl, .refl _⟩
  have hlegacy := (parseCharLegacy_parses sha256 { mav with buf := mav.buf ++ c }).after hfront
  unfold parseChar
  split
  · next mav' hresult =>
      rw [hresult] at hlegacy
      split_ifs
      · have hfreed : Kept mav' { mav' with buf := [], bufIndex := 0 } :=
          ⟨rfl, rfl, rfl, .refl _⟩
        exact .silent (hlegacy.kept.trans hfreed) fun m hm => by cases hm
      · exact hlegacy
  · exact hlegacy

/-- The messages of a call, those it starts with included. -/
theorem parseMore_reads {fuel : Nat} {ret : List MAVLinkMessage} {before : MAVLinkSigning}
    {result : Except MavlinkExn (List MAVLinkMessage) × MAVLink}
    (hbefore : Later before mav.signing) (hret : ∀ m ∈ ret, ReadBetween sha256 before mav.signing m)
    (hparse : parseMore sha256 fuel mav ret = some result) :
    Kept mav result.2 ∧ ∀ messages, result.1 = .ok messages → ∀ m ∈ messages,
      ReadBetween sha256 before result.2.signing m := by
  induction fuel generalizing mav ret with
  | zero => cases hparse
  | succ fuel ih =>
      have hchar := parseChar_parses sha256 mav []
      rw [parseMore] at hparse
      generalize parseChar sha256 mav [] = parsed at hparse hchar
      obtain ⟨outcome, mav'⟩ := parsed
      have hwiden : ∀ m ∈ ret, ReadBetween sha256 before mav'.signing m := fun m hm =>
        (hret m hm).widen (.refl before) hchar.kept.signing
      match outcome with
      | .error error =>
          cases hparse
          exact ⟨hchar.kept, fun messages hm => by cases hm⟩
      | .ok none =>
          cases hparse
          refine ⟨hchar.kept, ?_⟩
          intro messages hmessages
          cases hmessages
          exact hwiden
      | .ok (some m) =>
          have hmore : ∀ m' ∈ ret ++ [m], ReadBetween sha256 before mav'.signing m' := by
            intro m' hm'
            rcases List.mem_append.mp hm' with hold | hnew
            · exact hwiden m' hold
            · cases List.mem_singleton.mp hnew
              exact (hchar.read _ rfl).widen hbefore (.refl _)
          obtain ⟨hkept, hreads⟩ := ih (hbefore.trans hchar.kept.signing) hmore hparse
          exact ⟨hchar.kept.trans hkept, hreads⟩

theorem parseBuffer_reads {fuel : Nat} {s : Bytes}
    {result : Except MavlinkExn (Option (List MAVLinkMessage)) × MAVLink}
    (hparse : parseBuffer sha256 fuel mav s = some result) :
    Kept mav result.2 ∧ ∀ messages, result.1 = .ok (some messages) → ∀ m ∈ messages,
      ReadBetween sha256 mav.signing result.2.signing m := by
  have hchar := parseChar_parses sha256 mav s
  unfold parseBuffer at hparse
  generalize parseChar sha256 mav s = parsed at hparse hchar
  obtain ⟨outcome, mav'⟩ := parsed
  match outcome with
  | .error error =>
      cases hparse
      exact ⟨hchar.kept, fun messages hm => by cases hm⟩
  | .ok none =>
      cases hparse
      exact ⟨hchar.kept, fun messages hm => by cases hm⟩
  | .ok (some m) =>
      obtain ⟨more, hmore, rfl⟩ := Option.map_eq_some_iff.mp hparse
      have hfirst : ∀ m' ∈ [m], ReadBetween sha256 mav.signing mav'.signing m' := by
        intro m' hm'
        cases List.mem_singleton.mp hm'
        exact hchar.read _ rfl
      obtain ⟨hkept, hreads⟩ := parseMore_reads hchar.kept.signing hfirst hmore
      refine ⟨hchar.kept.trans hkept, ?_⟩
      obtain ⟨outcome, mav''⟩ := more
      intro messages hmessages
      cases outcome with
      | error error => cases hmessages
      | ok found =>
          cases hmessages
          exact hreads _ rfl

/-! ## Sending -/

/-- A packet that is signed bears the clock of the sender, which then goes on. -/
theorem signPacket_spec {buf packet : Bytes}
    (h : signPacket sha256 signing buf = .ok (packet, signing')) :
    Later signing signing' ∧ signing'.timestamp = signing.timestamp + 1 ∧
      ∃ secretKey stamp, signing.secretKey = some secretKey ∧
        Struct.pack [.uint 1, .uint 8] [.int signing.linkId, .int signing.timestamp] = some stamp ∧
        packet = buf ++ stamp.take 7 ++ (sha256 (secretKey ++ (buf ++ stamp.take 7))).take 6 := by
  unfold signPacket at h
  split at h
  · cases h
  · next secretKey hkey =>
      split at h
      · cases h
      · next stamp hstamp =>
          cases h
          exact ⟨⟨rfl, rfl, rfl, rfl, Nat.le_succ _, fun _ _ h => h⟩, rfl, secretKey, stamp, hkey,
            hstamp, rfl⟩

theorem encode_spec {body : MessageBody} {forceMavlink1 : Bool} {packet : Bytes}
    (h : mav.encode sha256 body forceMavlink1 = .ok (packet, mav')) :
    Later mav.signing mav'.signing ∧
      (mav.signing.signOutgoing = true → forceMavlink1 = false →
        ∃ buf, signPacket sha256 mav.signing buf = .ok (packet, mav'.signing)) ∧
      mav'.sourceSystem = mav.sourceSystem ∧ mav'.sourceComponent = mav.sourceComponent ∧
      mav'.seq = (mav.seq + 1) % 256 := by
  unfold encode at h
  obtain ⟨⟨buf, signing⟩, hpack, hsent⟩ : ∃ sent, body.pack sha256 mav forceMavlink1 = .ok sent ∧
      (sent.1, { mav with seq := (mav.seq + 1) % 256, signing := sent.2 }) = (packet, mav') := by
    cases hpack : body.pack sha256 mav forceMavlink1 with
    | error error =>
        rw [hpack] at h
        cases h
    | ok sent =>
        rw [hpack] at h
        exact ⟨sent, rfl, Except.ok.inj h⟩
  cases hsent
  dsimp only
  unfold MessageBody.pack at hpack
  split at hpack
  · cases hpack
  · split at hpack
    · cases hpack
    · next payload _ =>
        unfold packMsg at hpack
        dsimp only at hpack
        generalize MAVLinkHeader.pack _ _ = header at hpack
        cases header with
        | error error => cases hpack
        | ok header =>
            simp only [bind, Except.bind] at hpack
            by_cases hsigns : mav.signing.signOutgoing = true ∧ forceMavlink1 = false
            · rw [if_pos hsigns] at hpack
              obtain ⟨hlater, _⟩ := signPacket_spec hpack
              exact ⟨hlater, fun _ _ => ⟨_, hpack⟩, rfl, rfl, rfl⟩
            · rw [if_neg hsigns] at hpack
              cases hpack
              exact ⟨.refl _, fun hsign hforce => absurd ⟨hsign, hforce⟩ hsigns, rfl, rfl, rfl⟩

/-! ## Sending and receiving -/

inductive Traffic
  | send (message : MessageBody) (forceMavlink1 : Bool)
  | receive (fuel : Nat) (data : Bytes)

/-- A message that cannot be encoded changes nothing. -/
def traffic (sha256 : Bytes → Bytes) : Machine MAVLink Traffic where
  step
  | mav, .send message forceMavlink1 =>
      match mav.encode sha256 message forceMavlink1 with
      | .ok (_, mav) => some mav
      | .error _ => some mav
  | mav, .receive fuel data => (parseBuffer sha256 fuel mav data).map Prod.snd

/-- A party that has gone on: its address is the same, and its signatures are in a later state. -/
structure Onward (mav mav' : MAVLink) : Prop where
  sourceSystem : mav'.sourceSystem = mav.sourceSystem
  sourceComponent : mav'.sourceComponent = mav.sourceComponent
  seq : mav.seq < 256 → mav'.seq < 256
  signing : Later mav.signing mav'.signing

theorem Onward.trans (h : Onward mav mav') (h' : Onward mav' mav'') : Onward mav mav'' where
  sourceSystem := h'.sourceSystem.trans h.sourceSystem
  sourceComponent := h'.sourceComponent.trans h.sourceComponent
  seq hseq := h'.seq (h.seq hseq)
  signing := h.signing.trans h'.signing

theorem Kept.onward (h : Kept mav mav') : Onward mav mav' where
  sourceSystem := h.sourceSystem
  sourceComponent := h.sourceComponent
  seq hseq := h.seq ▸ hseq
  signing := h.signing

theorem encode_onward {body : MessageBody} {forceMavlink1 : Bool} {packet : Bytes}
    (h : mav.encode sha256 body forceMavlink1 = .ok (packet, mav')) : Onward mav mav' := by
  obtain ⟨hlater, _, hsystem, hcomponent, hseq⟩ := encode_spec h
  refine ⟨hsystem, hcomponent, fun _ => ?_, hlater⟩
  rw [hseq]
  exact Nat.mod_lt _ (by decide)

theorem traffic_step {move : Traffic} (h : (traffic sha256).step mav move = some mav') :
    Onward mav mav' := by
  cases move with
  | send message forceMavlink1 =>
      simp only [traffic] at h
      split at h
      · next hencode =>
          cases h
          exact encode_onward hencode
      · cases h
        exact (Kept.refl _).onward
  | receive fuel data =>
      obtain ⟨result, hparse, rfl⟩ := Option.map_eq_some_iff.mp h
      exact (parseBuffer_reads hparse).1.onward

theorem traffic_run {moves : List Traffic} (h : (traffic sha256).run mav moves = some mav') :
    Onward mav mav' := by
  have hstep : ∀ s move s', Onward mav s → (traffic sha256).step s move = some s' → Onward mav s' :=
    fun s move s' honward hmove => honward.trans (traffic_step hmove)
  exact (traffic sha256).run_preserves hstep h (Kept.refl _).onward

end MAVLink

end ApUploader
