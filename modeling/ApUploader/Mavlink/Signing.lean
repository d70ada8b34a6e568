import ApUploader.Mavlink.Decode

/-! # Signatures

A signed frame carries a link and a timestamp, and the decoder keeps one timestamp for
each stream of frames: the first one that was claimed for it, by a frame whose digest
need not be right. What a frame meets at the signatures, and what it does to their
state, is said here once.
-/

namespace ApUploader

/-- A stream of frames: link, system and component. -/
abbrev StreamKey := Nat × Nat × Nat

def timestampOf (msgbuf : Bytes) : Option Nat :=
  match Struct.unpack [.uint 4, .uint 2] ((msgbuf.drop (msgbuf.length - 12)).take 6) with
  | some [.int tlow, .int thigh] => some (tlow.toNat + (thigh.toNat <<< 32))
  | _ => none

def linkOf (msgbuf : Bytes) : Option Nat := msgbuf[msgbuf.length - 13]?.map UInt8.toNat

def Authentic (sha256 : Bytes → Bytes) (secretKey msgbuf : Bytes) : Prop :=
  (sha256 (secretKey ++ msgbuf.take (msgbuf.length - 6))).take 6 = msgbuf.drop (msgbuf.length - 6)

instance (sha256 : Bytes → Bytes) (secretKey msgbuf : Bytes) :
    Decidable (Authentic sha256 secretKey msgbuf) := by unfold Authentic; infer_instance

namespace MAVLinkSigning

/-- The timestamp is later than the one kept for the stream. A new stream may be one minute
behind. -/
def Fresh (signing : MAVLinkSigning) (stream : StreamKey) (timestamp : Nat) : Prop :=
  match signing.streamTimestamps.lookup stream with
  | some first => first < timestamp
  | none => signing.timestamp ≤ timestamp + 6000 * 1000

instance (signing : MAVLinkSigning) (stream : StreamKey) (timestamp : Nat) :
    Decidable (signing.Fresh stream timestamp) := by
  unfold Fresh
  cases signing.streamTimestamps.lookup stream <;> dsimp only <;> infer_instance

def introduce (signing : MAVLinkSigning) (stream : StreamKey) (timestamp : Nat) :
    MAVLinkSigning :=
  match signing.streamTimestamps.lookup stream with
  | some _ => signing
  | none =>
      { signing with streamTimestamps := signing.streamTimestamps.insert stream timestamp }

/-- A later state: the settings are the same, the clock is not set back, and no stream gets another
timestamp. -/
structure Later (signing signing' : MAVLinkSigning) : Prop where
  secretKey : signing'.secretKey = signing.secretKey
  linkId : signing'.linkId = signing.linkId
  signOutgoing : signing'.signOutgoing = signing.signOutgoing
  allowUnsignedCallback : signing'.allowUnsignedCallback = signing.allowUnsignedCallback
  timestamp : signing.timestamp ≤ signing'.timestamp
  streams : ∀ stream first, signing.streamTimestamps.lookup stream = some first →
    signing'.streamTimestamps.lookup stream = some first

variable {signing signing' signing'' : MAVLinkSigning} {stream : StreamKey} {timestamp : Nat}

theorem Later.refl (signing : MAVLinkSigning) : Later signing signing :=
  ⟨rfl, rfl, rfl, rfl, Nat.le_refl _, fun _ _ h => h⟩

theorem Later.trans (h : Later signing signing') (h' : Later signing' signing'') :
    Later signing signing'' where
  secretKey := h'.secretKey.trans h.secretKey
  linkId := h'.linkId.trans h.linkId
  signOutgoing := h'.signOutgoing.trans h.signOutgoing
  allowUnsignedCallback := h'.allowUnsignedCallback.trans h.allowUnsignedCallback
  timestamp := h.timestamp.trans h'.timestamp
  streams stream first hfirst := h'.streams stream first (h.streams stream first hfirst)

theorem fresh_known {first : Nat}
    (h : signing.streamTimestamps.lookup stream = some first) :
    signing.Fresh stream timestamp ↔ first < timestamp := by
  unfold Fresh
  rw [h]

theorem fresh_new (h : signing.streamTimestamps.lookup stream = none) :
    signing.Fresh stream timestamp ↔ signing.timestamp ≤ timestamp + 6000 * 1000 := by
  unfold Fresh
  rw [h]

theorem introduce_known {first : Nat}
    (h : signing.streamTimestamps.lookup stream = some first) :
    signing.introduce stream timestamp = signing := by
  unfold introduce
  rw [h]

theorem introduce_new (h : signing.streamTimestamps.lookup stream = none) :
    signing.introduce stream timestamp =
      { signing with streamTimestamps := signing.streamTimestamps.insert stream timestamp } := by
  unfold introduce
  rw [h]

theorem introduce_later (signing : MAVLinkSigning) (stream : StreamKey) (timestamp : Nat) :
    Later signing (signing.introduce stream timestamp) := by
  rcases hlookup : signing.streamTimestamps.lookup stream with _ | first
  · rw [introduce_new hlookup]
    refine ⟨rfl, rfl, rfl, rfl, Nat.le_refl _, ?_⟩
    intro other first hfirst
    have hother : other ≠ stream := by
      intro hsame
      rw [hsame, hlookup] at hfirst
      cases hfirst
    dsimp only
    rw [AList.lookup_insert_ne hother]
    exact hfirst
  · rw [introduce_known hlookup]
    exact .refl signing

/-- Behind an introduction the stream has a timestamp: its old one, or the one introduced. -/
theorem introduce_lookup (signing : MAVLinkSigning) (stream : StreamKey) (timestamp : Nat) :
    (signing.introduce stream timestamp).streamTimestamps.lookup stream =
      some ((signing.streamTimestamps.lookup stream).getD timestamp) := by
  rcases hlookup : signing.streamTimestamps.lookup stream with _ | first
  · rw [introduce_new hlookup]
    exact AList.lookup_insert _
  · rw [introduce_known hlookup]
    exact hlookup

end MAVLinkSigning

namespace MAVLink

open MAVLinkSigning

variable {sha256 : Bytes → Bytes} {signing signing' : MAVLinkSigning} {msgbuf : Bytes}

/-! ## Checking a signature -/

def checked (sha256 : Bytes → Bytes) (signing : MAVLinkSigning) (secretKey msgbuf : Bytes)
    (stream : StreamKey) (timestamp : Nat) : Bool × MAVLinkSigning :=
  if signing.Fresh stream timestamp then
    if Authentic sha256 secretKey msgbuf then
      (true, { signing.introduce stream timestamp with
        timestamp := max signing.timestamp timestamp })
    else (false, signing.introduce stream timestamp)
  else (false, signing)

theorem compare_eq (sha256 : Bytes → Bytes) (secretKey msgbuf : Bytes) (timestamp : Nat)
    (signing : MAVLinkSigning) :
    checkSignature.compare sha256 msgbuf secretKey timestamp signing =
      if Authentic sha256 secretKey msgbuf then
        (true, { signing with timestamp := max signing.timestamp timestamp })
      else (false, signing) := by
  unfold checkSignature.compare Authentic
  simp only [ne_eq, ite_not]

theorem checkSignature_eq {secretKey : Bytes} {link timestamp : Nat}
    (hkey : signing.secretKey = some secretKey) (hlink : linkOf msgbuf = some link)
    (hstamp : timestampOf msgbuf = some timestamp) (sourceSystem sourceComponent : Nat) :
    checkSignature sha256 signing msgbuf sourceSystem sourceComponent =
      .ok (checked sha256 signing secretKey msgbuf (link, sourceSystem, sourceComponent)
        timestamp) := by
  obtain ⟨linkId, hlinkId, rfl⟩ := Option.map_eq_some_iff.mp hlink
  unfold timestampOf at hstamp
  unfold checkSignature
  rw [hkey]
  dsimp only
  rw [hlinkId]
  split at hstamp
  · next tlow thigh hunpack =>
      rw [Option.some.injEq] at hstamp
      rw [hunpack]
      dsimp only
      rw [hstamp]
      unfold checked
      rcases hlookup : signing.streamTimestamps.lookup
          (linkId.toNat, sourceSystem, sourceComponent) with _ | first
      · rw [introduce_new hlookup]
        by_cases hold : timestamp + 6000 * 1000 < signing.timestamp
        · have hstale :
              ¬ signing.Fresh (linkId.toNat, sourceSystem, sourceComponent) timestamp := by
            rw [fresh_new hlookup]
            omega
          rw [if_neg hstale]
          exact if_pos hold
        · have hfresh : signing.Fresh (linkId.toNat, sourceSystem, sourceComponent) timestamp := by
            rw [fresh_new hlookup]
            omega
          rw [if_pos hfresh, ← compare_eq, hkey]
          exact if_neg hold
      · rw [introduce_known hlookup]
        by_cases hold : timestamp ≤ first
        · have hstale :
              ¬ signing.Fresh (linkId.toNat, sourceSystem, sourceComponent) timestamp := by
            rw [fresh_known hlookup]
            omega
          rw [if_neg hstale]
          exact if_pos hold
        · have hfresh : signing.Fresh (linkId.toNat, sourceSystem, sourceComponent) timestamp := by
            rw [fresh_known hlookup]
            omega
          rw [if_pos hfresh, ← compare_eq]
          exact if_neg hold
  · cases hstamp

theorem checkSignature_spec {result : Bool × MAVLinkSigning} {sourceSystem sourceComponent : Nat}
    (h : checkSignature sha256 signing msgbuf sourceSystem sourceComponent = .ok result) :
    ∃ secretKey link timestamp, signing.secretKey = some secretKey ∧ linkOf msgbuf = some link ∧
      timestampOf msgbuf = some timestamp ∧
      result = checked sha256 signing secretKey msgbuf (link, sourceSystem, sourceComponent)
        timestamp := by
  cases hkey : signing.secretKey with
  | none =>
      unfold checkSignature at h
      rw [hkey] at h
      cases h
  | some secretKey =>
      cases hlink : linkOf msgbuf with
      | none =>
          unfold linkOf at hlink
          rw [Option.map_eq_none_iff] at hlink
          unfold checkSignature at h
          rw [hkey] at h
          dsimp only at h
          rw [hlink] at h
          cases h
      | some link =>
          cases hstamp : timestampOf msgbuf with
          | none =>
              obtain ⟨linkId, hlinkId, _⟩ := Option.map_eq_some_iff.mp hlink
              unfold checkSignature at h
              rw [hkey] at h
              dsimp only at h
              rw [hlinkId] at h
              unfold timestampOf at hstamp
              split at h
              · cases h
              · next hunpack =>
                  rw [hunpack] at hstamp
                  cases hstamp
              · cases h
          | some timestamp =>
              rw [checkSignature_eq hkey hlink hstamp] at h
              cases h
              exact ⟨secretKey, link, timestamp, rfl, rfl, rfl, rfl⟩

theorem checked_later (sha256 : Bytes → Bytes) (signing : MAVLinkSigning)
    (secretKey msgbuf : Bytes) (stream : StreamKey) (timestamp : Nat) :
    Later signing (checked sha256 signing secretKey msgbuf stream timestamp).2 := by
  have hintroduced := introduce_later signing stream timestamp
  unfold checked
  split_ifs
  · exact ⟨hintroduced.secretKey, hintroduced.linkId, hintroduced.signOutgoing,
      hintroduced.allowUnsignedCallback, Nat.le_max_left _ _, hintroduced.streams⟩
  · exact hintroduced
  · exact .refl signing

/-! ## Decoding -/

theorem askCallback_later (frame : FrameHeader) (signing : MAVLinkSigning) :
    Later signing (acceptSignature.askCallback frame signing).2 := by
  unfold acceptSignature.askCallback
  cases hcallback : signing.allowUnsignedCallback with
  | none => exact .refl signing
  | some callback =>
      dsimp only
      split_ifs <;> exact ⟨rfl, rfl, rfl, hcallback.symm, Nat.le_refl _, fun _ _ h => h⟩

def counted (signing : MAVLinkSigning) (frame : FrameHeader) : MAVLinkSigning :=
  if frame.signatureLen = MAVLINK_SIGNATURE_BLOCK_LEN then
    { signing with sigCount := signing.sigCount + 1 }
  else signing

theorem counted_later (signing : MAVLinkSigning) (frame : FrameHeader) :
    Later signing (counted signing frame) := by
  unfold counted
  split_ifs
  · exact ⟨rfl, rfl, rfl, rfl, Nat.le_refl _, fun _ _ h => h⟩
  · exact .refl signing

theorem counted_fresh (signing : MAVLinkSigning) (frame : FrameHeader) (stream : StreamKey)
    (timestamp : Nat) : (counted signing frame).Fresh stream timestamp ↔
      signing.Fresh stream timestamp := by
  unfold counted
  split_ifs
  · exact Iff.rfl
  · exact Iff.rfl

theorem acceptSignature_of_no_key {frame : FrameHeader} (hkey : signing.secretKey = none) :
    acceptSignature sha256 signing frame msgbuf = (.ok (true, false), counted signing frame) := by
  have hcounted : (counted signing frame).secretKey = none :=
    (counted_later signing frame).secretKey.trans hkey
  have hnone : (counted signing frame).secretKey.isNone = true := by rw [hcounted]; rfl
  exact if_pos hnone

theorem acceptSignature_unsigned {frame : FrameHeader} {secretKey : Bytes}
    (hkey : signing.secretKey = some secretKey)
    (hframe : frame.signatureLen ≠ MAVLINK_SIGNATURE_BLOCK_LEN) :
    acceptSignature sha256 signing frame msgbuf =
      (.ok ((acceptSignature.askCallback frame (counted signing frame)).1, false),
        (acceptSignature.askCallback frame (counted signing frame)).2) := by
  have hcounted : (counted signing frame).secretKey = some secretKey :=
    (counted_later signing frame).secretKey.trans hkey
  have hsome : ¬ (counted signing frame).secretKey.isNone = true := by rw [hcounted]; simp
  exact (if_neg hsome).trans (if_neg hframe)

/-- The verdict on a signed frame: a wrong signature may be let through by the callback. -/
def judge (frame : FrameHeader) :
    Bool × MAVLinkSigning → Except MavlinkExn (Bool × Bool) × MAVLinkSigning
  | (true, signing) =>
      (.ok (true, true), { signing with goodsigCount := signing.goodsigCount + 1 })
  | (false, signing) =>
      let signing := { signing with badsigCount := signing.badsigCount + 1 }
      (.ok ((acceptSignature.askCallback frame signing).1, false),
        (acceptSignature.askCallback frame signing).2)

theorem judge_later (frame : FrameHeader) (result : Bool × MAVLinkSigning) :
    Later result.2 (judge frame result).2 := by
  obtain ⟨ok, signing⟩ := result
  cases ok with
  | true => exact ⟨rfl, rfl, rfl, rfl, Nat.le_refl _, fun _ _ h => h⟩
  | false =>
      have hcounted : Later signing { signing with badsigCount := signing.badsigCount + 1 } :=
        ⟨rfl, rfl, rfl, rfl, Nat.le_refl _, fun _ _ h => h⟩
      exact hcounted.trans (askCallback_later frame _)

theorem acceptSignature_signed {frame : FrameHeader} {secretKey : Bytes} {link timestamp : Nat}
    (hkey : signing.secretKey = some secretKey)
    (hframe : frame.signatureLen = MAVLINK_SIGNATURE_BLOCK_LEN) (hlink : linkOf msgbuf = some link)
    (hstamp : timestampOf msgbuf = some timestamp) :
    acceptSignature sha256 signing frame msgbuf =
      judge frame (checked sha256 (counted signing frame) secretKey msgbuf
        (link, frame.header.sourceSystem, frame.header.sourceComponent) timestamp) := by
  have hcounted : (counted signing frame).secretKey = some secretKey :=
    (counted_later signing frame).secretKey.trans hkey
  have hsome : ¬ (counted signing frame).secretKey.isNone = true := by rw [hcounted]; simp
  have hcheck := @checkSignature_eq sha256 _ _ _ _ _ hcounted hlink hstamp
    frame.header.sourceSystem frame.header.sourceComponent
  unfold acceptSignature
  dsimp only
  rw [← counted, if_neg hsome, if_pos hframe, hcheck]
  rcases checked sha256 (counted signing frame) secretKey msgbuf
    (link, frame.header.sourceSystem, frame.header.sourceComponent) timestamp with ⟨ok, signing'⟩
  cases ok <;> rfl

/-- A frame whose signature cannot be read raises an exception. -/
theorem acceptSignature_unreadable {frame : FrameHeader} {secretKey : Bytes} {error : MavlinkExn}
    (hkey : signing.secretKey = some secretKey)
    (hframe : frame.signatureLen = MAVLINK_SIGNATURE_BLOCK_LEN)
    (hcheck : checkSignature sha256 (counted signing frame) msgbuf frame.header.sourceSystem
      frame.header.sourceComponent = .error error) :
    acceptSignature sha256 signing frame msgbuf = (.error error, counted signing frame) := by
  have hcounted : (counted signing frame).secretKey = some secretKey :=
    (counted_later signing frame).secretKey.trans hkey
  have hsome : ¬ (counted signing frame).secretKey.isNone = true := by rw [hcounted]; simp
  unfold acceptSignature
  dsimp only
  rw [← counted, if_neg hsome, if_pos hframe, hcheck]

/-- The frame is signed, in this stream and with this timestamp. -/
structure Bears (frame : FrameHeader) (msgbuf : Bytes) (stream : StreamKey) (timestamp : Nat) :
    Prop where
  signed : frame.signatureLen = MAVLINK_SIGNATURE_BLOCK_LEN
  stream : ∃ link, linkOf msgbuf = some link ∧
    stream = (link, frame.header.sourceSystem, frame.header.sourceComponent)
  timestamp : timestampOf msgbuf = some timestamp

/-- The stream is known now: by its old timestamp, or by this one. -/
def Knows (signing signing' : MAVLinkSigning) (stream : StreamKey) (timestamp : Nat) : Prop :=
  signing'.streamTimestamps.lookup stream =
    some ((signing.streamTimestamps.lookup stream).getD timestamp)

/-- What a frame meets at the signatures: no key, no signature, one that cannot be read, or one that
is checked. -/
inductive Judged (sha256 : Bytes → Bytes) (signing : MAVLinkSigning) (frame : FrameHeader)
    (msgbuf : Bytes) : Except MavlinkExn (Bool × Bool) → MAVLinkSigning → Prop where
  | keyless {signing' : MAVLinkSigning} (hkey : signing.secretKey = none) :
      Judged sha256 signing frame msgbuf (.ok (true, false)) signing'
  | unsigned {byCallback : Bool} {signing' : MAVLinkSigning}
      (hframe : frame.signatureLen ≠ MAVLINK_SIGNATURE_BLOCK_LEN)
      (hcallback : signing.allowUnsignedCallback = none → byCallback = false) :
      Judged sha256 signing frame msgbuf (.ok (byCallback, false)) signing'
  | unreadable {error : MavlinkExn} {signing' : MAVLinkSigning}
      (hnone : linkOf msgbuf = none ∨ timestampOf msgbuf = none) :
      Judged sha256 signing frame msgbuf (.error error) signing'
  | accepted {secretKey : Bytes} {stream : StreamKey} {timestamp : Nat} {signing' : MAVLinkSigning}
      (hkey : signing.secretKey = some secretKey) (hbears : Bears frame msgbuf stream timestamp)
      (hfresh : signing.Fresh stream timestamp) (hauthentic : Authentic sha256 secretKey msgbuf)
      (hknows : Knows signing signing' stream timestamp) (hclock : timestamp ≤ signing'.timestamp) :
      Judged sha256 signing frame msgbuf (.ok (true, true)) signing'
  | rejected {secretKey : Bytes} {stream : StreamKey} {timestamp : Nat} {byCallback : Bool}
      {signing' : MAVLinkSigning} (hkey : signing.secretKey = some secretKey)
      (hbears : Bears frame msgbuf stream timestamp)
      (hrefused : ¬ (signing.Fresh stream timestamp ∧ Authentic sha256 secretKey msgbuf))
      (hknows : signing.Fresh stream timestamp → Knows signing signing' stream timestamp)
      (hcallback : signing.allowUnsignedCallback = none → byCallback = false) :
      Judged sha256 signing frame msgbuf (.ok (byCallback, false)) signing'

theorem askCallback_none {frame : FrameHeader} (h : signing.allowUnsignedCallback = none) :
    (acceptSignature.askCallback frame signing).1 = false := by
  unfold acceptSignature.askCallback
  rw [h]

theorem acceptSignature_later (sha256 : Bytes → Bytes) (signing : MAVLinkSigning)
    (frame : FrameHeader) (msgbuf : Bytes) :
    Later signing (acceptSignature sha256 signing frame msgbuf).2 := by
  have hcounted := counted_later signing frame
  cases hkey : signing.secretKey with
  | none =>
      rw [acceptSignature_of_no_key hkey]
      exact hcounted
  | some secretKey =>
      by_cases hframe : frame.signatureLen = MAVLINK_SIGNATURE_BLOCK_LEN
      · cases hcheck : checkSignature sha256 (counted signing frame) msgbuf
            frame.header.sourceSystem frame.header.sourceComponent with
        | error error =>
            rw [acceptSignature_unreadable hkey hframe hcheck]
            exact hcounted
        | ok result =>
            obtain ⟨_, link, timestamp, _, hlink, hstamp, _⟩ := checkSignature_spec hcheck
            rw [acceptSignature_signed hkey hframe hlink hstamp]
            exact (hcounted.trans (checked_later sha256 _ _ _ _ _)).trans (judge_later frame _)
      · rw [acceptSignature_unsigned hkey hframe]
        exact hcounted.trans (askCallback_later frame _)

theorem checked_fresh {secretKey : Bytes} {stream : StreamKey} {timestamp : Nat}
    (h : signing.Fresh stream timestamp) :
    Knows signing (checked sha256 signing secretKey msgbuf stream timestamp).2 stream
      timestamp := by
  unfold checked Knows
  rw [if_pos h]
  split_ifs
  · exact introduce_lookup signing stream timestamp
  · exact introduce_lookup signing stream timestamp

theorem counted_streams (signing : MAVLinkSigning) (frame : FrameHeader) :
    (counted signing frame).streamTimestamps = signing.streamTimestamps := by
  unfold counted
  split_ifs
  · rfl
  · rfl

/-- A signature that has been read is accepted or rejected. -/
theorem judge_judged {frame : FrameHeader} {secretKey : Bytes} {stream : StreamKey}
    {timestamp : Nat} (hkey : signing.secretKey = some secretKey)
    (hbears : Bears frame msgbuf stream timestamp) :
    Judged sha256 signing frame msgbuf
      (judge frame (checked sha256 (counted signing frame) secretKey msgbuf stream timestamp)).1
      (judge frame
        (checked sha256 (counted signing frame) secretKey msgbuf stream timestamp)).2 := by
  have hfresh := counted_fresh signing frame stream timestamp
  have hlookup : signing.Fresh stream timestamp → Knows signing
      (checked sha256 (counted signing frame) secretKey msgbuf stream timestamp).2 stream
        timestamp := by
    intro hnew
    have hknows := @checked_fresh sha256 _ msgbuf secretKey _ _ (hfresh.mpr hnew)
    unfold Knows at hknows ⊢
    rwa [counted_streams] at hknows
  by_cases hboth : signing.Fresh stream timestamp ∧ Authentic sha256 secretKey msgbuf
  · obtain ⟨hnew, hauthentic⟩ := hboth
    have hknows := hlookup hnew
    have hchecked : checked sha256 (counted signing frame) secretKey msgbuf stream timestamp =
        (true, { (counted signing frame).introduce stream timestamp with
          timestamp := max (counted signing frame).timestamp timestamp }) := by
      unfold checked
      rw [if_pos (hfresh.mpr hnew), if_pos hauthentic]
    rw [hchecked] at hknows ⊢
    exact .accepted hkey hbears hnew hauthentic hknows (Nat.le_max_right _ _)
  · have hrefused : (checked sha256 (counted signing frame) secretKey msgbuf stream
        timestamp).1 = false := by
      unfold checked
      split_ifs with hnew hauthentic
      · exact absurd ⟨hfresh.mp hnew, hauthentic⟩ hboth
      · rfl
      · rfl
    have hcallback := (checked_later sha256 (counted signing frame) secretKey msgbuf stream
      timestamp).allowUnsignedCallback.trans (counted_later signing frame).allowUnsignedCallback
    generalize checked sha256 (counted signing frame) secretKey msgbuf stream timestamp = result
      at hlookup hrefused hcallback ⊢
    obtain ⟨ok, signing'⟩ := result
    cases hrefused
    have hasked := askCallback_later frame { signing' with
      badsigCount := signing'.badsigCount + 1 }
    refine .rejected hkey hbears hboth (fun hnew => ?_) fun hnone => ?_
    · exact hasked.streams stream _ (hlookup hnew)
    · exact askCallback_none (hcallback.trans hnone)

/-- Every frame is judged in one of these ways. -/
theorem acceptSignature_judged (sha256 : Bytes → Bytes) (signing : MAVLinkSigning)
    (frame : FrameHeader) (msgbuf : Bytes) :
    Judged sha256 signing frame msgbuf (acceptSignature sha256 signing frame msgbuf).1
      (acceptSignature sha256 signing frame msgbuf).2 := by
  have hcounted := counted_later signing frame
  cases hkey : signing.secretKey with
  | none =>
      rw [acceptSignature_of_no_key hkey]
      exact .keyless hkey
  | some secretKey =>
      by_cases hframe : frame.signatureLen = MAVLINK_SIGNATURE_BLOCK_LEN
      · cases hcheck : checkSignature sha256 (counted signing frame) msgbuf
            frame.header.sourceSystem frame.header.sourceComponent with
        | error error =>
            rw [acceptSignature_unreadable hkey hframe hcheck]
            refine .unreadable ?_
            by_contra hread
            rw [not_or, ← ne_eq, ← ne_eq, Option.ne_none_iff_exists', Option.ne_none_iff_exists']
              at hread
            obtain ⟨⟨link, hlink⟩, timestamp, hstamp⟩ := hread
            rw [checkSignature_eq (hcounted.secretKey.trans hkey) hlink hstamp] at hcheck
            cases hcheck
        | ok result =>
            obtain ⟨_, link, timestamp, _, hlink, hstamp, _⟩ := checkSignature_spec hcheck
            rw [acceptSignature_signed hkey hframe hlink hstamp]
            exact judge_judged hkey ⟨hframe, ⟨link, hlink, rfl⟩, hstamp⟩
      · rw [acceptSignature_unsigned hkey hframe]
        refine .unsigned hframe fun hnone => ?_
        exact askCallback_none (hcounted.allowUnsignedCallback.trans hnone)

end MAVLink

end ApUploader
