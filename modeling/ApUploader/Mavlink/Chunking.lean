import ApUploader.Mavlink.Frames

/-! # Parsing does not depend on how the stream was split

A parser that has been used in any way still has its index within its buffer. Without
a signing key it then takes the frames of the stream one by one, so the messages of a
stream are those of its frames, and what remains is the rest.
-/

namespace ApUploader

namespace MAVLink

variable {sha256 : Bytes → Bytes} {self : MAVLink} {headerLen : Nat}

/-- What holds of a parser however it has been used. -/
structure Intact (mav : MAVLink) : Prop where
  index : mav.bufIndex ≤ mav.buf.length
  robust : mav.robustParsing = true

theorem pending_length (self : MAVLink) : self.pending.length = self.bufLen := List.length_drop

theorem new_intact (sourceSystem sourceComponent : Nat) :
    (new sourceSystem sourceComponent).Intact := ⟨Nat.le_refl 0, rfl⟩

theorem readHeader_intact (h : self.Intact) : (self.readHeader headerLen).2.Intact := by
  unfold readHeader
  split
  · exact ⟨h.index, h.robust⟩
  · exact h

theorem takeFrame_intact (h : self.Intact) (hle : self.expectedLength ≤ self.bufLen)
    (head : Option (UInt8 × UInt8)) : (takeFrame sha256 self headerLen head).2.Intact := by
  have hindex : self.bufIndex + self.expectedLength ≤ self.buf.length := by
    have hbound := h.index
    unfold bufLen at hle
    omega
  unfold takeFrame
  dsimp only
  split
  · exact ⟨hindex, h.robust⟩
  · split
    · exact ⟨hindex, h.robust⟩
    · split
      · exact ⟨hindex, h.robust⟩
      · exact ⟨hindex, h.robust⟩
    · exact ⟨hindex, h.robust⟩

theorem parseFrame_intact (h : self.Intact) : (parseFrame sha256 self headerLen).2.Intact := by
  have hhead : (readHeader { self with havePrefixError := false } headerLen).2.Intact :=
    readHeader_intact ⟨h.index, h.robust⟩
  unfold parseFrame
  dsimp only
  split
  · next hle => exact takeFrame_intact hhead hle.2 _
  · exact hhead

theorem parseCharLegacy_intact (h : self.Intact) : (parseCharLegacy sha256 self).2.Intact := by
  unfold parseCharLegacy
  split
  · exact parseFrame_intact h
  · next magic rest hpending =>
      have hindex : self.bufIndex + 1 ≤ self.buf.length := by
        have hlength := congrArg List.length hpending
        rw [pending_length, bufLen, List.length_cons] at hlength
        omega
      dsimp only
      split
      · split
        · exact ⟨hindex, h.robust⟩
        · split
          · exact ⟨hindex, h.robust⟩
          · exact ⟨hindex, h.robust⟩
      · exact parseFrame_intact h

theorem parseChar_intact (h : self.Intact) (c : Bytes) : (parseChar sha256 self c).2.Intact := by
  have happend : Intact { self with buf := self.buf ++ c } := by
    refine ⟨?_, h.robust⟩
    have hindex := h.index
    simp only [List.length_append]
    omega
  have hlegacy : (parseCharLegacy sha256 { self with buf := self.buf ++ c }).2.Intact :=
    parseCharLegacy_intact happend
  unfold parseChar
  split
  · next hresult =>
      rw [hresult] at hlegacy
      split
      · exact ⟨Nat.le_refl 0, hlegacy.robust⟩
      · exact hlegacy
  · exact hlegacy

theorem parseMore_intact {fuel : Nat} {ret : List MAVLinkMessage}
    {result : Except MavlinkExn (List MAVLinkMessage) × MAVLink} (h : self.Intact)
    (hparse : parseMore sha256 fuel self ret = some result) : result.2.Intact := by
  induction fuel generalizing self ret with
  | zero => cases hparse
  | succ fuel ih =>
      have hchar : (parseChar sha256 self []).2.Intact := parseChar_intact h []
      rw [parseMore] at hparse
      split at hparse
      · next hresult =>
          cases hparse
          rwa [hresult] at hchar
      · next hresult =>
          cases hparse
          rwa [hresult] at hchar
      · next hresult =>
          rw [hresult] at hchar
          exact ih hchar hparse

theorem parseBuffer_intact {fuel : Nat} {s : Bytes}
    {result : Except MavlinkExn (Option (List MAVLinkMessage)) × MAVLink} (h : self.Intact)
    (hparse : parseBuffer sha256 fuel self s = some result) : result.2.Intact := by
  have hchar : (parseChar sha256 self s).2.Intact := parseChar_intact h s
  unfold parseBuffer at hparse
  split at hparse
  · next hresult =>
      cases hparse
      rwa [hresult] at hchar
  · next hresult =>
      cases hparse
      rwa [hresult] at hchar
  · next hresult =>
      rw [hresult] at hchar
      rw [Option.map_eq_some_iff] at hparse
      obtain ⟨more, hmore, rfl⟩ := hparse
      exact parseMore_intact hchar hmore

/-! ## Without a signing key -/

variable (sha256)

structure Keyless (mav : MAVLink) : Prop where
  intact : mav.Intact
  nokey : mav.signing.secretKey = none

theorem decodeFrame_keyless {magic : UInt8} (incompatFlags : UInt8) {mbuf : Bytes}
    (h : self.Keyless) (hmbuf : mbuf ≠ [])
    (hlength : self.expectedLength = headerLength magic + 2) :
    ∃ signing', decodeFrame sha256 self magic incompatFlags mbuf =
        ((decodeFrame sha256 { expectedLength := headerLength magic + 2 } magic incompatFlags
          mbuf).1, signing') ∧
      signing'.secretKey = none ∧
      ((∃ m, (decodeFrame sha256 { expectedLength := headerLength magic + 2 } magic incompatFlags
          mbuf).1 = .ok m ∧ m.msgbuf = some mbuf) ∨
        ∃ message, (decodeFrame sha256 { expectedLength := headerLength magic + 2 } magic
          incompatFlags mbuf).1 = .error (.mavError message)) := by
  unfold decodeFrame
  rw [hlength]
  split
  · exact ⟨self.signing, rfl, h.nokey, .inr ⟨_, rfl⟩⟩
  · exact decode_keyless sha256 h.nokey hmbuf

theorem takeFrame_keyless {magic length incompatFlags : UInt8} {rest : Bytes} (h : self.Keyless)
    (hle : self.expectedLength ≤ self.bufLen)
    (hframe : self.pending.take self.expectedLength = magic :: length :: incompatFlags :: rest) :
    ∃ self', takeFrame sha256 self (headerLength magic) (some (magic, incompatFlags)) =
        (.ok (some (frameMessage sha256 (self.pending.take self.expectedLength))), self') ∧
      self'.Keyless ∧ self'.pending = self.pending.drop self.expectedLength := by
  have htaken : Keyless { self with
      bufIndex := self.bufIndex + self.expectedLength
      expectedLength := headerLength magic + 2 } := by
    refine ⟨⟨?_, h.intact.robust⟩, h.nokey⟩
    have hindex := h.intact.index
    unfold bufLen at hle
    dsimp only
    omega
  have hpending : self.buf.drop (self.bufIndex + self.expectedLength) =
      self.pending.drop self.expectedLength := List.drop_drop.symm
  have hmbuf : self.pending.take self.expectedLength ≠ [] := by simp [hframe]
  obtain ⟨signing', hdecode, hnokey, houtcome⟩ :=
    decodeFrame_keyless sha256 incompatFlags htaken hmbuf rfl
  unfold takeFrame
  dsimp only
  rw [hdecode]
  simp only [hframe, frameMessage] at houtcome ⊢
  rcases houtcome with ⟨m, hm, -⟩ | ⟨message, hmessage⟩
  · rw [hm]
    exact ⟨_, rfl, ⟨⟨htaken.intact.index, h.intact.robust⟩, hnokey⟩, hpending⟩
  · rw [hmessage]
    simp only [h.intact.robust, ↓reduceIte]
    exact ⟨_, rfl, ⟨⟨htaken.intact.index, rfl⟩, hnokey⟩, hpending⟩

theorem parseFrame_header {magic length incompatFlags : UInt8} {rest : Bytes}
    (hpending : self.pending = magic :: length :: incompatFlags :: rest) :
    parseFrame sha256 self headerLen =
      if announcedLength magic length incompatFlags headerLen ≤ self.bufLen then
        takeFrame sha256 { self with
          havePrefixError := false
          expectedLength := announcedLength magic length incompatFlags headerLen } headerLen
          (some (magic, incompatFlags))
      else (.ok none, { self with
        havePrefixError := false
        expectedLength := announcedLength magic length incompatFlags headerLen }) := by
  have hsame : pending { self with havePrefixError := false } =
      magic :: length :: incompatFlags :: rest := hpending
  have hge := announcedLength_ge magic length incompatFlags headerLen
  unfold parseFrame readHeader
  rw [hsame]
  dsimp only
  by_cases hle : announcedLength magic length incompatFlags headerLen ≤ self.bufLen
  · rw [if_pos hle]
    exact if_pos ⟨hge, hle⟩
  · rw [if_neg hle]
    exact if_neg fun h => hle h.2

/-- The expected length of an earlier frame is never reached by a header that is not complete. -/
theorem parseFrame_short (hshort : self.pending.length < 3) (hheader : 6 ≤ headerLen) :
    parseFrame sha256 self headerLen = (.ok none, { self with havePrefixError := false }) := by
  have hsame : pending { self with havePrefixError := false } = self.pending := rfl
  have hhead : readHeader { self with havePrefixError := false } headerLen =
      (none, { self with havePrefixError := false }) := by
    unfold readHeader
    rw [hsame]
    split
    · next hpending =>
        rw [hpending] at hshort
        simp only [List.length_cons] at hshort
        omega
    · rfl
  have hlength : self.bufLen < 3 := by rwa [← pending_length]
  unfold parseFrame
  rw [hhead]
  refine if_neg ?_
  simp only [bufLen] at hlength ⊢
  omega

/-- A stray byte or a complete frame is taken off. -/
theorem parseCharLegacy_frame {n : Nat} (h : self.Keyless) (hfront : FrontFrame self.pending n) :
    ∃ self', parseCharLegacy sha256 self =
        (.ok (some (frameMessage sha256 (self.pending.take n))), self') ∧
      self'.Keyless ∧ self'.pending = self.pending.drop n := by
  have hlength := self.pending_length
  unfold parseCharLegacy
  generalize hpending : self.pending = data at hfront hlength ⊢
  cases hfront with
  | @stray magic rest hmagic =>
      have hindex : self.bufIndex + 1 ≤ self.buf.length := by
        rw [bufLen, List.length_cons] at hlength
        omega
      simp only [hmagic, ne_eq, not_false_eq_true, and_self, ↓reduceIte, h.intact.robust]
      refine ⟨_, rfl, ⟨⟨hindex, rfl⟩, h.nokey⟩, ?_⟩
      rw [← hpending]
      exact List.drop_drop.symm
  | @frame magic length incompatFlags rest hmagic hle =>
      simp only [hmagic, ↓reduceIte]
      have hheader : (if magic = PROTOCOL_MARKER_V2 then HEADER_LEN_V2 else HEADER_LEN_V1) =
          headerLength magic := rfl
      have hge := announcedLength_ge magic length incompatFlags (headerLength magic)
      have hbuf :
          announcedLength magic length incompatFlags (headerLength magic) ≤ self.bufLen := by
        rw [← hlength]
        exact hle
      rw [hheader, parseFrame_header sha256 hpending, if_pos hbuf]
      have hready : Keyless { self with
          havePrefixError := false
          expectedLength := announcedLength magic length incompatFlags (headerLength magic) } :=
        ⟨⟨h.intact.index, h.intact.robust⟩, h.nokey⟩
      obtain ⟨m, hm⟩ : ∃ m, announcedLength magic length incompatFlags (headerLength magic) =
          m + 3 := ⟨announcedLength magic length incompatFlags (headerLength magic) - 3, by
        have hsix := headerLength_ge magic
        omega⟩
      have hframe : self.pending.take
          (announcedLength magic length incompatFlags (headerLength magic)) =
            magic :: length :: incompatFlags :: rest.take m := by
        rw [hpending, hm]
        rfl
      have htake := takeFrame_keyless sha256 hready hbuf hframe
      rw [← hpending]
      exact htake

theorem parseCharLegacy_incomplete (h : self.Keyless) (hfront : frameLength self.pending = none) :
    ∃ self', parseCharLegacy sha256 self = (.ok none, self') ∧ self'.Keyless ∧
      self'.pending = self.pending := by
  have hkeep : ∀ expectedLength, Keyless { self with
      havePrefixError := false, expectedLength := expectedLength } :=
    fun _ => ⟨⟨h.intact.index, h.intact.robust⟩, h.nokey⟩
  unfold parseCharLegacy
  generalize hpending : self.pending = data at hfront
  cases data with
  | nil =>
      refine ⟨_, parseFrame_short sha256 (by simp [hpending]) (Nat.le_refl 6), hkeep _, ?_⟩
      exact hpending
  | cons magic rest =>
      by_cases hmagic : magic ≠ PROTOCOL_MARKER_V1 ∧ magic ≠ PROTOCOL_MARKER_V2
      · rw [frameLength_eq_some.mpr (.stray hmagic)] at hfront
        cases hfront
      · have hheader : (if magic = PROTOCOL_MARKER_V2 then HEADER_LEN_V2 else HEADER_LEN_V1) =
            headerLength magic := rfl
        simp only [hmagic, ↓reduceIte, hheader]
        have hincomplete : ∀ length incompatFlags tail, rest = length :: incompatFlags :: tail →
            ¬ announcedLength magic length incompatFlags (headerLength magic) ≤ self.bufLen := by
          intro length incompatFlags tail hrest hle
          rw [← pending_length, hpending, hrest] at hle
          rw [hrest, frameLength_eq_some.mpr (.frame hmagic hle)] at hfront
          cases hfront
        match rest, hpending, hincomplete with
        | [], hpending, _ =>
            exact ⟨_, parseFrame_short sha256 (by simp [hpending]) (headerLength_ge magic), hkeep _,
              hpending⟩
        | [_], hpending, _ =>
            exact ⟨_, parseFrame_short sha256 (by simp [hpending]) (headerLength_ge magic), hkeep _,
              hpending⟩
        | length :: incompatFlags :: tail, hpending, hincomplete =>
            rw [parseFrame_header sha256 hpending, if_neg (hincomplete _ _ _ rfl)]
            exact ⟨_, rfl, hkeep _, hpending⟩

/-! ## Parsing chunks -/

theorem Keyless.extend (h : self.Keyless) (c : Bytes) :
    Keyless { self with buf := self.buf ++ c } ∧
      pending { self with buf := self.buf ++ c } = self.pending ++ c := by
  refine ⟨⟨⟨?_, h.intact.robust⟩, h.nokey⟩, List.drop_append_of_le_length h.intact.index⟩
  have hindex := h.intact.index
  simp only [List.length_append]
  omega

/-- One call takes the first frame of the stream, if it is complete. -/
theorem parseChar_frame {n : Nat} {c : Bytes} (h : self.Keyless)
    (hfront : FrontFrame (self.pending ++ c) n) :
    ∃ self', parseChar sha256 self c =
        (.ok (some (frameMessage sha256 ((self.pending ++ c).take n))), self') ∧
      self'.Keyless ∧ self'.pending = (self.pending ++ c).drop n := by
  obtain ⟨hextend, hpending⟩ := h.extend c
  rw [← hpending] at hfront ⊢
  obtain ⟨self', hlegacy, hself'⟩ := parseCharLegacy_frame sha256 hextend hfront
  exact ⟨self', by rw [parseChar, hlegacy], hself'⟩

theorem parseChar_incomplete {c : Bytes} (h : self.Keyless)
    (hfront : frameLength (self.pending ++ c) = none) :
    ∃ self', parseChar sha256 self c = (.ok none, self') ∧ self'.Keyless ∧
      self'.pending = self.pending ++ c := by
  obtain ⟨hextend, hpending⟩ := h.extend c
  rw [← hpending] at hfront ⊢
  obtain ⟨self', hlegacy, hkeyless, hself'⟩ :=
    parseCharLegacy_incomplete sha256 hextend hfront
  rw [parseChar, hlegacy]
  dsimp only
  split
  · next hempty =>
      refine ⟨_, rfl, ⟨⟨Nat.le_refl 0, hkeyless.intact.robust⟩, hkeyless.nokey⟩, ?_⟩
      rw [← hself']
      refine Eq.symm (List.eq_nil_of_length_eq_zero ?_)
      rw [pending_length]
      exact hempty.1
  · exact ⟨self', rfl, hkeyless, hself'⟩

theorem parseMore_keyless {fuel : Nat} (ret : List MAVLinkMessage) (h : self.Keyless)
    (hfuel : self.pending.length < fuel) :
    ∃ self', parseMore sha256 fuel self ret =
        some (.ok (ret ++ (framing.cut self.pending).1.map (frameMessage sha256)), self') ∧
      self'.Keyless ∧ self'.pending = (framing.cut self.pending).2 := by
  induction fuel generalizing self ret with
  | zero => omega
  | succ fuel ih =>
      have hnil : self.pending ++ [] = self.pending := List.append_nil _
      cases hlength : frameLength self.pending with
      | none =>
          obtain ⟨self', hchar, hkeyless, hpending⟩ :=
            parseChar_incomplete sha256 h (hnil.symm ▸ hlength)
          have hcut : framing.cut self.pending = ([], self.pending) := Framing.cut_of_none hlength
          rw [parseMore, hchar, hcut]
          exact ⟨self', by simp, hkeyless, hpending.trans hnil⟩
      | some n =>
          have hfront := frameLength_eq_some.mp hlength
          obtain ⟨self', hchar, hkeyless, hpending⟩ :=
            parseChar_frame sha256 h (hnil.symm ▸ hfront)
          rw [hnil] at hchar hpending
          have hpos := framing.length_pos hlength
          have hle := framing.length_le hlength
          have hshorter : self'.pending.length < fuel := by
            rw [hpending, List.length_drop]
            omega
          have hcut : framing.cut self.pending = (self.pending.take n ::
              (framing.cut (self.pending.drop n)).1, (framing.cut (self.pending.drop n)).2) :=
            Framing.cut_of_some hlength
          have hnext := ih (ret ++ [frameMessage sha256 (self.pending.take n)]) hkeyless hshorter
          rw [hpending] at hnext
          rw [parseMore, hchar, hcut]
          simpa using hnext

theorem parseBuffer_keyless {fuel : Nat} {s : Bytes} (h : self.Keyless)
    (hfuel : (self.pending ++ s).length ≤ fuel) :
    ∃ messages self', parseBuffer sha256 fuel self s = some (.ok messages, self') ∧
      messages.getD [] = (framing.cut (self.pending ++ s)).1.map (frameMessage sha256) ∧
      self'.Keyless ∧ self'.pending = (framing.cut (self.pending ++ s)).2 := by
  cases hlength : frameLength (self.pending ++ s) with
  | none =>
      obtain ⟨self', hchar, hkeyless, hpending⟩ := parseChar_incomplete sha256 h hlength
      have hcut : framing.cut (self.pending ++ s) = ([], self.pending ++ s) :=
        Framing.cut_of_none hlength
      rw [parseBuffer, hchar, hcut]
      exact ⟨none, self', rfl, rfl, hkeyless, hpending⟩
  | some n =>
      have hfront := frameLength_eq_some.mp hlength
      obtain ⟨self', hchar, hkeyless, hpending⟩ := parseChar_frame sha256 h hfront
      have hpos := framing.length_pos hlength
      have hle := framing.length_le hlength
      have hshorter : self'.pending.length < fuel := by
        rw [hpending, List.length_drop]
        omega
      have hcut : framing.cut (self.pending ++ s) = ((self.pending ++ s).take n ::
          (framing.cut ((self.pending ++ s).drop n)).1,
          (framing.cut ((self.pending ++ s).drop n)).2) := Framing.cut_of_some hlength
      obtain ⟨last, hmore, hkeyless', hlast⟩ := parseMore_keyless sha256
        [frameMessage sha256 ((self.pending ++ s).take n)] hkeyless hshorter
      rw [parseBuffer, hchar, hcut]
      rw [hpending] at hmore hlast
      dsimp only
      rw [hmore]
      exact ⟨_, last, rfl, rfl, hkeyless', hlast⟩

theorem rest_length_le (data : Bytes) : (framing.cut data).2.length ≤ data.length := by
  have hflatten := congrArg List.length (framing.cut_flatten data)
  rw [List.length_append] at hflatten
  omega

/-- The first of some chunks, and the fuel that is enough for the others. -/
theorem parseBuffer_first {fuel : Nat} {chunk : Bytes} {chunks : List Bytes} (h : self.Keyless)
    (hfuel : self.pending.length + (chunk :: chunks).flatten.length ≤ fuel) :
    ∃ messages self', parseBuffer sha256 fuel self chunk = some (.ok messages, self') ∧
      messages.getD [] = (framing.cut (self.pending ++ chunk)).1.map (frameMessage sha256) ∧
      self'.Keyless ∧ self'.pending = (framing.cut (self.pending ++ chunk)).2 ∧
      self'.pending.length + chunks.flatten.length ≤ fuel := by
  rw [List.flatten_cons, List.length_append] at hfuel
  have hfirst : (self.pending ++ chunk).length ≤ fuel := by
    rw [List.length_append]
    omega
  obtain ⟨messages, self', hbuffer, hmessages, hkeyless, hpending⟩ :=
    parseBuffer_keyless sha256 h hfirst
  have hle := rest_length_le (self.pending ++ chunk)
  rw [← hpending, List.length_append] at hle
  exact ⟨messages, self', hbuffer, hmessages, hkeyless, hpending, by omega⟩

theorem parseChunks_keyless {fuel : Nat} {chunks : List Bytes} (h : self.Keyless)
    (hfuel : self.pending.length + chunks.flatten.length ≤ fuel) :
    ∃ self', parseChunks sha256 fuel self chunks =
        some (.ok ((framing.cutChunks self.pending chunks).1.map (frameMessage sha256)), self') ∧
      self'.Keyless ∧ self'.pending = (framing.cutChunks self.pending chunks).2 := by
  induction chunks generalizing self with
  | nil => exact ⟨self, rfl, h, rfl⟩
  | cons chunk chunks ih =>
      obtain ⟨messages, self', hbuffer, hmessages, hkeyless, hpending, hrest⟩ :=
        parseBuffer_first sha256 h hfuel
      obtain ⟨last, hchunks, hlast⟩ := ih hkeyless hrest
      rw [hpending] at hchunks hlast
      refine ⟨last, ?_, hlast⟩
      rw [parseChunks, hbuffer]
      dsimp only
      rw [hchunks, hmessages]
      simp [Framing.cutChunks, Except.map]

theorem waitForHeartbeat_keyless {fuel : Nat} {chunks : List Bytes} (h : self.Keyless)
    (hfuel : self.pending.length + chunks.flatten.length ≤ fuel) :
    ∃ self', waitForHeartbeat sha256 fuel self chunks = some (.ok (((framing.cutChunks self.pending
      chunks).1.map (frameMessage sha256)).find? isHeartbeat), self') := by
  induction chunks generalizing self with
  | nil => exact ⟨self, rfl⟩
  | cons chunk chunks ih =>
      obtain ⟨messages, self', hbuffer, hmessages, hkeyless, hpending, hrest⟩ :=
        parseBuffer_first sha256 h hfuel
      obtain ⟨last, hwait⟩ := ih hkeyless hrest
      rw [hpending] at hwait
      rw [waitForHeartbeat, hbuffer]
      dsimp only
      rw [hmessages, Framing.cutChunks]
      simp only [List.map_append, List.find?_append]
      cases hfound : ((framing.cut (self.pending ++ chunk)).1.map
          (frameMessage sha256)).find? isHeartbeat with
      | some message => exact ⟨_, rfl⟩
      | none => exact ⟨last, hwait⟩

theorem messageBytes_frameMessage (frame : Bytes) :
    messageBytes (frameMessage sha256 frame) = frame := by
  unfold frameMessage
  split
  · next magic length incompatFlags rest =>
      have hfresh : Keyless { expectedLength := headerLength magic + 2 } :=
        ⟨⟨Nat.le_refl 0, rfl⟩, rfl⟩
      have hne : magic :: length :: incompatFlags :: rest ≠ [] := List.cons_ne_nil _ _
      obtain ⟨-, -, -, houtcome⟩ :=
        decodeFrame_keyless sha256 incompatFlags hfresh hne rfl
      dsimp only
      rcases houtcome with ⟨m, hm, hmsgbuf⟩ | ⟨message, hmessage⟩
      · rw [hm]
        simp [messageBytes, hmsgbuf]
      · rw [hmessage]
        rfl
  · rfl

theorem flatMap_messageBytes (frames : List Bytes) :
    (frames.map (frameMessage sha256)).flatMap messageBytes = frames.flatten := by
  induction frames with
  | nil => rfl
  | cons frame frames ih =>
      rw [List.map_cons, List.flatMap_cons, ih, messageBytes_frameMessage, List.flatten_cons]

/-- The parsers that come about: constructed, and used or given other signing settings since. -/
inductive Reached : MAVLink → Prop where
  | new (sourceSystem sourceComponent : Nat) : Reached (new sourceSystem sourceComponent)
  | parses {mav fuel data result} (h : Reached mav)
      (hparse : parseBuffer sha256 fuel mav data = some result) : Reached result.2
  | encodes {mav body forceMavlink1 result} (h : Reached mav)
      (hencode : encode sha256 mav body forceMavlink1 = .ok result) : Reached result.2
  | signs {mav} (signing : MAVLinkSigning) (h : Reached mav) :
      Reached { mav with signing := signing }

theorem Reached.intact {mav : MAVLink} (h : Reached sha256 mav) : mav.Intact := by
  induction h with
  | new => exact new_intact _ _
  | parses _ hparse ih => exact parseBuffer_intact ih hparse
  | @encodes mav body forceMavlink1 result _ hencode ih =>
      unfold encode at hencode
      cases hpack : body.pack sha256 mav forceMavlink1 with
      | error error =>
          rw [hpack] at hencode
          cases hencode
      | ok packed =>
          rw [hpack] at hencode
          cases hencode
          exact ⟨ih.index, ih.robust⟩
  | signs _ _ ih => exact ⟨ih.index, ih.robust⟩

/-- Without a signing key, any stream can be parsed, in calls that all return a result. Two splits
of it give the same messages, whose bytes and the rest are the stream, and the same heartbeat. -/
theorem parsing_ignores_split {mav : MAVLink} (hmav : Reached sha256 mav)
    (hkey : mav.signing.secretKey = none) {chunks chunks' : List Bytes}
    (hne : ∀ chunk ∈ chunks, chunk ≠ []) (hne' : ∀ chunk ∈ chunks', chunk ≠ [])
    (hflatten : chunks.flatten = chunks'.flatten) {fuel : Nat}
    (hfuel : mav.pending.length + chunks.flatten.length ≤ fuel) :
    ∃ messages self self' waits waits',
      parseChunks sha256 fuel mav chunks = some (.ok messages, self) ∧
      parseChunks sha256 fuel mav chunks' = some (.ok messages, self') ∧
      messages.flatMap messageBytes ++ self.pending = mav.pending ++ chunks.flatten ∧
      messages.flatMap messageBytes ++ self'.pending = mav.pending ++ chunks.flatten ∧
      waitForHeartbeat sha256 fuel mav chunks =
        some (.ok (messages.find? isHeartbeat), waits) ∧
      waitForHeartbeat sha256 fuel mav chunks' =
        some (.ok (messages.find? isHeartbeat), waits') := by
  have hkeyless : mav.Keyless := ⟨hmav.intact, hkey⟩
  have hfuel' : mav.pending.length + chunks'.flatten.length ≤ fuel := by rwa [← hflatten]
  have hsame : framing.cutChunks mav.pending chunks' = framing.cutChunks mav.pending chunks :=
    (Framing.cutChunks_congr hne hne' hflatten).symm
  have hbytes := framing.cutChunks_flatten mav.pending chunks
  rw [← flatMap_messageBytes sha256] at hbytes
  obtain ⟨self, hparse, -, hpending⟩ := parseChunks_keyless sha256 hkeyless hfuel
  obtain ⟨self', hparse', -, hpending'⟩ := parseChunks_keyless sha256 hkeyless hfuel'
  obtain ⟨waits, hwait⟩ := waitForHeartbeat_keyless sha256 hkeyless hfuel
  obtain ⟨waits', hwait'⟩ := waitForHeartbeat_keyless sha256 hkeyless hfuel'
  rw [hsame] at hparse' hpending' hwait'
  refine ⟨_, self, self', waits, waits', hparse, hparse', ?_, ?_, hwait, hwait'⟩
  · rw [hpending]
    exact hbytes
  · rw [hpending']
    exact hbytes

/-- A stray byte and a damaged frame, cut in two ways. -/
def noise : List Bytes := [[0x55, 0xFE, 0], [1, 1, 1, 0, 0], [0]]

def noise' : List Bytes := [[0x55], [0xFE], [0, 1, 1, 1, 0, 0, 0]]

theorem parsing_ignores_split_noise :
    noise.flatten = noise'.flatten ∧ (new 255 190).signing.secretKey = none ∧
      ∃ messages self self' waits waits',
        parseChunks (fun _ => List.replicate 32 0) 9 (new 255 190) noise =
          some (.ok messages, self) ∧
        parseChunks (fun _ => List.replicate 32 0) 9 (new 255 190) noise' =
          some (.ok messages, self') ∧
        messages.flatMap messageBytes ++ self.pending = [] ++ noise.flatten ∧
        messages.flatMap messageBytes ++ self'.pending = [] ++ noise.flatten ∧
        waitForHeartbeat (fun _ => List.replicate 32 0) 9 (new 255 190) noise =
          some (.ok (messages.find? isHeartbeat), waits) ∧
        waitForHeartbeat (fun _ => List.replicate 32 0) 9 (new 255 190) noise' =
          some (.ok (messages.find? isHeartbeat), waits') :=
  ⟨rfl, rfl, parsing_ignores_split (fun _ => List.replicate 32 0) (.new 255 190) rfl (by decide)
    (by decide) rfl (by decide)⟩

end MAVLink

end ApUploader
