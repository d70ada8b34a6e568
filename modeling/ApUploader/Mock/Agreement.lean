import ApUploader.Mock.Respond
import ApUploader.Protocol.RoundTrip

/-! # Device and host agree on the replies

The device decides in its handlers how long a reply is, the host in the declared
response length. They agree on every handled command but GET_CHIP, whose handler
returns one byte where the host expects four.
-/

namespace ApUploader.MockBootloader

open Effect Protocol

/-- The handled value as the host is to see it: GET_CHIP_DES puts its length in front. -/
def handledValue (c : Command) (value : Bytes) : Bytes :=
  if c.type = .getChipDes then value.drop 4 else value

/-- The command is sent, and however the bytes of the reply are cut and polled, they come out as one
OK response with the handled value and leave the host in sync with nothing unread. -/
def Agrees (p : Protocol) (c : Command) (value : Bytes) : Prop :=
  ∃ raw q, p.send (.command c) = .ok (raw, q) ∧
    ∀ script last, Splits script last (Response.success value).toBytes →
      (∀ result ∈ (drive q script).1, result = .ok (some .needMoreData)) ∧
        ∃ q' q'', (drive q script).2.feed last = .ok q' ∧
          q'.nextEvent = (.ok (some (.response ⟨.ok, handledValue c value⟩)), q'') ∧
          q''.inSync = true ∧ q''.buffer = [] ∧ q''.nextEvent = (.ok none, q'')

/-! ## What the handlers return -/

/-- The handled value has the length the host declares, behind the prefix the host expects. -/
def Expected (c : Command) (value : Bytes) : Prop :=
  Declares c.responseLength (handledValue c value) ∧
    value = replyBody c.responseLength (handledValue c value)

theorem wp_ofExcept_word {n : Nat} {d : MockBootloader} {ok : Bytes → MockBootloader → Prop}
    (h : ∀ word, word.length = 4 → ok word d) :
    wp (ofExcept (toBytesLittle 4 n)) (.ifReturns ok) d := by
  unfold toBytesLittle
  split_ifs
  · exact h _ (by simp)
  · trivial

theorem expected_word {c : Command} (hfour : c.responseLength = 4) {word : Bytes}
    (hword : word.length = 4) : Expected c word := by
  have hdes : c.type ≠ .getChipDes := by
    intro htype
    simp [Command.responseLength, htype] at hfour
  simp [Expected, Declares, replyBody, handledValue, hfour, hdes, hword]

theorem expected_nil {c : Command} (hzero : c.responseLength = 0) : Expected c [] := by
  simp [Expected, Declares, replyBody, handledValue, hzero]

theorem expected_chipDescription (args : Bytes) :
    Expected ⟨.getChipDes, args⟩
      (LittleEndian.encode 4 chipDescription.length ++ chipDescription) := by
  have hlength : Command.responseLength ⟨.getChipDes, args⟩ = -1 := rfl
  have hvalue : handledValue ⟨.getChipDes, args⟩
      (LittleEndian.encode 4 chipDescription.length ++ chipDescription) = chipDescription := rfl
  rw [Expected, hlength, hvalue]
  decide

theorem expected_of_getDevice (args : Bytes) (d : MockBootloader) :
    wp (handleCommand ⟨.getDevice, args⟩) (.ifReturns fun value _ =>
      Expected ⟨.getDevice, args⟩ value) d := by
  unfold handleCommand
  rw [wp_bind, wp_get]
  cases args with
  | nil => trivial
  | cons code rest =>
      dsimp only
      cases DeviceInfoItem.ofByte? code with
      | none => trivial
      | some item => exact wp_ofExcept_word fun word hword => expected_word rfl hword

/-- Every handler but the one of GET_CHIP returns what the host expects. -/
theorem wp_handleCommand (c : Command) (hc : c.type ≠ .getChip) (d : MockBootloader) :
    wp (handleCommand c) (.ifReturns fun value _ => Expected c value) d := by
  obtain ⟨type, args⟩ := c
  cases type with
  | getSync => exact expected_nil rfl
  | getDevice => exact expected_of_getDevice args d
  | getChip => exact (hc rfl).elim
  | getChipDes => exact expected_chipDescription args
  | getOtp => exact expected_word rfl rfl
  | getSn =>
      unfold handleCommand
      rw [wp_bind, wp_get]
      dsimp only
      split_ifs
      · trivial
      · exact expected_word rfl (serialNumberWord_length d _)
  | chipErase => exact expected_nil rfl
  | progMulti =>
      unfold handleCommand
      rw [wp_bind, wp_get]
      dsimp only
      rw [wp_bind]
      exact wp_ifReturns_iff.mpr fun _ _ _ => expected_nil rfl
  | getCrc => exact wp_ofExcept_word fun word hword => expected_word rfl hword
  | getWritePtr => exact wp_ofExcept_word fun word hword => expected_word rfl hword
  | reboot => exact expected_nil rfl
  | _ => trivial

/-! ## Agreement -/

theorem agrees_of_expected {p : Protocol} (hreach : p.Reachable) (hopen : p.bufferClosed = false)
    (hsync : p.inSync = true) (hbuffer : p.buffer = []) {c : Command} (hc : c.Encodable)
    {value : Bytes} (h : Expected c value) : Agrees p c value := by
  obtain ⟨hdeclares, hvalue⟩ := h
  obtain ⟨raw, hraw⟩ := hc
  have hsend := send_clean hreach.wellFormed hopen hsync hbuffer hraw
  refine ⟨raw, _, hsend, fun script last hsplit => ?_⟩
  rw [hvalue] at hsplit
  obtain ⟨hevents, q, hfeed, hevent⟩ := drive_success hdeclares hsplit
  exact ⟨hevents, q, synced [], hfeed, hevent, rfl, rfl, synced_nextEvent⟩

theorem handled_getChip {args value : Bytes} {d d' : MockBootloader}
    (h : handleCommand ⟨.getChip, args⟩ d = (.ok value, d')) : value = [0x09] := by
  have hvalue : handleCommand ⟨.getChip, args⟩ d = (.ok [0x09], d) := rfl
  rw [hvalue] at h
  cases h
  rfl

/-- The host asks for a fourth payload byte, which the device never sends. -/
theorem not_agrees_getChip {p : Protocol} (hreach : p.Reachable) (hopen : p.bufferClosed = false)
    (hsync : p.inSync = true) (hbuffer : p.buffer = []) (args : Bytes) :
    ¬ Agrees p ⟨.getChip, args⟩ [0x09] := by
  rintro ⟨raw, q, hsend, hreply⟩
  have hraw : Command.toBytes ⟨.getChip, args⟩ =
      .ok ([OpCode.getChip.toByte] ++ args ++ [OpCode.eoc.toByte]) := rfl
  rw [send_clean hreach.wellFormed hopen hsync hbuffer hraw] at hsend
  cases hsend
  obtain ⟨_, q', q'', hfeed, hevent, _⟩ := hreply [] [0x09, 0x12, 0x10]
    ⟨by simp [chunks], by simp, by simp [chunks]; decide⟩
  have hstarved : (awaiting 4 [0x09, 0x12, 0x10]).nextEvent.1 = .ok (some .needMoreData) := by
    decide
  have hq' : q' = awaiting 4 [0x09, 0x12, 0x10] := by
    have hfed : (awaiting 4 []).feed [0x09, 0x12, 0x10] = .ok (awaiting 4 [0x09, 0x12, 0x10]) := by
      decide
    exact Except.ok.inj (hfeed.symm.trans hfed)
  rw [hq'] at hevent
  rw [hevent] at hstarved
  cases hstarved

/-- For every state of the device and every command it handles: host and device agree on the reply
exactly when the command is not GET_CHIP and can be encoded. -/
theorem device_replies_agree_iff {p : Protocol} (hreach : p.Reachable)
    (hopen : p.bufferClosed = false) (hsync : p.inSync = true) (hbuffer : p.buffer = [])
    {c : Command} {d d' : MockBootloader} {value : Bytes}
    (hhandled : handleCommand c d = (.ok value, d')) :
    Agrees p c value ↔ c.type ≠ .getChip ∧ c.Encodable := by
  constructor
  · intro hagrees
    constructor
    · intro htype
      obtain ⟨type, args⟩ := c
      subst htype
      rw [handled_getChip hhandled] at hagrees
      exact not_agrees_getChip hreach hopen hsync hbuffer args hagrees
    · obtain ⟨raw, q, hsend, _⟩ := hagrees
      obtain ⟨_, hcommand, _, hraw, _⟩ := send_spec hsend
      cases hcommand
      exact ⟨raw, hraw⟩
  · rintro ⟨htype, hc⟩
    have hexpected := wp_ifReturns_iff.mp (wp_handleCommand c htype d) value d' hhandled
    exact agrees_of_expected hreach hopen hsync hbuffer hc hexpected

/-- The board ID of a device with a flash memory of two bytes. -/
theorem device_replies_agree_iff_boardId :
    Agrees (synced []) (.getDeviceInfo .boardId) [9, 0, 0, 0] ↔
      (Command.getDeviceInfo .boardId).type ≠ .getChip ∧
        (Command.getDeviceInfo .boardId).Encodable :=
  device_replies_agree_iff synced_reachable rfl rfl rfl
    (rfl : handleCommand (.getDeviceInfo .boardId) { flashMemory := [0xff, 0xff] } = _)

/-- The chip type is handled, but its reply is shorter than the host declares. -/
theorem getChip_replies_disagree :
    ¬ ∀ (p : Protocol) (c : Command) (d d' : MockBootloader) (value : Bytes), p.Reachable →
      p.bufferClosed = false → p.inSync = true → p.buffer = [] →
      handleCommand c d = (.ok value, d') → Agrees p c value := by
  intro h
  exact not_agrees_getChip synced_reachable rfl rfl rfl []
    (h (synced []) .getChipType { flashMemory := [] } _ _ synced_reachable rfl rfl rfl rfl)

end ApUploader.MockBootloader
