import ApUploader.Mavlink.RoundTrip
import ApUploader.Scanners.Udp

/-! # Heartbeats among the encoded messages

The scanner does not parse what it hears, it looks at the bytes at a few places. In the
frame of an encoded message these hold the marker of the version, the component of the
sender and the id of the message, whatever zeros version 2 has dropped from the payload.
-/

namespace ApUploader

open MAVLink (FitsWire wireFrame wirePayload encode_wireFrame exists_encode_iff)

section

variable {sha256 : Bytes → Bytes} {mav : MAVLink} {messageType : MessageType} {payload : Bytes}
  {body : MessageBody}

theorem ofNat_eq_iff {n k : Nat} (hn : n < 256) (hk : k < 256) :
    UInt8.ofNat n = UInt8.ofNat k ↔ n = k := by
  rw [← UInt8.toNat_inj, UInt8.toNat_ofNat', UInt8.toNat_ofNat', Nat.mod_eq_of_lt hn,
    Nat.mod_eq_of_lt hk]

theorem wireFrame_version1 (mav : MAVLink) (messageType : MessageType) (payload : Bytes) :
    ∃ length rest, 2 ≤ rest.length ∧ wireFrame mav messageType payload true =
      0xFE :: length :: .ofNat mav.seq :: .ofNat mav.sourceSystem ::
        .ofNat mav.sourceComponent :: .ofNat messageType.id :: rest := by
  refine ⟨_, wirePayload payload true ++ LittleEndian.encode 2 _, ?_, rfl⟩
  rw [List.length_append, LittleEndian.encode_length]
  omega

theorem wireFrame_version2 (mav : MAVLink) (messageType : MessageType) (payload : Bytes) :
    ∃ length rest, 2 ≤ rest.length ∧ wireFrame mav messageType payload false =
      0xFD :: length :: 0 :: 0 :: .ofNat mav.seq :: .ofNat mav.sourceSystem ::
        .ofNat mav.sourceComponent :: .ofNat messageType.id :: 0 :: 0 :: rest := by
  refine ⟨_, wirePayload payload false ++ LittleEndian.encode 2 _, ?_, rfl⟩
  rw [List.length_append, LittleEndian.encode_length]
  omega

theorem looksLike_wireFrame (hcomponent : mav.sourceComponent < 256) (hid : messageType.id < 256)
    (payload : Bytes) (forceMavlink1 : Bool) :
    looksLikeMavlinkHeartbeatFromAutopilot (wireFrame mav messageType payload forceMavlink1) =
      decide (mav.sourceComponent = 1 ∧ messageType.id = 0) := by
  have hone : UInt8.ofNat mav.sourceComponent = 1 ↔ mav.sourceComponent = 1 :=
    ofNat_eq_iff hcomponent (by decide)
  have hzero : UInt8.ofNat messageType.id = 0 ↔ messageType.id = 0 :=
    ofNat_eq_iff hid (by decide)
  cases forceMavlink1 with
  | true =>
      obtain ⟨length, rest, hrest, hframe⟩ := wireFrame_version1 mav messageType payload
      rw [hframe]
      unfold looksLikeMavlinkHeartbeatFromAutopilot
      dsimp only
      rw [if_pos ⟨rfl, by simp only [List.length_cons]; omega⟩]
      simp [hone, hzero]
  | false =>
      obtain ⟨length, rest, hrest, hframe⟩ := wireFrame_version2 mav messageType payload
      rw [hframe]
      unfold looksLikeMavlinkHeartbeatFromAutopilot
      dsimp only
      rw [if_neg fun h => absurd h.1 (by decide),
        if_pos ⟨rfl, by simp only [List.length_cons]; omega⟩]
      simp [hone, hzero]

/-- Only heartbeats have the id that the test looks for. -/
theorem id_eq_zero_iff {values : List Struct.Value}
    (hpacked : body.packed = some (messageType, values)) :
    messageType.id = 0 ↔ ∃ m, body = .heartbeat m := by
  cases body with
  | heartbeat m =>
      cases hpacked
      exact iff_of_true rfl ⟨m, rfl⟩
  | badData data reason => cases hpacked
  | unknown msgId data => cases hpacked
  | _ =>
      cases hpacked
      exact iff_of_false (by decide) (by simp)

/-- An encoded message passes the quick test if it is a heartbeat of component 1. -/
theorem looksLike_encode (hmav : mav.Sends) {forceMavlink1 : Bool} {data : Bytes} {mav' : MAVLink}
    (hencode : mav.encode sha256 body forceMavlink1 = .ok (data, mav')) :
    looksLikeMavlinkHeartbeatFromAutopilot data = true ↔
      (∃ m, body = .heartbeat m) ∧ mav.sourceComponent = 1 := by
  have hfits := (exists_encode_iff sha256 forceMavlink1 hmav).mp ⟨data, mav', hencode⟩
  obtain ⟨messageType, values, payload, hpacked, hpack, hlength, -, hid⟩ := hfits.packed
  obtain ⟨last, hframe⟩ := encode_wireFrame sha256 forceMavlink1 hmav hpacked hpack hid hlength
  cases hencode.symm.trans hframe
  rw [looksLike_wireFrame hmav.sourceComponent hid, decide_eq_true_iff, id_eq_zero_iff hpacked]
  exact and_comm

/-- The quick test knows the heartbeats of autopilots among the encoded messages, in either
version. -/
structure Recognized (sha256 : Bytes → Bytes) (mav : MAVLink) (body : MessageBody) : Prop where
  known : ∀ forceMavlink1, ∃ data mav', mav.encode sha256 body forceMavlink1 = .ok (data, mav') ∧
    (looksLikeMavlinkHeartbeatFromAutopilot data = true ↔
      (∃ m, body = .heartbeat m) ∧ mav.sourceComponent = 1)
  alike : ∀ data₁ mav₁ data₂ mav₂, mav.encode sha256 body true = .ok (data₁, mav₁) →
    mav.encode sha256 body false = .ok (data₂, mav₂) →
    looksLikeMavlinkHeartbeatFromAutopilot data₁ = looksLikeMavlinkHeartbeatFromAutopilot data₂

theorem recognized_of_fits (sha256 : Bytes → Bytes) (hmav : mav.Sends) (hfits : FitsWire body) :
    Recognized sha256 mav body where
  known forceMavlink1 := by
    obtain ⟨data, mav', hencode⟩ := (exists_encode_iff sha256 forceMavlink1 hmav).mpr hfits
    exact ⟨data, mav', hencode, looksLike_encode hmav hencode⟩
  alike data₁ mav₁ data₂ mav₂ hversion1 hversion2 := by
    rw [Bool.eq_iff_iff, looksLike_encode hmav hversion1, looksLike_encode hmav hversion2]

/-- All trailing zeros of its payload are dropped in version 2, the custom mode among them. -/
private def silentHeartbeat : MAVLinkHeartbeatMessage where
  type := 0
  autopilot := 0
  baseMode := 0
  customMode := 0
  systemStatus := 0
  mavlinkVersion := 0

theorem recognized_of_fits_heartbeat :
    Recognized (fun _ => []) (.new 1 1) (.heartbeat silentHeartbeat) :=
  recognized_of_fits _ ⟨by decide, by decide, by decide, rfl⟩
    ⟨by decide, by decide, by decide, by decide, by decide, by decide⟩

end

/-! ## Encoded messages in the queue -/

namespace UDPMAVLinkHeartbeatScanner

variable {sha256 : Bytes → Bytes} {queue : List Datagram}

def Encoded (sha256 : Bytes → Bytes) (mav : MAVLink) (body : MessageBody) (data : Bytes) : Prop :=
  mav.Sends ∧ ∃ forceMavlink1 mav', mav.encode sha256 body forceMavlink1 = .ok (data, mav')

/-- Of those who send encoded messages, the scanner proposes the autopilots with a heartbeat. -/
theorem yielded_iff_heartbeat
    (hqueue : ∀ datagram ∈ queue, ∃ mav body, Encoded sha256 mav body datagram.1)
    (sender : IPAddressAndPort) :
    sender ∈ (run queue).yielded ↔ ∃ data mav m, (data, sender) ∈ queue ∧
      Encoded sha256 mav (.heartbeat m) data ∧ mav.sourceComponent = 1 := by
  rw [(proposes_run queue).heard]
  constructor
  · rintro ⟨data, hdata, hheartbeat⟩
    obtain ⟨mav, body, hmav, forceMavlink1, mav', hencode⟩ := hqueue _ hdata
    obtain ⟨⟨m, rfl⟩, hcomponent⟩ := (looksLike_encode hmav hencode).mp hheartbeat
    exact ⟨data, mav, m, hdata, ⟨hmav, forceMavlink1, mav', hencode⟩, hcomponent⟩
  · rintro ⟨data, mav, m, hdata, ⟨hmav, forceMavlink1, mav', hencode⟩, hcomponent⟩
    exact ⟨data, hdata, (looksLike_encode hmav hencode).mpr ⟨⟨m, rfl⟩, hcomponent⟩⟩

/-- From a heartbeat to a transport: of those who send encoded messages from an IPv4 address, the
autopilots with a heartbeat are proposed, each once, and every target leads back to its sender. -/
theorem autopilots_found {ipAddress : String → Bool} {int : String → Option Int}
    (htext : Textual ipAddress int) (sharedUdpSocket : Nat)
    (hqueue : ∀ datagram ∈ queue, ':' ∉ datagram.2.1.toList ∧ IsPort datagram.2.2 ∧
      ∃ mav body, Encoded sha256 mav body datagram.1) :
    (run queue).targets.map (createTransport ipAddress int (.ok sharedUdpSocket)) =
        (run queue).yielded.map (fun sender => .ok (.udp sharedUdpSocket sender.1 sender.2)) ∧
      (run queue).yielded.Nodup ∧
      ∀ sender, sender ∈ (run queue).yielded ↔ ∃ data mav m, (data, sender) ∈ queue ∧
        Encoded sha256 mav (.heartbeat m) data ∧ mav.sourceComponent = 1 := by
  have hproposes := proposes_run queue
  refine ⟨?_, hproposes.once, yielded_iff_heartbeat fun datagram hdatagram =>
    (hqueue datagram hdatagram).2.2⟩
  rw [hproposes.targets, List.map_map]
  refine List.map_congr_left fun sender hsender => ?_
  obtain ⟨payload, hdatagram, -⟩ := (hproposes.heard sender).mp hsender
  obtain ⟨hhost, hport, -⟩ := hqueue _ hdatagram
  exact (leadsBack_iff htext sharedUdpSocket hport).mpr hhost

theorem autopilots_found_silent :
    ∃ data, (run [(data, "127.0.0.1", 14550)]).targets.map
        (createTransport knownAddress decimal (.ok 0)) =
          (run [(data, "127.0.0.1", 14550)]).yielded.map
            (fun sender => .ok (.udp 0 sender.1 sender.2)) ∧
      ("127.0.0.1", 14550) ∈ (run [(data, "127.0.0.1", 14550)]).yielded := by
  have hmav : (MAVLink.new 1 1).Sends := ⟨by decide, by decide, by decide, rfl⟩
  have hfits : FitsWire (.heartbeat silentHeartbeat) :=
    ⟨by decide, by decide, by decide, by decide, by decide, by decide⟩
  obtain ⟨data, mav', hencode⟩ := (exists_encode_iff (fun _ => []) false hmav).mpr hfits
  have hencoded : Encoded (fun _ => []) (.new 1 1) (.heartbeat silentHeartbeat) data :=
    ⟨hmav, false, mav', hencode⟩
  have hqueue : ∀ datagram ∈ ([(data, "127.0.0.1", 14550)] : List Datagram),
      ':' ∉ datagram.2.1.toList ∧ IsPort datagram.2.2 ∧
        ∃ mav body, Encoded (fun _ => []) mav body datagram.1 := by
    intro datagram hdatagram
    rw [List.mem_singleton.mp hdatagram]
    have hhost : ':' ∉ "127.0.0.1".toList := by decide
    have hport : IsPort 14550 := ⟨by decide, by decide⟩
    exact ⟨hhost, hport, _, _, hencoded⟩
  have hfound := autopilots_found textual_known 0 hqueue
  refine ⟨data, hfound.1, (hfound.2.2 _).mpr ?_⟩
  exact ⟨data, _, _, by simp, hencoded, rfl⟩

end UDPMAVLinkHeartbeatScanner

end ApUploader
