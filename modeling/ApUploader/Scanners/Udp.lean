import ApUploader.Network.SharedSocket
import ApUploader.Uploader.Target
import Mathlib.Data.List.Induction

/-! # The scanner for heartbeats on the shared socket

The scanner reads the datagrams that no subscription takes and proposes the sender of
the first heartbeat of each peer as an upload target, written as host and port. What
it proposes is read again by `_create_transport`.
-/

namespace ApUploader

def looksLikeMavlinkHeartbeatFromAutopilot (data : Bytes) : Bool :=
  match data with
  | [] => false
  | first :: _ =>
      -- a MAVLink 1 packet with system id 1 and message type 0
      if first = 0xFE ∧ 8 ≤ data.length then data[4]? = some 1 ∧ data[5]? = some 0
      -- a MAVLink 2 packet
      else if first = 0xFD ∧ 12 ≤ data.length then
        data[6]? = some 1 ∧ (data.drop 7).take 3 = [0, 0, 0]
      else false

structure UDPMAVLinkHeartbeatScanner where
  yielded : List IPAddressAndPort := []
  targets : List UploadTarget := []

namespace UDPMAVLinkHeartbeatScanner

/-- `f"{host}:{port}"`. -/
def target (sender : IPAddressAndPort) : UploadTarget := sender.1 ++ ":" ++ toString sender.2

/-- The body of the loop of `run`. -/
def receive (s : UDPMAVLinkHeartbeatScanner) (datagram : Datagram) :
    UDPMAVLinkHeartbeatScanner :=
  let (payload, sender) := datagram
  if sender ∉ s.yielded ∧ looksLikeMavlinkHeartbeatFromAutopilot payload = true then
    { yielded := s.yielded ++ [sender], targets := s.targets ++ [target sender] }
  else s

def run (queue : List Datagram) : UDPMAVLinkHeartbeatScanner := queue.foldl receive {}

/-! ## What is yielded -/

structure Proposes (queue : List Datagram) (s : UDPMAVLinkHeartbeatScanner) : Prop where
  targets : s.targets = s.yielded.map target
  once : s.yielded.Nodup
  heard : ∀ sender, sender ∈ s.yielded ↔
    ∃ payload, (payload, sender) ∈ queue ∧ looksLikeMavlinkHeartbeatFromAutopilot payload = true

theorem Proposes.receive {queue : List Datagram} {s : UDPMAVLinkHeartbeatScanner}
    (h : Proposes queue s) (datagram : Datagram) :
    Proposes (queue ++ [datagram]) (s.receive datagram) := by
  obtain ⟨payload, sender⟩ := datagram
  unfold UDPMAVLinkHeartbeatScanner.receive
  dsimp only
  split_ifs with hnew
  · refine ⟨by simp [h.targets], ?_, fun other => ?_⟩
    · rw [List.nodup_append]
      refine ⟨h.once, List.nodup_singleton _, ?_⟩
      rintro other hother last hlast rfl
      rw [List.mem_singleton] at hlast
      exact hnew.1 (hlast ▸ hother)
    · rw [List.mem_append, h.heard, List.mem_singleton]
      constructor
      · rintro (⟨data, hdata, hheartbeat⟩ | rfl)
        · exact ⟨data, List.mem_append_left _ hdata, hheartbeat⟩
        · exact ⟨payload, by simp, hnew.2⟩
      · rintro ⟨data, hdata, hheartbeat⟩
        rw [List.mem_append, List.mem_singleton] at hdata
        rcases hdata with hdata | hdata
        · exact .inl ⟨data, hdata, hheartbeat⟩
        · exact .inr (congrArg Prod.snd hdata)
  · refine ⟨h.targets, h.once, fun other => ?_⟩
    rw [h.heard]
    constructor
    · rintro ⟨data, hdata, hheartbeat⟩
      exact ⟨data, List.mem_append_left _ hdata, hheartbeat⟩
    · rintro ⟨data, hdata, hheartbeat⟩
      rw [List.mem_append, List.mem_singleton] at hdata
      rcases hdata with hdata | hdata
      · exact ⟨data, hdata, hheartbeat⟩
      · cases hdata
        have hold : sender ∈ s.yielded := by
          by_contra hmissing
          exact hnew ⟨hmissing, hheartbeat⟩
        exact (h.heard sender).mp hold

theorem proposes_run (queue : List Datagram) : Proposes queue (run queue) := by
  induction queue using List.reverseRecOn with
  | nil => exact ⟨rfl, List.nodup_nil, by simp [run]⟩
  | append_singleton queue datagram ih =>
      unfold run at ih ⊢
      rw [List.foldl_append]
      exact ih.receive datagram

/-! ## What becomes of it -/

section

variable {ipAddress : String → Bool} {int : String → Option Int}

def LeadsBack (ipAddress : String → Bool) (int : String → Option Int) (sharedUdpSocket : Nat)
    (sender : IPAddressAndPort) : Prop :=
  createTransport ipAddress int (.ok sharedUdpSocket) (target sender) =
    .ok (.udp sharedUdpSocket sender.1 sender.2)

theorem leadsBack_iff (htext : Textual ipAddress int) (sharedUdpSocket : Nat)
    {sender : IPAddressAndPort} (hport : IsPort sender.2) :
    LeadsBack ipAddress int sharedUdpSocket sender ↔ ':' ∉ sender.1.toList := by
  unfold LeadsBack target
  constructor
  · intro hback hcolon
    obtain ⟨front, back, hhost, hfront⟩ := exists_first_colon hcolon
    have hsplit : sender.1 ++ ":" ++ toString sender.2 =
        front ++ ":" ++ (back ++ ":" ++ toString sender.2) := by
      rw [hhost]
      simp [String.append_assoc]
    rw [hsplit, createTransport_split hfront] at hback
    split at hback
    · cases hback
      exact hfront hcolon
    · cases hback
  · intro hhost
    rw [createTransport_split hhost, htext.written _ hport]

/-- Which targets lead where the documentation says, and which of the scanner's lead back. -/
theorem targets_lead_iff (htext : Textual ipAddress int) (sharedUdpSocket : Nat) :
    (∀ spec, LeadsAsDocumented ipAddress int sharedUdpSocket spec ↔
      SplitsOnce ipAddress int spec) ∧
    ∀ queue, (run queue).targets = (run queue).yielded.map target ∧
      ∀ sender ∈ (run queue).yielded, IsPort sender.2 →
        (LeadsBack ipAddress int sharedUdpSocket sender ↔ ':' ∉ sender.1.toList) :=
  ⟨fun _ => leadsAsDocumented_iff htext, fun queue =>
    ⟨(proposes_run queue).targets, fun _ _ hport => leadsBack_iff htext sharedUdpSocket hport⟩⟩

end

/-- The address functions on a few texts: `ip_address` of them, and numbers in ASCII digits. -/
def knownAddress (s : String) : Bool := s ∈ ["127.0.0.1", "::1"]

def digitsToNat (digits : List Char) : Option Nat :=
  if digits ≠ [] ∧ digits.all Char.isDigit = true then some (Nat.ofDigitChars 10 digits 0) else none

def decimal (s : String) : Option Int :=
  match s.toList with
  | '-' :: digits => (digitsToNat digits).map fun n : Nat => -Int.ofNat n
  | digits => (digitsToNat digits).map Int.ofNat

theorem digitsToNat_toDigits (n : Nat) : digitsToNat (Nat.toDigits 10 n) = some n := by
  have hdigits : (Nat.toDigits 10 n).all Char.isDigit = true := by
    rw [List.all_eq_true]
    exact fun c hc => Nat.isDigit_of_mem_toDigits (by decide) (by decide) hc
  unfold digitsToNat
  rw [if_pos ⟨Nat.toDigits_ne_nil, hdigits⟩, Nat.ofDigitChars_ten_toDigits]

theorem not_mem_of_digitsToNat {digits : List Char} (h : (digitsToNat digits).isSome) :
    ':' ∉ digits := by
  intro hcolon
  unfold digitsToNat at h
  split_ifs at h with hdigits
  · have hdigit := List.all_eq_true.mp hdigits.2 ':' hcolon
    exact absurd hdigit (by decide)
  · cases h

theorem decimal_toString (number : Int) : decimal (toString number) = some number := by
  cases number with
  | ofNat n =>
      have hlist : (toString (Int.ofNat n)).toList = Nat.toDigits 10 n := Nat.toList_repr
      have hdigit : ∀ rest, Nat.toDigits 10 n ≠ '-' :: rest := by
        intro rest hrest
        have hmem : '-' ∈ Nat.toDigits 10 n := by rw [hrest]; exact List.mem_cons_self
        exact absurd (Nat.isDigit_of_mem_toDigits (by decide) (by decide) hmem) (by decide)
      unfold decimal
      rw [hlist]
      split
      · next rest hrest => exact absurd hrest (hdigit rest)
      · rw [digitsToNat_toDigits]
        rfl
  | negSucc n =>
      have hlist : (toString (Int.negSucc n)).toList = '-' :: Nat.toDigits 10 (n + 1) := by
        have hsign : toString (Int.negSucc n) = "-" ++ Nat.repr (n + 1) := rfl
        rw [hsign, String.toList_append, Nat.toList_repr]
        rfl
      unfold decimal
      simp only [hlist, digitsToNat_toDigits]
      rfl

theorem not_mem_of_decimal (port : String) (h : (decimal port).isSome) : ':' ∉ port.toList := by
  unfold decimal at h
  split at h
  · next digits hport =>
      rw [Option.isSome_map] at h
      rw [hport, List.mem_cons, not_or]
      exact ⟨by decide, not_mem_of_digitsToNat h⟩
  · rw [Option.isSome_map] at h
    exact not_mem_of_digitsToNat h

theorem textual_known : Textual knownAddress decimal where
  written number _ := decimal_toString number
  number := not_mem_of_decimal
  address front back hfront hback := by
    have hcount : (front ++ ":" ++ back).toList.count ':' = 1 := by
      rw [toList_split]
      simp [List.count_eq_zero.mpr hfront, List.count_eq_zero.mpr hback]
    unfold knownAddress
    rw [decide_eq_false_iff_not]
    intro hmem
    rcases List.mem_cons.mp hmem with hspec | hmem
    · rw [hspec] at hcount
      exact absurd hcount (by decide)
    · rw [List.mem_singleton.mp hmem] at hcount
      exact absurd hcount (by decide)

def heartbeat : Bytes := [0xFE, 9, 0, 1, 1, 0, 0, 0]

theorem targets_lead_localhost :
    LeadsAsDocumented knownAddress decimal 0 "127.0.0.1:14550" ∧
      LeadsBack knownAddress decimal 0 ("127.0.0.1", 14550) := by
  have hmain := targets_lead_iff textual_known 0
  have hqueue : ("127.0.0.1", 14550) ∈ (run [(heartbeat, "127.0.0.1", 14550)]).yielded := by decide
  have hsplit : SplitsOnce knownAddress decimal "127.0.0.1:14550" :=
    .inr ⟨"127.0.0.1", "14550", by decide, by decide, by decide, by decide⟩
  have hport : IsPort 14550 := ⟨by decide, by decide⟩
  exact ⟨(hmain.1 _).mpr hsplit, ((hmain.2 _).2 _ hqueue hport).mpr (by decide)⟩

theorem target_not_led :
    createTransport knownAddress decimal (.ok 0) "::1" = .error .valueError ∧
      ¬ ∀ spec, LeadsAsDocumented knownAddress decimal 0 spec := by
  have herror : createTransport knownAddress decimal (.ok 0) "::1" = .error .valueError := by decide
  refine ⟨herror, fun hleads => ?_⟩
  obtain ⟨transport, hcreated, _⟩ := hleads "::1"
  rw [herror] at hcreated
  cases hcreated

end UDPMAVLinkHeartbeatScanner

end ApUploader
