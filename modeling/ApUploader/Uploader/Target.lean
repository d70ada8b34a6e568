import ApUploader.Errors
import Mathlib.Data.List.TakeWhile
import Mathlib.Tactic.SplitIfs

/-! # Upload targets

An upload target is a text that names a transport. `_create_transport` splits it at
its first colon, the documentation reads it as an address, an address with a port, or
the name of a serial port. Which texts are addresses and which are port numbers is
decided outside, by `ip_address` and `int`.
-/

namespace ApUploader

abbrev UploadTarget : Type := String

/-- `s.partition(sep)`; what follows the separator is missing when there is no separator. -/
def partition (sep : Char) (s : String) : String × Option String :=
  match s.toList.dropWhile (· ≠ sep) with
  | [] => (s, none)
  | _ :: after => (String.ofList (s.toList.takeWhile (· ≠ sep)), some (String.ofList after))

inductive CreatedTransport where
  /-- On the shared socket, given by its position among the sockets of the uploader. -/
  | udp (sharedSocket : Nat) (host : String) (port : Int)
  | serialPort (url : String)
  deriving DecidableEq, Repr

section

variable (ipAddress : String → Bool) (int : String → Option Int)

/-- `_create_transport`, with what `get_shared_udp_socket` returns or raises. -/
def createTransport (getSharedUdpSocket : Except Exn Nat) (spec : UploadTarget) :
    Except Exn CreatedTransport :=
  match partition ':' spec with
  | (address, some port) => do
      let sharedUdpSocket ← getSharedUdpSocket
      match int port with
      | some port => pure (.udp sharedUdpSocket address port)
      | none => throw .valueError
  | (_, none) =>
      if ipAddress spec then do
        let sharedUdpSocket ← getSharedUdpSocket
        pure (.udp sharedUdpSocket spec 14555)
      else pure (.serialPort spec)

/-- The documented meaning of a target. -/
inductive Denotes (sharedUdpSocket : Nat) (spec : UploadTarget) : CreatedTransport → Prop where
  | address (h : ipAddress spec = true) :
      Denotes sharedUdpSocket spec (.udp sharedUdpSocket spec 14555)
  | addressAndPort {address port : String} {number : Int} (h : ipAddress spec = false)
      (split : spec = address ++ ":" ++ port) (valid : ipAddress address = true)
      (decimal : int port = some number) :
      Denotes sharedUdpSocket spec (.udp sharedUdpSocket address number)
  | serialPort (h : ipAddress spec = false)
      (other : ∀ address port, spec = address ++ ":" ++ port → ipAddress address = true →
        int port = none) :
      Denotes sharedUdpSocket spec (.serialPort spec)

def LeadsAsDocumented (sharedUdpSocket : Nat) (spec : UploadTarget) : Prop :=
  ∃ transport, createTransport ipAddress int (.ok sharedUdpSocket) spec = .ok transport ∧
    Denotes ipAddress int sharedUdpSocket spec transport

/-- The only colon of the target, if it has one, stands between an address and a port. -/
def SplitsOnce (spec : UploadTarget) : Prop :=
  ':' ∉ spec.toList ∨ ∃ address port, spec = address ++ ":" ++ port ∧ ':' ∉ address.toList ∧
    ipAddress address = true ∧ (int port).isSome

def IsPort (number : Int) : Prop := 0 ≤ number ∧ number < 65536

/-- What is documented of `ip_address` and `int`: a written port number is read back, no number
has a colon in it, and no address has just one. -/
structure Textual : Prop where
  written : ∀ number : Int, IsPort number → int (toString number) = some number
  number : ∀ port, (int port).isSome → ':' ∉ port.toList
  address : ∀ front back, ':' ∉ front.toList → ':' ∉ back.toList →
    ipAddress (front ++ ":" ++ back) = false

end

/-! ## Splitting a text -/

theorem toList_split (front back : String) :
    (front ++ ":" ++ back).toList = front.toList ++ ':' :: back.toList := by
  simp

theorem partition_of_not_mem {spec : String} (h : ':' ∉ spec.toList) :
    partition ':' spec = (spec, none) := by
  have hdrop : spec.toList.dropWhile (· ≠ ':') = [] := by
    rw [List.dropWhile_eq_nil_iff]
    intro c hc
    have hother : c ≠ ':' := fun hcolon => h (hcolon ▸ hc)
    simpa using hother
  unfold partition
  rw [hdrop]

theorem partition_split {front back : String} (h : ':' ∉ front.toList) :
    partition ':' (front ++ ":" ++ back) = (front, some back) := by
  have hpass : ∀ c ∈ front.toList, decide (c ≠ ':') = true := by
    intro c hc
    have hother : c ≠ ':' := fun hcolon => h (hcolon ▸ hc)
    simpa using hother
  have hdrop : (front ++ ":" ++ back).toList.dropWhile (· ≠ ':') = ':' :: back.toList := by
    rw [toList_split, List.dropWhile_append_of_pos hpass]
    simp
  have htake : (front ++ ":" ++ back).toList.takeWhile (· ≠ ':') = front.toList := by
    rw [toList_split, List.takeWhile_append_of_pos hpass]
    simp
  unfold partition
  rw [hdrop, htake]
  simp

theorem exists_first_colon {spec : String} (h : ':' ∈ spec.toList) :
    ∃ front back, spec = front ++ ":" ++ back ∧ ':' ∉ front.toList := by
  obtain ⟨front, back, hsplit, hfront⟩ := List.eq_append_cons_of_mem h
  refine ⟨.ofList front, .ofList back, ?_, by simpa using hfront⟩
  apply String.toList_injective
  rw [toList_split, hsplit]
  simp

theorem last_split_unique {front back front' back' : List Char} (hback : ':' ∉ back)
    (hback' : ':' ∉ back') (h : front ++ ':' :: back = front' ++ ':' :: back') :
    front = front' ∧ back = back' := by
  rcases List.append_eq_append_iff.mp h with ⟨middle, hfront, hrest⟩ | ⟨middle, hfront, hrest⟩
  · cases middle with
    | nil =>
        rw [List.nil_append] at hrest
        exact ⟨by simpa using hfront.symm, (List.cons.inj hrest).2⟩
    | cons c middle =>
        have htail := (List.cons.inj hrest).2
        exact absurd (by rw [htail]; simp) hback
  · cases middle with
    | nil =>
        rw [List.nil_append] at hrest
        exact ⟨by simpa using hfront, (List.cons.inj hrest).2.symm⟩
    | cons c middle =>
        have htail := (List.cons.inj hrest).2
        exact absurd (by rw [htail]; simp) hback'

/-! ## What the code makes of a target -/

section

variable {ipAddress : String → Bool} {int : String → Option Int} {sharedUdpSocket : Nat}
  {spec : UploadTarget}

theorem createTransport_of_not_mem (h : ':' ∉ spec.toList) :
    createTransport ipAddress int (.ok sharedUdpSocket) spec =
      if ipAddress spec then .ok (.udp sharedUdpSocket spec 14555)
      else .ok (.serialPort spec) := by
  unfold createTransport
  rw [partition_of_not_mem h]
  split_ifs <;> rfl

theorem createTransport_split {address port : String} (h : ':' ∉ address.toList) :
    createTransport ipAddress int (.ok sharedUdpSocket) (address ++ ":" ++ port) =
      match int port with
      | some number => .ok (.udp sharedUdpSocket address number)
      | none => .error .valueError := by
  unfold createTransport
  rw [partition_split h]
  dsimp only
  cases int port <;> rfl

theorem Denotes.udp_cases {host : String} {number : Int}
    (h : Denotes ipAddress int sharedUdpSocket spec (.udp sharedUdpSocket host number)) :
    host = spec ∨ ipAddress host = true ∧ ∃ port, int port = some number := by
  generalize htransport : CreatedTransport.udp sharedUdpSocket host number = transport at h
  cases h with
  | address => exact .inl (CreatedTransport.udp.inj htransport).2.1
  | @addressAndPort address port number' _ _ valid decimal =>
      obtain ⟨_, rfl, rfl⟩ := CreatedTransport.udp.inj htransport
      exact .inr ⟨valid, port, decimal⟩
  | serialPort => cases htransport

theorem Denotes.unique (htext : Textual ipAddress int) {transport transport' : CreatedTransport}
    (h : Denotes ipAddress int sharedUdpSocket spec transport)
    (h' : Denotes ipAddress int sharedUdpSocket spec transport') : transport = transport' := by
  cases h with
  | address hwhole =>
      cases h' with
      | address => rfl
      | addressAndPort hother => cases hwhole.symm.trans hother
      | serialPort hother => cases hwhole.symm.trans hother
  | @addressAndPort address port number hother split valid decimal =>
      cases h' with
      | address hwhole => cases hwhole.symm.trans hother
      | serialPort _ hnone => cases decimal.symm.trans (hnone address port split valid)
      | @addressAndPort address' port' number' _ split' _ decimal' =>
          have hlists : address.toList ++ ':' :: port.toList =
              address'.toList ++ ':' :: port'.toList := by
            rw [← toList_split, ← toList_split, ← split, ← split']
          obtain ⟨haddress, hport⟩ := last_split_unique (htext.number port (by rw [decimal]; rfl))
            (htext.number port' (by rw [decimal']; rfl)) hlists
          cases String.toList_injective haddress
          cases String.toList_injective hport
          cases decimal.symm.trans decimal'
          rfl
  | serialPort hother hnone =>
      cases h' with
      | address hwhole => cases hwhole.symm.trans hother
      | addressAndPort _ split valid decimal =>
          cases decimal.symm.trans (hnone _ _ split valid)
      | serialPort => rfl

/-- Targets mean what is documented exactly if their colon, if any, is the right one. -/
theorem leadsAsDocumented_iff (htext : Textual ipAddress int) :
    LeadsAsDocumented ipAddress int sharedUdpSocket spec ↔ SplitsOnce ipAddress int spec := by
  constructor
  · rintro ⟨transport, hcreated, hdenotes⟩
    by_cases hcolon : ':' ∈ spec.toList
    · obtain ⟨front, back, rfl, hfront⟩ := exists_first_colon hcolon
      rw [createTransport_split hfront] at hcreated
      cases hnumber : int back with
      | none =>
          rw [hnumber] at hcreated
          cases hcreated
      | some number =>
          rw [hnumber] at hcreated
          cases hcreated
          rcases hdenotes.udp_cases with hwhole | ⟨hvalid, _⟩
          · exact absurd hcolon (hwhole ▸ hfront)
          · exact .inr ⟨front, back, rfl, hfront, hvalid, by rw [hnumber]; rfl⟩
    · exact .inl hcolon
  · rintro (hnone | ⟨address, port, rfl, hfront, hvalid, hport⟩)
    · have hother : ∀ address port, spec = address ++ ":" ++ port → ipAddress address = true →
          int port = none := by
        rintro address port rfl
        exact absurd (by simp) hnone
      unfold LeadsAsDocumented
      rw [createTransport_of_not_mem hnone]
      cases haddress : ipAddress spec with
      | true => exact ⟨_, rfl, .address haddress⟩
      | false => exact ⟨_, rfl, .serialPort haddress hother⟩
    · obtain ⟨number, hnumber⟩ := Option.isSome_iff_exists.mp hport
      have haddress := htext.address address port hfront (htext.number port hport)
      refine ⟨.udp sharedUdpSocket address number, ?_, ?_⟩
      · rw [createTransport_split hfront, hnumber]
      · exact .addressAndPort haddress rfl hvalid hnumber

end

end ApUploader
