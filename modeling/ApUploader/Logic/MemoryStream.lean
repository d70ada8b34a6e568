import Mathlib.Data.List.Basic

/-! # Bounded streams in memory

A stream of objects between two ends with a bounded buffer, together with the history of
what was sent and of what the receive calls got. A receive call that finds the buffer
empty waits, and the next object goes to it past the buffer. Whatever happens to the
stream, the received objects followed by the buffer are the sent ones: this is part of
the type.
-/

inductive SendError where
  | wouldBlock
  | closedResource
  | brokenResource
  deriving Repr, DecidableEq

inductive Received (α : Type) where
  | item (object : α)
  | waiting
  | endOfStream
  | closedResource

structure MemoryStream (α : Type) where
  maxBufferSize : Nat
  buffer : List α := []
  waitingReceivers : Nat := 0
  sendOpen : Bool := true
  receiveOpen : Bool := true
  /-- The objects that were accepted, and those that a receive call got, both in order. -/
  sent : List α := []
  received : List α := []
  fifo : received ++ buffer = sent
  bounded : buffer.length ≤ maxBufferSize
  idle : 0 < waitingReceivers → buffer = []

namespace MemoryStream

variable {α : Type}

def create (maxBufferSize : Nat) : MemoryStream α where
  maxBufferSize := maxBufferSize
  fifo := rfl
  bounded := Nat.zero_le _
  idle := fun _ => rfl

def sendNowait (s : MemoryStream α) (object : α) : Except SendError (MemoryStream α) :=
  if s.sendOpen = false then .error .closedResource
  else if s.receiveOpen = false then .error .brokenResource
  else if hwaiting : 0 < s.waitingReceivers then
    .ok { s with
      waitingReceivers := s.waitingReceivers - 1
      sent := s.sent ++ [object]
      received := s.received ++ [object]
      fifo := by simp [← s.fifo, s.idle hwaiting]
      idle := fun _ => s.idle hwaiting }
  else if hroom : s.buffer.length < s.maxBufferSize then
    .ok { s with
      buffer := s.buffer ++ [object]
      sent := s.sent ++ [object]
      fifo := by simp [← s.fifo]
      bounded := by simpa [List.length_append] using Nat.succ_le_of_lt hroom
      idle := fun h => absurd h hwaiting }
  else .error .wouldBlock

def receive (s : MemoryStream α) : Received α × MemoryStream α :=
  if s.receiveOpen = false then (.closedResource, s)
  else match hbuffer : s.buffer with
    | object :: rest =>
        (.item object, { s with
          buffer := rest
          received := s.received ++ [object]
          fifo := by simp [← s.fifo, hbuffer]
          bounded := by
            have hbounded := s.bounded
            simp only [hbuffer, List.length_cons] at hbounded
            omega
          idle := fun h => by simp [s.idle h] at hbuffer })
    | [] =>
        if s.sendOpen then
          (.waiting, { s with
            waitingReceivers := s.waitingReceivers + 1
            idle := fun _ => hbuffer })
        else (.endOfStream, s)

def abandon (s : MemoryStream α) : Option (MemoryStream α) :=
  if h : 0 < s.waitingReceivers then
    some { s with waitingReceivers := s.waitingReceivers - 1, idle := fun _ => s.idle h }
  else none

/-- Close the end of the sender. Nobody waits any longer. -/
def closeSend (s : MemoryStream α) : MemoryStream α :=
  { s with sendOpen := false, waitingReceivers := 0, idle := fun h => absurd h (Nat.lt_irrefl 0) }

def closeReceive (s : MemoryStream α) : MemoryStream α := { s with receiveOpen := false }

inductive Op where
  | receive
  | abandon
  | closeSend
  | closeReceive
  deriving Repr, DecidableEq

def apply (s : MemoryStream α) : Op → Option (MemoryStream α)
  | .receive => some s.receive.2
  | .abandon => s.abandon
  | .closeSend => some s.closeSend
  | .closeReceive => some s.closeReceive

/-- Both ends are open, and a receive call waits or the buffer has room. -/
def Accepts (s : MemoryStream α) : Prop :=
  s.sendOpen = true ∧ s.receiveOpen = true ∧
    (0 < s.waitingReceivers ∨ s.buffer.length < s.maxBufferSize)

instance (s : MemoryStream α) : Decidable s.Accepts := instDecidableAnd

variable {s s' : MemoryStream α} {object : α}

theorem received_isPrefix (s : MemoryStream α) : s.received <+: s.sent := ⟨s.buffer, s.fifo⟩

theorem sendNowait_spec (h : s.sendNowait object = .ok s') :
    s.Accepts ∧ s'.sent = s.sent ++ [object] ∧ s'.sendOpen = s.sendOpen ∧
      s'.receiveOpen = s.receiveOpen := by
  unfold sendNowait at h
  split at h
  · cases h
  · next hsend =>
      split at h
      · cases h
      · next hreceive =>
          simp only [Bool.not_eq_false] at hsend hreceive
          split at h
          · next hwaiting =>
              cases h
              exact ⟨⟨hsend, hreceive, .inl hwaiting⟩, rfl, rfl, rfl⟩
          · split at h
            · next hroom =>
                cases h
                exact ⟨⟨hsend, hreceive, .inr hroom⟩, rfl, rfl, rfl⟩
            · cases h

/-- A refusal names its reason: only a full buffer would block. -/
theorem sendNowait_refused {error : SendError} (h : s.sendNowait object = .error error) :
    ¬ s.Accepts ∧
      (error = .wouldBlock ↔ s.sendOpen = true ∧ s.receiveOpen = true) := by
  unfold sendNowait at h
  split at h
  · next hsend =>
      cases h
      simp [Accepts, hsend]
  · next hsend =>
      split at h
      · next hreceive =>
          cases h
          simp [Accepts, hreceive]
      · next hreceive =>
          simp only [Bool.not_eq_false] at hsend hreceive
          split at h
          · cases h
          · next hwaiting =>
              split at h
              · cases h
              · next hroom =>
                  cases h
                  simp only [Accepts, hsend, hreceive]
                  exact ⟨by omega, by simp⟩

theorem receive_keeps (s : MemoryStream α) :
    s.receive.2.sent = s.sent ∧ s.receive.2.sendOpen = s.sendOpen := by
  unfold receive
  split
  · exact ⟨rfl, rfl⟩
  · split
    · exact ⟨rfl, rfl⟩
    · split <;> exact ⟨rfl, rfl⟩

/-- Nothing but sending adds to what was sent. -/
theorem apply_sent {op : Op} (h : s.apply op = some s') : s'.sent = s.sent := by
  cases op with
  | receive =>
      cases h
      exact s.receive_keeps.1
  | abandon =>
      simp only [apply, abandon] at h
      split at h
      · cases h
        rfl
      · cases h
  | closeSend | closeReceive =>
      cases h
      rfl

theorem apply_sendOpen {op : Op} (h : s.apply op = some s') (hop : op ≠ .closeSend) :
    s'.sendOpen = s.sendOpen := by
  cases op with
  | receive =>
      cases h
      exact s.receive_keeps.2
  | abandon =>
      simp only [apply, abandon] at h
      split at h
      · cases h
        rfl
      · cases h
  | closeSend => exact absurd rfl hop
  | closeReceive =>
      cases h
      rfl

end MemoryStream
