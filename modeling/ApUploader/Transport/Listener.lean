import ApUploader.Logic.Machine
import ApUploader.Network.SharedSocket

/-! # A transport that waits for its peer

The transport has no peer until a datagram arrives. The sender of the first one that
`receive()` takes is the peer from then on, also when the socket is closed and opened
again: what others send is skipped, and what is sent goes to the peer.
-/

namespace ApUploader

structure UDPListenerTransport where
  /-- What the socket has received and `receive()` has not taken, if there is a socket. -/
  socket : Option (List Datagram) := none
  remoteAddress : Option IPAddressAndPort := none
  /-- A `receive()` is in its loop. -/
  receiving : Bool := false
  /-- The datagrams that `receive()` took, what it returned, and what was sent, each in order. -/
  taken : List Datagram := []
  returned : List Bytes := []
  sent : List Datagram := []
  deriving Repr, DecidableEq

inductive ListenerMove where
  | enter
  | arrive (payload : Bytes) (sender : IPAddressAndPort)
  | receive
  /-- The loop of `receive()` goes round. -/
  | next
  | cancelReceive
  | send (data : Bytes)
  | aclose
  deriving Repr, DecidableEq

namespace UDPListenerTransport

/-- The body of the loop of `receive()`. -/
def next (t : UDPListenerTransport) : Option UDPListenerTransport :=
  match t.receiving, t.socket with
  | true, some ((payload, sender) :: rest) =>
      let after := { t with socket := some rest, taken := t.taken ++ [(payload, sender)] }
      match t.remoteAddress with
      | none =>
          some { after with
            remoteAddress := some sender
            receiving := false
            returned := t.returned ++ [payload] }
      | some remote =>
          if sender ≠ remote then some after
          else some { after with receiving := false, returned := t.returned ++ [payload] }
  | _, _ => none

def send (t : UDPListenerTransport) (data : Bytes) : UDPListenerTransport :=
  match t.socket, t.remoteAddress with
  | some _, some remote => { t with sent := t.sent ++ [(data, remote)] }
  | _, _ => t

def step (t : UDPListenerTransport) : ListenerMove → Option UDPListenerTransport
  | .enter => if t.socket.isNone then some { t with socket := some [] } else none
  | .arrive payload sender =>
      t.socket.map fun queue => { t with socket := some (queue ++ [(payload, sender)]) }
  | .receive =>
      if t.receiving = false then some { t with receiving := t.socket.isSome } else none
  | .next => t.next
  | .cancelReceive => some { t with receiving := false }
  | .send data => some (t.send data)
  | .aclose => some { t with socket := none, receiving := false }

def machine : Machine UDPListenerTransport ListenerMove := ⟨step⟩

/-- Everything depends on the datagram that was taken first. -/
structure Latched (t : UDPListenerTransport) : Prop where
  remoteAddress : t.remoteAddress = t.taken.head?.map Prod.snd
  returned : t.returned = (t.taken.filter fun d => t.remoteAddress = some d.2).map Prod.fst
  sent : ∀ d ∈ t.sent, t.remoteAddress = some d.2

variable {t t' : UDPListenerTransport}

theorem Latched.next (h : t.Latched) (hstep : t.next = some t') : t'.Latched := by
  have hhead := h.remoteAddress
  have hreturned := h.returned
  unfold UDPListenerTransport.next at hstep
  split at hstep
  · next payload sender rest _ _ =>
      dsimp only at hstep
      split at hstep
      · next hremote =>
          cases hstep
          have hnone : t.taken = [] := by
            cases htaken : t.taken with
            | nil => rfl
            | cons first others => simp [htaken, hremote] at hhead
          refine ⟨by simp [hnone], by simp [hreturned, hnone], fun d hd => ?_⟩
          have hsent := h.sent d hd
          rw [hremote] at hsent
          cases hsent
      · next remote hremote =>
          have hkept : t.remoteAddress =
              (t.taken ++ [(payload, sender)]).head?.map Prod.snd := by
            cases htaken : t.taken with
            | nil => simp [htaken, hremote] at hhead
            | cons first others => simpa [htaken] using hhead
          split at hstep
          · next hother =>
              cases hstep
              refine ⟨hkept, ?_, h.sent⟩
              simp [hreturned, hremote, Ne.symm hother]
          · next hsame =>
              cases hstep
              refine ⟨hkept, ?_, h.sent⟩
              simp only [ne_eq, Decidable.not_not] at hsame
              simp [hreturned, hremote, hsame]
  · cases hstep

theorem Latched.send (h : t.Latched) (data : Bytes) : (t.send data).Latched := by
  unfold UDPListenerTransport.send
  split
  · next remote _ hremote =>
      refine ⟨h.remoteAddress, h.returned, fun d hd => ?_⟩
      rcases List.mem_append.mp hd with hold | hnew
      · exact h.sent d hold
      · rw [List.mem_singleton.mp hnew]
        exact hremote
  · exact h

theorem Latched.step {move : ListenerMove} (h : t.Latched)
    (hstep : machine.step t move = some t') : t'.Latched := by
  cases move with
  | enter | receive =>
      obtain ⟨-, rfl⟩ := Machine.guarded hstep
      exact ⟨h.remoteAddress, h.returned, h.sent⟩
  | arrive payload sender =>
      obtain ⟨queue, -, rfl⟩ := Option.map_eq_some_iff.mp hstep
      exact ⟨h.remoteAddress, h.returned, h.sent⟩
  | next => exact h.next hstep
  | send data =>
      cases hstep
      exact h.send data
  | cancelReceive | aclose =>
      cases hstep
      exact ⟨h.remoteAddress, h.returned, h.sent⟩

/-- In every run the peer is the sender of the datagram that was taken first; `receive()` returns
its datagrams, all that are taken and in order, and whatever is sent goes to it. -/
theorem latched {moves : List ListenerMove} (hrun : machine.run {} moves = some t) : t.Latched := by
  have hstep : ∀ (t : UDPListenerTransport) move t', t.Latched → machine.step t move = some t' →
      t'.Latched := fun t move t' h => h.step
  exact machine.run_preserves hstep hrun ⟨rfl, rfl, nofun⟩

theorem latched_reopened :
    ∃ t, machine.run {} [.enter, .receive, .arrive [1] ("10.0.0.1", 5), .next, .aclose, .enter,
        .receive, .arrive [2] ("10.0.0.2", 5), .arrive [3] ("10.0.0.1", 5), .next, .next,
        .send [4]] = some t ∧
      t.returned = [[1], [3]] ∧ t.sent = [([4], ("10.0.0.1", 5))] ∧ t.Latched := by
  have hrun : machine.run {} [.enter, .receive, .arrive [1] ("10.0.0.1", 5), .next, .aclose, .enter,
      .receive, .arrive [2] ("10.0.0.2", 5), .arrive [3] ("10.0.0.1", 5), .next, .next,
      .send [4]] = some _ := rfl
  exact ⟨_, hrun, by decide, by decide, latched hrun⟩

end UDPListenerTransport

end ApUploader
