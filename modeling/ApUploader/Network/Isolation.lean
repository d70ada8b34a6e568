import ApUploader.Network.Journal

/-! # Peers in each other's way

The worker serves all peers, so what ends it ends every upload. A datagram for a
registered peer whose queue is full, or whose subscription is being closed, is refused
with an exception that nobody catches; one that the handler cannot take is dropped.
-/

namespace ApUploader

namespace SharedUDPSocket

/-- The worker has not stopped while the socket was open, and the next datagram of a peer whose
queue takes it comes there. -/
structure Isolated (s : SharedUDPSocket) : Prop where
  stops : s.worker ≠ .reading → s.socketOpen = false
  delivers : s.socketOpen = true → ∀ payload sender id sub,
    s.subscriptions.lookup sender = some id → s.created[id]? = some sub → sub.stream.Accepts →
      ∃ s', s.step (.arrive payload sender) = some s' ∧ s'.worker = .reading ∧
        s'.queuedAt (.subscription id) = s.queuedAt (.subscription id) ++ [s.arrived.length]

/-- The queue that the sender is mapped to takes a datagram. A handler may be full, but it must
not have closed its end. -/
def Welcome (s : SharedUDPSocket) (sender : IPAddressAndPort) : Prop :=
  match s.subscriptions.lookup sender with
  | some id => ∃ sub ∈ s.created[id]?, sub.stream.Accepts
  | none =>
      match s.unmatchedQueue with
      | some id => ∃ handler ∈ s.handlers[id]?, handler.stream.receiveOpen = true
      | none => True

instance (s : SharedUDPSocket) (sender : IPAddressAndPort) : Decidable (s.Welcome sender) := by
  unfold Welcome
  split
  · infer_instance
  · split <;> infer_instance

def ArrivesWelcome (s : SharedUDPSocket) : SocketMove → Prop
  | .arrive _ sender => s.socketOpen = true → s.Welcome sender
  | _ => True

instance (s : SharedUDPSocket) (move : SocketMove) : Decidable (s.ArrivesWelcome move) := by
  cases move <;> unfold ArrivesWelcome <;> infer_instance

variable {s s' : SharedUDPSocket} {payload : Bytes} {sender : IPAddressAndPort}

/-- The worker survives the welcome datagrams, and no other. -/
theorem Arrival.worker_iff (h : s.Wired) (hreading : s.worker = .reading)
    (harrival : s.Arrival payload sender s') : s'.worker = .reading ↔ s.Welcome sender := by
  cases harrival with
  | queued hlookup hsub hpeer hsend =>
      refine iff_of_true hreading ?_
      simp only [Welcome, hlookup]
      exact ⟨_, hsub, (MemoryStream.sendNowait_spec hsend).1⟩
  | refused hlookup hsub hsend =>
      have hrefused := (MemoryStream.sendNowait_refused hsend).1
      simp [Welcome, hlookup, hsub, hrefused]
  | unmatched hlookup hqueue hhandler hleft hsend =>
      refine iff_of_true hreading ?_
      simp only [Welcome, hlookup, hqueue]
      exact ⟨_, hhandler, (MemoryStream.sendNowait_spec hsend).1.2.1⟩
  | dropped hlookup hqueue hhandler hleft hsend =>
      refine iff_of_true hreading ?_
      simp only [Welcome, hlookup, hqueue]
      exact ⟨_, hhandler, ((MemoryStream.sendNowait_refused hsend).2.mp rfl).2⟩
  | broken hlookup hqueue hhandler hleft hsend herror =>
      -- the send end is open as long as the handler is registered
      have hopen := h.handlerOpen _ (List.mem_of_getElem? hhandler) hleft
      have hclosed := mt (MemoryStream.sendNowait_refused hsend).2.mpr herror
      simp_all [Welcome]
  | unheard hlookup hqueue =>
      refine iff_of_true hreading ?_
      simp [Welcome, hlookup, hqueue]

/-- Delivery to the others is a matter of the worker alone. -/
theorem Wired.isolated_iff (h : s.Wired) :
    s.Isolated ↔ (s.worker ≠ .reading → s.socketOpen = false) := by
  refine ⟨Isolated.stops, fun hstops => ⟨hstops, ?_⟩⟩
  intro hopen payload sender id sub hlookup hsub haccepts
  have hreading : s.worker = .reading := by
    by_contra hstopped
    exact absurd hopen (by simp [hstops hstopped])
  obtain ⟨s', hworker, harrival⟩ := readerWorker_spec h payload sender
  refine ⟨s', by simp [SharedUDPSocket.step, hreading, hworker], ?_, ?_⟩
  · rw [harrival.worker_iff h hreading]
    simp only [Welcome, hlookup]
    exact ⟨sub, hsub, haccepts⟩
  · have htakes : s.Takes sender (.subscription id) := ⟨hlookup, sub, hsub, haccepts⟩
    rw [queuedAt, harrival.journal_of_takes htakes]
    rfl

theorem Isolated.step_iff {move : SocketMove} (hwired : s.Wired) (h : s.Isolated)
    (hstep : s.step move = some s') : s'.Isolated ↔ s.ArrivesWelcome move := by
  rw [(hwired.step hstep).isolated_iff]
  rcases step_cases hwired hstep with ⟨payload, sender, rfl, hreading, harrival⟩ | ⟨hmove, hquiet⟩
  · have hworker := harrival.worker_iff hwired hreading
    rw [harrival.socketOpen]
    simp only [ArrivesWelcome, ← hworker]
    cases s.socketOpen <;> simp
  · have hwelcome : s.ArrivesWelcome move := by
      cases move with
      | arrive payload sender => exact absurd rfl (hmove payload sender)
      | _ => trivial
    refine iff_of_true ?_ hwelcome
    rcases hquiet.worker with ⟨hworker, hopen⟩ | hclosed
    · rw [hworker, hopen]
      exact h.stops
    · exact fun _ => hclosed

/-- In a run the peers are isolated from each other in every state exactly when no datagram comes,
while the socket is open, for a queue that cannot take it. -/
theorem isolated_iff_welcome (bufferSize : Nat) (moves : List SocketMove) (s : SharedUDPSocket)
    (hrun : machine.run (new bufferSize) moves = some s) :
    machine.Always Isolated (new bufferSize) moves ↔
      machine.Throughout ArrivesWelcome (new bufferSize) moves :=
  Machine.always_iff_throughout (fun _ _ _ h hstep => h.step hstep)
    (fun _ _ _ hwired h hstep => h.step_iff hwired hstep) hrun (new_wired bufferSize)
    ((new_wired bufferSize).isolated_iff.mpr fun h => absurd rfl h)

def vehicle : IPAddressAndPort := ("10.0.0.1", 14555)

def otherVehicle : IPAddressAndPort := ("10.0.0.2", 14555)

theorem isolated_iff_welcome_one :
    machine.Always Isolated (new 64) [.subscribe vehicle, .arrive [0] vehicle] ↔
      machine.Throughout ArrivesWelcome (new 64) [.subscribe vehicle, .arrive [0] vehicle] :=
  isolated_iff_welcome 64 [.subscribe vehicle, .arrive [0] vehicle] _ rfl

/-- A datagram comes between the closing of the send end and the end of the context. -/
def closingWindow : List SocketMove :=
  [.subscribe vehicle, .subscribe otherVehicle, .onSubscription 0 .closeSend, .arrive [0] vehicle]

/-- One vehicle sends more than its queue holds while nobody reads it. -/
def overflow : List SocketMove :=
  .subscribe vehicle :: .subscribe otherVehicle :: List.replicate 65 (.arrive [0] vehicle)

/-- Each of the two ends the worker of an open socket, and nothing comes to the other vehicle. -/
theorem not_always_isolated :
    (∃ s, machine.run (new 64) closingWindow = some s ∧ s.worker = .failed .closedResource ∧
        s.socketOpen = true ∧ s.step (.arrive [1] otherVehicle) = none) ∧
      (∃ s, machine.run (new 64) overflow = some s ∧ s.worker = .failed .wouldBlock ∧
        s.socketOpen = true ∧ s.step (.arrive [1] otherVehicle) = none) ∧
      ¬ ∀ bufferSize moves s, machine.run (new bufferSize) moves = some s →
        machine.Always Isolated (new bufferSize) moves := by
  refine ⟨⟨_, rfl, rfl, rfl, rfl⟩, ⟨_, rfl, rfl, rfl, rfl⟩, ?_⟩
  intro hisolated
  have hlast := (hisolated 64 closingWindow _ rfl).last rfl
  exact absurd (hlast.stops (by decide)) (by decide)

end SharedUDPSocket

/-! ## Closing a transport -/

/-- `UDPTransport.aclose` closes both ends of its subscription, and leaves the context, which
closes them again. -/
def UDPTransport.aclose (id : Nat) : List SocketMove :=
  [.onSubscription id .closeSend, .onSubscription id .closeReceive,
    .onSubscription id .closeSend, .onSubscription id .closeReceive, .unsubscribe id]

namespace SharedUDPSocket

def Closing (sender : IPAddressAndPort) (id : Nat) (s : SharedUDPSocket) : Prop :=
  s.subscriptions.lookup sender = some id ∧
    ∃ sub, s.created[id]? = some sub ∧ sub.left = false ∧ sub.stream.sendOpen = false

theorem Closing.not_welcome {s : SharedUDPSocket} {sender : IPAddressAndPort} {id : Nat}
    (h : s.Closing sender id) : ¬ s.Welcome sender := by
  obtain ⟨hlookup, sub, hsub, -, hclosed⟩ := h
  simp [Welcome, hlookup, hsub, MemoryStream.Accepts, hclosed]

/-- Closing an end leads into the window, and does not lead out of it. -/
theorem closing_step {s : SharedUDPSocket} {sub : SharedUDPSocketSubscription}
    {sender : IPAddressAndPort} {id : Nat} {op : MemoryStream.Op}
    (hlookup : s.subscriptions.lookup sender = some id) (hsub : s.created[id]? = some sub)
    (hleft : sub.left = false)
    (hop : op = .closeSend ∨ op = .closeReceive ∧ sub.stream.sendOpen = false) :
    ∃ s', s.step (.onSubscription id op) = some s' ∧ s'.Closing sender id := by
  have hlength : id < s.created.length := (List.getElem?_eq_some_iff.mp hsub).1
  have hperform : ∃ next, sub.perform op = some next ∧ next.left = sub.left ∧
      next.stream.sendOpen = false := by
    rcases hop with rfl | ⟨rfl, hclosed⟩
    · exact ⟨_, rfl, rfl, rfl⟩
    · refine ⟨{ sub with stream := sub.stream.closeReceive }, ?_, rfl, hclosed⟩
      simp [SharedUDPSocketSubscription.perform, hclosed, MemoryStream.apply]
  obtain ⟨next, hnext, hsame, hclosed⟩ := hperform
  refine ⟨{ s with created := s.created.set id next }, by simp [step, hsub, hnext], hlookup, next,
    List.getElem?_set_self hlength, hsame.trans hleft, hclosed⟩

theorem Closing.closes {s : SharedUDPSocket} {sender : IPAddressAndPort} {id : Nat}
    {op : MemoryStream.Op} (h : s.Closing sender id) (hop : op = .closeSend ∨ op = .closeReceive) :
    ∃ s', s.step (.onSubscription id op) = some s' ∧ s'.Closing sender id := by
  obtain ⟨hlookup, sub, hsub, hleft, hclosed⟩ := h
  exact closing_step hlookup hsub hleft (hop.imp_right fun h => ⟨h, hclosed⟩)

/-- From its first move to its last one, closing a transport keeps the entry of a subscription that
takes nothing. -/
theorem aclose_window {s : SharedUDPSocket} {sender : IPAddressAndPort} {id : Nat} (h : s.Wired)
    (hlookup : s.subscriptions.lookup sender = some id) :
    (∀ k < 4, ∃ s', machine.run s ((UDPTransport.aclose id).take (k + 1)) = some s' ∧
        ¬ s'.Welcome sender) ∧
      ∃ s', machine.run s (UDPTransport.aclose id) = some s' ∧
        s'.subscriptions.lookup sender = none := by
  obtain ⟨sub, hsub, hpeer, hleft⟩ := (h.entry sender id).mp hlookup
  obtain ⟨s₁, hfirst, hclosing₁⟩ := closing_step hlookup hsub hleft (.inl rfl)
  obtain ⟨s₂, hsecond, hclosing₂⟩ := hclosing₁.closes (.inr rfl)
  obtain ⟨s₃, hthird, hclosing₃⟩ := hclosing₂.closes (.inl rfl)
  obtain ⟨s₄, hfourth, hclosing₄⟩ := hclosing₃.closes (.inr rfl)
  have hwired := (((h.step hfirst).step hsecond).step hthird).step hfourth
  constructor
  · intro k hk
    have hcases : k = 0 ∨ k = 1 ∨ k = 2 ∨ k = 3 := by omega
    rcases hcases with rfl | rfl | rfl | rfl
    · exact ⟨s₁, by simp [UDPTransport.aclose, Machine.run, machine, hfirst],
        hclosing₁.not_welcome⟩
    · exact ⟨s₂, by simp [UDPTransport.aclose, Machine.run, machine, hfirst, hsecond],
        hclosing₂.not_welcome⟩
    · exact ⟨s₃, by simp [UDPTransport.aclose, Machine.run, machine, hfirst, hsecond, hthird],
        hclosing₃.not_welcome⟩
    · exact ⟨s₄, by simp [UDPTransport.aclose, Machine.run, machine, hfirst, hsecond, hthird,
        hfourth], hclosing₄.not_welcome⟩
  · obtain ⟨hlookup', last, hlast, hleft', hclosed⟩ := hclosing₄
    obtain ⟨last', hlast', hpeer', -⟩ := (hwired.entry sender id).mp hlookup'
    rw [hlast] at hlast'
    cases hlast'
    have hleave : ∃ s', s₄.step (.unsubscribe id) = some s' ∧
        s'.subscriptions.lookup sender = none := by
      refine ⟨{ s₄ with
        created := s₄.created.set id { last with left := true }
        subscriptions := s₄.subscriptions.erase last.peer }, ?_, ?_⟩
      · simp [step, unsubscribe, hlast, hleft', hclosed]
      · rw [← hpeer']
        exact AList.lookup_erase _ _
    obtain ⟨s₅, hfifth, hgone⟩ := hleave
    exact ⟨s₅, by simp [UDPTransport.aclose, Machine.run, machine, hfirst, hsecond, hthird,
      hfourth, hfifth], hgone⟩

end SharedUDPSocket

end ApUploader
