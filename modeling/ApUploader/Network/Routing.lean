import ApUploader.Network.Journal

/-! # Where the datagrams go

Each datagram is in one queue at most: the one of the subscription for its sender, or the
one of the handler when there is no subscription. What a receiver has got is the first
part of what was queued for it.
-/

namespace ApUploader

namespace SharedUDPSocket

/-- The journals tell positions at which these datagrams have arrived, in order, and no position
is in two of them. -/
structure Journaled (s : SharedUDPSocket) : Prop where
  contents : ∀ d, (s.journal d).positions.map (s.arrived[·]?) = (s.journal d).datagrams.map some
  inOrder : ∀ d, (s.queuedAt d).Pairwise (· < ·)
  once : ∀ d e position, position ∈ s.queuedAt d → position ∈ s.queuedAt e → d = e

variable {s s' : SharedUDPSocket}

theorem new_journaled (bufferSize : Nat) : (new bufferSize).Journaled := by
  have hempty : ∀ d, (new bufferSize).journal d = {} := by
    intro d
    cases d <;> rfl
  refine ⟨?_, ?_, ?_⟩ <;> simp [queuedAt, hempty]

theorem Journaled.position_lt (h : s.Journaled) {d : Destination} {position : Nat}
    (hmem : position ∈ s.queuedAt d) : position < s.arrived.length := by
  have hcontents := List.mem_map_of_mem (f := (s.arrived[·]?)) hmem
  rw [queuedAt, h.contents d, List.mem_map] at hcontents
  obtain ⟨datagram, -, hdatagram⟩ := hcontents
  exact (List.getElem?_eq_some_iff.mp hdatagram.symm).1

theorem Journaled.quiet (h : s.Journaled) (hquiet : s.Quiet s') : s'.Journaled := by
  refine ⟨?_, ?_, ?_⟩
  · intro d
    rw [hquiet.journal, hquiet.arrived]
    exact h.contents d
  · intro d
    rw [queuedAt, hquiet.journal]
    exact h.inOrder d
  · intro d e position
    rw [queuedAt, queuedAt, hquiet.journal, hquiet.journal]
    exact h.once d e position

theorem Journaled.arrival {payload : Bytes} {sender : IPAddressAndPort} (h : s.Journaled)
    (harrival : s.Arrival payload sender s') : s'.Journaled := by
  -- earlier positions still tell the same datagrams
  have hearlier : ∀ d, (s.journal d).positions.map (s'.arrived[·]?) =
      (s.journal d).datagrams.map some := by
    intro d
    rw [← h.contents d, harrival.arrived]
    apply List.map_congr_left
    intro position hmem
    exact List.getElem?_append_left (h.position_lt hmem)
  have hmem : ∀ d position, position ∈ s'.queuedAt d →
      position ∈ s.queuedAt d ∨ s.Takes sender d ∧ position = s.arrived.length := by
    intro d position hposition
    by_cases htakes : s.Takes sender d
    · rw [queuedAt, harrival.journal_of_takes htakes] at hposition
      rcases List.mem_append.mp hposition with hposition | hposition
      · exact .inl hposition
      · exact .inr ⟨htakes, List.mem_singleton.mp hposition⟩
    · rw [queuedAt, harrival.journal_of_not_takes htakes] at hposition
      exact .inl hposition
  refine ⟨?_, ?_, ?_⟩
  · intro d
    by_cases htakes : s.Takes sender d
    · rw [harrival.journal_of_takes htakes]
      simp only [Journal.push, List.map_append, hearlier, List.map_singleton]
      simp [harrival.arrived]
    · rw [harrival.journal_of_not_takes htakes]
      exact hearlier d
  · intro d
    by_cases htakes : s.Takes sender d
    · rw [queuedAt, harrival.journal_of_takes htakes]
      refine List.pairwise_append.mpr ⟨h.inOrder d, List.pairwise_singleton _ _, ?_⟩
      intro position hposition last hlast
      rw [List.mem_singleton.mp hlast]
      exact h.position_lt hposition
    · rw [queuedAt, harrival.journal_of_not_takes htakes]
      exact h.inOrder d
  · intro d e position hd he
    rcases hmem d position hd with hd | ⟨htakesd, hlastd⟩
    · rcases hmem e position he with he | ⟨-, hlaste⟩
      · exact h.once d e position hd he
      · exact absurd (h.position_lt hd) (by omega)
    · rcases hmem e position he with he | ⟨htakese, -⟩
      · exact absurd (h.position_lt he) (by omega)
      · exact htakesd.unique htakese

theorem journaled_run {bufferSize : Nat} {moves : List SocketMove}
    (hrun : machine.run (new bufferSize) moves = some s) : s.Wired ∧ s.Journaled := by
  have hstep : ∀ s move s', s.Wired ∧ s.Journaled → machine.step s move = some s' →
      s'.Wired ∧ s'.Journaled := by
    intro s move s' h hstep
    obtain ⟨hwired, hjournaled⟩ := h
    refine ⟨hwired.step hstep, ?_⟩
    rcases step_cases hwired hstep with ⟨payload, sender, rfl, -, harrival⟩ | ⟨-, hquiet⟩
    · exact hjournaled.arrival harrival
    · exact hjournaled.quiet hquiet
  exact machine.run_preserves hstep hrun ⟨new_wired bufferSize, new_journaled bufferSize⟩

/-- Every datagram goes to one queue at most, in the order of arrival, and to the right one. -/
structure RoutedExactly (s : SharedUDPSocket) : Prop where
  once : ∀ d e position, position ∈ s.queuedAt d → position ∈ s.queuedAt e → d = e
  inOrder : ∀ d, (s.queuedAt d).Pairwise (· < ·)
  /-- What is queued for a subscription has come from its peer. -/
  ownPeer : ∀ id sub, s.created[id]? = some sub → ∀ position ∈ s.queuedAt (.subscription id),
    ∃ payload, s.arrived[position]? = some (payload, sub.peer)
  /-- What a receiver has got are the first datagrams that were queued for it. -/
  received : ∀ id sub, s.created[id]? = some sub →
    (sub.stream.received.map fun payload => some (payload, sub.peer)) <+:
      (s.queuedAt (.subscription id)).map (s.arrived[·]?)
  receivedUnmatched : ∀ id handler, s.handlers[id]? = some handler →
    handler.stream.received.map some <+: (s.queuedAt (.handler id)).map (s.arrived[·]?)
  /-- A peer has one subscription at most. -/
  single : ∀ (i j : Nat) (sub other : SharedUDPSocketSubscription), s.created[i]? = some sub →
    s.created[j]? = some other → sub.peer = other.peer → sub.left = false → other.left = false →
      i = j
  /-- The next datagram of a registered peer goes to its subscription, if that takes it, and
  nowhere else. -/
  matched : ∀ payload sender id sub s', s.subscriptions.lookup sender = some id →
    s.created[id]? = some sub → s.step (.arrive payload sender) = some s' →
      (sub.stream.Accepts → s'.queuedAt (.subscription id) =
        s.queuedAt (.subscription id) ++ [s.arrived.length]) ∧
      (¬ sub.stream.Accepts →
        s'.queuedAt (.subscription id) = s.queuedAt (.subscription id)) ∧
      ∀ d, d ≠ .subscription id → s'.queuedAt d = s.queuedAt d
  /-- The next datagram of any other peer goes to no subscription. -/
  unmatched : ∀ payload sender s', s.subscriptions.lookup sender = none →
    s.step (.arrive payload sender) = some s' →
      ∀ id, s'.queuedAt (.subscription id) = s.queuedAt (.subscription id)
  /-- The dictionary tells the subscription whose context has not been left. -/
  registered : ∀ peer id, s.subscriptions.lookup peer = some id ↔
    ∃ sub, s.created[id]? = some sub ∧ sub.peer = peer ∧ sub.left = false

theorem arrival_of_step {payload : Bytes} {sender : IPAddressAndPort} (h : s.Wired)
    (hstep : s.step (.arrive payload sender) = some s') : s.Arrival payload sender s' := by
  rcases step_cases h hstep with ⟨_, _, hmove, -, harrival⟩ | ⟨hmove, -⟩
  · cases hmove
    exact harrival
  · exact absurd rfl (hmove payload sender)

theorem Arrival.queuedAt_of_takes {payload : Bytes} {sender : IPAddressAndPort} {d : Destination}
    (harrival : s.Arrival payload sender s') (h : s.Takes sender d) :
    s'.queuedAt d = s.queuedAt d ++ [s.arrived.length] := by
  rw [queuedAt, harrival.journal_of_takes h]
  rfl

theorem Arrival.queuedAt_of_not_takes {payload : Bytes} {sender : IPAddressAndPort}
    {d : Destination} (harrival : s.Arrival payload sender s') (h : ¬ s.Takes sender d) :
    s'.queuedAt d = s.queuedAt d := by
  rw [queuedAt, harrival.journal_of_not_takes h]
  rfl

/-- In every state of every run. -/
theorem routed_exactly (bufferSize : Nat) (moves : List SocketMove) (s : SharedUDPSocket)
    (hrun : machine.run (new bufferSize) moves = some s) : s.RoutedExactly := by
  obtain ⟨hwired, hjournaled⟩ := journaled_run hrun
  refine ⟨hjournaled.once, hjournaled.inOrder, ?_, ?_, ?_, ?_, ?_, ?_, hwired.entry⟩
  · intro id sub hsub position hmem
    have hcontents := List.mem_map_of_mem (f := (s.arrived[·]?)) hmem
    rw [queuedAt, hjournaled.contents, journal_subscription hsub] at hcontents
    simp only [SharedUDPSocketSubscription.journal, List.map_map, List.mem_map] at hcontents
    obtain ⟨payload, -, hpayload⟩ := hcontents
    exact ⟨payload, hpayload.symm⟩
  · intro id sub hsub
    rw [queuedAt, hjournaled.contents, journal_subscription hsub]
    simp only [SharedUDPSocketSubscription.journal, List.map_map]
    exact sub.stream.received_isPrefix.map _
  · intro id handler hhandler
    rw [queuedAt, hjournaled.contents, journal_handler hhandler]
    exact handler.stream.received_isPrefix.map _
  · intro i j sub other hsub hother hpeer hleft hleft'
    exact hwired.single hsub hother hpeer hleft hleft'
  · intro payload sender id sub s' hlookup hsub hstep
    have harrival := arrival_of_step hwired hstep
    have htakes := takes_iff_of_matched hlookup hsub
    refine ⟨?_, ?_, ?_⟩
    · intro haccepts
      exact harrival.queuedAt_of_takes ((htakes _).mpr ⟨rfl, haccepts⟩)
    · intro hrefuses
      exact harrival.queuedAt_of_not_takes fun h => hrefuses ((htakes _).mp h).2
    · intro d hd
      exact harrival.queuedAt_of_not_takes fun h => hd ((htakes d).mp h).1
  · intro payload sender s' hlookup hstep id
    have harrival := arrival_of_step hwired hstep
    apply harrival.queuedAt_of_not_takes
    simp [Takes, hlookup]

/-- Two peers and a third one that nobody has subscribed to. The first peer is closed, heard by
the handler in between, and opened again. -/
def twoPeers : List SocketMove :=
  [.handleUnmatched 10, .subscribe ("10.0.0.1", 14555), .subscribe ("10.0.0.2", 14555),
    .arrive [0] ("10.0.0.2", 14555), .arrive [1] ("10.0.0.1", 14555),
    .arrive [2] ("10.0.0.3", 14555), .onSubscription 0 .receive, .arrive [3] ("10.0.0.1", 14555),
    .onSubscription 0 .closeSend, .onSubscription 0 .closeReceive, .unsubscribe 0,
    .arrive [4] ("10.0.0.1", 14555), .subscribe ("10.0.0.1", 14555),
    .arrive [5] ("10.0.0.1", 14555), .arrive [6] ("10.0.0.2", 14555)]

theorem routed_exactly_two_peers :
    ∃ s, machine.run (new 10) twoPeers = some s ∧
      s.queuedAt (.subscription 0) = [1, 3] ∧ s.queuedAt (.subscription 1) = [0, 6] ∧
      s.queuedAt (.subscription 2) = [5] ∧ s.queuedAt (.handler 0) = [2, 4] ∧
      s.RoutedExactly :=
  ⟨_, rfl, rfl, rfl, rfl, rfl, routed_exactly 10 twoPeers _ rfl⟩

def unread : List SocketMove := [.subscribe ("10.0.0.1", 14555), .arrive [0] ("10.0.0.1", 14555)]

/-- The next datagram is not queued, although there is a subscription for its sender. -/
theorem full_queue_refuses :
    (∃ s s', machine.run (new 1) unread = some s ∧
      s.subscriptions.lookup ("10.0.0.1", 14555) = some 0 ∧
      s.step (.arrive [1] ("10.0.0.1", 14555)) = some s' ∧ s'.queuedAt (.subscription 0) = [0]) ∧
    ¬ ∀ bufferSize moves s, machine.run (new bufferSize) moves = some s →
      ∀ payload sender id s', s.subscriptions.lookup sender = some id →
        s.step (.arrive payload sender) = some s' →
          s'.queuedAt (.subscription id) =
            s.queuedAt (.subscription id) ++ [s.arrived.length] := by
  refine ⟨⟨_, _, rfl, rfl, rfl, rfl⟩, ?_⟩
  intro hqueued
  have hnext := hqueued 1 unread _ rfl [1] ("10.0.0.1", 14555) 0 _ rfl rfl
  exact absurd hnext (by decide)

end SharedUDPSocket

end ApUploader
