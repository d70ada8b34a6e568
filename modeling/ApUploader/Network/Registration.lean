import ApUploader.Network.SharedSocket

/-! # Who is registered

The dictionary holds the subscriptions whose context has not been left, and nothing
else. An entry is removed by its peer, not by its subscription, so this needs that a
peer has no second one.
-/

namespace ApUploader

namespace SharedUDPSocket

structure Wired (s : SharedUDPSocket) : Prop where
  entry : ∀ peer id, s.subscriptions.lookup peer = some id ↔
    ∃ sub, s.created[id]? = some sub ∧ sub.peer = peer ∧ sub.left = false
  handler : ∀ id, s.unmatchedQueue = some id ↔
    ∃ handler, s.handlers[id]? = some handler ∧ handler.left = false
  handlerOpen : ∀ handler ∈ s.handlers, handler.left = false → handler.stream.sendOpen = true

theorem new_wired (bufferSize : Nat) : (new bufferSize).Wired := by
  refine ⟨?_, ?_, ?_⟩ <;> simp [new]

variable {s s' : SharedUDPSocket} {id : Nat}

theorem Wired.setSubscription {sub next : SharedUDPSocketSubscription} (h : s.Wired)
    (hsub : s.created[id]? = some sub) (hcreated : s'.created = s.created.set id next)
    (hpeer : next.peer = sub.peer) (hleft : next.left = sub.left)
    (hsubscriptions : s'.subscriptions = s.subscriptions) (hhandlers : s'.handlers = s.handlers)
    (hqueue : s'.unmatchedQueue = s.unmatchedQueue) : s'.Wired := by
  have hlength : id < s.created.length := (List.getElem?_eq_some_iff.mp hsub).1
  refine ⟨?_, ?_, ?_⟩
  · intro peer other
    rw [hsubscriptions, hcreated, h.entry]
    by_cases hother : id = other
    · subst hother
      rw [List.getElem?_set_self hlength, hsub]
      simp [hpeer, hleft]
    · rw [List.getElem?_set_ne hother]
  · rw [hqueue, hhandlers]
    exact h.handler
  · rw [hhandlers]
    exact h.handlerOpen

theorem Wired.setHandler {handler next : UnmatchedHandler} (h : s.Wired)
    (hhandler : s.handlers[id]? = some handler)
    (hhandlers : s'.handlers = s.handlers.set id next) (hleft : next.left = handler.left)
    (hopen : next.left = false → next.stream.sendOpen = true) (hcreated : s'.created = s.created)
    (hsubscriptions : s'.subscriptions = s.subscriptions)
    (hqueue : s'.unmatchedQueue = s.unmatchedQueue) : s'.Wired := by
  have hlength : id < s.handlers.length := (List.getElem?_eq_some_iff.mp hhandler).1
  refine ⟨?_, ?_, ?_⟩
  · rw [hcreated, hsubscriptions]
    exact h.entry
  · intro other
    rw [hqueue, hhandlers, h.handler]
    by_cases hother : id = other
    · subst hother
      rw [List.getElem?_set_self hlength, hhandler]
      simp [hleft]
    · rw [List.getElem?_set_ne hother]
  · rw [hhandlers]
    intro other hmem
    rcases List.mem_or_eq_of_mem_set hmem with hmem | heq
    · exact h.handlerOpen other hmem
    · rw [heq]
      exact hopen

/-! ## Contexts -/

theorem Wired.subscribedTo (h : s.Wired) (peer : IPAddressAndPort) :
    (s.subscribedTo peer).Wired := by
  unfold SharedUDPSocket.subscribedTo
  split
  · exact h
  · next hfree =>
      refine ⟨?_, h.handler, h.handlerOpen⟩
      intro other id
      have hnone : s.subscriptions.lookup peer = none := AList.lookup_eq_none.mpr hfree
      by_cases hlength : id = s.created.length
      · subst hlength
        by_cases hother : other = peer
        · rw [hother, AList.lookup_insert]
          simp [SharedUDPSocketSubscription.new]
        · have hlast : s.subscriptions.lookup other ≠ some s.created.length := by
            rw [Ne, h.entry]
            simp
          simp [AList.lookup_insert_ne hother, hlast, SharedUDPSocketSubscription.new,
            Ne.symm hother]
      · have hsame : (s.created ++ [SharedUDPSocketSubscription.new peer s.bufferSize])[id]? =
            s.created[id]? := by
          rcases Nat.lt_or_gt_of_ne hlength with hlt | hgt
          · exact List.getElem?_append_left hlt
          · rw [List.getElem?_eq_none (by simp; omega), List.getElem?_eq_none (by omega)]
        simp only [hsame]
        by_cases hother : other = peer
        · -- a subscription of this peer would have been found
          subst hother
          rw [AList.lookup_insert, ← h.entry, hnone]
          simp [Ne.symm hlength]
        · rw [AList.lookup_insert_ne hother]
          exact h.entry other id

theorem Wired.unsubscribe (h : s.Wired) (hstep : s.unsubscribe id = some s') : s'.Wired := by
  simp only [SharedUDPSocket.unsubscribe, Option.bind_eq_bind, Option.bind_eq_some_iff] at hstep
  obtain ⟨sub, hsub, hstep⟩ := hstep
  split at hstep
  · next hleave =>
      cases hstep
      have hlength : id < s.created.length := (List.getElem?_eq_some_iff.mp hsub).1
      have howner := (h.entry sub.peer id).mpr ⟨sub, hsub, rfl, hleave.1⟩
      refine ⟨?_, h.handler, h.handlerOpen⟩
      intro peer other
      by_cases hother : id = other
      · subst hother
        have hgone : (s.subscriptions.erase sub.peer).lookup peer ≠ some id := by
          by_cases hpeer : peer = sub.peer
          · rw [hpeer, AList.lookup_erase]
            simp
          · rw [AList.lookup_erase_ne hpeer, Ne, h.entry]
            simp [hsub, Ne.symm hpeer]
        simp [hgone, hlength]
      · simp only [List.getElem?_set_ne hother]
        by_cases hpeer : peer = sub.peer
        · -- the entry of the peer belongs to the subscription that is left
          subst hpeer
          rw [AList.lookup_erase, ← h.entry, howner]
          simp [hother]
        · rw [AList.lookup_erase_ne hpeer]
          exact h.entry peer other
  · cases hstep

theorem Wired.unmatchedHandler (h : s.Wired) (bufferSize : Nat) :
    (s.unmatchedHandler bufferSize).Wired := by
  unfold SharedUDPSocket.unmatchedHandler
  split
  · exact h
  · next hnone =>
      rw [Option.not_isSome_iff_eq_none] at hnone
      refine ⟨h.entry, ?_, ?_⟩
      · intro id
        by_cases hlength : id = s.handlers.length
        · simp [hlength, UnmatchedHandler.new]
        · have hsame : (s.handlers ++ [UnmatchedHandler.new bufferSize])[id]? =
              s.handlers[id]? := by
            rcases Nat.lt_or_gt_of_ne hlength with hlt | hgt
            · exact List.getElem?_append_left hlt
            · rw [List.getElem?_eq_none (by simp; omega), List.getElem?_eq_none (by omega)]
          simp only [hsame]
          rw [← h.handler, hnone]
          simp [Ne.symm hlength]
      · intro handler hmem
        rcases List.mem_append.mp hmem with hmem | hmem
        · exact h.handlerOpen handler hmem
        · rw [List.mem_singleton.mp hmem]
          simp [UnmatchedHandler.new, MemoryStream.create]

theorem Wired.leaveUnmatched (h : s.Wired) (hstep : s.leaveUnmatched id = some s') :
    s'.Wired := by
  simp only [SharedUDPSocket.leaveUnmatched, Option.bind_eq_bind, Option.bind_eq_some_iff] at hstep
  obtain ⟨handler, hhandler, hstep⟩ := hstep
  split at hstep
  · next hleft =>
      cases hstep
      have hlength : id < s.handlers.length := (List.getElem?_eq_some_iff.mp hhandler).1
      have howner := (h.handler id).mpr ⟨handler, hhandler, hleft⟩
      refine ⟨h.entry, ?_, ?_⟩
      · intro other
        by_cases hother : id = other
        · subst hother
          simp [hlength]
        · simp only [List.getElem?_set_ne hother]
          rw [← h.handler, howner]
          simp [hother]
      · intro other hmem
        rcases List.mem_or_eq_of_mem_set hmem with hmem | heq
        · exact h.handlerOpen other hmem
        · simp [heq]
  · cases hstep

/-! ## The worker -/

inductive Arrival (s : SharedUDPSocket) (payload : Bytes) (sender : IPAddressAndPort) :
    SharedUDPSocket → Prop where
  | queued {id sub stream} (hlookup : s.subscriptions.lookup sender = some id)
      (hsub : s.created[id]? = some sub) (hpeer : sub.peer = sender)
      (hsend : sub.stream.sendNowait payload = .ok stream) :
      Arrival s payload sender { s with
        arrived := s.arrived ++ [(payload, sender)]
        created := s.created.set id
          { sub with stream := stream, queued := sub.queued ++ [s.arrived.length] } }
  | refused {id sub error} (hlookup : s.subscriptions.lookup sender = some id)
      (hsub : s.created[id]? = some sub) (hsend : sub.stream.sendNowait payload = .error error) :
      Arrival s payload sender { s with
        arrived := s.arrived ++ [(payload, sender)], worker := .failed error }
  | unmatched {id handler stream} (hlookup : s.subscriptions.lookup sender = none)
      (hqueue : s.unmatchedQueue = some id) (hhandler : s.handlers[id]? = some handler)
      (hleft : handler.left = false)
      (hsend : handler.stream.sendNowait (payload, sender) = .ok stream) :
      Arrival s payload sender { s with
        arrived := s.arrived ++ [(payload, sender)]
        handlers := s.handlers.set id
          { handler with stream := stream, queued := handler.queued ++ [s.arrived.length] } }
  | dropped {id handler} (hlookup : s.subscriptions.lookup sender = none)
      (hqueue : s.unmatchedQueue = some id) (hhandler : s.handlers[id]? = some handler)
      (hleft : handler.left = false)
      (hsend : handler.stream.sendNowait (payload, sender) = .error .wouldBlock) :
      Arrival s payload sender { s with arrived := s.arrived ++ [(payload, sender)] }
  | broken {id handler error} (hlookup : s.subscriptions.lookup sender = none)
      (hqueue : s.unmatchedQueue = some id) (hhandler : s.handlers[id]? = some handler)
      (hleft : handler.left = false)
      (hsend : handler.stream.sendNowait (payload, sender) = .error error)
      (herror : error ≠ .wouldBlock) :
      Arrival s payload sender { s with
        arrived := s.arrived ++ [(payload, sender)], worker := .failed error }
  | unheard (hlookup : s.subscriptions.lookup sender = none) (hqueue : s.unmatchedQueue = none) :
      Arrival s payload sender { s with arrived := s.arrived ++ [(payload, sender)] }

/-- The worker always comes to the end of its body, one way or another. -/
theorem readerWorker_spec (h : s.Wired) (payload : Bytes) (sender : IPAddressAndPort) :
    ∃ s', s.readerWorker payload sender = some s' ∧ s.Arrival payload sender s' := by
  cases hlookup : s.subscriptions.lookup sender with
  | some id =>
      obtain ⟨sub, hsub, hpeer, -⟩ := (h.entry sender id).mp hlookup
      cases hsend : sub.stream.sendNowait payload with
      | ok stream =>
          refine ⟨_, ?_, .queued hlookup hsub hpeer hsend⟩
          simp [readerWorker, SharedUDPSocketSubscription.dispatch, hlookup, hsub, hsend,
            Except.map]
      | error error =>
          refine ⟨_, ?_, .refused hlookup hsub hsend⟩
          simp [readerWorker, SharedUDPSocketSubscription.dispatch, hlookup, hsub, hsend,
            Except.map]
  | none =>
      cases hqueue : s.unmatchedQueue with
      | none =>
          refine ⟨_, ?_, .unheard hlookup hqueue⟩
          simp [readerWorker, hlookup, hqueue]
      | some id =>
          obtain ⟨handler, hhandler, hleft⟩ := (h.handler id).mp hqueue
          cases hsend : handler.stream.sendNowait (payload, sender) with
          | ok stream =>
              refine ⟨_, ?_, .unmatched hlookup hqueue hhandler hleft hsend⟩
              simp [readerWorker, UnmatchedHandler.sendNowait, hlookup, hqueue, hhandler, hsend,
                Except.map]
          | error error =>
              by_cases herror : error = .wouldBlock
              · subst herror
                refine ⟨_, ?_, .dropped hlookup hqueue hhandler hleft hsend⟩
                simp [readerWorker, UnmatchedHandler.sendNowait, hlookup, hqueue, hhandler, hsend,
                  Except.map]
              · refine ⟨_, ?_, .broken hlookup hqueue hhandler hleft hsend herror⟩
                simp [readerWorker, UnmatchedHandler.sendNowait, hlookup, hqueue, hhandler, hsend,
                  Except.map]

theorem Wired.arrival {payload : Bytes} {sender : IPAddressAndPort} (h : s.Wired)
    (harrival : s.Arrival payload sender s') : s'.Wired := by
  cases harrival with
  | queued _ hsub _ _ => exact h.setSubscription hsub rfl rfl rfl rfl rfl rfl
  | unmatched _ _ hhandler _ hsend =>
      refine h.setHandler hhandler rfl rfl ?_ rfl rfl rfl
      intro hleft
      have hopen := (MemoryStream.sendNowait_spec hsend).2.2.1
      exact hopen.trans (h.handlerOpen _ (List.mem_of_getElem? hhandler) hleft)
  | refused | dropped | broken | unheard => exact ⟨h.entry, h.handler, h.handlerOpen⟩

theorem Wired.step {move : SocketMove} (h : s.Wired) (hstep : s.step move = some s') :
    s'.Wired := by
  cases move with
  | subscribe peer =>
      cases hstep
      exact h.subscribedTo peer
  | onSubscription id op =>
      simp only [SharedUDPSocket.step, Option.bind_eq_bind, Option.bind_eq_some_iff] at hstep
      obtain ⟨sub, hsub, next, hperform, hstep⟩ := hstep
      cases hstep
      obtain ⟨stream, -, rfl⟩ := SharedUDPSocketSubscription.perform_spec hperform
      exact h.setSubscription hsub rfl rfl rfl rfl rfl rfl
  | unsubscribe id => exact h.unsubscribe hstep
  | handleUnmatched bufferSize =>
      cases hstep
      exact h.unmatchedHandler bufferSize
  | onHandler id op =>
      simp only [SharedUDPSocket.step, Option.bind_eq_bind, Option.bind_eq_some_iff] at hstep
      obtain ⟨handler, hhandler, next, hperform, hstep⟩ := hstep
      cases hstep
      obtain ⟨stream, happly, rfl, hallowed⟩ := UnmatchedHandler.perform_spec hperform
      refine h.setHandler hhandler rfl rfl ?_ rfl rfl rfl
      intro hleft
      have hopen := MemoryStream.apply_sendOpen happly (hallowed hleft)
      exact hopen.trans (h.handlerOpen handler (List.mem_of_getElem? hhandler) hleft)
  | leaveUnmatched id => exact h.leaveUnmatched hstep
  | arrive payload sender =>
      simp only [SharedUDPSocket.step] at hstep
      split at hstep
      · obtain ⟨next, hworker, harrival⟩ := readerWorker_spec h payload sender
        rw [hworker] at hstep
        cases hstep
        exact h.arrival harrival
      · cases hstep
  | closeSocket =>
      cases hstep
      exact ⟨h.entry, h.handler, h.handlerOpen⟩
  | endReading =>
      simp only [SharedUDPSocket.step] at hstep
      split at hstep
      · cases hstep
        exact ⟨h.entry, h.handler, h.handlerOpen⟩
      · cases hstep

/-- A peer has one subscription at most. -/
theorem Wired.single (h : s.Wired) {i j : Nat} {sub other : SharedUDPSocketSubscription}
    (hsub : s.created[i]? = some sub) (hother : s.created[j]? = some other)
    (hpeer : sub.peer = other.peer) (hleft : sub.left = false) (hleft' : other.left = false) :
    i = j := by
  have hfirst := (h.entry other.peer i).mpr ⟨sub, hsub, hpeer, hleft⟩
  have hsecond := (h.entry other.peer j).mpr ⟨other, hother, rfl, hleft'⟩
  rw [hfirst] at hsecond
  exact Option.some.inj hsecond

end SharedUDPSocket

end ApUploader
