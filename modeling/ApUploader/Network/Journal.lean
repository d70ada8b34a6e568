import ApUploader.Network.Registration

/-! # What has been queued where

The journal of a queue holds the positions of the datagrams that were put into it, and
the datagrams. A move of a context touches neither the journals nor the worker, unless
it closes the socket.
-/

namespace ApUploader

inductive Destination where
  | subscription (id : Nat)
  | handler (id : Nat)
  deriving Repr, DecidableEq

structure Journal where
  positions : List Nat := []
  datagrams : List Datagram := []

def Journal.push (j : Journal) (position : Nat) (datagram : Datagram) : Journal :=
  ⟨j.positions ++ [position], j.datagrams ++ [datagram]⟩

def SharedUDPSocketSubscription.journal (sub : SharedUDPSocketSubscription) : Journal :=
  ⟨sub.queued, sub.stream.sent.map fun payload => (payload, sub.peer)⟩

def UnmatchedHandler.journal (handler : UnmatchedHandler) : Journal :=
  ⟨handler.queued, handler.stream.sent⟩

namespace SharedUDPSocket

def journal (s : SharedUDPSocket) : Destination → Journal
  | .subscription id => (s.created[id]?.map SharedUDPSocketSubscription.journal).getD {}
  | .handler id => (s.handlers[id]?.map UnmatchedHandler.journal).getD {}

def queuedAt (s : SharedUDPSocket) (d : Destination) : List Nat := (s.journal d).positions

def Takes (s : SharedUDPSocket) (sender : IPAddressAndPort) : Destination → Prop
  | .subscription id => s.subscriptions.lookup sender = some id ∧
      ∃ sub, s.created[id]? = some sub ∧ sub.stream.Accepts
  | .handler id => s.subscriptions.lookup sender = none ∧ s.unmatchedQueue = some id ∧
      ∃ handler, s.handlers[id]? = some handler ∧ handler.stream.Accepts

variable {s s' : SharedUDPSocket} {id : Nat} {payload : Bytes} {sender : IPAddressAndPort}

theorem journal_subscription {sub : SharedUDPSocketSubscription}
    (hsub : s.created[id]? = some sub) : s.journal (.subscription id) = sub.journal := by
  simp [journal, hsub]

theorem journal_handler {handler : UnmatchedHandler} (hhandler : s.handlers[id]? = some handler) :
    s.journal (.handler id) = handler.journal := by
  simp [journal, hhandler]

/-- Only the journal of a subscription that is put back can differ. -/
theorem journal_setSubscription {sub next : SharedUDPSocketSubscription}
    (hsub : s.created[id]? = some sub) (hcreated : s'.created = s.created.set id next)
    (hhandlers : s'.handlers = s.handlers) {d : Destination} :
    s'.journal d = if d = .subscription id then next.journal else s.journal d := by
  have hlength : id < s.created.length := (List.getElem?_eq_some_iff.mp hsub).1
  cases d with
  | subscription other =>
      by_cases hother : id = other
      · subst hother
        simp [journal, hcreated, hlength]
      · simp [journal, hcreated, List.getElem?_set_ne hother, Ne.symm hother]
  | handler other => simp [journal, hhandlers]

theorem journal_setHandler {handler next : UnmatchedHandler}
    (hhandler : s.handlers[id]? = some handler) (hhandlers : s'.handlers = s.handlers.set id next)
    (hcreated : s'.created = s.created) {d : Destination} :
    s'.journal d = if d = .handler id then next.journal else s.journal d := by
  have hlength : id < s.handlers.length := (List.getElem?_eq_some_iff.mp hhandler).1
  cases d with
  | subscription other => simp [journal, hcreated]
  | handler other =>
      by_cases hother : id = other
      · subst hother
        simp [journal, hhandlers, hlength]
      · simp [journal, hhandlers, List.getElem?_set_ne hother, Ne.symm hother]

theorem getD_append_new {α : Type} (entries : List α) (entry : α) (view : α → Journal)
    (hnew : view entry = {}) (n : Nat) :
    ((entries ++ [entry])[n]?.map view).getD {} = (entries[n]?.map view).getD {} := by
  rcases Nat.lt_trichotomy n entries.length with hlt | heq | hgt
  · rw [List.getElem?_append_left hlt]
  · subst heq
    simp [hnew]
  · rw [List.getElem?_eq_none (by simp; omega), List.getElem?_eq_none (by omega)]

theorem journal_subscribedTo (s : SharedUDPSocket) (peer : IPAddressAndPort) (d : Destination) :
    (s.subscribedTo peer).journal d = s.journal d := by
  unfold subscribedTo
  split
  · rfl
  · cases d with
    | subscription id => exact getD_append_new s.created (.new peer s.bufferSize) _ rfl id
    | handler id => rfl

theorem journal_unmatchedHandler (s : SharedUDPSocket) (bufferSize : Nat) (d : Destination) :
    (s.unmatchedHandler bufferSize).journal d = s.journal d := by
  unfold unmatchedHandler
  split
  · rfl
  · cases d with
    | subscription id => rfl
    | handler id => exact getD_append_new s.handlers (.new bufferSize) _ rfl id

/-! ## The next datagram -/

theorem Takes.unique {d e : Destination} (hd : s.Takes sender d) (he : s.Takes sender e) :
    d = e := by
  cases d <;> cases e <;> simp_all [Takes]

theorem takes_iff_of_matched {sub : SharedUDPSocketSubscription}
    (hlookup : s.subscriptions.lookup sender = some id) (hsub : s.created[id]? = some sub)
    (d : Destination) : s.Takes sender d ↔ d = .subscription id ∧ sub.stream.Accepts := by
  cases d with
  | subscription other =>
      constructor
      · intro h
        obtain ⟨hother, sub', hsub', haccepts⟩ := h
        rw [hlookup] at hother
        cases hother
        rw [hsub] at hsub'
        cases hsub'
        exact ⟨rfl, haccepts⟩
      · intro h
        obtain ⟨heq, haccepts⟩ := h
        cases heq
        exact ⟨hlookup, sub, hsub, haccepts⟩
  | handler other => simp [Takes, hlookup]

theorem takes_iff_of_unmatched {handler : UnmatchedHandler}
    (hlookup : s.subscriptions.lookup sender = none) (hqueue : s.unmatchedQueue = some id)
    (hhandler : s.handlers[id]? = some handler) (d : Destination) :
    s.Takes sender d ↔ d = .handler id ∧ handler.stream.Accepts := by
  cases d with
  | subscription other => simp [Takes, hlookup]
  | handler other =>
      constructor
      · intro h
        obtain ⟨-, hother, handler', hhandler', haccepts⟩ := h
        rw [hqueue] at hother
        cases hother
        rw [hhandler] at hhandler'
        cases hhandler'
        exact ⟨rfl, haccepts⟩
      · intro h
        obtain ⟨heq, haccepts⟩ := h
        cases heq
        exact ⟨hlookup, hqueue, handler, hhandler, haccepts⟩

/-- An arrival appends to the journal of one destination at most, the one that takes it. -/
theorem Arrival.journal_spec (harrival : s.Arrival payload sender s') :
    ∃ target : Option Destination, ∀ d, (s.Takes sender d ↔ target = some d) ∧
      s'.journal d = if target = some d then (s.journal d).push s.arrived.length (payload, sender)
        else s.journal d := by
  cases harrival with
  | @queued id sub stream hlookup hsub hpeer hsend =>
      obtain ⟨haccepts, hsent, -⟩ := MemoryStream.sendNowait_spec hsend
      refine ⟨some (.subscription id), fun d => ⟨?_, ?_⟩⟩
      · simp [takes_iff_of_matched hlookup hsub, haccepts, eq_comm]
      · refine Eq.trans (journal_setSubscription hsub (by rfl) (by rfl)) ?_
        by_cases hd : d = .subscription id
        · subst hd
          simp [journal_subscription hsub, SharedUDPSocketSubscription.journal, Journal.push, hsent,
            hpeer]
        · rw [if_neg hd, if_neg fun h => hd (Option.some.inj h).symm]
  | @unmatched id handler stream hlookup hqueue hhandler hleft hsend =>
      obtain ⟨haccepts, hsent, -⟩ := MemoryStream.sendNowait_spec hsend
      refine ⟨some (.handler id), fun d => ⟨?_, ?_⟩⟩
      · simp [takes_iff_of_unmatched hlookup hqueue hhandler, haccepts, eq_comm]
      · refine Eq.trans (journal_setHandler hhandler (by rfl) (by rfl)) ?_
        by_cases hd : d = .handler id
        · subst hd
          simp [journal_handler hhandler, UnmatchedHandler.journal, Journal.push, hsent]
        · rw [if_neg hd, if_neg fun h => hd (Option.some.inj h).symm]
  | refused hlookup hsub hsend =>
      have hrefused := (MemoryStream.sendNowait_refused hsend).1
      refine ⟨none, fun d => ⟨?_, rfl⟩⟩
      simp [takes_iff_of_matched hlookup hsub, hrefused]
  | dropped hlookup hqueue hhandler hleft hsend | broken hlookup hqueue hhandler hleft hsend =>
      have hrefused := (MemoryStream.sendNowait_refused hsend).1
      refine ⟨none, fun d => ⟨?_, rfl⟩⟩
      simp [takes_iff_of_unmatched hlookup hqueue hhandler, hrefused]
  | unheard hlookup hqueue =>
      refine ⟨none, fun d => ⟨?_, rfl⟩⟩
      cases d <;> simp [Takes, hlookup, hqueue]

theorem Arrival.journal_of_takes {d : Destination} (harrival : s.Arrival payload sender s')
    (h : s.Takes sender d) :
    s'.journal d = (s.journal d).push s.arrived.length (payload, sender) := by
  obtain ⟨target, hspec⟩ := harrival.journal_spec
  rw [(hspec d).2, if_pos ((hspec d).1.mp h)]

theorem Arrival.journal_of_not_takes {d : Destination} (harrival : s.Arrival payload sender s')
    (h : ¬ s.Takes sender d) : s'.journal d = s.journal d := by
  obtain ⟨target, hspec⟩ := harrival.journal_spec
  rw [(hspec d).2, if_neg (mt (hspec d).1.mpr h)]

theorem Arrival.arrived (harrival : s.Arrival payload sender s') :
    s'.arrived = s.arrived ++ [(payload, sender)] := by
  cases harrival <;> rfl

theorem Arrival.socketOpen (harrival : s.Arrival payload sender s') :
    s'.socketOpen = s.socketOpen := by
  cases harrival <;> rfl

structure Quiet (s s' : SharedUDPSocket) : Prop where
  arrived : s'.arrived = s.arrived
  journal : ∀ d, s'.journal d = s.journal d
  worker : s'.worker = s.worker ∧ s'.socketOpen = s.socketOpen ∨ s'.socketOpen = false

theorem Quiet.setSubscription {sub next : SharedUDPSocketSubscription}
    (hsub : s.created[id]? = some sub) (hcreated : s'.created = s.created.set id next)
    (hjournal : next.journal = sub.journal) (hhandlers : s'.handlers = s.handlers)
    (harrived : s'.arrived = s.arrived) (hworker : s'.worker = s.worker)
    (hopen : s'.socketOpen = s.socketOpen) : s.Quiet s' := by
  refine ⟨harrived, ?_, .inl ⟨hworker, hopen⟩⟩
  intro d
  rw [journal_setSubscription hsub hcreated hhandlers]
  split
  · next hd =>
      subst hd
      rw [hjournal, journal_subscription hsub]
  · rfl

theorem Quiet.setHandler {handler next : UnmatchedHandler}
    (hhandler : s.handlers[id]? = some handler) (hhandlers : s'.handlers = s.handlers.set id next)
    (hjournal : next.journal = handler.journal) (hcreated : s'.created = s.created)
    (harrived : s'.arrived = s.arrived) (hworker : s'.worker = s.worker)
    (hopen : s'.socketOpen = s.socketOpen) : s.Quiet s' := by
  refine ⟨harrived, ?_, .inl ⟨hworker, hopen⟩⟩
  intro d
  rw [journal_setHandler hhandler hhandlers hcreated]
  split
  · next hd =>
      subst hd
      rw [hjournal, journal_handler hhandler]
  · rfl

theorem step_cases {move : SocketMove} (h : s.Wired) (hstep : s.step move = some s') :
    (∃ payload sender, move = .arrive payload sender ∧ s.worker = .reading ∧
        s.Arrival payload sender s') ∨
      (∀ payload sender, move ≠ .arrive payload sender) ∧ s.Quiet s' := by
  cases move with
  | arrive payload sender =>
      left
      simp only [step] at hstep
      split at hstep
      · next hreading =>
          obtain ⟨next, hworker, harrival⟩ := readerWorker_spec h payload sender
          rw [hworker] at hstep
          cases hstep
          exact ⟨payload, sender, rfl, hreading, harrival⟩
      · cases hstep
  | subscribe peer =>
      cases hstep
      refine .inr ⟨by simp, ?_, journal_subscribedTo s peer, .inl ?_⟩
      · unfold subscribedTo
        split <;> rfl
      · unfold subscribedTo
        split <;> exact ⟨rfl, rfl⟩
  | onSubscription id op =>
      simp only [step, Option.bind_eq_bind, Option.bind_eq_some_iff] at hstep
      obtain ⟨sub, hsub, next, hperform, hstep⟩ := hstep
      cases hstep
      obtain ⟨stream, happly, rfl⟩ := SharedUDPSocketSubscription.perform_spec hperform
      refine .inr ⟨by simp, .setSubscription hsub rfl ?_ rfl rfl rfl rfl⟩
      simp [SharedUDPSocketSubscription.journal, MemoryStream.apply_sent happly]
  | unsubscribe id =>
      simp only [step, unsubscribe, Option.bind_eq_bind, Option.bind_eq_some_iff] at hstep
      obtain ⟨sub, hsub, hstep⟩ := hstep
      split at hstep
      · cases hstep
        exact .inr ⟨by simp, .setSubscription hsub rfl rfl rfl rfl rfl rfl⟩
      · cases hstep
  | handleUnmatched bufferSize =>
      cases hstep
      refine .inr ⟨by simp, ?_, journal_unmatchedHandler s bufferSize, .inl ?_⟩
      · unfold unmatchedHandler
        split <;> rfl
      · unfold unmatchedHandler
        split <;> exact ⟨rfl, rfl⟩
  | onHandler id op =>
      simp only [step, Option.bind_eq_bind, Option.bind_eq_some_iff] at hstep
      obtain ⟨handler, hhandler, next, hperform, hstep⟩ := hstep
      cases hstep
      obtain ⟨stream, happly, rfl, -⟩ := UnmatchedHandler.perform_spec hperform
      refine .inr ⟨by simp, .setHandler hhandler rfl ?_ rfl rfl rfl rfl⟩
      simp [UnmatchedHandler.journal, MemoryStream.apply_sent happly]
  | leaveUnmatched id =>
      simp only [step, leaveUnmatched, Option.bind_eq_bind, Option.bind_eq_some_iff] at hstep
      obtain ⟨handler, hhandler, hstep⟩ := hstep
      split at hstep
      · cases hstep
        exact .inr ⟨by simp, .setHandler hhandler rfl rfl rfl rfl rfl rfl⟩
      · cases hstep
  | closeSocket =>
      cases hstep
      exact .inr ⟨by simp, rfl, fun _ => rfl, .inr rfl⟩
  | endReading =>
      simp only [step] at hstep
      split at hstep
      · next hclosed =>
          cases hstep
          exact .inr ⟨by simp, rfl, fun _ => rfl, .inr hclosed.2⟩
      · cases hstep

end SharedUDPSocket

end ApUploader
