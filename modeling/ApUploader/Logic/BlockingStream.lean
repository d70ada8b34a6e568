import ApUploader.Logic.MemoryStream

/-! # Bounded streams whose send calls wait

A send call that finds the buffer full waits, and each receive call lets the first of
those that wait go on. A call that waits may be cancelled, so not every object that was
offered is taken; those that are taken keep the order of the calls.
-/

inductive Sent where
  | accepted
  | waiting
  | refused (error : SendError)
  deriving Repr, DecidableEq

namespace MemoryStream

variable {α : Type}

/-- The buffer takes an object and gives its first one to a receive call. -/
def exchange (s : MemoryStream α) (object : α) : α × MemoryStream α :=
  match hbuffer : s.buffer with
  | [] =>
      (object, { s with
        sent := s.sent ++ [object]
        received := s.received ++ [object]
        fifo := by simp [← s.fifo, hbuffer] })
  | first :: rest =>
      (first, { s with
        buffer := rest ++ [object]
        sent := s.sent ++ [object]
        received := s.received ++ [first]
        fifo := by simp [← s.fifo, hbuffer]
        bounded := by simpa [hbuffer] using s.bounded
        idle := fun h => by simp [s.idle h] at hbuffer })

/-- An exchange changes neither the ends nor how full the buffer is. -/
theorem exchange_keeps (s : MemoryStream α) (object : α) :
    (s.exchange object).2.sent = s.sent ++ [object] ∧
      (s.exchange object).2.received = s.received ++ [(s.exchange object).1] ∧
      (s.exchange object).2.waitingReceivers = s.waitingReceivers ∧
      (s.exchange object).2.buffer.length = s.buffer.length ∧
      (s.exchange object).2.maxBufferSize = s.maxBufferSize ∧
      (s.exchange object).2.receiveOpen = s.receiveOpen := by
  unfold exchange
  split
  · exact ⟨rfl, rfl, rfl, rfl, rfl, rfl⟩
  · next hbuffer => simp [hbuffer]

theorem exchange_ends (s : MemoryStream α) (object : α) :
    (s.exchange object).2.sendOpen = s.sendOpen ∧
      (s.exchange object).2.receiveOpen = s.receiveOpen := by
  unfold exchange
  split <;> exact ⟨rfl, rfl⟩

theorem receive_receiveOpen (s : MemoryStream α) : s.receive.2.receiveOpen = s.receiveOpen := by
  unfold receive
  split
  · rfl
  · split
    · rfl
    · split <;> rfl

theorem exchange_of_buffer (s : MemoryStream α) (object : α) :
    (s.exchange object).1 :: (s.exchange object).2.buffer = s.buffer ++ [object] := by
  unfold exchange
  split
  · next hbuffer => simp [hbuffer]
  · next hbuffer => simp [hbuffer]

theorem receive_of_buffer {s : MemoryStream α} {object : α} {rest : List α}
    (hopen : s.receiveOpen = true) (h : s.buffer = object :: rest) :
    s.receive.1 = .item object ∧ s.receive.2.received = s.received ++ [object] ∧
      s.receive.2.buffer = rest ∧ s.receive.2.waitingReceivers = s.waitingReceivers := by
  unfold receive
  rw [if_neg (by simp [hopen])]
  split
  · next first others hbuffer =>
      rw [h] at hbuffer
      obtain ⟨rfl, rfl⟩ := List.cons.inj hbuffer
      exact ⟨rfl, rfl, rfl, rfl⟩
  · next hbuffer =>
      rw [h] at hbuffer
      cases hbuffer

theorem receive_of_empty {s : MemoryStream α} (h : s.buffer = []) :
    s.receive.2.received = s.received ∧ s.receive.2.buffer = [] ∧
      ((s.receive.1 = .waiting ∧ s.receive.2.waitingReceivers = s.waitingReceivers + 1 ∧
          s.receiveOpen = true ∧ s.sendOpen = true) ∨
        (s.receive.1 = .endOfStream ∧ s.receive.2.waitingReceivers = s.waitingReceivers ∧
          s.receiveOpen = true ∧ s.sendOpen = false) ∨
        (s.receive.1 = .closedResource ∧ s.receive.2.waitingReceivers = s.waitingReceivers ∧
          s.receiveOpen = false)) := by
  unfold receive
  split
  · next hclosed => exact ⟨rfl, h, .inr (.inr ⟨rfl, rfl, hclosed⟩)⟩
  · next hopen =>
      simp only [Bool.not_eq_false] at hopen
      split
      · next hbuffer =>
          rw [h] at hbuffer
          cases hbuffer
      · split
        · next hsend => exact ⟨rfl, h, .inl ⟨rfl, rfl, hopen, hsend⟩⟩
        · next hsend => exact ⟨rfl, h, .inr (.inl ⟨rfl, rfl, hopen, by simpa using hsend⟩)⟩

/-- An accepted object is received at once when a receive call waits, else it goes to the buffer. -/
theorem sendNowait_received {s s' : MemoryStream α} {object : α}
    (h : s.sendNowait object = .ok s') :
    (0 < s.waitingReceivers ∧ s'.received = s.received ++ [object] ∧ s'.buffer = s.buffer ∧
        s'.waitingReceivers = s.waitingReceivers - 1) ∨
      (s.waitingReceivers = 0 ∧ s'.received = s.received ∧ s'.buffer = s.buffer ++ [object] ∧
        s'.waitingReceivers = 0) := by
  unfold sendNowait at h
  split at h
  · cases h
  · split at h
    · cases h
    · split at h
      · next hwaiting =>
          cases h
          exact .inl ⟨hwaiting, rfl, rfl, rfl⟩
      · next hwaiting =>
          split at h
          · cases h
            exact .inr ⟨by omega, rfl, rfl, by simpa using hwaiting⟩
          · cases h

end MemoryStream

structure BlockingStream (α : Type) extends MemoryStream α where
  /-- The objects of the send calls that wait, the first one in front. -/
  waitingSenders : List α := []
  /-- The objects of all send calls, in order. -/
  offered : List α := []
  ordered : List.Sublist (sent ++ waitingSenders) offered
  patient : waitingSenders ≠ [] →
    waitingReceivers = 0 ∧ buffer.length = maxBufferSize ∧ receiveOpen = true

namespace BlockingStream

variable {α : Type}

def create (maxBufferSize : Nat) : BlockingStream α where
  toMemoryStream := .create maxBufferSize
  ordered := List.Sublist.refl []
  patient := fun h => absurd rfl h

/-- Who waits, waits because nothing is accepted. -/
theorem waitingSenders_of_accepts {s : BlockingStream α} (h : s.toMemoryStream.Accepts) :
    s.waitingSenders = [] := by
  by_contra hwaiting
  obtain ⟨hidle, hfull, -⟩ := s.patient hwaiting
  rcases h.2.2 with hreceiver | hroom <;> omega

theorem full_of_wouldBlock {s : BlockingStream α} {object : α} {error : SendError}
    (h : s.toMemoryStream.sendNowait object = .error error) (hblock : error = .wouldBlock) :
    s.waitingReceivers = 0 ∧ s.buffer.length = s.maxBufferSize ∧ s.receiveOpen = true := by
  obtain ⟨hrefused, hopen⟩ := MemoryStream.sendNowait_refused h
  obtain ⟨hsendOpen, hreceiveOpen⟩ := hopen.mp hblock
  simp only [MemoryStream.Accepts, hsendOpen, hreceiveOpen, true_and, not_or] at hrefused
  have hbounded := s.bounded
  exact ⟨by omega, by omega, hreceiveOpen⟩

def send (s : BlockingStream α) (object : α) : Sent × BlockingStream α :=
  match hsend : s.toMemoryStream.sendNowait object with
  | .ok stream =>
      (.accepted, { s with
        toMemoryStream := stream
        offered := s.offered ++ [object]
        ordered := by
          obtain ⟨haccepts, hsent, -⟩ := MemoryStream.sendNowait_spec hsend
          have hordered := s.ordered
          rw [waitingSenders_of_accepts haccepts, List.append_nil] at hordered ⊢
          rw [hsent]
          exact hordered.append (List.Sublist.refl _)
        patient := fun hwaiting =>
          absurd (waitingSenders_of_accepts (MemoryStream.sendNowait_spec hsend).1) hwaiting })
  | .error error =>
      if hblock : error = .wouldBlock then
        (.waiting, { s with
          waitingSenders := s.waitingSenders ++ [object]
          offered := s.offered ++ [object]
          ordered := by
            rw [← List.append_assoc]
            exact s.ordered.append (List.Sublist.refl _)
          patient := fun _ => full_of_wouldBlock hsend hblock })
      else
        (.refused error, { s with
          offered := s.offered ++ [object]
          ordered := s.ordered.trans (List.sublist_append_left _ _) })

def cancelSend (s : BlockingStream α) (position : Nat) : Option (BlockingStream α) :=
  if position < s.waitingSenders.length then
    some { s with
      waitingSenders := s.waitingSenders.eraseIdx position
      ordered := ((List.Sublist.refl _).append (List.eraseIdx_sublist _ _)).trans s.ordered
      patient := fun h => s.patient fun hnil => h (by simp [hnil]) }
  else none

def receive (s : BlockingStream α) : Received α × BlockingStream α :=
  match hwaiting : s.waitingSenders with
  | object :: rest =>
      ((.item (s.exchange object).1), { s with
        toMemoryStream := (s.exchange object).2
        waitingSenders := rest
        ordered := by
          have hordered := s.ordered
          rw [hwaiting] at hordered
          rw [(s.exchange_keeps object).1, List.append_assoc]
          exact hordered
        patient := fun _ => by
          obtain ⟨-, -, hreceivers, hlength, hmax, hopen⟩ := s.exchange_keeps object
          rw [hreceivers, hlength, hmax, hopen]
          exact s.patient (by simp [hwaiting]) })
  | [] =>
      (s.toMemoryStream.receive.1, { s with
        toMemoryStream := s.toMemoryStream.receive.2
        ordered := by
          rw [s.toMemoryStream.receive_keeps.1]
          exact s.ordered
        patient := fun h => absurd hwaiting h })

def abandon (s : BlockingStream α) : Option (BlockingStream α) :=
  match habandon : s.toMemoryStream.abandon with
  | some stream =>
      some { s with
        toMemoryStream := stream
        ordered := by
          rw [MemoryStream.apply_sent (show s.apply .abandon = some stream from habandon)]
          exact s.ordered
        patient := fun h => by
          unfold MemoryStream.abandon at habandon
          rw [dif_neg (by have := s.patient h; omega)] at habandon
          cases habandon }
  | none => none

/-- Close the end of the senders. Those that wait go on waiting. -/
def closeSend (s : BlockingStream α) : BlockingStream α :=
  { s with
    toMemoryStream := s.toMemoryStream.closeSend
    ordered := s.ordered
    patient := fun h => ⟨rfl, (s.patient h).2⟩ }

/-- Close the end of the receiver. Those that wait to send are turned away. -/
def closeReceive (s : BlockingStream α) : BlockingStream α :=
  { s with
    toMemoryStream := s.toMemoryStream.closeReceive
    waitingSenders := []
    ordered := by
      rw [List.append_nil]
      exact (List.sublist_append_left _ _).trans s.ordered
    patient := fun h => absurd rfl h }

/-- What receive calls will get, in order: the stream as a queue without bound. -/
def pending (s : BlockingStream α) : List α := s.buffer ++ s.waitingSenders

theorem received_append_pending (s : BlockingStream α) :
    s.received ++ s.pending = s.sent ++ s.waitingSenders := by
  rw [pending, ← List.append_assoc, s.fifo]

theorem received_pending_sublist (s : BlockingStream α) :
    List.Sublist (s.received ++ s.pending) s.offered := by
  rw [s.received_append_pending]
  exact s.ordered

/-- Every offered object was received or is still pending. -/
def Complete (s : BlockingStream α) : Prop := s.received ++ s.pending = s.offered

/-- What a send call comes to, and what it does to the queue. -/
inductive Course (s : BlockingStream α) (object : α) (r : Sent × BlockingStream α) : Prop where
  | refused (hclosed : s.sendOpen = false ∨ s.receiveOpen = false)
      (hreceived : r.2.received = s.received) (hpending : r.2.pending = s.pending)
      (hwaiting : r.2.waitingReceivers = s.waitingReceivers)
      (hresult : ∃ error, r.1 = .refused error) (hsenders : r.2.waitingSenders = s.waitingSenders)
  | queued (hopen : s.sendOpen = true) (hidle : s.waitingReceivers = 0)
      (hreceived : r.2.received = s.received) (hpending : r.2.pending = s.pending ++ [object])
      (hwaiting : r.2.waitingReceivers = 0)
      (hresult : r.1 = .waiting ∨ (r.1 = .accepted ∧ r.2.waitingSenders = s.waitingSenders))
  | handed (hopen : s.sendOpen = true) (hwaits : 0 < s.waitingReceivers)
      (hreceived : r.2.received = s.received ++ [object]) (hpending : r.2.pending = [])
      (hwaiting : r.2.waitingReceivers = s.waitingReceivers - 1)
      (hresult : r.1 = .accepted) (hsenders : r.2.waitingSenders = s.waitingSenders)

/-- Nothing is pending while a receive call waits. -/
theorem pending_of_waiting (s : BlockingStream α) (h : 0 < s.waitingReceivers) :
    s.pending = [] := by
  have hnone : s.waitingSenders = [] := by
    by_contra hwaiting
    have hidle := (s.patient hwaiting).1
    omega
  rw [pending, s.idle h, hnone, List.append_nil]

theorem send_offered (s : BlockingStream α) (object : α) :
    (s.send object).2.offered = s.offered ++ [object] := by
  unfold send
  split
  · rfl
  · split <;> rfl

theorem send_ends (s : BlockingStream α) (object : α) :
    (s.send object).2.sendOpen = s.sendOpen ∧ (s.send object).2.receiveOpen = s.receiveOpen := by
  unfold send
  split
  · next hsend => exact (MemoryStream.sendNowait_spec hsend).2.2
  · split <;> exact ⟨rfl, rfl⟩

theorem send_course (s : BlockingStream α) (object : α) : s.Course object (s.send object) := by
  unfold send
  split
  · next stream hsend =>
      have haccepts := (MemoryStream.sendNowait_spec hsend).1
      have hnone := waitingSenders_of_accepts haccepts
      rcases MemoryStream.sendNowait_received hsend with
        ⟨hwaits, hreceived, hbuffer, hwaiting⟩ | ⟨hidle, hreceived, hbuffer, hwaiting⟩
      · refine .handed haccepts.1 hwaits hreceived ?_ hwaiting rfl rfl
        rw [pending, hbuffer, s.idle hwaits, hnone, List.append_nil]
      · refine .queued haccepts.1 hidle hreceived ?_ hwaiting (.inr ⟨rfl, rfl⟩)
        simp [pending, hbuffer, hnone]
  · next error hsend =>
      obtain ⟨hrefused, hblock⟩ := MemoryStream.sendNowait_refused hsend
      split
      · next hwould =>
          obtain ⟨hsendOpen, hreceiveOpen⟩ := hblock.mp hwould
          have hidle : s.waitingReceivers = 0 := by
            by_contra hwaits
            exact hrefused ⟨hsendOpen, hreceiveOpen, .inl (Nat.pos_of_ne_zero hwaits)⟩
          exact .queued hsendOpen hidle rfl (List.append_assoc _ _ _).symm hidle (.inl rfl)
      · next hother =>
          refine .refused ?_ rfl rfl rfl ⟨error, rfl⟩ rfl
          by_contra hopen
          simp only [not_or, Bool.not_eq_false] at hopen
          exact hother (hblock.mpr hopen)

theorem cancelSend_keeps {s s' : BlockingStream α} {position : Nat}
    (h : s.cancelSend position = some s') :
    s'.toMemoryStream = s.toMemoryStream ∧ s'.offered = s.offered ∧
      (s.pending = [] → s'.pending = []) := by
  unfold cancelSend at h
  split at h
  · cases h
    refine ⟨rfl, rfl, fun hempty => ?_⟩
    obtain ⟨hbuffer, hnobody⟩ := List.append_eq_nil_iff.mp hempty
    simp [pending, hbuffer, hnobody]
  · cases h

theorem receive_ends (s : BlockingStream α) :
    s.receive.2.sendOpen = s.sendOpen ∧ s.receive.2.receiveOpen = s.receiveOpen ∧
      s.receive.2.offered = s.offered := by
  unfold receive
  split
  · next object rest _ =>
      obtain ⟨hsend, hreceive⟩ := s.exchange_ends object
      exact ⟨hsend, hreceive, rfl⟩
  · exact ⟨s.toMemoryStream.receive_keeps.2, s.toMemoryStream.receive_receiveOpen, rfl⟩

theorem abandon_keeps {s s' : BlockingStream α} (h : s.abandon = some s') :
    s'.received = s.received ∧ s'.sendOpen = s.sendOpen ∧ s'.offered = s.offered := by
  unfold abandon at h
  split at h
  · next stream habandon =>
      cases h
      unfold MemoryStream.abandon at habandon
      split at habandon
      · cases habandon
        exact ⟨rfl, rfl, rfl⟩
      · cases habandon
  · cases h

/-- A receive call that is cancelled leaves what is pending to the next one. -/
theorem abandon_spec {s s' : BlockingStream α} (h : s.abandon = some s') :
    s'.pending = s.pending ∧ s'.waitingSenders = s.waitingSenders ∧
      s'.receiveOpen = s.receiveOpen ∧ s'.waitingReceivers = s.waitingReceivers - 1 := by
  unfold abandon at h
  split at h
  · next stream habandon =>
      cases h
      unfold MemoryStream.abandon at habandon
      split at habandon
      · cases habandon
        exact ⟨rfl, rfl, rfl, rfl⟩
      · cases habandon
  · cases h

theorem abandon_eq_none {s : BlockingStream α} (h : s.abandon = none) :
    s.waitingReceivers = 0 := by
  unfold abandon at h
  split at h
  · cases h
  · next habandon =>
      unfold MemoryStream.abandon at habandon
      split at habandon
      · cases habandon
      · omega

theorem send_complete {s : BlockingStream α} (object : α) (hsend : s.sendOpen = true)
    (hreceive : s.receiveOpen = true) (h : s.Complete) : (s.send object).2.Complete := by
  unfold Complete at h ⊢
  rw [s.send_offered object, ← h]
  cases s.send_course object with
  | refused hclosed => simp [hsend, hreceive] at hclosed
  | queued _ hidle hreceived hpending =>
      rw [hreceived, hpending, List.append_assoc]
  | handed _ hwaits hreceived hpending =>
      rw [hreceived, hpending, s.pending_of_waiting hwaits, List.append_nil, List.append_nil]

/-- When nobody waits to send, a receive call is one of the bounded stream. -/
theorem receive_of_nobody {s : BlockingStream α} (h : s.waitingSenders = []) :
    s.receive.1 = s.toMemoryStream.receive.1 ∧
      s.receive.2.toMemoryStream = s.toMemoryStream.receive.2 ∧
      s.receive.2.waitingSenders = [] := by
  unfold receive
  split
  · next hwaiting =>
      rw [h] at hwaiting
      cases hwaiting
  · exact ⟨rfl, rfl, h⟩

theorem receive_of_pending {s : BlockingStream α} {object : α} {rest : List α}
    (hopen : s.receiveOpen = true) (h : s.pending = object :: rest) :
    s.receive.1 = .item object ∧ s.receive.2.received = s.received ++ [object] ∧
      s.receive.2.pending = rest ∧ s.receive.2.waitingReceivers = s.waitingReceivers := by
  cases hwaiting : s.waitingSenders with
  | nil =>
      rw [pending, hwaiting, List.append_nil] at h
      obtain ⟨hresult, hstream, hnone⟩ := receive_of_nobody hwaiting
      rw [hresult, pending, hstream, hnone, List.append_nil]
      exact MemoryStream.receive_of_buffer hopen h
  | cons next others =>
      have hexchange := s.exchange_of_buffer next
      rw [pending, hwaiting, ← List.singleton_append, ← List.append_assoc, ← hexchange] at h
      obtain ⟨hobject, hrest⟩ := List.cons.inj h
      obtain ⟨-, hreceived, hreceivers, -⟩ := s.exchange_keeps next
      rw [hobject] at hreceived
      unfold receive
      split
      · next first rest' hcons =>
          rw [hwaiting] at hcons
          obtain ⟨rfl, rfl⟩ := List.cons.inj hcons
          exact ⟨congrArg Received.item hobject, hreceived, hrest, hreceivers⟩
      · next hnil =>
          rw [hwaiting] at hnil
          cases hnil

/-- With nothing pending a receive call waits, unless an end is closed. -/
theorem receive_of_empty {s : BlockingStream α} (h : s.pending = []) :
    s.receive.2.received = s.received ∧ s.receive.2.pending = [] ∧
      ((s.receive.1 = .waiting ∧ s.receive.2.waitingReceivers = s.waitingReceivers + 1 ∧
          s.receiveOpen = true ∧ s.sendOpen = true) ∨
        (s.receive.1 = .endOfStream ∧ s.receive.2.waitingReceivers = s.waitingReceivers ∧
          s.receiveOpen = true ∧ s.sendOpen = false) ∨
        (s.receive.1 = .closedResource ∧ s.receive.2.waitingReceivers = s.waitingReceivers ∧
          s.receiveOpen = false)) := by
  obtain ⟨hbuffer, hnobody⟩ := List.append_eq_nil_iff.mp h
  obtain ⟨hresult, hstream, hnone⟩ := receive_of_nobody hnobody
  rw [hresult, pending, hstream, hnone, List.append_nil]
  exact MemoryStream.receive_of_empty hbuffer

theorem receive_of_closed {s : BlockingStream α} (hclosed : s.receiveOpen = false) :
    s.receive.1 = .closedResource ∧ s.receive.2.received = s.received ∧
      s.receive.2.pending = s.pending := by
  have hnobody : s.waitingSenders = [] := by
    by_contra hwaiting
    rw [(s.patient hwaiting).2.2] at hclosed
    cases hclosed
  have hreceive : s.toMemoryStream.receive = (.closedResource, s.toMemoryStream) := by
    rw [MemoryStream.receive, if_pos hclosed]
  obtain ⟨hresult, hstream, hnone⟩ := receive_of_nobody hnobody
  rw [hreceive] at hresult hstream
  refine ⟨hresult, by rw [hstream], ?_⟩
  rw [pending, hstream, hnone, pending, hnobody]

/-- A receive call moves an object and drops none. -/
theorem receive_keeps (s : BlockingStream α) :
    s.receive.2.received ++ s.receive.2.pending = s.received ++ s.pending := by
  cases hopen : s.receiveOpen with
  | false =>
      obtain ⟨-, hreceived, hpending⟩ := receive_of_closed hopen
      rw [hreceived, hpending]
  | true =>
      cases hpending : s.pending with
      | nil =>
          obtain ⟨hreceived, hrest, -⟩ := receive_of_empty hpending
          rw [hreceived, hrest]
      | cons object rest =>
          obtain ⟨-, hreceived, hrest, -⟩ := receive_of_pending hopen hpending
          rw [hreceived, hrest, List.append_assoc, List.singleton_append]

theorem mem_of_receive {s : BlockingStream α} {object : α} (h : s.receive.1 = .item object) :
    object ∈ s.pending := by
  cases hopen : s.receiveOpen with
  | false =>
      rw [(receive_of_closed hopen).1] at h
      cases h
  | true =>
      cases hpending : s.pending with
      | nil =>
          obtain ⟨-, -, ⟨hresult, -⟩ | ⟨hresult, -⟩ | ⟨hresult, -⟩⟩ := receive_of_empty hpending
          all_goals
            rw [hresult] at h
            cases h
      | cons first rest =>
          rw [(receive_of_pending hopen hpending).1] at h
          cases h
          exact .head _

theorem mem_of_send {s : BlockingStream α} {object next : α}
    (h : next ∈ (s.send object).2.received ++ (s.send object).2.pending) :
    next ∈ s.received ++ s.pending ∨ next = object := by
  cases s.send_course object with
  | refused _ hreceived hpending =>
      rw [hreceived, hpending] at h
      exact .inl h
  | queued _ _ hreceived hpending =>
      rw [hreceived, hpending, ← List.append_assoc] at h
      exact (List.mem_append.mp h).imp id List.mem_singleton.mp
  | handed _ hwaits hreceived hpending =>
      rw [hreceived, hpending, List.append_nil] at h
      rw [s.pending_of_waiting hwaits, List.append_nil]
      simpa using h

/-- Closing the end of the receiver drops what waits to be sent. -/
theorem closeReceive_sublist (s : BlockingStream α) :
    List.Sublist (s.closeReceive.received ++ s.closeReceive.pending) (s.received ++ s.pending) := by
  have hpending : s.closeReceive.pending = s.buffer := List.append_nil _
  rw [hpending]
  exact (List.Sublist.refl _).append (List.sublist_append_left _ _)

end BlockingStream
