import ApUploader.Network.Sending

/-! # What leaves through the shared socket

The worker of a context sends what comes out of its queue, one datagram at a time. So the
datagrams leave in the order in which they were handed to `send()`, none of them twice, and
only a cancellation or a failure loses one. Nothing else ends the worker, hence nothing
else ends the context.
-/

namespace ApUploader

def SendMove.call : SendMove → List Datagram
  | .send data destination => [(data, destination)]
  | _ => []

def SendMove.calls (moves : List SendMove) : List Datagram := moves.flatMap call

namespace SocketUse

structure Sound (c : SocketUse) : Prop where
  writer : c.writer.Sound
  /-- Nobody closes the end of the senders. -/
  sendOpen : c.writer.stream.sendOpen = true
  gone : ¬ c.writer.Live → c.cancelled = true
  left : c.stage = .left → ¬ c.writer.Live

variable {c c' : SocketUse}

theorem new_sound (bufferSize : Nat) : (new bufferSize).Sound where
  writer := Consumer.create_sound bufferSize
  sendOpen := rfl
  gone := fun hgone => absurd ⟨nofun, nofun⟩ hgone
  left := nofun

theorem Sound.of_flags (h : c.Sound) (hwriter : c'.writer = c.writer)
    (hcancelled : c.cancelled = true → c'.cancelled = true)
    (hleft : c'.stage = .left → ¬ c.writer.Live) : c'.Sound where
  writer := hwriter ▸ h.writer
  sendOpen := hwriter ▸ h.sendOpen
  gone := fun hgone => hcancelled (h.gone (hwriter ▸ hgone))
  left := fun hstage => hwriter ▸ hleft hstage

theorem Sound.send (h : c.Sound) (datagram : Datagram) : (c.send datagram).Sound where
  writer := h.writer.send datagram
  sendOpen := (c.writer.stream.send_ends datagram).1.trans h.sendOpen
  gone := h.gone
  left := h.left

theorem cancelSend_spec {position : Nat} (hc : c.cancelSend position = some c') :
    ∃ writer, c.writer.cancelSend position = some writer ∧ c' = { c with writer := writer } ∧
      writer.stream.toMemoryStream = c.writer.stream.toMemoryStream ∧
      writer.stream.offered = c.writer.stream.offered ∧ (writer.Live ↔ c.writer.Live) := by
  unfold cancelSend at hc
  rw [Option.map_eq_some_iff] at hc
  obtain ⟨writer, hwriter, rfl⟩ := hc
  refine ⟨writer, hwriter, rfl, ?_⟩
  unfold Consumer.cancelSend at hwriter
  rw [Option.map_eq_some_iff] at hwriter
  obtain ⟨stream, hstream, rfl⟩ := hwriter
  obtain ⟨hkeeps, hoffered, -⟩ := BlockingStream.cancelSend_keeps hstream
  exact ⟨hkeeps, hoffered, Iff.rfl⟩

theorem Sound.cancelSend {position : Nat} (h : c.Sound) (hc : c.cancelSend position = some c') :
    c'.Sound := by
  obtain ⟨writer, hwriter, rfl, hkeeps, -, hlive⟩ := cancelSend_spec hc
  refine ⟨h.writer.cancelSend hwriter, ?_, ?_, ?_⟩
  · exact (congrArg MemoryStream.sendOpen hkeeps).trans h.sendOpen
  · exact fun hgone => h.gone (mt hlive.mpr hgone)
  · exact fun hstage => mt hlive.mp (h.left hstage)

theorem writerWorker_of_live {writer : Consumer Datagram} (h : writer.Live) :
    c.writerWorker writer = { c with writer := writer } := by
  unfold writerWorker
  split
  · next hended => exact absurd hended h.1
  · next hstopped => exact absurd hstopped h.2
  all_goals rfl

theorem writerWorker_stop (c : SocketUse) :
    c.writerWorker c.writer.stop =
      { c with writer := c.writer.stop.closeReceive, cancelled := true } := rfl

theorem Sound.stopped (h : c.Sound) : (c.writerWorker c.writer.stop).Sound := by
  rw [writerWorker_stop]
  have hgone : ¬ c.writer.stop.Live := fun hlive => hlive.2 rfl
  refine ⟨h.writer.stop.closeReceive hgone, ?_, fun _ => rfl, fun _ => hgone⟩
  exact c.writer.stop_keeps.2.1.trans h.sendOpen

/-- A piece of the worker leaves it alive, for its queue has no end. -/
theorem Sound.write_spec (h : c.Sound) (hc : c.write = some c') :
    c.Started ∧ ∃ writer, c.writer.Advanced writer ∧ writer.Live ∧
      c' = { c with writer := writer } := by
  unfold SocketUse.write at hc
  split at hc
  · next hstarted =>
      rw [Option.map_eq_some_iff] at hc
      obtain ⟨writer, hadvance, rfl⟩ := hc
      have hadvanced := h.writer.advance hadvance
      have hlive := hadvanced.live_of_open h.sendOpen
      exact ⟨hstarted, writer, hadvanced, hlive, writerWorker_of_live hlive⟩
  · cases hc

theorem Sound.write (h : c.Sound) (hc : c.write = some c') : c'.Sound := by
  obtain ⟨hstarted, writer, hadvanced, hlive, rfl⟩ := h.write_spec hc
  refine ⟨h.writer.advanced hadvanced, ?_, fun hgone => absurd hlive hgone, ?_⟩
  · exact (h.writer.advanced_keeps hadvanced).2.2.trans h.sendOpen
  · intro hleft
    rcases hstarted with hstage | hstage <;> exact absurd (hstage.symm.trans hleft) nofun

def perform (c : SocketUse) : SendMove → Option SocketUse
  | .use => none
  | .socketCreated _ => c.enter
  | .socketRefused _ => c.refuse
  | .send data destination => some (c.send (data, destination))
  | .cancelSend _ position => c.cancelSend position
  | .write _ => c.write
  | .writerFails _ => c.writerFails
  | .readerFails _ => c.readerFails
  | .leave _ => c.leave
  | .cancel _ => c.cancel
  | .stopWriter _ => c.stopWriter
  | .stopReader _ => c.stopReader
  | .close _ => c.close

inductive Performed (c : SocketUse) (move : SendMove) (c' : SocketUse) : Prop where
  | flags (hcall : move.call = []) (hwriter : c'.writer = c.writer)
      (hcancelled : c.cancelled = true → c'.cancelled = true)
      (hleft : c'.stage = .left → c.stage = .left ∨ ¬ c.writer.Live)
  | sends (datagram : Datagram) (hcall : move.call = [datagram]) (hnext : c' = c.send datagram)
  | gaveUp (id position : Nat) (hmove : move = .cancelSend id position)
      (hnext : c.cancelSend position = some c')
  | wrote (hcall : move.call = []) (hnext : c.write = some c')
  | stopped (hcall : move.call = []) (hnext : c' = c.writerWorker c.writer.stop)

theorem perform_spec {move : SendMove} (hc : c.perform move = some c') : c.Performed move c' := by
  cases move with
  | use => cases hc
  | socketCreated | socketRefused | leave =>
      obtain ⟨-, rfl⟩ := Machine.guarded hc
      exact .flags rfl rfl id nofun
  | send data destination =>
      cases hc
      exact .sends _ rfl rfl
  | cancelSend id position => exact .gaveUp id position rfl hc
  | write => exact .wrote rfl hc
  | writerFails =>
      simp only [perform, writerFails] at hc
      split at hc
      · obtain ⟨-, rfl⟩ := Machine.guarded hc
        exact .stopped rfl rfl
      · cases hc
  | stopWriter =>
      obtain ⟨-, rfl⟩ := Machine.guarded hc
      exact .stopped rfl rfl
  | readerFails | cancel =>
      obtain ⟨-, rfl⟩ := Machine.guarded hc
      exact .flags rfl rfl (fun _ => rfl) .inl
  | stopReader =>
      obtain ⟨-, rfl⟩ := Machine.guarded hc
      exact .flags rfl rfl id .inl
  | close =>
      obtain ⟨⟨-, hgone, -⟩, rfl⟩ := Machine.guarded hc
      exact .flags rfl rfl id fun _ => .inr hgone

theorem Sound.perform {move : SendMove} (h : c.Sound) (hc : c.perform move = some c') :
    c'.Sound := by
  cases perform_spec hc with
  | flags _ hwriter hcancelled hleft =>
      exact h.of_flags hwriter hcancelled fun hstage => (hleft hstage).elim h.left id
  | sends datagram _ hnext => exact hnext ▸ h.send datagram
  | gaveUp id position _ hnext => exact h.cancelSend hnext
  | wrote _ hnext => exact h.write hnext
  | stopped _ hnext => exact hnext ▸ h.stopped

/-- A context is offered what is handed to `send()`. -/
theorem Sound.perform_offered {move : SendMove} (h : c.Sound) (hc : c.perform move = some c') :
    c'.writer.stream.offered = c.writer.stream.offered ++ move.call := by
  cases perform_spec hc with
  | flags hcall hwriter => simp [hcall, hwriter]
  | sends datagram hcall hnext =>
      rw [hcall, hnext]
      exact c.writer.stream.send_offered datagram
  | gaveUp id position hmove hnext =>
      obtain ⟨writer, -, rfl, -, hoffered, -⟩ := cancelSend_spec hnext
      simp [hmove, SendMove.call, hoffered]
  | wrote hcall hnext =>
      obtain ⟨-, writer, hadvanced, -, rfl⟩ := h.write_spec hnext
      simp [hcall, (h.writer.advanced_keeps hadvanced).2.1]
  | stopped hcall hnext =>
      rw [hcall, hnext, writerWorker_stop, List.append_nil]
      exact c.writer.stop_keeps.2.2

/-- Only a call that is cancelled, or the end of the worker, takes a datagram out. -/
theorem Sound.perform_intact {move : SendMove} (h : c.Sound) (hintact : c.writer.Intact)
    (hmove : ∀ id position, move ≠ .cancelSend id position) (hc : c.perform move = some c') :
    c'.writer.Intact := by
  cases perform_spec hc with
  | flags _ hwriter => exact hwriter ▸ hintact
  | sends datagram _ hnext => exact hnext ▸ hintact.send h.writer h.sendOpen datagram
  | gaveUp id position hgaveUp => exact absurd hgaveUp (hmove id position)
  | wrote _ hnext =>
      obtain ⟨-, writer, hadvanced, -, rfl⟩ := h.write_spec hnext
      exact hintact.advanced h.writer hadvanced
  | stopped _ hnext =>
      subst hnext
      exact fun hphase => absurd rfl hphase

def Writes : SocketUse → SocketUse → Prop := Relation.ReflTransGen fun c c' => c.write = some c'

theorem Sound.writes_of_advances {writer : Consumer Datagram} (h : c.Sound) (hstarted : c.Started)
    (hadvances : c.writer.Advances writer) : c.Writes { c with writer := writer } := by
  generalize hstart : c.writer = start at hadvances
  induction hadvances using Relation.ReflTransGen.head_induction_on generalizing c with
  | refl =>
      subst hstart
      exact .refl
  | @head start next hadvance _ ih =>
      subst hstart
      have hlive := (h.writer.advance hadvance).live_of_open h.sendOpen
      have hwrite : c.write = some { c with writer := next } := by
        rw [SocketUse.write, if_pos hstarted, hadvance, Option.map_some, writerWorker_of_live hlive]
      exact .head hwrite (ih (h.write hwrite) hstarted rfl)

end SocketUse

namespace SocketSender

variable {s s' : SocketSender} {move : SendMove}

theorem atUse_spec {id : Nat} {f : SocketUse → Option SocketUse} (h : s.atUse id f = some s') :
    ∃ c c', s.uses[id]? = some c ∧ f c = some c' ∧ s' = { s with uses := s.uses.set id c' } := by
  simp only [atUse, Option.bind_eq_bind, Option.bind_eq_some_iff, Option.some.injEq] at h
  obtain ⟨c, hc, c', hc', rfl⟩ := h
  exact ⟨c, c', hc, hc', rfl⟩

theorem step_cases (h : machine.step s move = some s') :
    s'.uses = s.uses ∨ s'.uses = s.uses ++ [.new s.bufferSize] ∨
      ∃ id c c', s.uses[id]? = some c ∧ c.perform move = some c' ∧ s'.uses = s.uses.set id c' := by
  cases move with
  | use =>
      cases h
      unfold use
      split
      · exact .inl rfl
      · exact .inr (.inl rfl)
  | send data destination =>
      simp only [machine, step, send] at h
      split at h
      · cases h
        exact .inl rfl
      · obtain ⟨c, c', hc, hc', rfl⟩ := atUse_spec h
        exact .inr (.inr ⟨_, c, c', hc, hc', rfl⟩)
  | socketCreated id | leave id =>
      simp only [machine, step, Option.map_eq_some_iff] at h
      obtain ⟨next, hnext, rfl⟩ := h
      obtain ⟨c, c', hc, hc', rfl⟩ := atUse_spec hnext
      exact .inr (.inr ⟨id, c, c', hc, hc', rfl⟩)
  | socketRefused id | cancelSend id position | write id | writerFails id | readerFails id
  | cancel id | stopWriter id | stopReader id | close id =>
      obtain ⟨c, c', hc, hc', rfl⟩ := atUse_spec h
      exact .inr (.inr ⟨id, c, c', hc, hc', rfl⟩)

/-- What holds of a new context, and behind a move of what was good before, holds of every
context. -/
theorem step_forall {good good' : SocketUse → Prop} (hnew : ∀ bufferSize, good' (.new bufferSize))
    (hkeep : ∀ c, good c → good' c)
    (hperform : ∀ c c', good c → c.perform move = some c' → good' c')
    (h : machine.step s move = some s') (hgood : ∀ c ∈ s.uses, good c) :
    ∀ c ∈ s'.uses, good' c := by
  intro d hd
  rcases step_cases h with huses | huses | ⟨id, c, c', hc, hc', huses⟩
  · exact hkeep d (hgood d (huses ▸ hd))
  · rw [huses, List.mem_append, List.mem_singleton] at hd
    rcases hd with hd | rfl
    · exact hkeep d (hgood d hd)
    · exact hnew _
  · rw [huses] at hd
    rcases List.mem_or_eq_of_mem_set hd with hd | rfl
    · exact hkeep d (hgood d hd)
    · exact hperform c d (hgood c (List.mem_of_getElem? hc)) hc'

theorem run_sound {bufferSize : Nat} {moves : List SendMove}
    (hrun : machine.run (new bufferSize) moves = some s) : ∀ c ∈ s.uses, c.Sound := by
  have hstep : ∀ (s : SocketSender) move s', (∀ c ∈ s.uses, c.Sound) →
      machine.step s move = some s' → ∀ c ∈ s'.uses, c.Sound := by
    intro s move s' h hstep
    exact step_forall SocketUse.new_sound (fun _ => id) (fun _ _ h hc => h.perform hc) hstep h
  exact machine.run_preserves hstep hrun nofun

/-- The contexts are offered what is handed to `send()`, each a part of it. -/
theorem run_offered {moves : List SendMove} {base : List Datagram}
    (hrun : machine.run s moves = some s')
    (h : ∀ c ∈ s.uses, c.Sound ∧ c.writer.stream.offered.Sublist base) :
    ∀ c ∈ s'.uses, c.writer.stream.offered.Sublist (base ++ SendMove.calls moves) := by
  induction moves generalizing s base with
  | nil =>
      cases hrun
      intro c hc
      simpa [SendMove.calls] using (h c hc).2
  | cons move rest ih =>
      obtain ⟨next, hmove, hrest⟩ := Machine.exists_of_run_cons hrun
      have hnext : ∀ c ∈ next.uses,
          c.Sound ∧ c.writer.stream.offered.Sublist (base ++ move.call) := by
        refine step_forall (fun n => ⟨SocketUse.new_sound n, List.nil_sublist _⟩) ?_ ?_ hmove h
        · exact fun c hc => ⟨hc.1, hc.2.trans (List.sublist_append_left _ _)⟩
        · intro c c' hc hperform
          rw [hc.1.perform_offered hperform]
          exact ⟨hc.1.perform hperform, hc.2.append (List.Sublist.refl _)⟩
      simpa [SendMove.calls] using ih hrest hnext

/-- What leaves through a socket was handed to `send()`: in this order, and no call's datagram
leaves twice. -/
theorem datagrams_in_order {bufferSize : Nat} {moves : List SendMove}
    (hrun : machine.run (new bufferSize) moves = some s) :
    ∀ c ∈ s.uses, c.datagrams.Sublist (SendMove.calls moves) := by
  intro c hc
  have hsound := run_sound hrun c hc
  have hoffered := @run_offered _ _ moves [] hrun nofun c hc
  have hreceived : c.datagrams.Sublist (c.writer.stream.received ++ c.writer.stream.pending) :=
    hsound.writer.isPrefix.sublist.trans (List.sublist_append_left _ _)
  exact hreceived.trans (c.writer.stream.received_pending_sublist.trans hoffered)

theorem datagrams_in_order_two :
    ∃ s, machine.run (new 1) [.use, .socketCreated 0, .write 0, .send [1] ("10.0.0.1", 14550),
        .send [2] ("10.0.0.2", 14550), .write 0, .write 0, .write 0, .write 0] = some s ∧
      s.uses.map SocketUse.datagrams =
        [[([1], ("10.0.0.1", 14550)), ([2], ("10.0.0.2", 14550))]] ∧
      ∀ c ∈ s.uses, c.datagrams.Sublist
        [([1], ("10.0.0.1", 14550)), ([2], ("10.0.0.2", 14550))] := by
  have hrun : machine.run (new 1) [.use, .socketCreated 0, .write 0, .send [1] ("10.0.0.1", 14550),
      .send [2] ("10.0.0.2", 14550), .write 0, .write 0, .write 0, .write 0] = some _ := rfl
  exact ⟨_, hrun, rfl, datagrams_in_order hrun⟩

/-- A context is left for good only when it has been cancelled or one of its workers failed. -/
theorem cancelled_of_left {bufferSize : Nat} {moves : List SendMove}
    (hrun : machine.run (new bufferSize) moves = some s) :
    ∀ c ∈ s.uses, c.stage = .left → c.cancelled = true := by
  intro c hc hleft
  have hsound := run_sound hrun c hc
  exact hsound.gone (hsound.left hleft)

theorem cancelled_of_left_interrupted :
    ∃ s, machine.run (new 64) [.use, .socketCreated 0, .write 0, .leave 0, .cancel 0,
        .stopWriter 0, .stopReader 0, .close 0] = some s ∧
      s.uses.map SocketUse.stage = [.left] ∧
      ∀ c ∈ s.uses, c.stage = .left → c.cancelled = true := by
  have hrun : machine.run (new 64) [.use, .socketCreated 0, .write 0, .leave 0, .cancel 0,
      .stopWriter 0, .stopReader 0, .close 0] = some _ := rfl
  exact ⟨_, hrun, rfl, cancelled_of_left hrun⟩

theorem run_intact {bufferSize : Nat} {moves : List SendMove}
    (hrun : machine.run (new bufferSize) moves = some s)
    (hmoves : ∀ id position, .cancelSend id position ∉ moves) : ∀ c ∈ s.uses, c.writer.Intact := by
  have hstep : ∀ (s : SocketSender) (move : SendMove) s',
      (∀ c ∈ s.uses, c.Sound ∧ c.writer.Intact) → (∀ id position, move ≠ .cancelSend id position) →
      machine.step s move = some s' → ∀ c ∈ s'.uses, c.Sound ∧ c.writer.Intact := by
    intro s move s' h hmove hstep
    refine step_forall (fun n => ⟨SocketUse.new_sound n, fun _ => rfl⟩) (fun _ => id) ?_ hstep h
    exact fun c c' hc hperform => ⟨hc.1.perform hperform, hc.1.perform_intact hc.2 hmove hperform⟩
  have hok : ∀ move ∈ moves, ∀ id position, move ≠ .cancelSend id position :=
    fun move hin id position heq => hmoves id position (heq ▸ hin)
  intro c hc
  exact (machine.run_invariant hstep (machine.throughout_of_forall hok _) hrun nofun c hc).2

theorem atUse_eq {id : Nat} {c c' : SocketUse} {f : SocketUse → Option SocketUse}
    (hc : s.uses[id]? = some c) (hf : f c = some c') :
    s.atUse id f = some { s with uses := s.uses.set id c' } := by
  simp [atUse, hc, hf]

theorem exists_run_of_writes {id : Nat} {c c' : SocketUse} (h : c.Writes c')
    (hc : s.uses[id]? = some c) :
    ∃ n s', machine.run s (List.replicate n (.write id)) = some s' ∧ s'.uses[id]? = some c' := by
  induction h using Relation.ReflTransGen.head_induction_on generalizing s with
  | refl => exact ⟨0, s, rfl, hc⟩
  | @head c d hwrite _ ih =>
      have hid : id < s.uses.length := (List.getElem?_eq_some_iff.mp hc).1
      have hstep : machine.step s (.write id) = some { s with uses := s.uses.set id d } :=
        atUse_eq hc hwrite
      obtain ⟨n, s', hrun, hs'⟩ := ih (s := { s with uses := s.uses.set id d }) (by simp [hid])
      refine ⟨n + 1, s', ?_, hs'⟩
      rw [List.replicate_succ, Machine.run, hstep]
      exact hrun

/-- What a context has accepted leaves as soon as its worker gets its turns, also when the body of
the context has been left, unless the context is cancelled or fails. If no `send()` was cancelled,
that is all that was offered to it. -/
theorem accepted_leave {bufferSize : Nat} {moves : List SendMove} {id : Nat} {c : SocketUse}
    (hrun : machine.run (new bufferSize) moves = some s) (hc : s.uses[id]? = some c)
    (hstarted : c.Started) (hcancelled : c.cancelled = false) :
    ∃ n s' c', machine.run s (List.replicate n (.write id)) = some s' ∧ s'.uses[id]? = some c' ∧
      c'.datagrams = c.writer.stream.received ++ c.writer.stream.pending ∧
      ((∀ id position, .cancelSend id position ∉ moves) →
        c'.datagrams = c.writer.stream.offered) := by
  have hmem := List.mem_of_getElem? hc
  have hsound := run_sound hrun c hmem
  have hlive : c.writer.Live := by
    by_contra hgone
    rw [hsound.gone hgone] at hcancelled
    cases hcancelled
  obtain ⟨writer, hadvances, hhandled, -⟩ := hsound.writer.exists_advances hlive
  obtain ⟨n, s', hwritten, hc'⟩ :=
    exists_run_of_writes (hsound.writes_of_advances hstarted hadvances) hc
  refine ⟨n, s', _, hwritten, hc', hhandled, fun hmoves => ?_⟩
  exact hhandled.trans (run_intact hrun hmoves c hmem hlive.2)

theorem accepted_leave_behind_body :
    ∃ s c n s' c', machine.run (new 1) [.use, .socketCreated 0, .send [1] ("10.0.0.1", 14550),
        .send [2] ("10.0.0.2", 14550), .leave 0] = some s ∧ s.uses[0]? = some c ∧
      c.stage = .leaving ∧ machine.run s (List.replicate n (.write 0)) = some s' ∧
      s'.uses[0]? = some c' ∧
      c'.datagrams = [([1], ("10.0.0.1", 14550)), ([2], ("10.0.0.2", 14550))] := by
  have hrun : machine.run (new 1) [.use, .socketCreated 0, .send [1] ("10.0.0.1", 14550),
      .send [2] ("10.0.0.2", 14550), .leave 0] = some _ := rfl
  obtain ⟨n, s', c', hwritten, hc', hdatagrams, -⟩ :=
    @accepted_leave _ 1 _ 0 _ hrun rfl (.inr rfl) rfl
  exact ⟨_, _, n, s', c', hrun, rfl, rfl, hwritten, hc', hdatagrams⟩

end SocketSender

end ApUploader
