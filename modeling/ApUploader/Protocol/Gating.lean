import ApUploader.Protocol.Invariant
import ApUploader.Protocol.Run

/-! # One command at a time

`send` takes a command other than GET_SYNC in the synced state only, and the synced
state is entered by a poll that returns a response and by nothing else. So the gate
is open exactly when a response has come since the last step that closed it.
-/

namespace ApUploader.Protocol

abbrev Entry := Op × Result

def history (p : Protocol) : List Op → List Entry
  | [] => []
  | op :: rest => (op, p.observe op) :: (p.apply op).history rest

def Entry.isResponse : Entry → Prop
  | (.nextEvent, .returned (some (.response _))) => True
  | _ => False

def Entry.restarts : Entry → Prop
  | (.send _, .encoded _) => True
  | (.sendFailed, _) => True
  | (.reset, _) => True
  | _ => False

/-- A response has been returned since the exchange was last restarted. -/
def Answered (entries : List Entry) : Prop :=
  ∃ before reply behind, entries = before ++ reply :: behind ∧ Entry.isResponse reply ∧
    ∀ entry ∈ behind, ¬ Entry.restarts entry

theorem history_append (p : Protocol) (front back : List Op) :
    p.history (front ++ back) = p.history front ++ (p.after front).history back := by
  induction front generalizing p with
  | nil => rfl
  | cons op rest ih => rw [List.cons_append, history, history, ih, List.cons_append]; rfl

theorem Entry.not_response_of_restarts {entry : Entry} (h : entry.restarts) :
    ¬ entry.isResponse := by
  intro hresponse
  obtain ⟨op, result⟩ := entry
  cases op with
  | nextEvent => simp [restarts] at h
  | _ => simp [isResponse] at hresponse

theorem not_answered_nil : ¬ Answered [] := by
  intro h
  obtain ⟨before, reply, behind, heq, _⟩ := h
  simp at heq

theorem answered_concat {entries : List Entry} {entry : Entry} :
    Answered (entries ++ [entry]) ↔
      entry.isResponse ∨ ¬ entry.restarts ∧ Answered entries := by
  constructor
  · intro h
    obtain ⟨before, reply, behind, heq, hreply, hbehind⟩ := h
    rcases List.eq_nil_or_concat behind with rfl | ⟨init, last, rfl⟩
    · obtain ⟨_, hlast⟩ := List.append_inj' heq rfl
      cases hlast
      exact .inl hreply
    · rw [List.concat_eq_append, ← List.cons_append, ← List.append_assoc] at heq
      obtain ⟨hentries, hlast⟩ := List.append_inj' heq rfl
      cases hlast
      simp only [List.concat_eq_append, List.forall_mem_append, List.forall_mem_singleton]
        at hbehind
      exact .inr ⟨hbehind.2, before, reply, init, hentries, hreply, hbehind.1⟩
  · intro h
    rcases h with h | ⟨hkeep, before, reply, behind, rfl, hreply, hbehind⟩
    · exact ⟨entries, entry, [], rfl, h, by simp⟩
    · refine ⟨before, reply, behind ++ [entry], by simp, hreply, ?_⟩
      simp only [List.forall_mem_append, List.forall_mem_singleton]
      exact ⟨hbehind, hkeep⟩

theorem not_answered_of_restart {front back : List Entry} {entry : Entry} (h : entry.restarts)
    (hquiet : ∀ other ∈ back, ¬ Entry.isResponse other) : ¬ Answered (front ++ entry :: back) := by
  induction back using List.reverseRecOn with
  | nil =>
      rw [answered_concat]
      simp [h, entry.not_response_of_restarts h]
  | append_singleton back last ih =>
      simp only [List.forall_mem_append, List.forall_mem_singleton] at hquiet
      rw [← List.cons_append, ← List.append_assoc, answered_concat]
      simp [hquiet.2, ih hquiet.1]

/-! ## The gate -/

/-- A poll that returns no response neither enters nor leaves the synced state. -/
theorem Yields.inSync_eq {p q : Protocol} {event : Option Event} (h : p.Yields event q)
    (hquiet : ∀ r, event ≠ some (.response r)) : q.inSync = p.inSync := by
  cases h with
  | closed => rfl
  | quiet => rfl
  | stray => rfl
  | starved hstarved =>
      have hp := waiting_of_starved hstarved
      rw [inSync_of_waiting hp, inSync_of_waiting (settle_waiting hp)]
  | desync hstate =>
      have hsettle : p.settle.Waiting := .inr (.inr hstate)
      rw [inSync_of_waiting (waiting_of_settle hsettle)]
      simp [inSync, hstate]
  | response _ type => exact (hquiet _ rfl).elim

def Gated (p : Protocol) (entries : List Entry) : Prop :=
  p.WellFormed ∧ (p.inSync = true ↔ Answered entries)

theorem Gated.keep {p q : Protocol} {entries : List Entry} {entry : Entry} (h : p.Gated entries)
    (hw : q.WellFormed) (hsync : q.inSync = p.inSync) (hquiet : ¬ entry.isResponse)
    (hkeep : ¬ entry.restarts) : q.Gated (entries ++ [entry]) := by
  refine ⟨hw, ?_⟩
  rw [hsync, answered_concat, h.2]
  simp [hquiet, hkeep]

theorem Gated.restart {q : Protocol} {entries : List Entry} {entry : Entry} (hw : q.WellFormed)
    (hsync : q.inSync = false) (hrestart : entry.restarts) : q.Gated (entries ++ [entry]) := by
  refine ⟨hw, ?_⟩
  rw [hsync]
  exact iff_of_false (by simp) (not_answered_of_restart hrestart (by simp))

theorem Gated.apply {p : Protocol} {entries : List Entry} (h : p.Gated entries) (op : Op) :
    (p.apply op).Gated (entries ++ [(op, p.observe op)]) := by
  have hw := apply_wellFormed h.1 op
  cases op with
  | feed data =>
      have hsync : (p.apply (.feed data)).inSync = p.inSync := by
        simp only [Protocol.apply]
        cases hfeed : p.feed data with
        | ok q => simp [inSync, feed_state hfeed]
        | error e => rfl
      apply h.keep hw hsync
      · simp [Entry.isResponse]
      · simp [Entry.restarts]
  | nextEvent =>
      obtain ⟨event, q, hstep, hyields⟩ := nextEvent_yields h.1
      by_cases hresponse : ∃ r, event = some (.response r)
      · obtain ⟨r, rfl⟩ := hresponse
        refine ⟨hw, iff_of_true ?_ (answered_concat.mpr (.inl ?_))⟩
        · simpa [Protocol.apply, hstep] using (response_spec hyields).2.1
        · simp [Entry.isResponse, observe, hstep]
      · have hquiet : ∀ r, event ≠ some (.response r) := fun r hr => hresponse ⟨r, hr⟩
        apply h.keep hw
        · simpa [Protocol.apply, hstep] using hyields.inSync_eq hquiet
        · cases event with
          | none => simp [Entry.isResponse, observe, hstep]
          | some event =>
              cases event with
              | response r => exact (hquiet r rfl).elim
              | _ => simp [Entry.isResponse, observe, hstep]
        · simp [Entry.restarts]
  | send event =>
      cases hsend : p.send event with
      | error e =>
          have hkeep : p.apply (.send event) = p := by simp [Protocol.apply, hsend]
          have hentry : p.observe (.send event) = .raised e := by simp [observe, hsend]
          rw [hentry]
          exact h.keep hw (by rw [hkeep]) (by simp [Entry.isResponse]) (by simp [Entry.restarts])
      | ok result =>
          obtain ⟨raw, q⟩ := result
          obtain ⟨c, rfl, _, _, rfl⟩ := send_spec hsend
          have hentry : p.observe (.send (.command c)) = .encoded raw := by simp [observe, hsend]
          rw [hentry]
          apply Gated.restart hw
          · simpa [Protocol.apply, hsend] using
              inSync_of_waiting (startWaitingForResponse_waiting p c.responseLength)
          · simp [Entry.restarts]
  | sendFailed =>
      exact Gated.restart hw rfl (by simp [Entry.restarts])
  | reset =>
      exact Gated.restart hw rfl (by simp [Entry.restarts])

theorem Gated.after {p : Protocol} {entries : List Entry} (h : p.Gated entries) (ops : List Op) :
    (p.after ops).Gated (entries ++ p.history ops) := by
  induction ops generalizing p entries with
  | nil => simpa [history, Protocol.after, Transducer.run] using h
  | cons op rest ih =>
      have hrest := ih (h.apply op)
      rw [List.append_assoc] at hrest
      exact hrest

theorem gated_new : new.Gated [] :=
  ⟨new_wellFormed, iff_of_false (by simp [inSync, new]) not_answered_nil⟩

def Takes (p : Protocol) (c : Command) : Prop := ∃ raw q, p.send (.command c) = .ok (raw, q)

theorem takes_iff_inSync (p : Protocol) {c : Command} {raw : Bytes} (htype : c.type ≠ .getSync)
    (henc : c.toBytes = .ok raw) : p.Takes c ↔ p.inSync = true := by
  unfold Takes
  by_cases hsync : p.inSync = true
  · simp [send, hsync, henc]
  · simp [send, hsync, htype]

theorem apply_of_not_takes {p : Protocol} {c : Command} (h : ¬ p.Takes c) :
    p.apply (.send (.command c)) = p := by
  cases hsend : p.send (.command c) with
  | error e => simp [apply, hsend]
  | ok result => exact (h ⟨result.1, result.2, hsend⟩).elim

/-- A command other than GET_SYNC is taken exactly when a response has come since the last restart;
when it is not taken the state stays as it is. So it is not taken while another one is
outstanding. -/
theorem takes_iff_answered (ops : List Op) {c : Command} {raw : Bytes} (htype : c.type ≠ .getSync)
    (henc : c.toBytes = .ok raw) :
    ((new.after ops).Takes c ↔ Answered (new.history ops)) ∧
      (¬ (new.after ops).Takes c →
        (new.after ops).apply (.send (.command c)) = new.after ops) ∧
      ∀ before first behind, ops = before ++ .send (.command first) :: behind →
        (new.after before).Takes first →
        (∀ entry ∈ ((new.after before).apply (.send (.command first))).history behind,
          ¬ Entry.isResponse entry) →
        ¬ (new.after ops).Takes c := by
  have hgate : (new.after ops).Takes c ↔ Answered (new.history ops) := by
    rw [takes_iff_inSync _ htype henc]
    simpa using (gated_new.after ops).2
  refine ⟨hgate, apply_of_not_takes, ?_⟩
  intro before first behind hops hfirst hquiet
  obtain ⟨raw', q, hsend⟩ := hfirst
  have hentry : (new.after before).observe (.send (.command first)) = .encoded raw' := by
    simp [observe, hsend]
  rw [hgate, hops, history_append, history, hentry]
  exact not_answered_of_restart (by simp [Entry.restarts]) hquiet

def getsSync : List Op :=
  [.send (.command .getSync), .feed [OpCode.inSync.toByte, OpCode.ok.toByte], .nextEvent]

theorem takes_iff_answered_getCrc :
    ((new.after getsSync).Takes .getCrc ↔ Answered (new.history getsSync)) ∧
      (¬ (new.after getsSync).Takes .getCrc →
        (new.after getsSync).apply (.send (.command .getCrc)) = new.after getsSync) ∧
      ∀ before first behind, getsSync = before ++ .send (.command first) :: behind →
        (new.after before).Takes first →
        (∀ entry ∈ ((new.after before).apply (.send (.command first))).history behind,
          ¬ Entry.isResponse entry) →
        ¬ (new.after getsSync).Takes .getCrc :=
  takes_iff_answered getsSync (by decide) (rfl : Command.getCrc.toBytes = _)

end ApUploader.Protocol
