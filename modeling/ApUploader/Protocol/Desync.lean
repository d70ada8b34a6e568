import ApUploader.Protocol.Reset

/-! # Losing sync

A purge while a reply is outstanding drops the payload but leaves the protocol
waiting for sync. From there it regains sync without a new GET_SYNC at the next sync
byte that an accepted status byte follows directly, and not before.
-/

namespace ApUploader.Protocol

def Op.sendsGetSync : Op → Bool
  | .send (.command c) => c.type == .getSync
  | _ => false

def fed : List Op → Bytes
  | [] => []
  | .feed data :: rest => data ++ fed rest
  | _ :: rest => fed rest

def NoResponse (results : List Result) : Prop := ∀ r, .returned (some (.response r)) ∉ results

/-- Somewhere in the bytes an accepted status byte follows a sync byte directly. -/
def SyncPairIn (bytes : Bytes) : Prop :=
  ∃ status ∈ acceptedStatus, [OpCode.inSync.toByte, status] <:+: bytes

def RejectsCommands (p : Protocol) : Prop :=
  ∀ c : Command, c.type ≠ .getSync →
    p.send (.command c) =
      .error (.localProtocolError "need to send GET_SYNC before sending more commands")

/-- The states that a protocol out of sync does not leave without a response or GET_SYNC. -/
def Desynced (p : Protocol) : Prop :=
  p.state = .waitSync ∨ p.state = .idle ∨ p.state = .error

theorem Desynced.inSync {p : Protocol} (h : p.Desynced) : p.inSync = false := by
  rcases h with h | h | h <;> simp [Protocol.inSync, h]

theorem Desynced.rejects {p : Protocol} (h : p.Desynced) : p.RejectsCommands := by
  intro c hc
  simp [send, h.inSync, hc]

/-! ## The history of fed bytes -/

@[simp] theorem fed_append (front back : List Op) : fed (front ++ back) =
    fed front ++ fed back := by
  induction front with
  | nil => rfl
  | cons op rest ih => cases op <;> simp [fed, ih]

theorem SyncPairIn.append {bytes : Bytes} (h : SyncPairIn bytes) (later : Bytes) :
    SyncPairIn (bytes ++ later) := by
  obtain ⟨status, hstatus, hpair⟩ := h
  exact ⟨status, hstatus, hpair.trans (List.prefix_append _ _).isInfix⟩

theorem noResponse_append {front : List Result} {result : Result} :
    NoResponse (front ++ [result]) ↔
      NoResponse front ∧ ∀ r, result ≠ .returned (some (.response r)) := by
  simp only [NoResponse, List.mem_append, List.mem_singleton, not_or, ne_eq, eq_comm (a := result)]
  exact forall_and

theorem settle_buffer_suffix (p : Protocol) : p.settle.buffer <:+ p.buffer := by
  have hlength : p.settleLength.buffer <:+ p.buffer := by
    unfold settleLength
    split_ifs
    · simpa using List.drop_suffix _ _
    · exact List.suffix_refl _
  have hresponse : p.settle.buffer <:+ p.settleLength.buffer := by
    unfold settle settleResponse
    split_ifs
    · exact List.drop_suffix _ _
    · exact List.suffix_refl _
  exact hresponse.trans hlength

/-- A poll takes bytes from the front of the buffer. -/
theorem Yields.buffer_suffix {p q : Protocol} {event : Option Event} (h : p.Yields event q) :
    q.buffer <:+ p.buffer := by
  have hsettle := settle_buffer_suffix p
  cases h with
  | closed => exact List.suffix_refl _
  | quiet => exact List.suffix_refl _
  | stray => exact List.nil_suffix
  | starved => exact hsettle
  | desync => exact (List.drop_suffix _ _).trans hsettle
  | response _ type rest _ hbuffer =>
      have hrest : rest <:+ p.settle.buffer := by
        rw [hbuffer]
        exact (List.suffix_cons _ _).trans (List.suffix_cons _ _)
      exact hrest.trans hsettle

/-- The buffer holds the last of these bytes; of a closed one only that they are among them is
claimed, since bytes that `feed` refuses do not enter it. -/
def Unread (p : Protocol) (bytes : Bytes) : Prop :=
  p.buffer <:+: bytes ∧ (p.bufferClosed = false → p.buffer <:+ bytes)

theorem Unread.mono {p : Protocol} {bytes : Bytes} (h : p.Unread bytes) {q : Protocol}
    (hbuffer : q.buffer <:+ p.buffer) (hclosed : q.bufferClosed = p.bufferClosed) :
    q.Unread bytes :=
  ⟨hbuffer.isInfix.trans h.1, fun hopen => hbuffer.trans (h.2 (hclosed ▸ hopen))⟩

theorem Unread.feed {p q : Protocol} {bytes data : Bytes} (h : p.Unread bytes)
    (hfeed : p.feed data = .ok q) : q.Unread (bytes ++ data) := by
  unfold Protocol.feed at hfeed
  split_ifs at hfeed with hdata hclosed
  · have hopen : p.bufferClosed = false := by simpa using hclosed
    obtain ⟨front, hfront⟩ := h.2 hopen
    have hsuffix : p.buffer ++ data <:+ bytes ++ data := ⟨front, by
      rw [← hfront, List.append_assoc]⟩
    cases hfeed
    exact ⟨hsuffix.isInfix, fun _ => hsuffix⟩
  · cases hfeed
    have hnil : data = [] := not_not.mp hdata
    subst hnil
    rw [List.append_nil]
    exact ⟨h.1, fun hopen => by simp at hopen⟩

theorem Unread.apply {p : Protocol} {bytes : Bytes} (h : p.Unread bytes) (hw : p.WellFormed)
    (op : Op) : (p.apply op).Unread (bytes ++ fed [op]) := by
  cases op with
  | feed data =>
      simp only [fed, List.append_nil, Protocol.apply]
      cases hfeed : p.feed data with
      | ok q => exact h.feed hfeed
      | error e =>
          -- only a closed receiver refuses bytes
          have hclosed : p.bufferClosed = true := by
            unfold Protocol.feed at hfeed
            split_ifs at hfeed with _ hclosed
            exact hclosed
          exact ⟨h.1.trans (List.prefix_append _ _).isInfix,
            fun hopen => by simp [hclosed] at hopen⟩
  | nextEvent =>
      obtain ⟨event, q, hstep, hyields⟩ := nextEvent_yields hw
      simp only [fed, List.append_nil, Protocol.apply, hstep]
      exact h.mono hyields.buffer_suffix hyields.bufferClosed_eq
  | send event =>
      simp only [fed, List.append_nil, Protocol.apply]
      cases hsend : p.send event with
      | error e => exact h
      | ok result =>
          obtain ⟨raw, q⟩ := result
          obtain ⟨c, rfl, _, _, rfl⟩ := send_spec hsend
          exact h.mono (by simp) (by simp)
  | sendFailed =>
      simp only [fed, List.append_nil]
      exact h
  | reset =>
      simp only [fed, List.append_nil]
      exact ⟨List.nil_infix, fun _ => List.nil_suffix⟩

/-! ## Runs out of sync -/

/-- A purge while a reply is outstanding leaves the protocol out of sync. -/
theorem desynced_of_purge {p q : Protocol} {data : Bytes} (hwait : p.Waiting)
    (h : p.Yields (some (.excessData data)) q) : q.Desynced := by
  cases h with
  | stray hstate => exact (hstate hwait).elim
  | desync hstate => exact .inl hstate

/-- Out of sync, no operation but a poll that returns a response and GET_SYNC leads to sync. -/
theorem Desynced.apply {p : Protocol} (h : p.Desynced) (hw : p.WellFormed) {op : Op}
    (hop : op.sendsGetSync = false) (hquiet : ∀ r, p.observe op ≠ .returned (some (.response r))) :
    (p.apply op).Desynced := by
  cases op with
  | feed data =>
      simp only [Protocol.apply]
      cases hfeed : p.feed data with
      | error e => exact h
      | ok q =>
          unfold Desynced
          rw [feed_state hfeed]
          exact h
  | nextEvent =>
      obtain ⟨event, q, hstep, hyields⟩ := nextEvent_yields hw
      simp only [Protocol.apply, hstep]
      have hsettle : p.settle = p := by
        rcases h with hs | hs | hs
        · exact settle_of_waitSync hs
        · exact settle_of_not_waiting (by simp [Waiting, hs])
        · exact settle_of_not_waiting (by simp [Waiting, hs])
      cases hyields with
      | closed => exact h
      | quiet => exact h
      | stray => exact h
      | starved => rwa [hsettle]
      | desync hstate => exact .inl hstate
      | response _ type => exact (hquiet ⟨type, p.settle.payload⟩ (by simp [observe, hstep])).elim
  | send event =>
      simp only [Protocol.apply]
      cases hsend : p.send event with
      | error e => exact h
      | ok result =>
          obtain ⟨c, rfl, hgate, _⟩ := send_spec hsend
          have hother : c.type ≠ .getSync := by simpa [Op.sendsGetSync] using hop
          simp [h.inSync, hother] at hgate
  | sendFailed => exact .inr (.inr rfl)
  | reset => exact .inr (.inl rfl)

/-- A response takes its sync byte and its status byte from the front of the unread bytes. -/
theorem syncPairIn_of_response {p : Protocol} {r : Response} {bytes : Bytes} {op : Op}
    (hw : p.WellFormed) (hunread : p.Unread bytes)
    (h : p.observe op = .returned (some (.response r))) : SyncPairIn bytes := by
  have hyields : ∃ q, p.Yields (some (.response r)) q := by
    cases op with
    | nextEvent =>
        obtain ⟨event, q, hstep, hyields⟩ := nextEvent_yields hw
        simp only [observe, hstep, Result.returned.injEq] at h
        subst h
        exact ⟨q, hyields⟩
    | feed data => simp only [observe] at h; split at h <;> cases h
    | send event => simp only [observe] at h; split at h <;> cases h
    | sendFailed => cases h
    | reset => cases h
  obtain ⟨q, hyields⟩ := hyields
  cases hyields with
  | response _ type rest htype hbuffer =>
      have haccept : type.toByte ∈ acceptedStatus := by
        cases type <;> first | decide | contradiction
      have hpair : [OpCode.inSync.toByte, type.toByte] <:+: p.settle.buffer := by
        rw [hbuffer]
        exact (List.prefix_append [_, _] rest).isInfix
      exact ⟨_, haccept, hpair.trans ((settle_buffer_suffix p).isInfix.trans hunread.1)⟩

/-- Once a purge has lost sync, every run without GET_SYNC stays out of sync until a response, and
there is none without a sync byte that an accepted status byte follows directly. -/
theorem desync_until_sync_pair {p q : Protocol} {data : Bytes} {ops : List Op}
    (hp : Reachable p) (hwait : p.Waiting)
    (hpurge : p.nextEvent = (.ok (some (.excessData data)), q))
    (hops : ∀ op ∈ ops, op.sendsGetSync = false) :
    (NoResponse (q.results ops) →
        (q.after ops).inSync = false ∧ (q.after ops).RejectsCommands) ∧
      (¬ SyncPairIn (q.buffer ++ fed ops) → NoResponse (q.results ops)) := by
  obtain ⟨_, _, hstep, hyields⟩ := nextEvent_yields hp.wellFormed
  rw [hpurge] at hstep
  cases hstep
  have hstart : q.WellFormed ∧ q.Unread (q.buffer ++ fed []) ∧ (NoResponse [] → q.Desynced) ∧
      (¬ SyncPairIn (q.buffer ++ fed []) → NoResponse []) :=
    ⟨hyields.wellFormed hp.wellFormed, by simp [Unread, fed],
      fun _ => desynced_of_purge hwait hyields, by simp [NoResponse]⟩
  have hinv := machine.history_invariant
    (fun s read written => s.WellFormed ∧ s.Unread (q.buffer ++ fed read) ∧
      (NoResponse written → s.Desynced) ∧
      (¬ SyncPairIn (q.buffer ++ fed read) → NoResponse written)) ?_ hstart hops
  · obtain ⟨_, _, hdesynced, hfree⟩ := hinv
    exact ⟨fun hnone => ⟨(hdesynced hnone).inSync, (hdesynced hnone).rejects⟩, hfree⟩
  · rintro s read written op ⟨hw, hunread, hdesynced, hfree⟩ hop
    refine ⟨apply_wellFormed hw op, ?_, ?_, ?_⟩
    · rw [fed_append, ← List.append_assoc]
      exact hunread.apply hw op
    · intro hnone
      obtain ⟨hbefore, hquiet⟩ := noResponse_append.mp hnone
      exact (hdesynced hbefore).apply hw hop hquiet
    · intro hpair
      rw [fed_append, ← List.append_assoc] at hpair
      have hbefore : ¬ SyncPairIn (q.buffer ++ fed read) := fun h => hpair (h.append _)
      refine noResponse_append.mpr ⟨hfree hbefore, fun r hr => hbefore ?_⟩
      exact syncPairIn_of_response hw hunread hr

/-- GET_SYNC is outstanding and a stray byte has arrived in front of the bytes. -/
def strayed (behind : Bytes) : Protocol :=
  new.after [.send (.command .getSync), .feed (0xFF :: behind)]

theorem strayed_reachable (behind : Bytes) : (strayed behind).Reachable := Reachable.new.after _

/-- A lone sync byte behind the stray byte does not regain sync. -/
theorem desync_until_sync_pair_strayed :
    let q := (strayed []).nextEvent.2
    let ops := [Op.feed [OpCode.inSync.toByte], .nextEvent, .feed [0xFF, 0x10], .nextEvent]
    (NoResponse (q.results ops) →
        (q.after ops).inSync = false ∧ (q.after ops).RejectsCommands) ∧
      (¬ SyncPairIn (q.buffer ++ fed ops) → NoResponse (q.results ops)) :=
  desync_until_sync_pair (strayed_reachable []) (by decide)
    (rfl : (strayed []).nextEvent = (.ok (some (.excessData [0xFF])), _)) (by decide)

/-- The sync bytes behind a stray byte are reported as a response, without a new GET_SYNC. -/
theorem desync_not_sticky :
    ¬ ∀ p, Reachable p → p.Waiting → ∀ data q,
      p.nextEvent = (.ok (some (.excessData data)), q) →
      ∀ ops, (∀ op ∈ ops, op.sendsGetSync = false) →
        NoResponse (q.results ops) ∧ (q.after ops).inSync = false ∧
          (q.after ops).RejectsCommands := by
  intro h
  have hpurged := h _ (strayed_reachable [OpCode.inSync.toByte, OpCode.ok.toByte]) (by decide)
    [0xFF] _ rfl [.nextEvent] (by decide)
  exact absurd hpurged.2.1 (by decide)

end ApUploader.Protocol
