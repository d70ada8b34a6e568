import ApUploader.Logic.MarkerScan
import ApUploader.Protocol.Chunking

/-! # Looking for sync

While the protocol waits for sync with no payload stored, polling it runs a marker
scanner over the buffer: the marker is the sync byte, the accepted symbols are the
status bytes. Garbage in front of the sync bytes is reported as it is, but a run of
an odd number of sync bytes at its end takes the sync byte of the reply with it.
-/

namespace ApUploader.Protocol

open MarkerScan

abbrev syncsAtEnd (bytes : Bytes) : Nat := runAtEnd OpCode.inSync.toByte bytes

/-- No status byte stands where it would be taken for one. -/
abbrev NoStatusSeen (bytes : Bytes) : Prop := Unseen OpCode.inSync.toByte acceptedStatus bytes

/-- Scanning for the sync byte and a status byte. -/
abbrev SyncScan : Bytes → List Bytes → Bytes → Prop := Scan OpCode.inSync.toByte acceptedStatus

theorem inSync_not_mem_acceptedStatus : OpCode.inSync.toByte ∉ acceptedStatus := by decide

/-! ## Polls are steps of the scanner -/

/-- A poll reports the piece that the scanner discards next, behind the stored payload. -/
theorem nextEvent_scan {p : Protocol} {payload data piece tail : Bytes} {pieces : List Bytes}
    (hw : p.WellFormed) (hopen : p.bufferClosed = false) (hsettle : p.settle = syncing payload data)
    (h : SyncScan data (piece :: pieces) tail) :
    ∃ rest, SyncScan rest pieces tail ∧
      p.nextEvent = (.ok (some (.excessData (payload ++ piece))), syncing [] rest) := by
  cases h with
  | noMarker hsome hnone =>
      exact ⟨[], .halted .nothing, nextEvent_noSync hw hopen hsettle hsome hnone⟩
  | beforeMarker hsome hnone hrest =>
      exact ⟨_, hrest, nextEvent_beforeSync hw hopen hsettle hsome hnone⟩
  | badSymbol hbad hrest => exact ⟨_, hrest, nextEvent_badStatus hw hopen hsettle hbad⟩

/-- Polling reports the pieces, and then what is left is polled. -/
theorem drains_scan {data tail : Bytes} {pieces : List Bytes} {events : List Event} {q : Protocol}
    (h : SyncScan data pieces tail) (hrest : Drains (syncing [] tail) events q) :
    Drains (syncing [] data) (pieces.map .excessData ++ events) q := by
  induction pieces generalizing data with
  | nil =>
      have hdata := h.flatten_append
      simp only [List.flatten_nil, List.nil_append] at hdata
      rw [← hdata]
      exact hrest
  | cons piece pieces ih =>
      obtain ⟨rest, hscan, hstep⟩ :=
        nextEvent_scan (syncing_wellFormed [] data) rfl (settle_of_waitSync rfl) h
      exact .event hstep (by simp) (ih hscan)

theorem drains_sync_pair :
    ∃ q, Drains (syncing [] [OpCode.inSync.toByte, OpCode.ok.toByte])
      [.response ⟨.ok, []⟩] q := by
  have hstep := nextEvent_of_reply (syncing_wellFormed [] _) rfl
    (by decide : ResponseType.ok ≠ .badSiliconRev)
    (settle_of_waitSync rfl :
      (syncing [] [OpCode.inSync.toByte, ResponseType.ok.toByte]).settle = _)
  exact ⟨_, .event hstep (by simp) (.turn synced_nextEvent)⟩

/-! ## Garbage in front of the sync bytes -/

/-- Followed by the sync bytes, the garbage contains no other sync byte that an accepted status byte
follows directly. -/
def SoleSyncPair (garbage : Bytes) : Prop :=
  ∀ front status back, front ++ OpCode.inSync.toByte :: status :: back =
    garbage ++ [OpCode.inSync.toByte, OpCode.ok.toByte] → status ∈ acceptedStatus → front = garbage

def FindsSync (p : Protocol) (garbage : Bytes) (chunks : List Bytes) : Prop :=
  ∃ (pieces : List Bytes) (reply : Response) (q : Protocol),
    p.deliver chunks = some (pieces.map .excessData ++ [.response reply], q) ∧
      pieces.flatten = garbage ∧ reply.type = .ok

/-- Behind an even run of sync bytes the scanner stops at the sync bytes. -/
theorem SoleSyncPair.tail_of_even {garbage tail : Bytes} {pieces : List Bytes}
    (h : SoleSyncPair garbage) (hrun : Even (syncsAtEnd garbage))
    (hscan : SyncScan (garbage ++ [OpCode.inSync.toByte, OpCode.ok.toByte]) pieces tail) :
    tail = [OpCode.inSync.toByte, OpCode.ok.toByte] := by
  have hseen : ¬ NoStatusSeen (garbage ++ [OpCode.inSync.toByte, OpCode.ok.toByte]) :=
    not_unseen_of_pair [] (by decide) hrun
  generalize hdata : garbage ++ [OpCode.inSync.toByte, OpCode.ok.toByte] = data at hscan hseen
  cases hscan.leaves inSync_not_mem_acceptedStatus with
  | nothing hunseen => exact (hseen hunseen).elim
  | marker hunseen => exact (hseen hunseen).elim
  | pair back hmem _ =>
      have hfront := h _ _ _ hdata.symm hmem
      rw [hfront] at hdata
      exact (List.append_cancel_left hdata).symm

/-- Behind an odd run of sync bytes nothing is left. -/
theorem SoleSyncPair.tail_of_odd {garbage tail : Bytes} {pieces : List Bytes}
    (h : SoleSyncPair garbage) (hrun : ¬ Even (syncsAtEnd garbage))
    (hscan : SyncScan (garbage ++ [OpCode.inSync.toByte, OpCode.ok.toByte]) pieces tail) :
    tail = [] := by
  have hbytes := hscan.flatten_append
  generalize hdata : garbage ++ [OpCode.inSync.toByte, OpCode.ok.toByte] = data at hscan hbytes
  cases hscan.leaves inSync_not_mem_acceptedStatus with
  | nothing => rfl
  | marker =>
      -- the last byte is not a sync byte
      rw [← hdata] at hbytes
      have hlast := congrArg List.getLast? hbytes
      simp at hlast
      exact absurd hlast (by decide)
  | pair back hmem heven =>
      have hfront := h _ _ _ hdata.symm hmem
      rw [hfront] at heven
      exact (hrun heven).elim

theorem tokens_excess (pieces : List Bytes) :
    tokens (pieces.map .excessData) = pieces.flatten.map .stray := by
  induction pieces with
  | nil => rfl
  | cons piece pieces ih => simp [ih, Event.tokens]

theorem strays_split {payload garbage : Bytes} {rest : List Token} {event : Event}
    (h : payload.map .stray ++ rest = garbage.map .stray ++ [.event event]) :
    ∃ later, garbage = payload ++ later ∧ rest = later.map .stray ++ [.event event] := by
  induction payload generalizing garbage with
  | nil => exact ⟨garbage, rfl, h⟩
  | cons byte payload ih =>
      cases garbage with
      | nil => simp at h
      | cons first garbage =>
          simp only [List.map_cons, List.cons_append, List.cons.injEq, Token.stray.injEq] at h
          obtain ⟨later, hgarbage, hrest⟩ := ih h.2
          exact ⟨later, by rw [h.1, hgarbage, List.cons_append], hrest⟩

theorem eq_nil_of_tokens {events : List Event} (hsome : Substantial events)
    (h : tokens events = []) : events = [] := by
  cases events with
  | nil => rfl
  | cons event rest =>
      rw [tokens_cons, List.append_eq_nil_iff] at h
      cases event with
      | excessData payload =>
          have hnil : payload = [] := by simpa [Event.tokens] using h.1
          exact (hsome payload List.mem_cons_self hnil).elim
      | needMoreData => simp [Event.tokens] at h
      | connectionClosed => simp [Event.tokens] at h
      | command c => simp [Event.tokens] at h
      | response r => simp [Event.tokens] at h

/-- Tokens of excess data and a response come from ExcessData events and a response. -/
theorem excess_of_tokens {events : List Event} {garbage : Bytes} {reply : Response}
    (hsome : Substantial events)
    (h : tokens events = garbage.map .stray ++ [.event (.response reply)]) :
    ∃ pieces : List Bytes, events = pieces.map .excessData ++ [.response reply] ∧
      pieces.flatten = garbage := by
  induction events generalizing garbage with
  | nil => simp at h
  | cons event rest ih =>
      have hrest : Substantial rest := fun payload hmem =>
        hsome payload (List.mem_cons_of_mem _ hmem)
      rw [tokens_cons] at h
      by_cases hexcess : ∃ payload, event = .excessData payload
      · obtain ⟨payload, rfl⟩ := hexcess
        obtain ⟨later, hgarbage, htokens⟩ := strays_split h
        obtain ⟨pieces, hevents, hflatten⟩ := ih hrest htokens
        exact ⟨payload :: pieces, by rw [hevents]; rfl, by rw [hgarbage, ← hflatten]; rfl⟩
      · have htoken : event.tokens = [.event event] := by
          cases event with
          | excessData payload => exact (hexcess ⟨payload, rfl⟩).elim
          | _ => rfl
        rw [htoken] at h
        cases garbage with
        | cons first garbage => simp at h
        | nil =>
            simp only [List.map_nil, List.nil_append, List.cons_append, List.cons.injEq,
              Token.event.injEq] at h
            obtain ⟨rfl, hnil⟩ := h
            rw [eq_nil_of_tokens hrest hnil]
            exact ⟨[], rfl, rfl⟩

/-- Whatever the chunks are, the events have the tokens of scanning all bytes at once. -/
theorem deliver_scan {garbage tail : Bytes} {pieces chunks : List Bytes}
    {later : List Event} {q : Protocol}
    (hchunks : ∀ chunk ∈ chunks, chunk ≠ [])
    (hbytes : chunks.flatten = garbage ++ [OpCode.inSync.toByte, OpCode.ok.toByte])
    (hscan : SyncScan (garbage ++ [OpCode.inSync.toByte, OpCode.ok.toByte]) pieces tail)
    (htail : Drains (syncing [] tail) later q) :
    ∃ events r, (syncing [] []).deliver chunks = some (events, r) ∧ Substantial events ∧
      tokens events = pieces.flatten.map .stray ++ tokens later := by
  cases chunks with
  | nil => simp at hbytes
  | cons chunk rest =>
      obtain ⟨hhead, hrest⟩ := List.forall_mem_cons.mp hchunks
      obtain ⟨events, whole, r, hdeliver, hsome, hdrains, htokens⟩ :=
        deliver_total chunk rest (syncing_wellFormed [] []) rfl hhead hrest
      have hwhole := drains_scan hscan htail
      rw [← hbytes] at hwhole
      obtain ⟨rfl, _⟩ := hdrains.unique hwhole
      refine ⟨events, r, hdeliver, hsome, ?_⟩
      rw [← htokens, tokens_append, tokens_excess]

theorem send_getSync_clean {p q : Protocol} {raw : Bytes} (hbuffer : p.buffer = [])
    (hpayload : p.payload = []) (hopen : p.bufferClosed = false)
    (hsend : p.send (.command .getSync) = .ok (raw, q)) : q = syncing [] [] := by
  obtain ⟨c, hc, _, _, rfl⟩ := send_spec hsend
  cases hc
  have hlength : Command.getSync.responseLength = 0 := by decide
  rw [hlength, startWaitingForResponse_zero]
  simp [startWaitingForSync, syncing, hbuffer, hpayload, hopen]

/-- Behind garbage without a sync pair of its own the reply to GET_SYNC is found, however the bytes
are split, exactly when an even number of sync bytes stands at the end of the garbage. -/
theorem sync_pair_found_iff {p q : Protocol} {raw garbage : Bytes} {chunks : List Bytes}
    (hbuffer : p.buffer = []) (hpayload : p.payload = []) (hopen : p.bufferClosed = false)
    (hsend : p.send (.command .getSync) = .ok (raw, q)) (hsole : SoleSyncPair garbage)
    (hchunks : ∀ chunk ∈ chunks, chunk ≠ [])
    (hbytes : chunks.flatten = garbage ++ [OpCode.inSync.toByte, OpCode.ok.toByte]) :
    q.FindsSync garbage chunks ↔ Even (syncsAtEnd garbage) := by
  have hq := send_getSync_clean hbuffer hpayload hopen hsend
  subst hq
  obtain ⟨pieces, tail, hscan⟩ : ∃ pieces tail,
      SyncScan (garbage ++ [OpCode.inSync.toByte, OpCode.ok.toByte]) pieces tail := scan_total _
  have hflatten := hscan.flatten_append
  by_cases hrun : Even (syncsAtEnd garbage)
  · have htail := hsole.tail_of_even hrun hscan
    subst htail
    obtain ⟨r, hpair⟩ := drains_sync_pair
    obtain ⟨events, s, hdeliver, hsome, htokens⟩ := deliver_scan hchunks hbytes hscan hpair
    have hgarbage := List.append_cancel_right hflatten
    obtain ⟨cuts, hevents, hcuts⟩ := excess_of_tokens hsome htokens
    rw [hevents] at hdeliver
    have hfound : (syncing [] []).FindsSync garbage chunks :=
      ⟨cuts, ⟨.ok, []⟩, s, hdeliver, hcuts.trans hgarbage, rfl⟩
    exact iff_of_true hfound hrun
  · have htail := hsole.tail_of_odd hrun hscan
    subst htail
    obtain ⟨events, s, hdeliver, _, htokens⟩ :=
      deliver_scan hchunks hbytes hscan drains_syncing_nil
    refine iff_of_false ?_ hrun
    intro hfound
    obtain ⟨cuts, reply, r, hother, _, _⟩ := hfound
    rw [hdeliver] at hother
    -- a response would be a token, but there are only strays
    have hevents : events = cuts.map .excessData ++ [.response reply] := by
      simpa using congrArg (Option.map Prod.fst) hother
    have hmem : Token.event (.response reply) ∈ tokens events := by
      rw [hevents]
      simp [Event.tokens]
    simp [htokens] at hmem

/-- Garbage of sync bytes only has no sync pair of its own. -/
theorem soleSyncPair_replicate (n : Nat) :
    SoleSyncPair (List.replicate n OpCode.inSync.toByte) := by
  intro front status back h hmem
  have hne : status ≠ OpCode.inSync.toByte := by
    intro heq
    exact inSync_not_mem_acceptedStatus (heq ▸ hmem)
  -- only the last byte is not a sync byte
  have hsplit : List.replicate n OpCode.inSync.toByte ++ [OpCode.inSync.toByte, OpCode.ok.toByte] =
      List.replicate (n + 1) OpCode.inSync.toByte ++ [OpCode.ok.toByte] := by
    simp [List.replicate_succ']
  rw [hsplit] at h
  have hback : back = [] := by
    by_contra hback
    have hdrop := congrArg List.dropLast h
    have hcons : (OpCode.inSync.toByte :: status :: back).dropLast =
        OpCode.inSync.toByte :: status :: back.dropLast := by
      simp [List.dropLast_cons_of_ne_nil hback]
    rw [List.dropLast_append_of_ne_nil (by simp), hcons, List.dropLast_concat] at hdrop
    have hin : status ∈ List.replicate (n + 1) OpCode.inSync.toByte := by
      rw [← hdrop]
      simp
    exact hne (List.eq_of_mem_replicate hin)
  subst hback
  have hdrop := congrArg (fun bytes => bytes.dropLast.dropLast) h
  simpa [List.replicate_succ', List.dropLast_append_of_ne_nil] using hdrop

theorem sync_pair_found_iff_two :
    (syncing [] []).FindsSync [0x12, 0x12] [[0x12], [0x12, 0x12], [0x10]] ↔
      Even (syncsAtEnd [0x12, 0x12]) :=
  sync_pair_found_iff (p := new) rfl rfl rfl rfl (soleSyncPair_replicate 2) (by decide) rfl

/-- One sync byte in front of the sync bytes of the reply hides them. -/
theorem sync_pair_hidden :
    ¬ ∀ (p q : Protocol) (raw garbage : Bytes) (chunks : List Bytes), p.buffer = [] →
      p.payload = [] → p.bufferClosed = false → p.send (.command .getSync) = .ok (raw, q) →
      SoleSyncPair garbage → (∀ chunk ∈ chunks, chunk ≠ []) →
      chunks.flatten = garbage ++ [OpCode.inSync.toByte, OpCode.ok.toByte] →
      q.FindsSync garbage chunks := by
  intro h
  obtain ⟨cuts, reply, r, hdeliver, _⟩ :=
    h new (syncing [] []) _ [0x12] [[0x12, 0x12, 0x10]] rfl rfl
    rfl rfl (soleSyncPair_replicate 1) (by decide) rfl
  have hevents : (syncing [] []).deliver [[0x12, 0x12, 0x10]] =
      some ([.excessData [0x12, 0x12], .excessData [0x10]], syncing [] []) := by decide
  rw [hevents] at hdeliver
  have hlast := congrArg (fun result => (result.map Prod.fst).bind List.getLast?) hdeliver
  simp at hlast

end ApUploader.Protocol
