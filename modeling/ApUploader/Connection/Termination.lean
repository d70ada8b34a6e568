import ApUploader.Connection.Pass
import ApUploader.Protocol.Awaiting

/-! # The command loop ends against any peer

Only faults consume retries, but between two faults every pass lowers the number
of bytes the protocol can still take before it reports an event. The retries left
and this number make one variant, which pays for every pass and in particular for
every receive, whatever the peer sends.
-/

namespace ApUploader

open Effect Protocol

variable {σ : Type}

def receives (trace : List Action) : Nat :=
  trace.countP fun
    | .received _ => true
    | _ => false

theorem receives_concat (trace : List Action) (a : Action) :
    receives (trace ++ [a]) ≤ receives trace + 1 := by
  simp only [receives, List.countP_append, List.countP_singleton]
  split_ifs <;> omega

/-- A receive ends: it returns at least one byte, raises or times out. -/
def Transport.Delivers (T : Transport σ) : Prop :=
  ∀ timeout s, ∃ result s', T.receive timeout s = (.ended result, s') ∧ result ≠ .ok []

/-! ## Missing bytes -/

/-- How many bytes a state without an outstanding length prefix waits for. -/
def bytesMissing (p : Protocol) : Nat :=
  match p.state with
  | .waitResponse => p.bytesExpected + 2 - p.buffer.length
  | .waitSync => 2 - p.buffer.length
  | _ => 0

theorem bytesMissing_response {p : Protocol} (h : p.state = .waitResponse) :
    bytesMissing p = p.bytesExpected + 2 - p.buffer.length := by
  simp [bytesMissing, h]

theorem bytesMissing_sync {p : Protocol} (h : p.state = .waitSync) :
    bytesMissing p = 2 - p.buffer.length := by
  simp [bytesMissing, h]

theorem settle_of_known_length {p : Protocol} (h : p.state ≠ .waitResponseLength) :
    p.settle = p.settleResponse := by
  simp [settle, settleLength, h]

theorem settle_known_length {p : Protocol} (h : p.state ≠ .waitResponseLength) :
    p.settle.state ≠ .waitResponseLength := by
  rw [settle_of_known_length h]
  exact settleResponse_state_ne h

theorem bytesMissing_settle {p : Protocol} (h : p.state ≠ .waitResponseLength) :
    bytesMissing p.settle = bytesMissing p := by
  rw [settle_of_known_length h]
  by_cases hfull : p.state = .waitResponse ∧ p.bytesExpected ≤ p.buffer.length
  · have hsettle : p.settleResponse = { p with
        payload := p.buffer.take p.bytesExpected
        buffer := p.buffer.drop p.bytesExpected }.startWaitingForSync := if_pos hfull
    have hstate : p.settleResponse.state = .waitSync := by
      rw [hsettle]
      rfl
    have hbuffer : p.settleResponse.buffer.length = p.buffer.length - p.bytesExpected := by
      rw [hsettle]
      simp [startWaitingForSync]
    rw [bytesMissing_sync hstate, bytesMissing_response hfull.1, hbuffer]
    omega
  · have hkeep : p.settleResponse = p := if_neg hfull
    rw [hkeep]

/-- A starved state takes at least one more byte before it reports anything. -/
theorem bytesMissing_feed {p p' : Protocol} {data : Bytes} (hstarved : p.Starved)
    (hpart : p.state ≠ .waitResponseLength) (hdata : data ≠ []) (hfeed : p.feed data = .ok p') :
    bytesMissing p' < bytesMissing p := by
  have hlen : 0 < data.length := List.length_pos_iff.mpr hdata
  have hstate := feed_state hfeed
  have hbuffer : p'.buffer.length = p.buffer.length + data.length ∧
      p'.bytesExpected = p.bytesExpected := by
    unfold feed at hfeed
    rw [if_pos hdata] at hfeed
    split_ifs at hfeed
    cases hfeed
    exact ⟨List.length_append, rfl⟩
  rcases hstarved with ⟨hs, _⟩ | ⟨hs, hshort⟩ | ⟨hs, hrest⟩
  · exact (hpart hs).elim
  · rw [bytesMissing_response hs, bytesMissing_response (hstate.trans hs)]
    omega
  · have hshort : p.buffer.length < 2 := by rcases hrest with h | h <;> simp [h]
    rw [bytesMissing_sync hs, bytesMissing_sync (hstate.trans hs)]
    omega

theorem bytesMissing_startWaiting {p : Protocol} (hbuffer : p.buffer = []) (n : Nat) :
    bytesMissing (p.startWaitingForResponse n) ≤ n + 2 ∧
      (p.startWaitingForResponse n).state ≠ .waitResponseLength := by
  rcases Nat.eq_zero_or_pos n with rfl | hpos
  · have hstate : (p.startWaitingForResponse (0 : Nat)).state = .waitSync := by
      simp [startWaitingForSync]
    refine ⟨?_, by rw [hstate]; exact ProtocolState.noConfusion⟩
    rw [bytesMissing_sync hstate]
    omega
  · rw [startWaitingForResponse_pos p hpos]
    exact ⟨by simp [bytesMissing, hbuffer], by simp⟩

/-! ## The variant -/

/-- What the passes until the next fault or the end can still cost. -/
def roundsToFault (N : Nat) (l : Locals) (p : Protocol) : Nat :=
  if p.Waiting then if l.sent then bytesMissing p + 1 else bytesMissing p + N + 6
  else if p.inSync then N + 5
  else N + 10

theorem roundsToFault_idle {N : Nat} {l : Locals} {p : Protocol} (h : ¬ p.Waiting)
    (hsync : p.inSync = false) : roundsToFault N l p = N + 10 := by
  simp [roundsToFault, h, hsync]

theorem roundsToFault_synced {N : Nat} {l : Locals} {p : Protocol} (h : ¬ p.Waiting)
    (hsync : p.inSync = true) : roundsToFault N l p = N + 5 := by
  simp [roundsToFault, h, hsync]

theorem roundsToFault_sent {N : Nat} {l : Locals} {p : Protocol} (h : p.Waiting)
    (hsent : l.sent = true) : roundsToFault N l p = bytesMissing p + 1 := by
  simp [roundsToFault, h, hsent]

theorem roundsToFault_unsent {N : Nat} {l : Locals} {p : Protocol} (h : p.Waiting)
    (hsent : l.sent = false) : roundsToFault N l p = bytesMissing p + N + 6 := by
  simp [roundsToFault, h, hsent]

theorem roundsToFault_pos (N : Nat) (l : Locals) (p : Protocol) : 0 < roundsToFault N l p := by
  unfold roundsToFault
  split_ifs <;> omega

def variant (N : Nat) (l : Locals) (p : Protocol) : Nat :=
  l.retriesLeft * (N + 11) + roundsToFault N l p

/-- A fault pays for a whole new attempt. -/
theorem variant_fault {N : Nat} {l : Locals} {p q : Protocol} (hq : ¬ q.Waiting)
    (hsync : q.inSync = false) (hleft : 0 < l.retriesLeft) :
    variant N { l with retriesLeft := l.retriesLeft - 1 } q < variant N l p := by
  obtain ⟨k, hk⟩ : ∃ k, l.retriesLeft = k + 1 := ⟨l.retriesLeft - 1, by omega⟩
  have hpos := roundsToFault_pos N l p
  unfold variant
  rw [roundsToFault_idle hq hsync, hk, Nat.add_sub_cancel, Nat.succ_mul]
  generalize k * (N + 11) = attempts
  omega

/-- While the loop waits, the bytes that are missing count. -/
theorem variant_waiting {N : Nat} {l : Locals} {p q : Protocol} (hp : p.Waiting) (hq : q.Waiting)
    (hless : bytesMissing q < bytesMissing p) : variant N l q < variant N l p := by
  unfold variant
  cases hsent : l.sent with
  | true =>
      rw [roundsToFault_sent hp hsent, roundsToFault_sent hq hsent]
      omega
  | false =>
      rw [roundsToFault_unsent hp hsent, roundsToFault_unsent hq hsent]
      omega

/-! ## The loop -/

/-- What holds at the head of the loop: the receives so far and the variant stay in the budget. -/
structure Progressing (N budget : Nat) (l : Locals) (w : Link σ) : Prop where
  wellFormed : w.protocol.WellFormed
  isOpen : w.protocol.bufferClosed = false
  noPrefix : w.protocol.state ≠ .waitResponseLength
  budget : receives w.trace + variant N l w.protocol ≤ budget

def endsWithin (budget : Nat) : Post Exn (Link σ) Bytes where
  ok _ w := receives w.trace ≤ budget
  raised _ w := receives w.trace ≤ budget
  running _ := False

private theorem not_waiting_of_inSync {p : Protocol} (h : p.inSync = true) : ¬ p.Waiting := by
  intro hwait
  rw [inSync_of_waiting hwait] at h
  cases h

/-- Every pass with at most one receive that lowers the variant stays in the budget. -/
private theorem Progressing.next {N budget : Nat} {l l' : Locals} {w w' : Link σ}
    (h : Progressing N budget l w) (hwf : w'.protocol.WellFormed)
    (hopen : w'.protocol.bufferClosed = false)
    (hpart : w'.protocol.state ≠ .waitResponseLength)
    (hreceives : receives w'.trace ≤ receives w.trace + 1)
    (hless : variant N l' w'.protocol < variant N l w.protocol) :
    Progressing N budget l' w' ∧ variant N l' w'.protocol < variant N l w.protocol := by
  have hbudget := h.budget
  exact ⟨⟨hwf, hopen, hpart, by omega⟩, hless⟩

private theorem Progressing.last {N budget : Nat} {l : Locals} {w : Link σ} {trace : List Action}
    (h : Progressing N budget l w) (hreceives : receives trace ≤ receives w.trace + 1) :
    receives trace ≤ budget := by
  have hbudget := h.budget
  have hpos := roundsToFault_pos N l w.protocol
  unfold variant at hbudget
  omega

/-- A retry after a fault. -/
private theorem Progressing.retry {N budget : Nat} {l l' : Locals} {w w' : Link σ}
    (h : Progressing N budget l w) (hwf : w'.protocol.WellFormed)
    (hopen : w'.protocol.bufferClosed = false)
    (hidle : w'.protocol.state = .idle ∨ w'.protocol.state = .error)
    (hreceives : receives w'.trace ≤ receives w.trace + 1) (hleft : 0 < l.retriesLeft)
    (hl' : l'.retriesLeft = l.retriesLeft - 1) :
    Progressing N budget l' w' ∧ variant N l' w'.protocol < variant N l w.protocol := by
  have hwait : ¬ w'.protocol.Waiting := by rcases hidle with h | h <;> simp [Waiting, h]
  have hsync : w'.protocol.inSync = false := by rcases hidle with h | h <;> simp [inSync, h]
  have hless := variant_fault (N := N) (l := l) (p := w.protocol) hwait hsync hleft
  have hsame : variant N l' w'.protocol =
      variant N { l with retriesLeft := l.retriesLeft - 1 } w'.protocol := by
    unfold variant
    rw [roundsToFault_idle hwait hsync, roundsToFault_idle hwait hsync, hl']
  apply h.next hwf hopen ?_ hreceives (hsame ▸ hless)
  rcases hidle with h | h <;> simp [h]

private theorem Progressing.asked {N budget : Nat} {l : Locals} {w w' : Link σ}
    (h : Progressing N budget l w) (hquiet : w.protocol.Yields none w.protocol)
    (hsync : w.protocol.inSync = false)
    (hnext : w'.protocol = w.protocol.startWaitingForSync)
    (hreceives : receives w'.trace ≤ receives w.trace + 1) :
    Progressing N budget { l with sent := false, commandToSend := some .getSync } w' ∧
      variant N { l with sent := false, commandToSend := some .getSync } w'.protocol <
        variant N l w.protocol := by
  obtain ⟨hidle, -, -, hopen⟩ := not_waiting_of_quiet hquiet
  have hwait : w.protocol.startWaitingForSync.Waiting := .inr (.inr rfl)
  have hmissing : bytesMissing w.protocol.startWaitingForSync ≤ 2 := by
    rw [bytesMissing_sync rfl]
    omega
  refine h.next (hnext ▸ startWaitingForResponse_wellFormed _ 0) (hnext ▸ hopen)
    (by simp [hnext, startWaitingForSync]) hreceives ?_
  unfold variant
  rw [hnext, roundsToFault_idle hidle hsync, roundsToFault_unsent hwait rfl]
  dsimp only
  omega

private theorem Progressing.handed {N budget : Nat} {l : Locals} {w w' : Link σ}
    (h : Progressing N budget l w) (hquiet : w.protocol.Yields none w.protocol)
    (hsync : w.protocol.inSync = true)
    (hnext : w'.protocol = w.protocol.startWaitingForResponse N)
    (hreceives : receives w'.trace ≤ receives w.trace + 1) :
    Progressing N budget { l with sent := true, commandToSend := some .command } w' ∧
      variant N { l with sent := true, commandToSend := some .command } w'.protocol <
        variant N l w.protocol := by
  obtain ⟨hidle, hbuffer, -, hopen⟩ := not_waiting_of_quiet hquiet
  have hwait := startWaitingForResponse_waiting w.protocol N
  have hmissing := bytesMissing_startWaiting hbuffer N
  refine h.next (hnext ▸ startWaitingForResponse_wellFormed _ _) (by simp [hnext, hopen])
    (hnext ▸ hmissing.2) hreceives ?_
  unfold variant
  rw [hnext, roundsToFault_synced hidle hsync, roundsToFault_sent hwait (by simp)]
  dsimp only
  omega

private theorem Progressing.agreed {N budget : Nat} {l : Locals} {w w' : Link σ} {r : Response}
    (h : Progressing N budget l w)
    (hyields : w.protocol.Yields (some (.response r)) w'.protocol) (hsent : l.sent = false)
    (hreceives : receives w'.trace ≤ receives w.trace + 1) :
    Progressing N budget l w' ∧ variant N l w'.protocol < variant N l w.protocol := by
  obtain ⟨hwait, hsync, hwf⟩ := response_spec hyields
  have hstate : w'.protocol.state = .inSync := inSync_eq_true.mp hsync
  refine h.next hwf (hyields.isOpen h.isOpen) (by simp [hstate]) hreceives ?_
  unfold variant
  rw [roundsToFault_unsent hwait hsent, roundsToFault_synced (not_waiting_of_inSync hsync) hsync]
  omega

private theorem Progressing.fed {N budget : Nat} {l : Locals} {w w' : Link σ} {data : Bytes}
    (h : Progressing N budget l w) (hstarved : w.protocol.settle.Starved) (hdata : data ≠ [])
    (hfeed : w.protocol.settle.feed data = .ok w'.protocol)
    (hreceives : receives w'.trace ≤ receives w.trace + 1) :
    Progressing N budget l w' ∧ variant N l w'.protocol < variant N l w.protocol := by
  have hwait := waiting_of_starved hstarved
  have hopen : w.protocol.settle.bufferClosed = false := by simp [h.isOpen]
  have hpart := settle_known_length h.noPrefix
  have hmissing := bytesMissing_settle h.noPrefix
  have hless := bytesMissing_feed hstarved hpart hdata hfeed
  have hwait' := waiting_of_feed (settle_waiting hwait) hfeed
  have hopen' : w'.protocol.bufferClosed = false := by
    rw [feed_of_open hopen hdata] at hfeed
    have hprotocol := Except.ok.inj hfeed
    rw [← hprotocol]
    exact hopen
  have hpart' : w'.protocol.state ≠ .waitResponseLength := by
    rw [feed_state hfeed]
    exact hpart
  exact h.next (feed_wellFormed (settle_wellFormed h.wellFormed) hfeed) hopen' hpart' hreceives
    (variant_waiting hwait hwait' (by omega))

private theorem Progressing.retried {T : Transport σ} {call : Call} {N budget : Nat}
    {l l' : Locals} {w w' : Link σ} {error : Exn} (h : Progressing N budget l w)
    (hfault : Fault T call l w l' error w') (hleft : 0 < l.retriesLeft) :
    Progressing N budget { l' with retriesLeft := l'.retriesLeft - 1 } w' ∧
      variant N { l' with retriesLeft := l'.retriesLeft - 1 } w'.protocol <
        variant N l w.protocol := by
  obtain ⟨a, htrace⟩ := hfault.trace
  have hopen : w'.protocol.bufferClosed = false := by
    cases hfault with
    | getSync => exact h.isOpen
    | command => simp [sendFailed, h.isOpen]
    | timeout | excess => rfl
  have hidle : w'.protocol.state = .idle ∨ w'.protocol.state = .error := by
    cases hfault with
    | getSync | command => exact .inr rfl
    | timeout | excess => exact .inl rfl
  apply h.retry hfault.wellFormed hopen hidle (htrace ▸ receives_concat _ a) hleft
  rw [hfault.retriesLeft]

private theorem Progressing.failed {T : Transport σ} {call : Call} {N budget : Nat} {l : Locals}
    {w w' : Link σ} {error : Exn} (h : Progressing N budget l w)
    (hfailure : Failure T call l w error w') : receives w'.trace ≤ budget := by
  cases hfailure with
  | unencodable | invalidState => exact h.last (by omega)
  | getSync | command | unfed | unreceived | response | closed => exact h.last (receives_concat _ _)

theorem progressing_pass {T : Transport σ} (hT : T.Delivers) {call : Call} {N budget : Nat}
    (hN : call.command.responseLength = N) {l : Locals} {w : Link σ}
    (h : Progressing N budget l w) :
    wp (pass T call l) (roundPost (fun l' w' => Progressing N budget l' w' ∧
      variant N l' w'.protocol < variant N l w.protocol) (endsWithin budget)) w := by
  have hconcat := receives_concat w.trace
  apply wp_pass h.wellFormed
  case hasked => exact fun hquiet hsync s => h.asked hquiet hsync rfl (hconcat _)
  case hhanded =>
    exact fun hquiet hsync _ raw _ s => h.handed hquiet hsync (hN ▸ rfl) (hconcat _)
  case hfed =>
    intro hstarved data p s hreceived hfeed
    have hdata : data ≠ [] := by
      rintro rfl
      obtain ⟨result, s', hanswer, hne⟩ := hT (receiveTimeout call l) w.transport
      rw [hreceived] at hanswer
      cases hanswer
      exact hne rfl
    exact h.fed hstarved hdata hfeed (hconcat _)
  case hagreed => exact fun r q hyields hsent => h.agreed hyields hsent (hconcat _)
  case hreturned => exact fun r q _ _ _ => h.last (hconcat _)
  case hretried => exact fun l' error w' hfault hleft => h.retried hfault hleft
  case hexhausted =>
    intro l' error w' hfault _
    obtain ⟨a, htrace⟩ := hfault.trace
    exact h.last (htrace ▸ hconcat a)
  case hfailed => exact fun error w' hfailure => h.failed hfailure
  case hnever =>
    intro _ s hreceived
    obtain ⟨result, s', hanswer, _⟩ := hT (receiveTimeout call l) w.transport
    rw [hreceived] at hanswer
    cases hanswer

/-- The receives one call can need, for `r` retries, a reply of `N` bytes and a state that waits
for `missing` bytes. -/
def receiveBound (r N missing : Nat) : Nat := (r + 1) * (N + 11) + missing

/-- The command loop returns or raises after boundedly many receives, whatever it is sent. -/
theorem command_loop_ends {T : Transport σ} (hT : T.Delivers) (call : Call)
    (hfixed : 0 ≤ call.command.responseLength) {w : Link σ} (hreach : w.protocol.Reachable)
    (hopen : w.protocol.bufferClosed = false)
    (hpart : w.protocol.state ≠ .waitResponseLength) (htrace : w.trace = []) {fuel : Nat}
    (hfuel : receiveBound call.maxRetries call.command.responseLength.toNat
      (bytesMissing w.protocol) < fuel) :
    (processCommandInner T call fuel w).1.ended ∧
      receives (processCommandInner T call fuel w).2.trace ≤
        receiveBound call.maxRetries call.command.responseLength.toNat
          (bytesMissing w.protocol) := by
  obtain ⟨N, hN⟩ := Int.eq_ofNat_of_zero_le hfixed
  have hnat : call.command.responseLength.toNat = N := by omega
  rw [hnat] at hfuel ⊢
  have hstart : variant N call.locals w.protocol ≤
      receiveBound call.maxRetries N (bytesMissing w.protocol) := by
    have hrounds : roundsToFault N call.locals w.protocol ≤ bytesMissing w.protocol + N + 10 := by
      unfold roundsToFault Call.locals
      split_ifs <;> omega
    unfold variant receiveBound
    rw [Nat.succ_mul]
    dsimp only [Call.locals] at hrounds ⊢
    generalize call.maxRetries * (N + 11) = attempts
    omega
  have hrun : wp (processCommandInner T call fuel)
      (endsWithin (receiveBound call.maxRetries N (bytesMissing w.protocol))) w := by
    apply wp_loop_variant (Progressing N _) (fun l w => variant N l w.protocol)
      (fun l w h => progressing_pass hT hN h)
    · exact ⟨hreach.wellFormed, hopen, hpart, by simpa [htrace, receives] using hstart⟩
    · omega
  unfold wp at hrun
  rcases hout : processCommandInner T call fuel w with ⟨outcome, w'⟩
  rw [hout] at hrun
  cases outcome with
  | ok payload => exact ⟨trivial, hrun⟩
  | raised error => exact ⟨trivial, hrun⟩
  | running => exact hrun.elim

/-- A peer that sends zero bytes for ever. -/
theorem command_loop_ends_garbage :
    receives (processCommandInner (σ := Unit)
        { send := fun _ s => (.done, s), receive := fun _ s => (.ended (.ok [0]), s) }
        { command := .getCrc } 200 ⟨.new, (), []⟩).2.trace ≤ receiveBound 10 4 0 := by
  refine (command_loop_ends ?_ { command := .getCrc } (by decide) .new rfl (by decide) rfl
    (by decide)).2
  intro _ s
  exact ⟨_, s, rfl, by simp⟩

end ApUploader
