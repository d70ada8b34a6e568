import ApUploader.Connection.Wire
import ApUploader.Connection.Heartbeat
import ApUploader.Connection.Inquiry

/-! # The first probe of a device

`ensureInBootloader` starts with a probe: one command with one retry and a short
deadline. A device that runs its main firmware answers with whatever it sends
anyway. `verdict` reads these bytes as replies, without the protocol: as long as no
attempt reads as a refusal, the probe is answered or ends in one of the two
exceptions that `ensureInBootloader` catches.
-/

namespace ApUploader.Probe

open Effect Protocol
open BootloaderConnection (EndsWait ensureInBootloader rebootToBootloaderPacket transportSend)

variable {σ κ : Type}

inductive Verdict where
  | refused
  | accepted (rest : Bytes)
  | strayed
  /-- Nothing more came in time; `left` when the payload had come and the status had not. -/
  | expired (left : Bool)
  deriving DecidableEq

/-- What the bytes behind the payload of a reply say. -/
def readVerdict : Bytes → Option Verdict
  | [] => none
  | [first] => if first = OpCode.inSync.toByte then none else some .strayed
  | first :: status :: rest =>
      if first ≠ OpCode.inSync.toByte then some .strayed
      else if status = OpCode.ok.toByte then some (.accepted rest)
      else if status = OpCode.failed.toByte ∨ status = OpCode.invalid.toByte then some .refused
      else some .strayed

/-- What the bytes received so far say about a reply with `need` bytes of payload. -/
def verdict (need : Nat) (received : Bytes) : Option Verdict := readVerdict (received.drop need)

/-- The chunks received behind a request, up to the first that decides the reply. -/
inductive Reply (T : Transport σ) (need : Nat) : Bytes → σ → Verdict → σ → Prop where
  | decided {received : Bytes} {s : σ} {v : Verdict} (h : verdict need received = some v) :
      Reply T need received s v s
  | more {received data : Bytes} {s s' s'' : σ} {v : Verdict} (h : verdict need received = none)
      (receive : T.receive 50 s = (.ended (.ok data), s'))
      (rest : Reply T need (received ++ data) s' v s'') : Reply T need received s v s''
  | late {received : Bytes} {s s' : σ} (h : verdict need received = none)
      (receive : T.receive 50 s = (.ended (.error .timeoutError), s')) :
      Reply T need received s (.expired (decide (0 < need ∧ need ≤ received.length))) s'

def boardIdBytes : Bytes :=
  [OpCode.getDevice.toByte, DeviceInfoItem.boardId.toByte, OpCode.eoc.toByte]

/-- One attempt: a GET_SYNC, and behind its reply the question for the board. -/
inductive Attempt (T : Transport σ) (s : σ) : Verdict → σ → Prop where
  | unsynced {v : Verdict} {s' : σ} (reply : Reply T 0 [] (T.send syncBytes s).2 v s')
      (h : ∀ rest, v ≠ .accepted rest) : Attempt T s v s'
  | excess {byte : UInt8} {rest : Bytes} {s' : σ}
      (reply : Reply T 0 [] (T.send syncBytes s).2 (.accepted (byte :: rest)) s') :
      Attempt T s .strayed s'
  | asked {v : Verdict} {s₁ s' : σ}
      (sync : Reply T 0 [] (T.send syncBytes s).2 (.accepted []) s₁)
      (reply : Reply T 4 [] (T.send boardIdBytes s₁).2 v s') : Attempt T s v s'

/-- An attempt of the probe is refused: the first one, or the second one behind a first one that
left no payload behind. -/
def MeetsRefusal (T : Transport σ) (s : σ) : Prop :=
  (∃ s', Attempt T s .refused s') ∨ ∃ v s₁ s', Attempt T s v s₁ ∧
    (v = .strayed ∨ v = .expired false) ∧ Attempt T s₁ .refused s'

/-- A transport whose sends and receives do not fail: what is received is data, or nothing in
time. -/
structure Obliging (T : Transport σ) : Prop where
  send : ∀ raw s, (T.send raw s).1 = .done
  receive : ∀ timeout s, ∃ result s', T.receive timeout s = (.ended result, s') ∧
    (result = .error .timeoutError ∨ ∃ data, data ≠ [] ∧ result = .ok data)

/-! ## One verdict -/

theorem reply_unique {T : Transport σ} {need : Nat} {b : Bytes} {s s' s₂ : σ} {v v₂ : Verdict}
    (h : Reply T need b s v s') (h₂ : Reply T need b s v₂ s₂) : v = v₂ ∧ s' = s₂ := by
  induction h with
  | decided h =>
      cases h₂ with
      | decided h₂ => exact ⟨Option.some.inj (h.symm.trans h₂), rfl⟩
      | more h₂ => cases h.symm.trans h₂
      | late h₂ => cases h.symm.trans h₂
  | more h receive rest ih =>
      cases h₂ with
      | decided h₂ => cases h.symm.trans h₂
      | more _ receive₂ rest₂ =>
          cases receive.symm.trans receive₂
          exact ih rest₂
      | late _ receive₂ => cases receive.symm.trans receive₂
  | late h receive =>
      cases h₂ with
      | decided h₂ => cases h.symm.trans h₂
      | more _ receive₂ => cases receive.symm.trans receive₂
      | late _ receive₂ =>
          cases receive.symm.trans receive₂
          exact ⟨rfl, rfl⟩

theorem attempt_unique {T : Transport σ} {s s' s₂ : σ} {v v₂ : Verdict}
    (h : Attempt T s v s') (h₂ : Attempt T s v₂ s₂) : v = v₂ ∧ s' = s₂ := by
  cases h with
  | unsynced reply hv =>
      cases h₂ with
      | unsynced reply₂ => exact reply_unique reply reply₂
      | excess reply₂ => exact absurd (reply_unique reply reply₂).1 (hv _)
      | asked sync₂ => exact absurd (reply_unique reply sync₂).1 (hv _)
  | excess reply =>
      cases h₂ with
      | unsynced reply₂ hv₂ => exact absurd (reply_unique reply₂ reply).1 (hv₂ _)
      | excess reply₂ => exact ⟨rfl, (reply_unique reply reply₂).2⟩
      | asked sync₂ => cases (reply_unique reply sync₂).1
  | asked sync reply =>
      cases h₂ with
      | unsynced reply₂ hv₂ => exact absurd (reply_unique reply₂ sync).1 (hv₂ _)
      | excess reply₂ => cases (reply_unique sync reply₂).1
      | asked sync₂ reply₂ =>
          cases (reply_unique sync sync₂).2
          exact reply_unique reply reply₂

/-! ## Reading the bytes -/

theorem readVerdict_accepted {tail rest : Bytes} (h : readVerdict tail = some (.accepted rest)) :
    tail = OpCode.inSync.toByte :: ResponseType.ok.toByte :: rest := by
  match tail, h with
  | [first], h =>
      rw [readVerdict] at h
      split_ifs at h
      cases h
  | first :: status :: _, h =>
      rw [readVerdict] at h
      split_ifs at h with hfirst hok hfailed <;> cases h
      rw [not_not.mp hfirst, hok]
      rfl

theorem readVerdict_refused {tail : Bytes} (h : readVerdict tail = some .refused) :
    ∃ type rest, (type = ResponseType.failed ∨ type = ResponseType.invalid) ∧
      tail = OpCode.inSync.toByte :: type.toByte :: rest := by
  match tail, h with
  | [first], h =>
      rw [readVerdict] at h
      split_ifs at h
      cases h
  | first :: status :: rest, h =>
      rw [readVerdict] at h
      split_ifs at h with hfirst hok hfailed
      · cases h
      · cases h
      · rw [not_not.mp hfirst]
        rcases hfailed with rfl | rfl
        · exact ⟨.failed, rest, .inl rfl, rfl⟩
        · exact ⟨.invalid, rest, .inr rfl, rfl⟩
      · cases h

theorem readVerdict_none {tail : Bytes} (h : readVerdict tail = none) :
    tail = [] ∨ tail = [OpCode.inSync.toByte] := by
  match tail, h with
  | [], _ => exact .inl rfl
  | [first], h =>
      rw [readVerdict] at h
      split_ifs at h with hfirst
      rw [hfirst]
      exact .inr rfl
  | first :: status :: rest, h =>
      rw [readVerdict] at h
      split_ifs at h

/-- Stray bytes are no reply and no part of one. -/
theorem readVerdict_strayed {tail : Bytes} (h : readVerdict tail = some .strayed) :
    tail ≠ [] ∧ tail ≠ [OpCode.inSync.toByte] ∧ ∀ type rest, type ≠ ResponseType.badSiliconRev →
      tail ≠ OpCode.inSync.toByte :: type.toByte :: rest := by
  refine ⟨?_, ?_, ?_⟩
  · rintro rfl
    cases h
  · rintro rfl
    cases h
  · rintro type rest htype rfl
    cases type with
    | badSiliconRev => exact htype rfl
    | _ => cases h

theorem readVerdict_ne_expired {tail : Bytes} {left : Bool} :
    readVerdict tail ≠ some (.expired left) := by
  unfold readVerdict
  split
  · simp
  · split_ifs <;> simp
  · split_ifs <;> simp

/-! ## The protocol behind the bytes -/

section Reading

variable {need : Nat} {b rest : Bytes} {p : Protocol}

theorem starved_of_verdict (h : verdict need b = none) : (awaiting need b).settle.Starved := by
  by_cases hshort : b.length < need
  · exact starved_of_short hshort
  · rw [settle_awaiting_full (by omega)]
    rcases readVerdict_none h with htail | htail
    · rw [htail]
      exact @starved_of_syncing _ _ 0 List.nil_prefix (by simp)
    · rw [htail]
      exact @starved_of_syncing _ _ 0 ⟨[0], rfl⟩ (by simp)

theorem settle_of_verdict {v : Verdict} (hread : Reading need b p)
    (h : verdict need b = some v) : p.settle = syncing (b.take need) (b.drop need) := by
  have htail : b.drop need ≠ [] := by
    intro htail
    unfold verdict at h
    rw [htail] at h
    cases h
  have hlong : need ≤ b.length := by
    by_contra hshort
    exact htail (List.drop_eq_nil_of_le (by omega))
  exact hread.trans (settle_awaiting_full hlong)

theorem nextEvent_accepted (hw : p.WellFormed) (hread : Reading need b p)
    (h : verdict need b = some (.accepted rest)) :
    p.nextEvent = (.ok (some (.response ⟨.ok, b.take need⟩)), synced rest) := by
  have hsettle := settle_of_verdict hread h
  rw [readVerdict_accepted h] at hsettle
  exact nextEvent_of_reply hw hread.isOpen (by decide) hsettle

theorem nextEvent_refused (hw : p.WellFormed) (hread : Reading need b p)
    (h : verdict need b = some .refused) :
    ∃ type rest, (type = ResponseType.failed ∨ type = ResponseType.invalid) ∧
      p.nextEvent = (.ok (some (.response ⟨type, b.take need⟩)), synced rest) := by
  obtain ⟨type, rest, htype, htail⟩ := readVerdict_refused h
  have hsettle := settle_of_verdict hread h
  rw [htail] at hsettle
  have hsilicon : type ≠ .badSiliconRev := by
    rcases htype with rfl | rfl
    · exact ResponseType.noConfusion
    · exact ResponseType.noConfusion
  exact ⟨type, rest, htype, nextEvent_of_reply hw hread.isOpen hsilicon hsettle⟩

theorem nextEvent_strayed (hw : p.WellFormed) (hread : Reading need b p)
    (h : verdict need b = some .strayed) :
    ∃ payload q, p.nextEvent = (.ok (some (.excessData payload)), q) ∧ q.payload = [] := by
  have hsettle := settle_of_verdict hread h
  obtain ⟨hnil, hsync, hreply⟩ := readVerdict_strayed h
  have hwaiting : p.Waiting := by
    by_contra hidle
    rw [settle_of_not_waiting hidle] at hsettle
    exact hidle (.inr (.inr (congrArg Protocol.state hsettle)))
  obtain ⟨event, q, hstep, hyields⟩ := nextEvent_yields hw
  cases hyields with
  | closed _ hclosed => exact absurd (hread.isOpen.symm.trans hclosed) Bool.false_ne_true
  | quiet hidle => exact absurd hwaiting hidle
  | stray hidle => exact absurd hwaiting hidle
  | desync hstate n hpos hle => exact ⟨_, _, hstep, rfl⟩
  | starved hstarved =>
      rw [hsettle] at hstarved
      rcases hstarved with ⟨hs, _⟩ | ⟨hs, _⟩ | ⟨_, hbuffer⟩
      · cases hs
      · cases hs
      · rcases hbuffer with hbuffer | hbuffer
        · exact absurd hbuffer hnil
        · exact absurd hbuffer hsync
  | response hstate type rest htype hbuffer =>
      rw [hsettle] at hbuffer
      exact absurd hbuffer (hreply type rest htype)

/-- A reset behind a timeout forgets everything, but for a payload without its status. -/
theorem reset_of_late (hread : Reading need b p) (h : verdict need b = none) :
    if 0 < need ∧ need ≤ b.length then p.settle.reset.payload ≠ []
    else p.settle.reset.payload = [] := by
  have hpayload : p.settle.reset.payload = (awaiting need b).settle.payload := by
    unfold Reading at hread
    rw [hread]
    rfl
  rw [hpayload]
  split_ifs with hleft
  · rw [settle_awaiting_full hleft.2]
    simp only [syncing, ne_eq, List.take_eq_nil_iff, not_or]
    refine ⟨by omega, ?_⟩
    rintro rfl
    simp at hleft
    omega
  · by_cases hshort : b.length < need
    · rw [(settle_awaiting_short hshort).1]
      have hpos : 0 < need := by omega
      simp [awaiting, startWaitingForResponse_pos _ hpos]
    · rw [settle_awaiting_full (by omega)]
      have hzero : need = 0 := by omega
      simp [syncing, hzero]

end Reading

/-! ## Runs of the probe -/

def probe : Call := { command := .getDeviceInfo .boardId, maxRetries := 1, timeout := some 50 }

theorem probe_toBytes : probe.command.toBytes = .ok boardIdBytes := rfl

section Runs

variable {T : Transport σ} {l : Locals} {w : Link σ} {need : Nat} {v : Verdict} {s s' : σ}
  {q : Protocol}

theorem pass_refused {type : ResponseType} {payload : Bytes}
    (htype : type = .failed ∨ type = .invalid)
    (hevent : w.protocol.nextEvent = (.ok (some (.response ⟨type, payload⟩)), q)) :
    ∃ text w', pass T probe l w = (.raised (.runtimeError text), w') := by
  rcases htype with rfl | rfl
  · exact ⟨"operation failed", _, by
      simp [pass, turn, hevent, Response.getPayloadOrRaiseException, Next.land]; rfl⟩
  · exact ⟨"invalid operation", _, by
      simp [pass, turn, hevent, Response.getPayloadOrRaiseException, Next.land]; rfl⟩

theorem pass_last_timeout (hevent : w.protocol.nextEvent = (.ok (some .needMoreData), q))
    (hreceive : T.receive (receiveTimeout probe l) w.transport =
      (.ended (.error .timeoutError), s)) (hleft : l.retriesLeft = 0) :
    ∃ w', pass T probe l w = (.raised .timeoutError, w') := by
  refine ⟨⟨q.reset, s, w.trace ++ [.received (.error .timeoutError)]⟩, ?_⟩
  simp [pass, turn, hevent, hreceive, resumeReceive, fault, hleft, Next.land]

theorem pass_last_excess {payload : Bytes}
    (hevent : w.protocol.nextEvent = (.ok (some (.excessData payload)), q))
    (hleft : l.retriesLeft = 0) :
    ∃ w', pass T probe l w = (.raised .excessDataError, w') := by
  refine ⟨⟨q.reset, w.transport, w.trace ++ [.reported (.excessData payload)]⟩, ?_⟩
  simp [pass, turn, hevent, fault, hleft, Next.land]

/-- The passes that read a reply, up to what decides it. -/
theorem rounds_reply (hT : Obliging T) {received : Bytes} (h : Reply T need received s v s')
    (hw : w.protocol.WellFormed) (hread : Reading need received w.protocol)
    (hs : w.transport = s) :
    ∃ k w' b, Rounds (pass T probe) k l w l w' ∧ w'.protocol.WellFormed ∧
      Reading need b w'.protocol ∧
      (verdict need b = some v ∧ w'.transport = s' ∨
        verdict need b = none ∧
          T.receive 50 w'.transport = (.ended (.error .timeoutError), s') ∧
          v = .expired (decide (0 < need ∧ need ≤ b.length))) := by
  induction h generalizing w with
  | @decided received s v h => exact ⟨0, w, received, .refl _ _, hw, hread, .inl ⟨h, hs⟩⟩
  | @late received s s' h receive =>
      subst hs
      exact ⟨0, w, received, .refl _ _, hw, hread, .inr ⟨h, receive, rfl⟩⟩
  | @more received data s s₁ s' v h receive rest ih =>
      subst hs
      have hdata : data ≠ [] := by
        obtain ⟨result, s₂, hanswer, hresult⟩ := hT.receive 50 w.transport
        rw [receive] at hanswer
        cases hanswer
        rcases hresult with hresult | ⟨data', hdata', hresult⟩
        · cases hresult
        · cases hresult
          exact hdata'
      have hstarved : w.protocol.settle.Starved := by
        unfold Reading at hread
        rw [hread]
        exact starved_of_verdict h
      have hpass := pass_data probe (l := l) (nextEvent_of_starved hw hread.isOpen hstarved)
        receive (feed_of_open hread.settle.isOpen hdata)
      obtain ⟨k, w', b, hrounds, hrest⟩ := ih
        (w := ⟨w.protocol.settle.append data, s₁, w.trace ++ [.received (.ok data)]⟩)
        ((settle_wellFormed hw).withBuffer _ _) (hread.settle.append data) rfl
      exact ⟨1 + k, w', b, (Rounds.one hpass).trans hrounds, hrest⟩

/-- The protocol behind a fault, with or without a payload that was left over. -/
def Behind (left : Bool) (p : Protocol) : Prop :=
  p.WellFormed ∧ p.bufferClosed = false ∧ ¬ p.Waiting ∧ p.inSync = false ∧ p.buffer = [] ∧
    (p.payload ≠ [] ↔ left = true)

/-- A fault: it ends the probe when no retry is left, else it leads to the next attempt. -/
def Faults (T : Transport σ) (l : Locals) (w : Link σ) (error : Exn) (left : Bool) (s' : σ) :
    Prop :=
  (l.retriesLeft = 0 → Raises (pass T probe) l w error) ∧
    (0 < l.retriesLeft → ∃ k l' w', Rounds (pass T probe) k l w l' w' ∧
      l'.retriesLeft = l.retriesLeft - 1 ∧ w'.transport = s' ∧ Behind left w'.protocol)

/-- What an attempt means for the run. -/
def EndsAs (T : Transport σ) (l : Locals) (w : Link σ) : Verdict → σ → Prop
  | .accepted _, _ => ∃ payload w', Ends (pass T probe) l w payload w'
  | .refused, _ => ∃ text, Raises (pass T probe) l w (.runtimeError text)
  | .strayed, s' => Faults T l w .excessDataError false s'
  | .expired left, s' => Faults T l w .timeoutError left s'

theorem Faults.behind {k : Nat} {l' : Locals} {w' : Link σ} {error : Exn}
    {left : Bool} (hfaults : Faults T l' w' error left s')
    (h : Rounds (pass T probe) k l w l' w') (hleft : l'.retriesLeft = l.retriesLeft) :
    Faults T l w error left s' := by
  refine ⟨fun hzero => h.raises (hfaults.1 (hleft.trans hzero)), fun hpos => ?_⟩
  obtain ⟨j, l'', w'', hrounds, hretries, hrest⟩ := hfaults.2 (by omega)
  exact ⟨k + j, l'', w'', h.trans hrounds, by omega, hrest⟩

theorem EndsAs.behind {k : Nat} {l' : Locals} {w' : Link σ} (hends : EndsAs T l' w' v s')
    (h : Rounds (pass T probe) k l w l' w') (hleft : l'.retriesLeft = l.retriesLeft) :
    EndsAs T l w v s' := by
  cases v with
  | accepted rest =>
      obtain ⟨payload, w'', hend⟩ := hends
      exact ⟨payload, w'', h.ends hend⟩
  | refused =>
      obtain ⟨text, hraises⟩ := hends
      exact ⟨text, h.raises hraises⟩
  | strayed => exact Faults.behind hends h hleft
  | expired left => exact Faults.behind hends h hleft

theorem behind_reset {left : Bool} (hpayload : q.reset.payload ≠ [] ↔ left = true) :
    Behind left q.reset :=
  ⟨reset_wellFormed q, rfl, by simp [Waiting, reset], rfl, rfl, hpayload⟩

theorem faults_excess {payload : Bytes}
    (hevent : w.protocol.nextEvent = (.ok (some (.excessData payload)), q))
    (hpayload : q.payload = []) : Faults T l w .excessDataError false w.transport := by
  refine ⟨fun hzero => ?_, fun hpos => ?_⟩
  · obtain ⟨w', hpass⟩ := pass_last_excess (T := T) hevent hzero
    exact ⟨0, l, w, w', .refl _ _, hpass⟩
  · refine ⟨1, _, _, .one (pass_excess probe hevent hpos), rfl, rfl, ?_⟩
    exact behind_reset (by simp [reset, hpayload])

theorem faults_late {b : Bytes} (hw : w.protocol.WellFormed) (hread : Reading need b w.protocol)
    (h : verdict need b = none)
    (hreceive : T.receive 50 w.transport = (.ended (.error .timeoutError), s')) :
    Faults T l w .timeoutError (decide (0 < need ∧ need ≤ b.length)) s' := by
  have hstarved : w.protocol.settle.Starved := by
    have hsettle : w.protocol.settle = (awaiting need b).settle := hread
    rw [hsettle]
    exact starved_of_verdict h
  have hevent := nextEvent_of_starved hw hread.isOpen hstarved
  refine ⟨fun hzero => ?_, fun hpos => ?_⟩
  · obtain ⟨w', hpass⟩ := pass_last_timeout (l := l) hevent hreceive hzero
    exact ⟨0, l, w, w', .refl _ _, hpass⟩
  · refine ⟨1, _, _, .one (pass_timeout probe hevent hreceive hpos), rfl, rfl, ?_⟩
    have hreset := reset_of_late hread h
    apply behind_reset
    split_ifs at hreset with hleft
    · simpa [hleft] using hreset
    · simpa [hleft] using hreset

theorem reply_ends (hT : Obliging T) (h : Reply T need [] s v s') (hv : ∀ rest, v ≠ .accepted rest)
    (hw : w.protocol = awaiting need []) (hs : w.transport = s) : EndsAs T l w v s' := by
  obtain ⟨k, w', b, hrounds, hwf, hread, hend⟩ := rounds_reply (l := l) hT h
    (by rw [hw]; exact awaiting_wellFormed _ _) (by rw [hw]; exact Reading.awaiting _ _) hs
  apply EndsAs.behind _ hrounds rfl
  rcases hend with ⟨hverdict, rfl⟩ | ⟨hverdict, hreceive, rfl⟩
  · cases v with
    | accepted rest => exact absurd rfl (hv rest)
    | expired left => exact absurd hverdict readVerdict_ne_expired
    | refused =>
        obtain ⟨type, rest, htype, hevent⟩ := nextEvent_refused hwf hread hverdict
        obtain ⟨text, w'', hpass⟩ := pass_refused (T := T) (l := l) htype hevent
        exact ⟨text, 0, l, w', w'', .refl _ _, hpass⟩
    | strayed =>
        obtain ⟨payload, q, hevent, hpayload⟩ := nextEvent_strayed hwf hread hverdict
        exact faults_excess hevent hpayload
  · exact faults_late hwf hread hverdict hreceive

theorem reply_accepted (hT : Obliging T) {rest : Bytes} (h : Reply T need [] s (.accepted rest) s')
    (hw : w.protocol = awaiting need []) (hs : w.transport = s) :
    ∃ k w' payload, Rounds (pass T probe) k l w l w' ∧ w'.transport = s' ∧
      w'.protocol.nextEvent = (.ok (some (.response ⟨.ok, payload⟩)), synced rest) := by
  obtain ⟨k, w', b, hrounds, hwf, hread, hend⟩ := rounds_reply (l := l) hT h
    (by rw [hw]; exact awaiting_wellFormed _ _) (by rw [hw]; exact Reading.awaiting _ _) hs
  rcases hend with ⟨hverdict, htransport⟩ | ⟨_, _, hv⟩
  · exact ⟨k, w', b.take need, hrounds, htransport, nextEvent_accepted hwf hread hverdict⟩
  · cases hv

theorem Behind.clean (h : Behind false q) : Clean q :=
  ⟨h.2.2.1, h.2.2.2.2.1, by simpa using h.2.2.2.2.2, h.2.1⟩

theorem send_done (hT : Obliging T) (raw : Bytes) (s : σ) :
    T.send raw s = (.done, (T.send raw s).2) := Prod.ext (hT.send raw s) rfl

theorem rounds_getSync (hT : Obliging T) (hbehind : Behind false w.protocol) :
    ∃ trace, Rounds (pass T probe) 1 l w ⟨some .getSync, l.retriesLeft, false⟩
      ⟨awaiting (0 : Nat) [], (T.send syncBytes w.transport).2, trace⟩ := by
  have hclean := hbehind.clean
  have hstart : w.protocol.startWaitingForSync = awaiting (0 : Nat) [] := by
    rw [← startWaitingForResponse_zero, startWaitingForResponse_clean 0 hclean.payload
      hclean.isOpen, hclean.buffer]
    rfl
  have hpass := pass_getSync probe (l := l) hclean.nextEvent hbehind.2.2.2.1
    (send_done hT syncBytes _)
  rw [hstart] at hpass
  exact ⟨_, .one hpass⟩

theorem rounds_synced (hT : Obliging T) {rest : Bytes} (hbehind : Behind false w.protocol)
    (h : Reply T 0 [] (T.send syncBytes w.transport).2 (.accepted rest) s') :
    ∃ k trace, Rounds (pass T probe) k l w ⟨some .getSync, l.retriesLeft, false⟩
      ⟨synced rest, s', trace⟩ := by
  obtain ⟨trace, hfirst⟩ := rounds_getSync (l := l) hT hbehind
  obtain ⟨k, w', payload, hrounds, rfl, hevent⟩ := reply_accepted
    (l := ⟨some .getSync, l.retriesLeft, false⟩) hT h
    (w := ⟨awaiting (0 : Nat) [], (T.send syncBytes w.transport).2, trace⟩) rfl rfl
  have hlast := pass_syncReply probe (T := T) (l := ⟨some .getSync, l.retriesLeft, false⟩)
    hevent rfl
  exact ⟨1 + k + 1, _, (hfirst.trans hrounds).trans (.one hlast)⟩

theorem rounds_asked (hT : Obliging T) {trace : List Action} {n : Nat} :
    ∃ trace', Rounds (pass T probe) 1 ⟨some .getSync, n, false⟩ ⟨synced [], s, trace⟩
      ⟨some .command, n, true⟩ ⟨awaiting (4 : Nat) [], (T.send boardIdBytes s).2, trace'⟩ := by
  have hpass := pass_command probe (l := ⟨some .getSync, n, false⟩)
    (w := ⟨synced [], s, trace⟩) clean_synced.nextEvent rfl rfl probe_toBytes
    (send_done hT boardIdBytes s)
  exact ⟨_, .one hpass⟩

/-- An attempt from a protocol with nothing left over. -/
theorem attempt_ends (hT : Obliging T) (hbehind : Behind false w.protocol)
    (h : Attempt T w.transport v s') : EndsAs T l w v s' := by
  cases h with
  | unsynced reply hv =>
      obtain ⟨trace, hfirst⟩ := rounds_getSync (l := l) hT hbehind
      exact (reply_ends hT reply hv rfl rfl).behind hfirst rfl
  | @excess byte rest s' reply =>
      obtain ⟨k, trace, hrounds⟩ := rounds_synced (l := l) hT hbehind reply
      have hwf : (synced (byte :: rest)).WellFormed := by
        constructor <;> simp [synced, new]
      have hevent := nextEvent_stray hwf rfl (by simp [Waiting, synced]) (by simp [synced])
      have hfaults := faults_excess (T := T) (l := ⟨some .getSync, l.retriesLeft, false⟩)
        (w := ⟨synced (byte :: rest), s', trace⟩) hevent rfl
      exact EndsAs.behind (v := .strayed) hfaults hrounds rfl
  | @asked v s₁ s' sync reply =>
      obtain ⟨k, trace, hrounds⟩ := rounds_synced (l := l) hT hbehind sync
      obtain ⟨trace', hasked⟩ := @rounds_asked σ T s₁ hT trace l.retriesLeft
      have hboth := hrounds.trans hasked
      by_cases hv : ∀ rest, v ≠ .accepted rest
      · exact (reply_ends hT reply hv rfl rfl).behind hboth rfl
      · obtain ⟨rest, rfl⟩ : ∃ rest, v = .accepted rest := by
          simpa only [not_forall, not_not] using hv
        obtain ⟨j, w', payload, hreply, rfl, hevent⟩ := reply_accepted
          (l := ⟨some .command, l.retriesLeft, true⟩) hT reply
          (w := ⟨awaiting (4 : Nat) [], (T.send boardIdBytes s₁).2, trace'⟩) rfl rfl
        have hlast := pass_reply probe (T := T) (l := ⟨some .command, l.retriesLeft, true⟩)
          hevent rfl
        exact ⟨payload, _, (hboth.trans hreply).ends ⟨0, _, _, .refl _ _, hlast⟩⟩

end Runs

/-! ## The probe as a whole -/

section Whole

variable {T : Transport σ} {s : σ}

/-- Every chunk brings a reply closer to its verdict. -/
theorem reply_total (hT : Obliging T) (need : Nat) (received : Bytes) (s : σ) :
    ∃ v s', Reply T need received s v s' := by
  induction hmeasure : need + 2 - received.length using Nat.strong_induction_on
    generalizing received s with
  | _ measure ih =>
      cases hverdict : verdict need received with
      | some v => exact ⟨v, s, .decided hverdict⟩
      | none =>
          obtain ⟨result, s', hreceive, hresult⟩ := hT.receive 50 s
          rcases hresult with rfl | ⟨data, hdata, rfl⟩
          · exact ⟨_, s', .late hverdict hreceive⟩
          · have hlength : 0 < data.length := List.length_pos_iff.mpr hdata
            have hshort : received.length < need + 2 := by
              have htail : (received.drop need).length < 2 := by
                rcases readVerdict_none hverdict with htail | htail <;> simp [htail]
              rw [List.length_drop] at htail
              omega
            obtain ⟨v, s'', hrest⟩ := ih (need + 2 - (received ++ data).length)
              (by rw [List.length_append]; omega) (received ++ data) s' rfl
            exact ⟨v, s'', .more hverdict hreceive hrest⟩

theorem attempt_total (hT : Obliging T) (s : σ) : ∃ v s', Attempt T s v s' := by
  obtain ⟨v, s₁, hsync⟩ := reply_total hT 0 [] (T.send syncBytes s).2
  cases v with
  | accepted rest =>
      cases rest with
      | cons byte rest => exact ⟨.strayed, s₁, .excess hsync⟩
      | nil =>
          obtain ⟨v, s', hreply⟩ := reply_total hT 4 [] (T.send boardIdBytes s₁).2
          exact ⟨v, s', .asked hsync hreply⟩
  | refused => exact ⟨_, s₁, .unsynced hsync fun _ => Verdict.noConfusion⟩
  | strayed => exact ⟨_, s₁, .unsynced hsync fun _ => Verdict.noConfusion⟩
  | expired left => exact ⟨_, s₁, .unsynced hsync fun _ => Verdict.noConfusion⟩

def start (s : σ) : Link σ := ⟨.new, s, []⟩

theorem behind_new : Behind false Protocol.new :=
  ⟨Protocol.Reachable.new.wellFormed, rfl, by decide, rfl, rfl, by decide⟩

theorem refused_of_meets (hT : Obliging T) (h : MeetsRefusal T s) :
    ∃ text, Raises (pass T probe) probe.locals (start s) (.runtimeError text) := by
  rcases h with ⟨s', hfirst⟩ | ⟨v, s₁, s', hfirst, hclean, hsecond⟩
  · exact attempt_ends (w := start s) hT behind_new hfirst
  · have hends := attempt_ends (l := probe.locals) (w := start s) hT behind_new hfirst
    have hagain : ∃ error, Faults T probe.locals (start s) error false s₁ := by
      rcases hclean with rfl | rfl
      · exact ⟨_, hends⟩
      · exact ⟨_, hends⟩
    obtain ⟨error, hfaults⟩ := hagain
    obtain ⟨k, l', w', hrounds, _, rfl, hbehind⟩ := hfaults.2 (by decide)
    obtain ⟨text, hraises⟩ := attempt_ends (l := l') hT hbehind hsecond
    exact ⟨text, hrounds.raises hraises⟩

theorem last_attempt (hT : Obliging T) {l : Locals} {w : Link σ} (hleft : l.retriesLeft = 0)
    (hbehind : Behind false w.protocol) (h : ∀ s', ¬ Attempt T w.transport .refused s') :
    (∃ payload w', Ends (pass T probe) l w payload w') ∨
      ∃ error, EndsWait error ∧ Raises (pass T probe) l w error := by
  obtain ⟨v, s', hattempt⟩ := attempt_total hT w.transport
  have hends := attempt_ends (l := l) hT hbehind hattempt
  cases v with
  | refused => exact absurd hattempt (h s')
  | accepted rest => exact .inl hends
  | strayed => exact .inr ⟨_, .inr rfl, hends.1 hleft⟩
  | expired left => exact .inr ⟨_, .inl rfl, hends.1 hleft⟩

theorem expected_of_not_meets (hT : Obliging T) (h : ¬ MeetsRefusal T s) :
    (∃ payload w', Ends (pass T probe) probe.locals (start s) payload w') ∨
      ∃ error, EndsWait error ∧ Raises (pass T probe) probe.locals (start s) error := by
  obtain ⟨v, s₁, hfirst⟩ := attempt_total hT s
  have hends := attempt_ends (l := probe.locals) (w := start s) hT behind_new hfirst
  have hagain : ∀ error, (v = .strayed ∨ v = .expired false) →
      Faults T probe.locals (start s) error false s₁ →
      (∃ payload w', Ends (pass T probe) probe.locals (start s) payload w') ∨
        ∃ error, EndsWait error ∧ Raises (pass T probe) probe.locals (start s) error := by
    intro error hclean hfaults
    obtain ⟨k, l', w', hrounds, hleft, rfl, hbehind⟩ := hfaults.2 (by decide)
    have hlast := last_attempt hT hleft hbehind
      fun s' hrefused => h (.inr ⟨v, w'.transport, s', hfirst, hclean, hrefused⟩)
    rcases hlast with ⟨payload, w'', hend⟩ | ⟨error, hwait, hraises⟩
    · exact .inl ⟨payload, w'', hrounds.ends hend⟩
    · exact .inr ⟨error, hwait, hrounds.raises hraises⟩
  cases v with
  | refused => exact absurd (.inl ⟨s₁, hfirst⟩) h
  | accepted rest => exact .inl hends
  | strayed => exact hagain _ (.inl rfl) hends
  | expired left =>
      cases left with
      | false => exact hagain _ (.inr rfl) hends
      | true =>
          -- the payload that was left over is reported as excess data and uses up the retry
          obtain ⟨k, l', w', hrounds, hleft, _, hwf, hopen, hidle, _, _, hpayload⟩ :=
            hends.2 (by decide)
          have hevent := nextEvent_stray hwf hopen hidle
            (List.append_ne_nil_of_left_ne_nil (hpayload.mpr rfl) _)
          have hraises := (faults_excess (T := T) (l := l') hevent rfl).1 hleft
          exact .inr ⟨_, .inr rfl, hrounds.raises hraises⟩

end Whole

/-- The probe returns or ends in one of the two exceptions that are caught, given enough fuel. -/
def ProbeEnds (T : Transport σ) (s : σ) : Prop :=
  ∃ enough, ∀ fuel, enough ≤ fuel →
    wp (processCommandInner T probe fuel)
      ⟨fun _ _ => True, fun error _ => EndsWait error, fun _ => False⟩ (start s)

/-- No exception leaves `ensure_in_bootloader` before the reboot packet was sent. -/
def AskedFirst (R : Runtime σ) (onRebooted : κ → κ) (w : BootloaderConnection σ κ) : Prop :=
  ∀ fuel, wp (ensureInBootloader R fuel onRebooted)
    ⟨fun _ _ => True,
      fun _ w' => .direct rebootToBootloaderPacket .done ∈ w'.link.trace, fun _ => True⟩ w

section Main

variable {R : Runtime σ} {T : Transport σ} {s s₀ : σ}

theorem probeEnds_iff (hT : Obliging T) : ProbeEnds T s ↔ ¬ MeetsRefusal T s := by
  constructor
  · rintro ⟨enough, hends⟩ hmeets
    obtain ⟨text, hraises⟩ := refused_of_meets hT hmeets
    obtain ⟨enough', w', hrun⟩ := hraises.loop_eq
    have hlast := hends (max enough enough') (Nat.le_max_left _ _)
    unfold processCommandInner at hlast
    rw [wp_of_eq (hrun _ (Nat.le_max_right _ _))] at hlast
    rcases hlast with hlast | hlast <;> cases hlast
  · intro hmeets
    rcases expected_of_not_meets hT hmeets with ⟨payload, w', hend⟩ | ⟨error, hwait, hraises⟩
    · obtain ⟨enough, hrun⟩ := hend.loop_eq
      refine ⟨enough, fun fuel hfuel => ?_⟩
      unfold processCommandInner
      rw [wp_of_eq (hrun fuel hfuel)]
      trivial
    · obtain ⟨enough, w', hrun⟩ := hraises.loop_eq
      refine ⟨enough, fun fuel hfuel => ?_⟩
      unfold processCommandInner
      rw [wp_of_eq (hrun fuel hfuel)]
      exact hwait

theorem ProbeEnds.at_fuel (h : ProbeEnds T s) (fuel : Nat) :
    wp (processCommandInner T probe fuel)
      ⟨fun _ _ => True, fun error _ => EndsWait error, fun _ => True⟩ (start s) := by
  obtain ⟨enough, hends⟩ := h
  have hlater := hends (fuel + enough) (by omega)
  rcases hrun : processCommandInner T probe fuel (start s) with ⟨outcome, w'⟩
  rw [wp_of_eq hrun]
  cases outcome with
  | ok payload => trivial
  | running => trivial
  | raised error =>
      have hsame : processCommandInner T probe (fuel + enough) (start s) =
          (.raised error, w') := Proc.loop_more hrun trivial enough
      rwa [wp_of_eq hsame] at hlater

theorem transportSend_done (hT : Obliging R.toTransport) (raw : Bytes)
    (w : BootloaderConnection σ κ) :
    transportSend R raw w = (.ok (), { w with
      link.transport := (R.send raw w.link.transport).2
      link.trace := w.link.trace ++ [.direct raw .done] }) := by
  unfold BootloaderConnection.transportSend
  rw [send_done hT raw w.link.transport]

theorem closed_mem (a : Action) : ClosedUnder (fun _ => True) (fun trace => a ∈ trace) :=
  fun _ _ h _ => List.mem_append_left _ h

theorem wp_announced (hT : Obliging R.toTransport) (fuel : Nat) (onRebooted : κ → κ)
    {w : BootloaderConnection σ κ} (hw : w.link.protocol.WellFormed) :
    wp (do
        BootloaderConnection.sendMavlinkRebootCommand R true
        Proc.modify (fun w => { w with client := onRebooted w.client })
        let _ ← BootloaderConnection.inner R fuel
          { command := .getDeviceInfo .boardId, maxRetries := 5, timeout := some 500 }
        pure ())
      ⟨fun _ _ => True,
        fun _ w' => .direct rebootToBootloaderPacket .done ∈ w'.link.trace, fun _ => True⟩ w := by
  rw [wp_bind]
  change wp (transportSend R rebootToBootloaderPacket) _ w
  rw [wp_of_eq (transportSend_done hT _ w)]
  change wp (Proc.modify _ >>= _) _ _
  rw [wp_bind, wp_modify]
  have hkeep := (framed_watching (κ := κ) R
    (closed_mem (.direct rebootToBootloaderPacket .done)) trivial).command fuel
    { command := .getDeviceInfo .boardId, maxRetries := 5, timeout := some 500 } trivial
  apply hkeep.wp_bind
  · exact ⟨hw, List.mem_append_right _ (List.mem_singleton_self _)⟩
  · exact fun _ _ _ => trivial
  · exact fun _ _ h => h.history
  · exact fun _ _ => trivial

theorem askedFirst_of_probeEnds (hT : Obliging R.toTransport) (hlock : R.checkpoint s = (.done, s₀))
    (hends : ProbeEnds R.toTransport s₀) (onRebooted : κ → κ) (client : κ) :
    AskedFirst R onRebooted { link := start s, client := client } := by
  intro fuel
  unfold ensureInBootloader
  rw [wp_bind]
  apply BootloaderConnection.wp_withLock
  · intro hheld
    cases hheld
  · intro error s' hinterrupted
    cases hlock.symm.trans hinterrupted
  · intro _ s' hacquired
    cases hlock.symm.trans hacquired
    have hframed : BootloaderConnection.Framed R (fun _ => True)
        (fun w : BootloaderConnection σ κ => Watching (fun _ => True) w.link) :=
      framed_watching R (fun _ _ _ _ => trivial) trivial
    have hwatch : Preserves (fun w : BootloaderConnection σ κ => Watching (fun _ => True) w.link)
        (BootloaderConnection.inner R fuel probe) := hframed.command fuel probe trivial
    have hprobe : wp (BootloaderConnection.inner R fuel probe)
        ⟨fun _ _ => True, fun error _ => EndsWait error, fun _ => True⟩
        { link := start s₀, locked := true, client := client } := by
      unfold BootloaderConnection.inner
      rw [wp_zoom]
      exact hends.at_fuel fuel
    have hstart : Watching (fun _ => True) (start s₀) :=
      ⟨Protocol.Reachable.new.wellFormed, trivial⟩
    rw [wp_catching, wp_bind]
    refine wp_mono (wp_and hprobe (hwatch _ hstart)) (fun _ _ _ => trivial) ?_ (fun _ _ => trivial)
    intro error w h
    dsimp only
    rw [if_pos (show error = .timeoutError ∨ error = .excessDataError from h.1)]
    exact wp_mono (wp_announced hT fuel onRebooted h.2.wellFormed) (fun _ _ _ => trivial)
      (fun _ _ h => h) (fun _ _ => trivial)

/-- The probe of a device ends as it should, and the device is asked to reboot before anything else
goes wrong, exactly if what it sends does not read as a refusal. -/
theorem probe_expected_iff (hT : Obliging R.toTransport) (hlock : R.checkpoint s = (.done, s₀))
    (onRebooted : κ → κ) (client : κ) :
    (ProbeEnds R.toTransport s₀ ∧ AskedFirst R onRebooted { link := start s, client := client }) ↔
      ¬ MeetsRefusal R.toTransport s₀ := by
  constructor
  · exact fun h => (probeEnds_iff hT).mp h.1
  · intro hmeets
    have hends := (probeEnds_iff hT).mpr hmeets
    exact ⟨hends, askedFirst_of_probeEnds hT hlock hends onRebooted client⟩

end Main

/-- A peer whose bytes come in these chunks, whatever is sent to it, and an event loop that cancels
nothing. -/
def chunked : Runtime (List { data : Bytes // data ≠ [] }) where
  send _ chunks := (.done, chunks)
  receive _
    | [] => (.ended (.error .timeoutError), [])
    | data :: rest => (.ended (.ok data), rest)
  checkpoint chunks := (.done, chunks)
  mavlinkReboot := []

theorem chunked_obliging : Obliging chunked.toTransport where
  send _ _ := rfl
  receive _ chunks := by
    cases chunks with
    | nil => exact ⟨_, _, rfl, .inl rfl⟩
    | cons data rest => exact ⟨_, _, rfl, .inr ⟨data, data.property, rfl⟩⟩

/-- The first byte of a MAVLink message, and nothing more. -/
def telemetry : List { data : Bytes // data ≠ [] } := [⟨[0xfe], by decide⟩]

/-- A failure status, as it can stand anywhere in telemetry. -/
def refusal : List { data : Bytes // data ≠ [] } := [⟨[0x12, 0x11], by decide⟩]

theorem telemetry_not_refused : ¬ MeetsRefusal chunked.toTransport telemetry := by
  have hfirst : Attempt chunked.toTransport telemetry .strayed [] :=
    .unsynced (.more rfl rfl (.decided rfl)) fun _ => Verdict.noConfusion
  have hsecond : Attempt chunked.toTransport [] (.expired false) [] :=
    .unsynced (.late rfl rfl) fun _ => Verdict.noConfusion
  rintro (⟨s', h⟩ | ⟨v, s₁, s', h, -, h'⟩)
  · cases (attempt_unique h hfirst).1
  · cases (attempt_unique h hfirst).2
    cases (attempt_unique h' hsecond).1

theorem probe_expected_telemetry :
    ProbeEnds chunked.toTransport telemetry ∧
      AskedFirst chunked id { link := start telemetry, client := () } :=
  (probe_expected_iff chunked_obliging rfl id ()).mpr telemetry_not_refused

theorem probe_refused :
    (∃ w, ensureInBootloader chunked 5 id { link := start refusal, client := () } =
        (.raised (.runtimeError "operation failed"), w) ∧
      .direct rebootToBootloaderPacket .done ∉ w.link.trace) ∧
    ¬ ∀ chunks, ProbeEnds chunked.toTransport chunks ∧
      AskedFirst chunked id { link := start chunks, client := () } := by
  have hrun : ensureInBootloader chunked 5 id { link := start refusal, client := () } =
      (.raised (.runtimeError "operation failed"), { client := (), link := ⟨synced [], [],
        [.sent .getSync syncBytes false .done, .received (.ok [0x12, 0x11]),
          .reported (.response ⟨.failed, []⟩)]⟩ }) := rfl
  refine ⟨⟨_, hrun, by simp⟩, fun hends => ?_⟩
  have hrefused : Attempt chunked.toTransport refusal .refused [] :=
    .unsynced (.more rfl rfl (.decided rfl)) fun _ => Verdict.noConfusion
  exact (probeEnds_iff chunked_obliging).mp (hends refusal).1 (.inl ⟨[], hrefused⟩)

end ApUploader.Probe
