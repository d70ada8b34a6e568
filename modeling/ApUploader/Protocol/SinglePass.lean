import ApUploader.Logic.Proc
import ApUploader.Protocol.Awaiting
import ApUploader.Protocol.Run

/-! # The loop of `next_event`

`next_event` is written as a `while True` loop whose body changes the fields of the
protocol one after the other, with assertions in between. Here it is that loop, with as
many passes as it gets fuel. Its first pass does what `nextEvent` says and returns, so
what is known of `nextEvent` in reachable states holds of the loop.
-/

namespace ApUploader.Protocol

open Effect

def assertThat (holds : Prop) [Decidable holds] : Proc Exn Protocol Unit :=
  if holds then pure () else Proc.raise .assertionError

/-- `self._purge_excess_data(up_to=...)`. -/
def purge (upTo : Option Nat) : Proc Exn Protocol (Option Event) := fun p =>
  (.ok (p.purgeExcessData upTo).1, (p.purgeExcessData upTo).2)

/-- A pass from the wait for the sync byte on. -/
def passFromSync : Proc Exn Protocol (Unit ⊕ Option Event) := do
  let p ← Proc.get
  if p.state = .waitSync then
    assertThat (0 < p.bytesExpected)
    if p.buffer = [] then
      return .inr (some .needMoreData)
    match p.buffer.findIdx? (· == OpCode.inSync.toByte) with
    | some (n + 1) => return .inr (← purge (some (n + 1)))
    | none => return .inr ((← purge none) <|> some .needMoreData)
    | some 0 =>
        if p.buffer.length < 2 then
          return .inr (some .needMoreData)
        let response := p.buffer.getD 1 0
        if response ∉ acceptedStatus then
          return .inr (← purge (some 2))
        Proc.modify fun p => { p with buffer := p.buffer.drop 2 }
        let payload := p.payload
        Proc.modify moveToInSyncState
        match Response.fromOpcode response payload with
        | .ok r => return .inr (some (.response r))
        | .error e => Proc.raise e
  else
    return .inr (← purge none)
  -- where the body ends the loop goes round again
  return .inl ()

def passFromResponse : Proc Exn Protocol (Unit ⊕ Option Event) := do
  let p ← Proc.get
  if p.state = .waitResponse then
    assertThat (0 < p.bytesExpected)
    if p.buffer.length < p.bytesExpected then
      return .inr (some .needMoreData)
    Proc.modify fun p => { p with payload := p.buffer.take p.bytesExpected }
    Proc.modify fun p => { p with buffer := p.buffer.drop p.bytesExpected }
    Proc.modify startWaitingForSync
  passFromSync

/-- The body of the loop. -/
def nextEventPass (_ : Unit) : Proc Exn Protocol (Unit ⊕ Option Event) := do
  let p ← Proc.get
  if p.buffer = [] ∧ p.bufferClosed = true then
    return .inr (some .connectionClosed)
  if p.state = .waitResponseLength then
    assertThat (0 < p.bytesExpected)
    if p.buffer.length < p.bytesExpected then
      return .inr (some .needMoreData)
    let length := LittleEndian.decode (p.buffer.take 4)
    Proc.modify fun p => { p with buffer := p.buffer.drop p.bytesExpected }
    Proc.modify fun p => p.startWaitingForResponse length
  passFromResponse

def nextEventLoop (fuel : Nat) : Proc Exn Protocol (Option Event) := Proc.loop nextEventPass fuel ()

/-! ## What a pass does -/

/-- A result of `nextEvent` as the end of a pass: it returns or raises. -/
def Step.outcome : Step → Outcome Exn (Unit ⊕ Option Event) × Protocol
  | (.ok event, p) => (.ok (.inr event), p)
  | (.error e, p) => (.raised e, p)

theorem assertThat_bind_of_pos {α : Type} {holds : Prop} [Decidable holds] (h : holds)
    (next : Unit → Proc Exn Protocol α) (p : Protocol) :
    (assertThat holds >>= next) p = next () p := by
  unfold assertThat
  rw [if_pos h]
  rfl

theorem assertThat_bind_of_neg {α : Type} {holds : Prop} [Decidable holds] (h : ¬ holds)
    (next : Unit → Proc Exn Protocol α) (p : Protocol) :
    (assertThat holds >>= next) p = (.raised .assertionError, p) := by
  unfold assertThat
  rw [if_neg h]
  rfl

theorem readStatus_eq (p : Protocol) : p.readStatus =
    if p.buffer.length < 2 then (.ok (some .needMoreData), p)
    else if p.buffer.getD 1 0 ∉ acceptedStatus then
      (.ok (p.purgeExcessData (some 2)).1, (p.purgeExcessData (some 2)).2)
    else
      match Response.fromOpcode (p.buffer.getD 1 0) p.payload with
      | .ok r => (.ok (some (.response r)), { p with buffer := p.buffer.drop 2 }.moveToInSyncState)
      | .error e => (.error e, { p with buffer := p.buffer.drop 2 }.moveToInSyncState) := by
  unfold readStatus
  by_cases hshort : p.buffer.length < 2
  · have hnone : p.buffer[1]? = none := List.getElem?_eq_none (by omega)
    rw [if_pos hshort, hnone]
  · have hsome : p.buffer[1]? = some (p.buffer.getD 1 0) := by
      rw [List.getD_eq_getElem?_getD, List.getElem?_eq_getElem (by omega)]
      rfl
    rw [hsome]
    exact (if_neg hshort).symm

theorem passFromSync_eq (p : Protocol) : passFromSync p = Step.outcome p.waitSyncBlock := by
  unfold passFromSync waitSyncBlock
  rw [Proc.get_bind]
  by_cases hstate : p.state = .waitSync
  · rw [if_pos hstate, if_pos hstate]
    by_cases hexpected : p.bytesExpected = 0
    · rw [if_pos hexpected, assertThat_bind_of_neg (by omega)]
      rfl
    · rw [if_neg hexpected, assertThat_bind_of_pos (by omega)]
      by_cases hbuffer : p.buffer = []
      · rw [if_pos hbuffer, if_pos hbuffer]
        rfl
      · rw [if_neg hbuffer, if_neg hbuffer]
        cases p.buffer.findIdx? (· == OpCode.inSync.toByte) with
        | none => rfl
        | some index =>
            cases index with
            | succ n => rfl
            | zero =>
                dsimp only
                rw [readStatus_eq]
                by_cases hshort : p.buffer.length < 2
                · rw [if_pos hshort, if_pos hshort]
                  rfl
                · rw [if_neg hshort, if_neg hshort]
                  by_cases hstatus : p.buffer.getD 1 0 ∉ acceptedStatus
                  · rw [if_pos hstatus, if_pos hstatus]
                    rfl
                  · rw [if_neg hstatus, if_neg hstatus]
                    cases Response.fromOpcode (p.buffer.getD 1 0) p.payload with
                    | ok r => rfl
                    | error e => rfl
  · rw [if_neg hstate, if_neg hstate]
    rfl

theorem passFromResponse_eq (p : Protocol) : passFromResponse p =
    match p.waitResponseBlock with
    | .returned step => Step.outcome step
    | .fallsThrough p => Step.outcome p.waitSyncBlock := by
  unfold passFromResponse waitResponseBlock
  rw [Proc.get_bind]
  by_cases hstate : p.state = .waitResponse
  · rw [if_pos hstate, if_pos hstate]
    by_cases hexpected : p.bytesExpected = 0
    · rw [if_pos hexpected, assertThat_bind_of_neg (by omega)]
      rfl
    · rw [if_neg hexpected, assertThat_bind_of_pos (by omega)]
      by_cases hshort : p.buffer.length < p.bytesExpected
      · rw [if_pos hshort, if_pos hshort]
        rfl
      · rw [if_neg hshort, if_neg hshort]
        exact passFromSync_eq { p with
          payload := p.buffer.take p.bytesExpected
          buffer := p.buffer.drop p.bytesExpected }.startWaitingForSync
  · rw [if_neg hstate, if_neg hstate]
    exact passFromSync_eq p

/-- A pass does what `nextEvent` does: it never goes round again. -/
theorem nextEventPass_eq (p : Protocol) : nextEventPass () p = Step.outcome p.nextEvent := by
  have hrest : ∀ p : Protocol, passFromResponse p = Step.outcome
      (match p.waitResponseBlock with
      | .returned step => step
      | .fallsThrough p => p.waitSyncBlock) := by
    intro p
    rw [passFromResponse_eq]
    cases p.waitResponseBlock with
    | returned step => rfl
    | fallsThrough p => rfl
  unfold nextEventPass nextEvent
  rw [Proc.get_bind]
  by_cases hclosed : p.buffer = [] ∧ p.bufferClosed = true
  · rw [if_pos hclosed, if_pos hclosed]
    rfl
  · rw [if_neg hclosed, if_neg hclosed]
    unfold waitResponseLengthBlock
    dsimp only
    by_cases hstate : p.state = .waitResponseLength
    · rw [if_pos hstate, if_pos hstate]
      by_cases hexpected : p.bytesExpected = 0
      · rw [if_pos hexpected, assertThat_bind_of_neg (by omega)]
        rfl
      · rw [if_neg hexpected, assertThat_bind_of_pos (by omega)]
        by_cases hshort : p.buffer.length < p.bytesExpected
        · rw [if_pos hshort, if_pos hshort]
          rfl
        · rw [if_neg hshort, if_neg hshort]
          exact hrest ({ p with buffer := p.buffer.drop p.bytesExpected }.startWaitingForResponse
            (LittleEndian.decode (p.buffer.take 4)))
    · rw [if_neg hstate, if_neg hstate]
      exact hrest p

theorem nextEventLoop_eq (p : Protocol) (fuel : Nat) : nextEventLoop (fuel + 1) p =
    match p.nextEvent with
    | (.ok event, q) => (.ok event, q)
    | (.error e, q) => (.raised e, q) := by
  unfold nextEventLoop
  rw [Proc.loop_succ, nextEventPass_eq]
  obtain ⟨result, q⟩ := p.nextEvent
  cases result with
  | ok event => rfl
  | error e => rfl

/-! ## Calls in reachable states -/

/-- After `NEED_MORE_DATA` or `None` a second call says the same. -/
theorem nextEvent_again {p q : Protocol} {event : Option Event} (hw : p.WellFormed)
    (hopen : p.bufferClosed = false) (hevent : event = some .needMoreData ∨ event = none)
    (hstep : p.nextEvent = (.ok event, q)) : q.nextEvent = (.ok event, q) := by
  obtain ⟨event', q', hstep', hyields⟩ := nextEvent_yields hw
  cases hstep.symm.trans hstep'
  have hopen' := hyields.isOpen hopen
  cases hyields with
  | quiet => exact hstep
  | starved hstarved =>
      have hagain := nextEvent_of_starved (settle_wellFormed hw) hopen' (by rwa [settle_settle])
      rwa [settle_settle] at hagain
  | closed _ hclosed => exact absurd (hopen.symm.trans hclosed) Bool.false_ne_true
  | stray => simp at hevent
  | desync => simp at hevent
  | response => simp at hevent

/-- A call raises nothing, breaks no assertion and returns in its first pass; what it says
without an event is what the next call says as well. -/
def ReturnsAtOnce (p : Protocol) : Prop :=
  ∃ event q, nextEventPass () p = (.ok (.inr event), q) ∧
    (∀ fuel, nextEventLoop (fuel + 1) p = (.ok event, q)) ∧
    (p.bufferClosed = false → event = some .needMoreData ∨ event = none →
      ∀ fuel, nextEventLoop (fuel + 1) q = (.ok event, q))

/-- Every sequence of operations leaves a protocol whose next event comes at once. -/
theorem returnsAtOnce_of_reachable {p : Protocol} (h : Reachable p) : ReturnsAtOnce p := by
  obtain ⟨event, q, hstep, -⟩ := nextEvent_yields h.wellFormed
  refine ⟨event, q, ?_, fun fuel => ?_, fun hopen hevent fuel => ?_⟩
  · rw [nextEventPass_eq, hstep]
    rfl
  · rw [nextEventLoop_eq, hstep]
  · rw [nextEventLoop_eq, nextEvent_again h.wellFormed hopen hevent hstep]

/-- Two of the four bytes that give the length of a chip description have arrived. -/
private def describing : List Op :=
  [.send (.command { type := .getSync }), .feed [0x12, 0x10], .nextEvent,
    .send (.command { type := .getChipDes }), .feed [20, 0]]

theorem returnsAtOnce_of_reachable_describing : ReturnsAtOnce (new.after describing) :=
  returnsAtOnce_of_reachable (Reachable.new.after describing)

end ApUploader.Protocol
