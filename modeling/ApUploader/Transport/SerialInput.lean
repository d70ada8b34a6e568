import ApUploader.Transport.Serial

/-! # What `receive()` returns from a serial port

The bytes that the port receives come out of `receive()` in their order, each once. What
has not come out yet is in the buffered stream, with a call, with the reader, or still in
the port; closing the stream may cut this tail off and nothing else.
-/

namespace ApUploader

namespace ReadWorker

def inHand : ReadWorker → Bytes
  | .sending data => data
  | .polling | .reading _ | .blocked | .ended | .failed => []

def Live (reader : ReadWorker) : Prop := reader ≠ .ended ∧ reader ≠ .failed

end ReadWorker

namespace SerialPortByteStream

variable {p p' : SerialPortByteStream}

/-- The chunks that were handed to a `receive()` that has not gone on. -/
def handed (p : SerialPortByteStream) : List Bytes := p.input.received.drop p.taken

/-- The bytes between the reader and the user, in order. -/
def under (p : SerialPortByteStream) : Bytes :=
  p.handed.flatten ++ (p.input.pending.flatten ++ p.reader.inHand)

/-- The bytes that were read from the port and not dropped, in order. -/
def way (p : SerialPortByteStream) : Bytes := p.returned.flatten ++ (p.surplus ++ p.under)

inductive Calls (p : SerialPortByteStream) : Prop where
  | idle (hcall : p.call = none) (hhanded : p.handed = [])
      (hreceivers : p.input.waitingReceivers = 0)
  | waits (maxBytes : Nat) (hcall : p.call = some maxBytes) (hsurplus : p.surplus = [])
      (hhanded : p.handed = []) (hreceivers : p.input.waitingReceivers ≤ 1)
  | handed (maxBytes : Nat) (data : Bytes) (hcall : p.call = some maxBytes)
      (hsurplus : p.surplus = []) (hhanded : p.handed = [data])
      (hreceivers : p.input.waitingReceivers = 0)

structure Flowing (p : SerialPortByteStream) : Prop where
  arrived : p.arrived = p.read ++ p.inWaiting
  isPrefix : p.way <+: p.read
  exact : p.input.receiveOpen = true → p.reader.Live → p.way = p.read
  nobody : p.reader ≠ .blocked → p.input.waitingSenders = []
  taken : p.taken ≤ p.input.received.length
  calls : p.Calls
  woken : p.input.sendOpen = false → p.input.waitingReceivers = 0
  isOpen : p.stage ≠ .closed → p.input.receiveOpen = true
  port : p.stage = .portClosed ∨ p.stage = .closed → p.portOpen = false

theorem new_flowing (maxReadSize : Nat) : (new maxReadSize).Flowing where
  arrived := rfl
  isPrefix := List.prefix_rfl
  exact := fun _ _ => rfl
  nobody := fun _ => rfl
  taken := Nat.le_refl _
  calls := .idle rfl rfl rfl
  woken := fun _ => rfl
  isOpen := fun _ => rfl
  port := fun h => by rcases h with h | h <;> cases h

theorem Flowing.of_way (h : p.Flowing) (hway : p'.way = p.way)
    (hkeeps : p'.read = p.read ∧ p'.arrived = p.arrived ∧ p'.inWaiting = p.inWaiting ∧
      p'.stage = p.stage ∧ p'.portOpen = p.portOpen)
    (hends : p'.input.sendOpen = p.input.sendOpen ∧ p'.input.receiveOpen = p.input.receiveOpen)
    (hlive : p'.reader.Live → p.reader.Live)
    (hnobody : p'.reader ≠ .blocked → p'.input.waitingSenders = [])
    (htaken : p'.taken ≤ p'.input.received.length) (hcalls : p'.Calls)
    (hwoken : p.input.sendOpen = false → p'.input.waitingReceivers = 0) : p'.Flowing := by
  obtain ⟨hread, harrived, hinWaiting, hstage, hport⟩ := hkeeps
  obtain ⟨hsend, hreceive⟩ := hends
  refine ⟨?_, ?_, ?_, hnobody, htaken, hcalls, ?_, ?_, ?_⟩
  · rw [harrived, hread, hinWaiting]
    exact h.arrived
  · rw [hway, hread]
    exact h.isPrefix
  · rw [hway, hread, hreceive]
    exact fun hopen halive => h.exact hopen (hlive halive)
  · exact fun hclosed => hwoken (hsend ▸ hclosed)
  · exact fun hopen => hreceive.trans (h.isOpen (hstage ▸ hopen))
  · rw [hstage, hport]
    exact h.port

theorem Calls.congr (h : p.Calls) (hcall : p'.call = p.call) (hsurplus : p'.surplus = p.surplus)
    (hhanded : p'.handed = p.handed)
    (hreceivers : p'.input.waitingReceivers ≤ p.input.waitingReceivers) : p'.Calls := by
  cases h with
  | idle h₁ h₂ h₃ => exact .idle (hcall.trans h₁) (hhanded.trans h₂) (by omega)
  | waits maxBytes h₁ h₂ h₃ h₄ =>
      exact .waits maxBytes (hcall.trans h₁) (hsurplus.trans h₂) (hhanded.trans h₃) (by omega)
  | handed maxBytes data h₁ h₂ h₃ h₄ =>
      exact .handed maxBytes data (hcall.trans h₁) (hsurplus.trans h₂) (hhanded.trans h₃) (by omega)

/-- Without a call, every chunk that was handed over has been taken. -/
theorem Flowing.taken_eq (h : p.Flowing) (hhanded : p.handed = []) :
    p.taken = p.input.received.length := by
  have hlength := List.drop_eq_nil_iff.mp hhanded
  have htaken := h.taken
  omega

theorem handed_congr (hreceived : p'.input.received = p.input.received)
    (htaken : p'.taken = p.taken) : p'.handed = p.handed := by
  rw [handed, hreceived, htaken]
  rfl

theorem way_congr (hreturned : p'.returned = p.returned) (hsurplus : p'.surplus = p.surplus)
    (hunder : p'.under = p.under) : p'.way = p.way := by
  rw [way, hreturned, hsurplus, hunder]
  rfl

/-- The exception of the port finds the reader with nothing in hand. -/
theorem Flowing.readerLeaves (h : p.Flowing) (hhand : p.reader.inHand = [])
    (hblocked : p.reader ≠ .blocked) : p.readerLeaves.Flowing := by
  have hgone : p.readerLeaves.reader.inHand = [] ∧ ¬ p.readerLeaves.reader.Live := by
    unfold SerialPortByteStream.readerLeaves
    dsimp only
    split
    · exact ⟨rfl, fun hlive => hlive.2 rfl⟩
    · exact ⟨rfl, fun hlive => hlive.1 rfl⟩
  have hunder : p.readerLeaves.under = p.under := by
    unfold under
    rw [hgone.1, hhand]
    rfl
  refine h.of_way (way_congr rfl rfl hunder) ⟨rfl, rfl, rfl, rfl, rfl⟩ ⟨rfl, rfl⟩ ?_ ?_ h.taken ?_
    h.woken
  · exact fun hlive => absurd hlive hgone.2
  · exact fun _ => h.nobody hblocked
  · exact h.calls.congr rfl rfl rfl (Nat.le_refl _)

theorem Flowing.of_reader (h : p.Flowing) {reader : ReadWorker} (hhand : p.reader.inHand = [])
    (hnothing : reader.inHand = []) (hlive : reader.Live → p.reader.Live)
    (hnobody : reader ≠ .blocked → p.input.waitingSenders = []) :
    ({ p with reader := reader } : SerialPortByteStream).Flowing := by
  have hunder : ({ p with reader := reader } : SerialPortByteStream).under = p.under := by
    unfold under
    rw [hnothing, hhand]
    rfl
  exact h.of_way (way_congr rfl rfl hunder) ⟨rfl, rfl, rfl, rfl, rfl⟩ ⟨rfl, rfl⟩ hlive hnobody
    h.taken (h.calls.congr rfl rfl rfl (Nat.le_refl _)) h.woken

/-- The reader takes what it asked for off the port. -/
theorem Flowing.reads (h : p.Flowing) {size : Nat} (hreader : p.reader = .reading size)
    (hport : p.portOpen = true) :
    ({ p with
      inWaiting := p.inWaiting.drop size
      read := p.read ++ p.inWaiting.take size
      reader := .sending (p.inWaiting.take size) } : SerialPortByteStream).Flowing := by
  have hstage : p.stage ≠ .closed := by
    intro hclosed
    rw [h.port (.inr hclosed)] at hport
    cases hport
  have hexact := h.exact (h.isOpen hstage) (by rw [hreader]; exact ⟨nofun, nofun⟩)
  have hway : ∀ inWaiting read, ({ p with
      inWaiting := inWaiting
      read := read
      reader := .sending (p.inWaiting.take size) } : SerialPortByteStream).way =
        p.read ++ p.inWaiting.take size := by
    intro inWaiting read
    rw [← hexact]
    unfold way under handed
    rw [hreader]
    simp [ReadWorker.inHand]
  refine ⟨?_, ?_, fun _ _ => hway _ _, ?_, h.taken, ?_, h.woken, h.isOpen, h.port⟩
  · simp [h.arrived]
  · exact ⟨[], (List.append_nil _).trans (hway _ _)⟩
  · exact fun _ => h.nobody (by simp [hreader])
  · exact h.calls.congr rfl rfl rfl (Nat.le_refl _)

/-- A closed stream takes nothing, and the reader that has nothing in hand any more is gone. -/
theorem Flowing.sendRefused (h : p.Flowing) {input : BlockingStream Bytes} {reader : ReadWorker}
    (hhand : reader.inHand = []) (hgone : ¬ reader.Live)
    (hnobody : input.waitingSenders = []) (hreceived : input.received = p.input.received)
    (hpending : input.pending = p.input.pending)
    (hreceivers : input.waitingReceivers = p.input.waitingReceivers)
    (hends : input.sendOpen = p.input.sendOpen ∧ input.receiveOpen = p.input.receiveOpen) :
    ({ p with input := input, reader := reader } : SerialPortByteStream).Flowing := by
  have hhanded : ({ p with input := input, reader := reader } : SerialPortByteStream).handed =
      p.handed := handed_congr hreceived rfl
  refine ⟨h.arrived, ?_, fun _ hlive => absurd hlive hgone, fun _ => hnobody, ?_, ?_, ?_,
    fun hopen => hends.2.trans (h.isOpen hopen), h.port⟩
  · refine List.IsPrefix.trans ?_ h.isPrefix
    unfold way under
    rw [hhanded]
    dsimp only
    rw [hpending, hhand, List.append_nil]
    simp only [List.prefix_append_right_inj]
    exact List.prefix_append _ _
  · exact hreceived ▸ h.taken
  · exact h.calls.congr rfl rfl hhanded (Nat.le_of_eq hreceivers)
  · exact fun hclosed => hreceivers.trans (h.woken (hends.1 ▸ hclosed))

/-- Without a call that waits, the data stay in the stream. -/
theorem Flowing.sendQueued (h : p.Flowing) {data : Bytes} (hreader : p.reader = .sending data)
    {input : BlockingStream Bytes} {reader : ReadWorker} (hhand : reader.inHand = [])
    (hnobody : reader ≠ .blocked → input.waitingSenders = [])
    (hreceived : input.received = p.input.received)
    (hpending : input.pending = p.input.pending ++ [data]) (hreceivers : input.waitingReceivers = 0)
    (hends : input.sendOpen = p.input.sendOpen ∧ input.receiveOpen = p.input.receiveOpen) :
    ({ p with input := input, reader := reader } : SerialPortByteStream).Flowing := by
  have hhanded : ({ p with input := input, reader := reader } : SerialPortByteStream).handed =
      p.handed := handed_congr hreceived rfl
  have halive : p.reader.Live := by
    rw [hreader]
    exact ⟨nofun, nofun⟩
  refine h.of_way (way_congr rfl rfl ?_) ⟨rfl, rfl, rfl, rfl, rfl⟩ hends (fun _ => halive) hnobody
    (hreceived ▸ h.taken) (h.calls.congr rfl rfl hhanded (by dsimp only; omega))
    fun _ => hreceivers
  unfold under
  rw [hhanded]
  dsimp only
  rw [hpending, hhand, hreader]
  simp [ReadWorker.inHand]

/-- A call that waits gets the data. -/
theorem Flowing.sendHanded (h : p.Flowing) {data : Bytes} (hreader : p.reader = .sending data)
    {input : BlockingStream Bytes} {reader : ReadWorker} (hhand : reader.inHand = [])
    (hnobody : input.waitingSenders = []) (hopen : p.input.sendOpen = true)
    (hwaits : 0 < p.input.waitingReceivers)
    (hreceived : input.received = p.input.received ++ [data])
    (hpending : input.pending = [])
    (hreceivers : input.waitingReceivers = p.input.waitingReceivers - 1)
    (hends : input.sendOpen = p.input.sendOpen ∧ input.receiveOpen = p.input.receiveOpen) :
    ({ p with input := input, reader := reader } : SerialPortByteStream).Flowing := by
  have hhanded : ({ p with input := input, reader := reader } : SerialPortByteStream).handed =
      p.handed ++ [data] := by
    unfold handed
    dsimp only
    rw [hreceived, List.drop_append_of_le_length h.taken]
  have halive : p.reader.Live := by
    rw [hreader]
    exact ⟨nofun, nofun⟩
  refine h.of_way (way_congr rfl rfl ?_) ⟨rfl, rfl, rfl, rfl, rfl⟩ hends (fun _ => halive)
    (fun _ => hnobody) ?_ ?_ ?_
  · unfold under
    rw [hhanded]
    dsimp only
    rw [hpending, p.input.pending_of_waiting hwaits, hhand, hreader]
    simp [ReadWorker.inHand]
  · dsimp only
    rw [hreceived, List.length_append]
    exact Nat.le_trans h.taken (Nat.le_add_right _ _)
  · cases h.calls with
    | idle _ _ hnone | handed _ _ _ _ _ hnone => omega
    | waits maxBytes hcall hsurplus hnothing hone =>
        refine .handed maxBytes data hcall hsurplus ?_ (by dsimp only; omega)
        rw [hhanded, hnothing, List.nil_append]
  · intro hclosed
    rw [hopen] at hclosed
    cases hclosed

/-- The reader hands its data over: to a call that waits, or to the stream, unless it is closed. -/
theorem Flowing.sends (h : p.Flowing) {data : Bytes} (hreader : p.reader = .sending data)
    {reader : ReadWorker} (hnothing : reader.inHand = [])
    (hrefused : (∃ error, (p.input.send data).1 = .refused error) → ¬ reader.Live)
    (hblocked : reader ≠ .blocked → (p.input.send data).1 ≠ .waiting) :
    ({ p with input := (p.input.send data).2, reader := reader } :
      SerialPortByteStream).Flowing := by
  have hends := p.input.send_ends data
  have hnobody := h.nobody (by simp [hreader])
  cases p.input.send_course data with
  | refused hclosed hreceived hpending hreceivers hresult hsenders =>
      exact h.sendRefused hnothing (hrefused hresult) (hsenders.trans hnobody) hreceived hpending
        hreceivers hends
  | queued hopen hidle hreceived hpending hreceivers hresult =>
      refine h.sendQueued hreader hnothing (fun hnot => ?_) hreceived hpending hreceivers hends
      rcases hresult with hwaiting | ⟨-, hsenders⟩
      · exact absurd hwaiting (hblocked hnot)
      · exact hsenders.trans hnobody
  | handed hopen hwaits hreceived hpending hreceivers hresult hsenders =>
      exact h.sendHanded hreader hnothing (hsenders.trans hnobody) hopen hwaits hreceived hpending
        hreceivers hends

theorem Flowing.readWorker (h : p.Flowing) (hstep : p.readWorker = some p') : p'.Flowing := by
  unfold SerialPortByteStream.readWorker at hstep
  split at hstep
  · next hreader =>
      have hhand : p.reader.inHand = [] := by rw [hreader]; rfl
      have hlive : p.reader.Live := by rw [hreader]; exact ⟨nofun, nofun⟩
      have hnobody := h.nobody (by simp [hreader])
      split at hstep
      · cases hstep
        exact h.of_reader hhand rfl (fun _ => hlive) fun _ => hnobody
      · cases hstep
        exact h.readerLeaves hhand (by simp [hreader])
  · next size hreader =>
      split at hstep
      · cases hstep
        exact h.readerLeaves (by rw [hreader]; rfl) (by simp [hreader])
      · next hport =>
          split at hstep
          · cases hstep
            exact h.reads hreader (by simpa using hport)
          · cases hstep
  · next data hreader =>
      split at hstep
      · next hresult =>
          cases hstep
          exact h.sends hreader rfl (by simp [hresult]) (by simp [hresult])
      · next hresult =>
          cases hstep
          exact h.sends hreader rfl (by simp [hresult]) (fun hnot => absurd rfl hnot)
      · next error hresult =>
          cases hstep
          exact h.sends hreader rfl (fun _ hlive => hlive.1 rfl) (by simp [hresult])
  · next hreader =>
      have hhand : p.reader.inHand = [] := by rw [hreader]; rfl
      have hlive : p.reader.Live := by rw [hreader]; exact ⟨nofun, nofun⟩
      split at hstep
      · cases hstep
      · next hnobody =>
          have hnone : p.input.waitingSenders = [] := by simpa using hnobody
          split at hstep
          all_goals
            cases hstep
            exact h.of_reader hhand rfl (fun _ => hlive) fun _ => hnone
  · cases hstep
  · cases hstep

theorem Flowing.give (h : p.Flowing) {input : BlockingStream Bytes} {data : Bytes}
    {rest : List Bytes} {maxBytes : Nat} (hsurplus : p.surplus = [])
    (hunder : p.under = data ++ (rest.flatten ++ p.reader.inHand))
    (htaken : p.taken + 1 = input.received.length) (hpending : input.pending = rest)
    (hreceivers : input.waitingReceivers = 0)
    (hnobody : p.reader ≠ .blocked → input.waitingSenders = [])
    (hends : input.sendOpen = p.input.sendOpen ∧ input.receiveOpen = p.input.receiveOpen) :
    (({ p with input := input } : SerialPortByteStream).give data maxBytes).Flowing := by
  have hhanded : (({ p with input := input } : SerialPortByteStream).give data maxBytes).handed =
      [] := List.drop_eq_nil_of_le (Nat.le_of_eq htaken.symm)
  refine h.of_way ?_ ⟨rfl, rfl, rfl, rfl, rfl⟩ hends id hnobody (Nat.le_of_eq htaken)
    (.idle rfl hhanded hreceivers) fun _ => hreceivers
  have hnext : (({ p with input := input } : SerialPortByteStream).give data maxBytes).under =
      rest.flatten ++ p.reader.inHand := by
    unfold under
    rw [hhanded]
    exact congrArg (fun pending : List Bytes => pending.flatten ++ p.reader.inHand) hpending
  unfold way
  rw [hnext, hunder, hsurplus]
  simp only [SerialPortByteStream.give, List.flatten_append, List.flatten_singleton,
    List.nil_append, List.append_assoc]
  rw [← List.append_assoc (data.take maxBytes), List.take_append_drop]

theorem Flowing.receiveSurplus (h : p.Flowing) (maxBytes : Nat) (hcall : p.call = none)
    (hidle : p.handed = [] ∧ p.input.waitingReceivers = 0) :
    ({ p with
      returned := p.returned ++ [p.surplus.take maxBytes]
      surplus := p.surplus.drop maxBytes } : SerialPortByteStream).Flowing := by
  refine h.of_way ?_ ⟨rfl, rfl, rfl, rfl, rfl⟩ ⟨rfl, rfl⟩ id h.nobody h.taken
    (.idle hcall hidle.1 hidle.2) h.woken
  unfold way
  simp only [List.flatten_append, List.flatten_singleton, List.append_assoc]
  rw [← List.append_assoc (p.surplus.take maxBytes), List.take_append_drop]
  rfl

/-- A `receive()` that finds nothing waits. -/
theorem Flowing.receiveWaits (h : p.Flowing) {input : BlockingStream Bytes} (maxBytes : Nat)
    (hsurplus : p.surplus = []) (hidle : p.handed = [] ∧ p.input.waitingReceivers = 0)
    (hopen : p.input.sendOpen = true) (hreceived : input.received = p.input.received)
    (hpending : input.pending = p.input.pending)
    (hreceivers : input.waitingReceivers = p.input.waitingReceivers + 1)
    (hnobody : p.reader ≠ .blocked → input.waitingSenders = [])
    (hends : input.sendOpen = p.input.sendOpen ∧ input.receiveOpen = p.input.receiveOpen) :
    ({ p with input := input, call := some maxBytes } : SerialPortByteStream).Flowing := by
  have hhanded : ({ p with input := input, call := some maxBytes } :
      SerialPortByteStream).handed = p.handed := handed_congr hreceived rfl
  have hone : input.waitingReceivers ≤ 1 := by
    have hnone := hidle.2
    omega
  refine h.of_way (way_congr rfl rfl ?_) ⟨rfl, rfl, rfl, rfl, rfl⟩ hends id hnobody
    (hreceived ▸ h.taken) (.waits maxBytes rfl hsurplus (hhanded.trans hidle.1) hone) ?_
  · rw [under, hhanded]
    dsimp only
    rw [hpending]
    rfl
  · intro hclosed
    rw [hopen] at hclosed
    cases hclosed

theorem Flowing.receive (h : p.Flowing) {maxBytes : Nat} (hstep : p.receive maxBytes = some p') :
    p'.Flowing := by
  unfold SerialPortByteStream.receive at hstep
  split at hstep
  · cases hstep
  · next hcall =>
      have hidle : p.handed = [] ∧ p.input.waitingReceivers = 0 := by
        cases h.calls with
        | idle _ hhanded hreceivers => exact ⟨hhanded, hreceivers⟩
        | waits _ hsome | handed _ _ hsome => simp [hsome] at hcall
      split at hstep
      · cases hstep
        exact h
      · next hstage =>
          have hopen := h.isOpen hstage
          split at hstep
          · cases hstep
            exact h.receiveSurplus maxBytes (by simpa using hcall) hidle
          · next hsurplus =>
              simp only [ne_eq, Decidable.not_not] at hsurplus
              obtain ⟨hsend, hreceive, -⟩ := p.input.receive_ends
              have hnobody : p.reader ≠ .blocked → p.input.receive.2.waitingSenders = [] :=
                fun hnot => (BlockingStream.receive_of_nobody (h.nobody hnot)).2.2
              cases hpending : p.input.pending with
              | cons data rest =>
                  obtain ⟨hresult, hreceived, hrest, hreceivers⟩ :=
                    BlockingStream.receive_of_pending hopen hpending
                  rw [hresult] at hstep
                  cases hstep
                  refine h.give hsurplus ?_ ?_ hrest (hreceivers.trans hidle.2) hnobody
                    ⟨hsend, hreceive⟩
                  · rw [under, hidle.1, hpending, List.flatten_nil, List.nil_append,
                      List.flatten_cons, List.append_assoc]
                  · rw [hreceived, List.length_append, h.taken_eq hidle.1]
                    rfl
              | nil =>
                  obtain ⟨hreceived, hrest, hcases⟩ := BlockingStream.receive_of_empty hpending
                  rcases hcases with ⟨hresult, hwaits, -, hsendOpen⟩ | ⟨hresult, -⟩ | ⟨hresult, -⟩
                  · rw [hresult] at hstep
                    cases hstep
                    exact h.receiveWaits maxBytes hsurplus hidle hsendOpen hreceived
                      (hrest.trans hpending.symm) hwaits hnobody ⟨hsend, hreceive⟩
                  all_goals
                    rw [hresult] at hstep
                    cases hstep
                    exact h

theorem Flowing.resume (h : p.Flowing) (hstep : p.resume = some p') : p'.Flowing := by
  obtain ⟨maxBytes, hcall, hcases⟩ := resume_spec hstep
  cases h.calls with
  | idle hnone =>
      rw [hnone] at hcall
      cases hcall
  | waits _ _ hsurplus hhanded hreceivers =>
      have hlast : p.input.received[p.taken]? = none := by
        rw [h.taken_eq hhanded]
        exact List.getElem?_length _
      rcases hcases with ⟨data, hdata, -⟩ | ⟨-, hclosed, rfl⟩
      · rw [hlast] at hdata
        cases hdata
      · exact h.of_way (way_congr rfl rfl rfl) ⟨rfl, rfl, rfl, rfl, rfl⟩ ⟨rfl, rfl⟩ id h.nobody
          h.taken (.idle rfl hhanded (h.woken hclosed)) h.woken
  | handed _ data _ hsurplus hhanded hreceivers =>
      have hlast : p.input.received[p.taken]? = some data := by
        have hdrop : (p.input.received.drop p.taken)[0]? = some data := by
          rw [show p.input.received.drop p.taken = [data] from hhanded]
          rfl
        simpa using hdrop
      have hlength : p.taken + 1 = p.input.received.length := by
        have hdrop := congrArg List.length hhanded
        simp only [SerialPortByteStream.handed, List.length_drop, List.length_singleton] at hdrop
        omega
      rcases hcases with ⟨data', hdata, rfl⟩ | ⟨hnone, -⟩
      · obtain rfl : data = data' := Option.some.inj (hlast.symm.trans hdata)
        refine h.give hsurplus ?_ hlength rfl hreceivers h.nobody ⟨rfl, rfl⟩
        rw [under, hhanded, List.flatten_singleton]
      · rw [hlast] at hnone
        cases hnone

/-- A `receive()` that is cancelled before anything was handed to it loses nothing. -/
theorem Flowing.cancelReceive (h : p.Flowing) (hhanded : p.handed = [])
    (hstep : p.cancelReceive = some p') : p'.Flowing := by
  rcases cancelReceive_spec hstep with ⟨input, habandon, rfl⟩ | ⟨habandon, rfl⟩
  · obtain ⟨hreceived, hsend, -⟩ := BlockingStream.abandon_keeps habandon
    obtain ⟨hpending, hsenders, hreceive, hreceivers⟩ := BlockingStream.abandon_spec habandon
    have hempty : ({ p with input := input, call := none } : SerialPortByteStream).handed = [] := by
      rw [← hhanded]
      exact handed_congr hreceived rfl
    have hone : p.input.waitingReceivers ≤ 1 := by
      cases h.calls <;> omega
    refine h.of_way (way_congr rfl rfl ?_) ⟨rfl, rfl, rfl, rfl, rfl⟩ ⟨hsend, hreceive⟩ id
      (fun hnot => hsenders.trans (h.nobody hnot)) (hreceived ▸ h.taken)
      (.idle rfl hempty (by dsimp only; omega)) fun _ => (by dsimp only; omega)
    rw [under, hempty, under, hhanded]
    dsimp only
    rw [hpending]
  · have hnone := BlockingStream.abandon_eq_none habandon
    have hempty : ({ p with call := none, taken := p.input.received.length } :
        SerialPortByteStream).handed = [] := List.drop_length
    refine h.of_way (way_congr rfl rfl ?_) ⟨rfl, rfl, rfl, rfl, rfl⟩ ⟨rfl, rfl⟩ id h.nobody
      (Nat.le_refl _) (.idle rfl hempty hnone) h.woken
    rw [under, hempty, under, hhanded]

/-- A step of the writer or of `aclose()` that leaves the input alone. -/
theorem Flowing.of_stage (h : p.Flowing) {stage : CloseStage} {writer : Consumer Bytes}
    {timedOut : Bool} (hstage : stage ≠ .portClosed ∧ stage ≠ .closed)
    (hopen : p.stage ≠ .closed) :
    ({ p with stage := stage, writer := writer, timedOut := timedOut } :
      SerialPortByteStream).Flowing := by
  refine ⟨h.arrived, h.isPrefix, h.exact, h.nobody, h.taken, ?_, h.woken, fun _ => h.isOpen hopen,
    ?_⟩
  · exact h.calls.congr rfl rfl rfl (Nat.le_refl _)
  · rintro (hclosed | hclosed)
    · exact absurd hclosed hstage.1
    · exact absurd hclosed hstage.2

theorem Flowing.of_writer (h : p.Flowing) (writer : Consumer Bytes) :
    ({ p with writer := writer } : SerialPortByteStream).Flowing :=
  ⟨h.arrived, h.isPrefix, h.exact, h.nobody, h.taken,
    h.calls.congr rfl rfl rfl (Nat.le_refl _), h.woken, h.isOpen, h.port⟩

/-- The reader cannot hand anything over any longer, but what it handed over can be received. -/
theorem Flowing.closeReader (h : p.Flowing) (hstage : p.stage = .drained) :
    ({ p with stage := .readerClosed, input := p.input.closeSend } :
      SerialPortByteStream).Flowing := by
  refine ⟨h.arrived, h.isPrefix, h.exact, h.nobody, h.taken, ?_, fun _ => rfl, fun _ => ?_, ?_⟩
  · exact h.calls.congr rfl rfl rfl (Nat.zero_le _)
  · exact h.isOpen (by simp [hstage])
  · rintro (hclosed | hclosed) <;> cases hclosed

theorem Flowing.closeStream (h : p.Flowing) (hstage : p.stage = .portClosed) :
    ({ p with stage := .closed, input := p.input.closeReceive } :
      SerialPortByteStream).Flowing := by
  have hport := h.port (.inl hstage)
  refine ⟨h.arrived, ?_, nofun, fun _ => rfl, h.taken, ?_, h.woken, fun hopen => absurd rfl hopen,
    fun _ => hport⟩
  · refine List.IsPrefix.trans ?_ h.isPrefix
    unfold way under SerialPortByteStream.handed
    simp only [List.prefix_append_right_inj, BlockingStream.closeReceive,
      MemoryStream.closeReceive, BlockingStream.pending, List.append_nil, List.flatten_append,
      List.append_assoc]
    by_cases hblocked : p.reader = .blocked
    · rw [hblocked]
      simp [ReadWorker.inHand]
    · rw [h.nobody hblocked]
      simp
  · exact h.calls.congr rfl rfl rfl (Nat.le_refl _)

/-- A `receive()` is cancelled only while nothing has been handed to it. -/
def CancelsUnhanded (p : SerialPortByteStream) : SerialMove → Prop
  | .cancelReceive => p.handed = []
  | _ => True

instance (p : SerialPortByteStream) (move : SerialMove) : Decidable (p.CancelsUnhanded move) := by
  cases move <;> unfold CancelsUnhanded <;> infer_instance

theorem Flowing.step {move : SerialMove} (h : p.Flowing) (hok : p.CancelsUnhanded move)
    (hstep : machine.step p move = some p') : p'.Flowing := by
  cases move with
  | arrive data =>
      obtain ⟨hport, rfl⟩ := Machine.guarded hstep
      refine ⟨?_, h.isPrefix, h.exact, h.nobody, h.taken, ?_, h.woken, h.isOpen, h.port⟩
      · simp [h.arrived]
      · exact h.calls.congr rfl rfl rfl (Nat.le_refl _)
  | readWorker => exact h.readWorker hstep
  | readFails =>
      obtain ⟨rfl, hreader | ⟨size, hreader⟩⟩ := readFails_spec hstep
      · exact h.readerLeaves (by rw [hreader]; rfl) (by simp [hreader])
      · exact h.readerLeaves (by rw [hreader]; rfl) (by simp [hreader])
  | receive maxBytes => exact h.receive hstep
  | resume => exact h.resume hstep
  | cancelReceive => exact h.cancelReceive hok hstep
  | send _ | cancelSend _ | writeWorker | writeFails =>
      obtain ⟨writer, rfl⟩ := step_of_isOutput rfl hstep
      exact h.of_writer writer
  | aclose =>
      obtain ⟨hstage, rfl⟩ := Machine.guarded hstep
      exact h.of_stage ⟨nofun, nofun⟩ (by simp [hstage])
  | drain =>
      obtain ⟨⟨hstage, -⟩, rfl⟩ := Machine.guarded hstep
      exact h.of_stage ⟨nofun, nofun⟩ (by simp [hstage])
  | timeOut =>
      obtain ⟨hstage, rfl⟩ := Machine.guarded hstep
      exact h.of_stage ⟨nofun, nofun⟩ (by simp [hstage])
  | closeReader =>
      obtain ⟨hstage, rfl⟩ := Machine.guarded hstep
      exact h.closeReader hstage
  | closePort =>
      obtain ⟨hstage, rfl⟩ := Machine.guarded hstep
      refine ⟨h.arrived, h.isPrefix, h.exact, h.nobody, h.taken, ?_, h.woken, fun _ => ?_,
        fun _ => rfl⟩
      · exact h.calls.congr rfl rfl rfl (Nat.le_refl _)
      · exact h.isOpen (by simp [hstage])
  | closeStream =>
      obtain ⟨hstage, rfl⟩ := Machine.guarded hstep
      exact h.closeStream hstage

theorem flowing_run {maxReadSize : Nat} {moves : List SerialMove}
    (hrun : machine.run (new maxReadSize) moves = some p)
    (hok : machine.Throughout CancelsUnhanded (new maxReadSize) moves) : p.Flowing := by
  have hstep : ∀ (p : SerialPortByteStream) move p', p.Flowing → p.CancelsUnhanded move →
      machine.step p move = some p' → p'.Flowing := fun p move p' h => h.step
  exact machine.run_invariant hstep hok hrun (new_flowing maxReadSize)

theorem Flowing.flatten_isPrefix (h : p.Flowing) : p.returned.flatten <+: p.arrived := by
  have hreturned : p.returned.flatten <+: p.read := (List.prefix_append _ _).trans h.isPrefix
  rw [h.arrived]
  exact hreturned.trans (List.prefix_append _ _)

/-- What `receive()` returned is what arrived first, byte for byte; and as long as the reader and
its stream are there, all that arrived since is on its way. -/
theorem returned_isPrefix {maxReadSize : Nat} {moves : List SerialMove}
    (hrun : machine.run (new maxReadSize) moves = some p)
    (hok : machine.Throughout CancelsUnhanded (new maxReadSize) moves) :
    p.returned.flatten <+: p.arrived ∧
      (p.stage ≠ .closed → p.reader.Live → p.arrived = p.way ++ p.inWaiting) := by
  have hflowing := flowing_run hrun hok
  refine ⟨hflowing.flatten_isPrefix, fun hstage hlive => ?_⟩
  rw [hflowing.exact (hflowing.isOpen hstage) hlive]
  exact hflowing.arrived

theorem returned_isPrefix_three :
    ∃ p, machine.run (new 1024) [.receive 2, .arrive [1, 2, 3], .readWorker, .readWorker,
        .readWorker, .resume, .receive 2, .arrive [4]] = some p ∧
      p.returned = [[1, 2], [3]] ∧ p.returned.flatten <+: p.arrived := by
  have hrun : machine.run (new 1024) [.receive 2, .arrive [1, 2, 3], .readWorker, .readWorker,
      .readWorker, .resume, .receive 2, .arrive [4]] = some _ := rfl
  exact ⟨_, hrun, rfl, (returned_isPrefix hrun (by decide)).1⟩

end SerialPortByteStream

end ApUploader
