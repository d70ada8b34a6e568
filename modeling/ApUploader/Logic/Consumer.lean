import ApUploader.Logic.BlockingStream
import Mathlib.Logic.Relation

/-! # A worker at the end of a stream

A worker receives the objects of a stream one after the other and handles each before it
asks for the next. It ends when the stream does, or it is stopped, and then the object in
its hands may be lost. Left alone, a live worker handles everything that is pending.
-/

namespace Consumer

inductive Phase (α : Type) where
  /-- Before a receive call. -/
  | fetching
  /-- In a receive call. -/
  | waiting
  | handling (object : α)
  /-- The stream has come to its end. -/
  | ended
  /-- An exception or a cancellation has left the loop. -/
  | stopped
  deriving Repr, DecidableEq

end Consumer

structure Consumer (α : Type) where
  stream : BlockingStream α
  phase : Consumer.Phase α := .fetching
  /-- The objects that were handled, in order. -/
  handled : List α := []

namespace Consumer

variable {α : Type}

def create (maxBufferSize : Nat) : Consumer α where
  stream := .create maxBufferSize

/-- A piece of the worker between two waits. A receive call that waited gets what was handed to
it, or the end of the stream. -/
def advance (c : Consumer α) : Option (Consumer α) :=
  match c.phase with
  | .fetching =>
      match c.stream.receive.1 with
      | .item object => some { c with stream := c.stream.receive.2, phase := .handling object }
      | .waiting => some { c with stream := c.stream.receive.2, phase := .waiting }
      | .endOfStream => some { c with phase := .ended }
      | .closedResource => some { c with phase := .stopped }
  | .waiting =>
      match c.stream.received[c.handled.length]? with
      | some object => some { c with phase := .handling object }
      | none => if c.stream.sendOpen then none else some { c with phase := .ended }
  | .handling object => some { c with handled := c.handled ++ [object], phase := .fetching }
  | .ended | .stopped => none

def send (c : Consumer α) (object : α) : Consumer α :=
  { c with stream := (c.stream.send object).2 }

def cancelSend (c : Consumer α) (position : Nat) : Option (Consumer α) :=
  (c.stream.cancelSend position).map fun stream => { c with stream := stream }

def closeSend (c : Consumer α) : Consumer α := { c with stream := c.stream.closeSend }

def closeReceive (c : Consumer α) : Consumer α := { c with stream := c.stream.closeReceive }

/-- The worker is gone, and with it the receive call it may have waited in. -/
def stop (c : Consumer α) : Consumer α :=
  { c with
    stream := match c.stream.abandon with
      | some stream => stream
      | none => c.stream
    phase := .stopped }

def Live (c : Consumer α) : Prop := c.phase ≠ .ended ∧ c.phase ≠ .stopped

instance (c : Consumer α) : Decidable c.Live :=
  match h : c.phase with
  | .ended => .isFalse fun hlive => hlive.1 h
  | .stopped => .isFalse fun hlive => hlive.2 h
  | .fetching | .waiting | .handling _ => .isTrue (by simp [Live, h])

/-- What a worker has done with the objects it received, as long as it lives. -/
inductive Holds (stream : BlockingStream α) (handled : List α) : Phase α → Prop where
  | fetching (hreceived : stream.received = handled) (hidle : stream.waitingReceivers = 0) :
      Holds stream handled .fetching
  | waiting (hreceived : stream.received = handled) (hempty : stream.pending = [])
      (hwaits : stream.waitingReceivers = 1 ∨
        (stream.waitingReceivers = 0 ∧ stream.sendOpen = false)) : Holds stream handled .waiting
  | handed (object : α) (hreceived : stream.received = handled ++ [object])
      (hidle : stream.waitingReceivers = 0) : Holds stream handled .waiting
  | handling (object : α) (hreceived : stream.received = handled ++ [object])
      (hidle : stream.waitingReceivers = 0) : Holds stream handled (.handling object)

structure Sound (c : Consumer α) : Prop where
  lives : c.Live → c.stream.receiveOpen = true ∧ Holds c.stream c.handled c.phase
  ended : c.phase = .ended →
    c.stream.sendOpen = false ∧ c.stream.received = c.handled ∧ c.stream.pending = []
  isPrefix : c.handled <+: c.stream.received

variable {c c' : Consumer α}

theorem create_sound (maxBufferSize : Nat) : (create maxBufferSize : Consumer α).Sound where
  lives := fun _ => ⟨rfl, .fetching rfl rfl⟩
  ended := nofun
  isPrefix := List.prefix_rfl

namespace Holds

variable {stream stream' : BlockingStream α} {handled : List α} {phase : Phase α}

/-- What the streams differ in does not matter to the worker. -/
theorem of_received (h : Holds stream handled phase)
    (hreceived : stream'.received = stream.received)
    (hpending : stream.pending = [] → stream'.pending = [])
    (hreceivers : stream'.waitingReceivers = stream.waitingReceivers)
    (hsend : stream'.sendOpen = stream.sendOpen) : Holds stream' handled phase := by
  cases h with
  | fetching h hidle => exact .fetching (hreceived.trans h) (hreceivers.trans hidle)
  | waiting h hempty hwaits =>
      refine .waiting (hreceived.trans h) (hpending hempty) ?_
      rw [hreceivers, hsend]
      exact hwaits
  | handed object h hidle => exact .handed object (hreceived.trans h) (hreceivers.trans hidle)
  | handling object h hidle => exact .handling object (hreceived.trans h) (hreceivers.trans hidle)

theorem send (h : Holds stream handled phase) (object : α) :
    Holds (stream.send object).2 handled phase := by
  obtain ⟨hsend, -⟩ := stream.send_ends object
  cases stream.send_course object with
  | refused _ hreceived hpending hwaiting =>
      exact h.of_received hreceived (fun hempty => hpending.trans hempty) hwaiting hsend
  | queued hopen hidle hreceived hpending hwaiting =>
      cases h with
      | fetching h => exact .fetching (hreceived.trans h) hwaiting
      | waiting _ _ hwaits =>
          rcases hwaits with hone | ⟨-, hclosed⟩
          · omega
          · rw [hopen] at hclosed
            cases hclosed
      | handed first h => exact .handed first (hreceived.trans h) hwaiting
      | handling first h => exact .handling first (hreceived.trans h) hwaiting
  | handed hopen hwaits hreceived hpending hwaiting =>
      cases h with
      | waiting h _ hone =>
          refine .handed object (by rw [hreceived, h]) ?_
          rcases hone with hone | ⟨hnone, -⟩ <;> omega
      | fetching _ hidle | handed _ _ hidle | handling _ _ hidle => omega

end Holds

theorem Sound.send (h : c.Sound) (object : α) : (c.send object).Sound where
  lives := fun hlive =>
    ⟨(c.stream.send_ends object).2.trans (h.lives hlive).1, (h.lives hlive).2.send object⟩
  ended := fun hended => by
    obtain ⟨hclosed, hreceived, hempty⟩ := h.ended hended
    refine ⟨(c.stream.send_ends object).1.trans hclosed, ?_⟩
    cases c.stream.send_course object with
    | refused _ hreceived' hpending => exact ⟨hreceived'.trans hreceived, hpending.trans hempty⟩
    | queued hopen | handed hopen =>
        rw [hclosed] at hopen
        cases hopen
  isPrefix := by
    refine h.isPrefix.trans ?_
    cases c.stream.send_course object with
    | refused _ hreceived | queued _ _ hreceived => exact hreceived ▸ List.prefix_rfl
    | handed _ _ hreceived => exact hreceived ▸ List.prefix_append _ _

theorem Sound.of_stream {stream : BlockingStream α} (h : c.Sound)
    (hreceived : stream.received = c.stream.received)
    (hpending : c.stream.pending = [] → stream.pending = [])
    (hreceivers : stream.waitingReceivers = c.stream.waitingReceivers)
    (hsend : stream.sendOpen = c.stream.sendOpen)
    (hreceive : stream.receiveOpen = c.stream.receiveOpen) :
    ({ c with stream := stream } : Consumer α).Sound where
  lives := fun hlive =>
    ⟨hreceive.trans (h.lives hlive).1,
      (h.lives hlive).2.of_received hreceived hpending hreceivers hsend⟩
  ended := fun hended =>
    ⟨hsend.trans (h.ended hended).1, hreceived.trans (h.ended hended).2.1,
      hpending (h.ended hended).2.2⟩
  isPrefix := hreceived ▸ h.isPrefix

theorem Sound.cancelSend {position : Nat} (h : c.Sound) (hc : c.cancelSend position = some c') :
    c'.Sound := by
  unfold Consumer.cancelSend at hc
  rw [Option.map_eq_some_iff] at hc
  obtain ⟨stream, hstream, rfl⟩ := hc
  obtain ⟨hkeeps, -, hpending⟩ := BlockingStream.cancelSend_keeps hstream
  exact h.of_stream (congrArg MemoryStream.received hkeeps) hpending
    (congrArg MemoryStream.waitingReceivers hkeeps) (congrArg MemoryStream.sendOpen hkeeps)
    (congrArg MemoryStream.receiveOpen hkeeps)

/-- Closing wakes a receive call that waits, which then finds the end. -/
theorem Sound.closeSend (h : c.Sound) : c.closeSend.Sound where
  lives := fun hlive => by
    obtain ⟨hopen, hholds⟩ := h.lives hlive
    refine ⟨hopen, ?_⟩
    unfold Consumer.closeSend
    generalize c.phase = phase at hholds
    cases hholds with
    | fetching hreceived => exact .fetching hreceived rfl
    | waiting hreceived hempty => exact .waiting hreceived hempty (.inr ⟨rfl, rfl⟩)
    | handed object hreceived => exact .handed object hreceived rfl
    | handling object hreceived => exact .handling object hreceived rfl
  ended := fun hended => ⟨rfl, (h.ended hended).2⟩
  isPrefix := h.isPrefix

theorem stop_keeps (c : Consumer α) :
    c.stop.stream.received = c.stream.received ∧ c.stop.stream.sendOpen = c.stream.sendOpen ∧
      c.stop.stream.offered = c.stream.offered := by
  unfold stop
  split
  · next stream habandon => exact BlockingStream.abandon_keeps habandon
  · exact ⟨rfl, rfl, rfl⟩

/-- A worker that is stopped has lost at most what it had in hand. -/
theorem Sound.stop (h : c.Sound) : c.stop.Sound where
  lives := fun hlive => absurd rfl hlive.2
  ended := nofun
  isPrefix := c.stop_keeps.1 ▸ h.isPrefix

theorem Sound.closeReceive (h : c.Sound) (hgone : ¬ c.Live) : c.closeReceive.Sound where
  lives := fun hlive => absurd hlive hgone
  ended := fun hended => by
    obtain ⟨hclosed, hreceived, hempty⟩ := h.ended hended
    refine ⟨hclosed, hreceived, ?_⟩
    have hbuffer := (List.append_eq_nil_iff.mp hempty).1
    exact List.append_eq_nil_iff.mpr ⟨hbuffer, rfl⟩
  isPrefix := h.isPrefix

inductive Advanced (c c' : Consumer α) : Prop where
  | fetched (object : α) (rest : List α) (hphase : c.phase = .fetching)
      (hpending : c.stream.pending = object :: rest)
      (hnext : c' = { c with stream := c.stream.receive.2, phase := .handling object })
  | waits (hphase : c.phase = .fetching) (hpending : c.stream.pending = [])
      (hopen : c.stream.sendOpen = true)
      (hnext : c' = { c with stream := c.stream.receive.2, phase := .waiting })
  | ends (hphase : c.phase = .fetching ∨ c.phase = .waiting)
      (hreceived : c.stream.received = c.handled) (hpending : c.stream.pending = [])
      (hclosed : c.stream.sendOpen = false) (hnext : c' = { c with phase := .ended })
  | resumed (object : α) (hphase : c.phase = .waiting)
      (hreceived : c.stream.received = c.handled ++ [object])
      (hnext : c' = { c with phase := .handling object })
  | finished (object : α) (hphase : c.phase = .handling object)
      (hnext : c' = { c with handled := c.handled ++ [object], phase := .fetching })

theorem Advanced.live (h : c.Advanced c') : c.Live := by
  unfold Live
  cases h with
  | fetched _ _ hphase | waits hphase | resumed _ hphase | finished _ hphase => simp [hphase]
  | ends hphase => rcases hphase with hphase | hphase <;> simp [hphase]

/-- Only the end of its stream ends a worker. -/
theorem Advanced.live_of_open (h : c.Advanced c') (hopen : c.stream.sendOpen = true) : c'.Live := by
  cases h with
  | fetched _ _ _ _ hnext | waits _ _ _ hnext | resumed _ _ _ hnext | finished _ _ hnext =>
      subst hnext
      exact ⟨nofun, nofun⟩
  | ends _ _ _ hclosed =>
      rw [hopen] at hclosed
      cases hclosed

theorem Sound.advance (h : c.Sound) (hadvance : c.advance = some c') : c.Advanced c' := by
  unfold Consumer.advance at hadvance
  split at hadvance
  · next hphase =>
      obtain ⟨hopen, hholds⟩ := h.lives (by simp [Live, hphase])
      rw [hphase] at hholds
      cases hholds with
      | fetching hreceived =>
          cases hpending : c.stream.pending with
          | nil =>
              obtain ⟨-, -, ⟨hresult, -, -, hsend⟩ | ⟨hresult, -, -, hclosed⟩ | ⟨-, -, hnone⟩⟩ :=
                BlockingStream.receive_of_empty hpending
              · rw [hresult] at hadvance
                exact .waits hphase hpending hsend (Option.some.inj hadvance).symm
              · rw [hresult] at hadvance
                exact .ends (.inl hphase) hreceived hpending hclosed (Option.some.inj hadvance).symm
              · rw [hopen] at hnone
                cases hnone
          | cons object rest =>
              rw [(BlockingStream.receive_of_pending hopen hpending).1] at hadvance
              exact .fetched object rest hphase hpending (Option.some.inj hadvance).symm
  · next hphase =>
      have hholds := (h.lives (by simp [Live, hphase])).2
      rw [hphase] at hholds
      cases hholds with
      | waiting hreceived hpending =>
          rw [hreceived, List.getElem?_length] at hadvance
          simp only at hadvance
          split at hadvance
          · cases hadvance
          · next hclosed =>
              exact .ends (.inr hphase) hreceived hpending (by simpa using hclosed)
                (Option.some.inj hadvance).symm
      | handed object hreceived =>
          refine .resumed object hphase hreceived ?_
          simpa [hreceived] using hadvance.symm
  · next object hphase => exact .finished object hphase (Option.some.inj hadvance).symm
  · cases hadvance
  · cases hadvance

theorem Sound.advanced (h : c.Sound) (hadvanced : c.Advanced c') : c'.Sound := by
  obtain ⟨hopen, hholds⟩ := h.lives hadvanced.live
  obtain ⟨hsend, hreceive, -⟩ := c.stream.receive_ends
  cases hadvanced with
  | fetched object rest hphase hpending hnext =>
      obtain ⟨-, hreceived, -, hreceivers⟩ := BlockingStream.receive_of_pending hopen hpending
      rw [hphase] at hholds
      cases hholds with
      | fetching hhandled hidle =>
          rw [hhandled] at hreceived
          subst hnext
          refine ⟨fun _ => ⟨hreceive.trans hopen, ?_⟩, nofun, hreceived ▸ List.prefix_append _ _⟩
          exact .handling object hreceived (hreceivers.trans hidle)
  | waits hphase hpending hsendOpen hnext =>
      obtain ⟨hreceived, hempty, hcases⟩ := BlockingStream.receive_of_empty hpending
      rw [hphase] at hholds
      cases hholds with
      | fetching hhandled hidle =>
          rw [hhandled] at hreceived
          subst hnext
          refine ⟨fun _ => ⟨hreceive.trans hopen, ?_⟩, nofun, hreceived ▸ List.prefix_rfl⟩
          refine .waiting hreceived hempty (.inl ?_)
          rcases hcases with ⟨-, hwaits, -⟩ | ⟨-, -, -, hclosed⟩ | ⟨-, -, hclosed⟩
          · rw [hwaits, hidle]
          · simp [hclosed] at hsendOpen
          · simp [hclosed] at hopen
  | ends hphase hreceived hpending hclosed hnext =>
      subst hnext
      exact ⟨fun hlive => absurd rfl hlive.1, fun _ => ⟨hclosed, hreceived, hpending⟩, h.isPrefix⟩
  | resumed object hphase hreceived hnext =>
      rw [hphase] at hholds
      subst hnext
      refine ⟨fun _ => ⟨hopen, ?_⟩, nofun, h.isPrefix⟩
      cases hholds with
      | waiting hnothing => simp [hnothing] at hreceived
      | handed _ _ hidle => exact .handling object hreceived hidle
  | finished object hphase hnext =>
      rw [hphase] at hholds
      subst hnext
      cases hholds with
      | handling _ hreceived hidle =>
          exact ⟨fun _ => ⟨hopen, .fetching hreceived hidle⟩, nofun, hreceived ▸ List.prefix_rfl⟩

/-- The worker takes from the front of what is pending, and offers nothing. -/
theorem Sound.advanced_keeps (h : c.Sound) (hadvanced : c.Advanced c') :
    c'.stream.received ++ c'.stream.pending = c.stream.received ++ c.stream.pending ∧
      c'.stream.offered = c.stream.offered ∧ c'.stream.sendOpen = c.stream.sendOpen := by
  obtain ⟨hopen, -⟩ := h.lives hadvanced.live
  obtain ⟨hsend, -, hoffered⟩ := c.stream.receive_ends
  cases hadvanced with
  | fetched object rest hphase hpending hnext =>
      obtain ⟨-, hreceived, hrest, -⟩ := BlockingStream.receive_of_pending hopen hpending
      subst hnext
      refine ⟨?_, hoffered, hsend⟩
      rw [hreceived, hrest, hpending, List.append_assoc, List.singleton_append]
  | waits hphase hpending _ hnext =>
      obtain ⟨hreceived, hrest, -⟩ := BlockingStream.receive_of_empty hpending
      subst hnext
      refine ⟨?_, hoffered, hsend⟩
      rw [hreceived, hrest, hpending]
  | ends _ _ _ _ hnext | resumed _ _ _ hnext | finished _ _ hnext =>
      subst hnext
      exact ⟨rfl, rfl, rfl⟩

/-- Every offered object is still on its way, or handled. -/
def Intact (c : Consumer α) : Prop := c.phase ≠ .stopped → c.stream.Complete

theorem Sound.live_of_open (h : c.Sound) (hopen : c.stream.sendOpen = true)
    (hphase : c.phase ≠ .stopped) : c.Live := by
  refine ⟨fun hended => ?_, hphase⟩
  rw [(h.ended hended).1] at hopen
  cases hopen

theorem Intact.send (hintact : c.Intact) (h : c.Sound) (hopen : c.stream.sendOpen = true)
    (object : α) : (c.send object).Intact := fun hphase =>
  BlockingStream.send_complete object hopen (h.lives (h.live_of_open hopen hphase)).1
    (hintact hphase)

theorem Intact.advanced (hintact : c.Intact) (h : c.Sound) (hadvanced : c.Advanced c') :
    c'.Intact := by
  intro _
  obtain ⟨hqueue, hoffered, -⟩ := h.advanced_keeps hadvanced
  unfold BlockingStream.Complete
  rw [hqueue, hoffered]
  exact hintact hadvanced.live.2

def Advances : Consumer α → Consumer α → Prop :=
  Relation.ReflTransGen fun c c' => c.advance = some c'

/-- Between two objects, the worker goes through all that is pending, and to the end of a closed
stream. -/
theorem Sound.advances_of_fetching {pending : List α} (h : c.Sound) (hphase : c.phase = .fetching)
    (hpending : c.stream.pending = pending) :
    ∃ c', c.Advances c' ∧ c'.handled = c.handled ++ pending ∧
      (c.stream.sendOpen = false → c'.phase = .ended) := by
  induction pending generalizing c with
  | nil =>
      obtain ⟨hopen, -⟩ := h.lives (by simp [Live, hphase])
      cases hsend : c.stream.sendOpen with
      | true => exact ⟨c, .refl, (List.append_nil _).symm, nofun⟩
      | false =>
          have hresult : c.stream.receive.1 = .endOfStream := by
            obtain ⟨-, -, ⟨-, -, -, hsome⟩ | ⟨hend, -⟩ | ⟨-, -, hnone⟩⟩ :=
              BlockingStream.receive_of_empty hpending
            · simp [hsend] at hsome
            · exact hend
            · simp [hopen] at hnone
          have hend : c.advance = some { c with phase := .ended } := by
            rw [Consumer.advance, hphase]
            simp only [hresult]
          exact ⟨_, .single hend, (List.append_nil _).symm, fun _ => rfl⟩
  | cons object rest ih =>
      obtain ⟨hopen, -⟩ := h.lives (by simp [Live, hphase])
      obtain ⟨hresult, -, hrest, -⟩ := BlockingStream.receive_of_pending hopen hpending
      let c₁ : Consumer α := { c with stream := c.stream.receive.2, phase := .handling object }
      have hfetch : c.advance = some c₁ := by
        rw [Consumer.advance, hphase]
        simp only [hresult]
        rfl
      let c₂ : Consumer α := { c₁ with handled := c.handled ++ [object], phase := .fetching }
      have hfetched : c.Advanced c₁ := .fetched object rest hphase hpending rfl
      have hsound : c₂.Sound := (h.advanced hfetched).advanced (.finished object rfl rfl)
      obtain ⟨c', hadvances, hhandled, hends⟩ := ih hsound rfl hrest
      refine ⟨c', .head hfetch (.head rfl hadvances), ?_, fun hclosed => hends ?_⟩
      · rw [hhandled, List.append_assoc, List.singleton_append]
      · exact c.stream.receive_ends.1.trans hclosed

/-- A live worker, left alone, handles all that was accepted, and ends when the stream is closed. -/
theorem Sound.exists_advances (h : c.Sound) (hlive : c.Live) :
    ∃ c', c.Advances c' ∧ c'.handled = c.stream.received ++ c.stream.pending ∧
      (c.stream.sendOpen = false → c'.phase = .ended) := by
  have hhandling : ∀ {c : Consumer α} {object : α}, c.Sound → c.phase = .handling object →
      c.stream.received = c.handled ++ [object] →
      ∃ c', c.Advances c' ∧ c'.handled = c.stream.received ++ c.stream.pending ∧
        (c.stream.sendOpen = false → c'.phase = .ended) := by
    intro c object h hphase hreceived
    let c₁ : Consumer α := { c with handled := c.handled ++ [object], phase := .fetching }
    have hfinish : c.advance = some c₁ := by
      rw [Consumer.advance, hphase]
    have hsound : c₁.Sound := h.advanced (.finished object hphase rfl)
    obtain ⟨c', hadvances, hhandled, hends⟩ := hsound.advances_of_fetching rfl rfl
    exact ⟨c', .head hfinish hadvances, by rw [hhandled, hreceived], hends⟩
  have hholds := (h.lives hlive).2
  generalize hphase : c.phase = phase at hholds
  cases hholds with
  | fetching hreceived =>
      rw [hreceived]
      exact h.advances_of_fetching hphase rfl
  | waiting hreceived hempty hwaits =>
      rw [hempty, hreceived, List.append_nil]
      cases hsend : c.stream.sendOpen with
      | true => exact ⟨c, .refl, rfl, nofun⟩
      | false =>
          have hend : c.advance = some { c with phase := .ended } := by
            rw [Consumer.advance, hphase]
            simp [hreceived, hsend]
          exact ⟨_, .single hend, rfl, fun _ => rfl⟩
  | handed object hreceived =>
      let c₁ : Consumer α := { c with phase := .handling object }
      have hresume : c.advance = some c₁ := by
        rw [Consumer.advance, hphase]
        simp [hreceived, c₁]
      have hsound : c₁.Sound := h.advanced (.resumed object hphase hreceived rfl)
      obtain ⟨c', hadvances, hhandled, hends⟩ := hhandling hsound rfl hreceived
      exact ⟨c', .head hresume hadvances, hhandled, hends⟩
  | handling object hreceived => exact hhandling h hphase hreceived

end Consumer
