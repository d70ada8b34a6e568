import ApUploader.Errors
import ApUploader.Logic.BlockingStream
import ApUploader.Logic.Machine
import Mathlib.Logic.Function.Basic

/-! # Transports in memory

A transport and its peer share two streams. Each has the sending end of one of them and the
receiving end of the other one, and closes them one behind the other.
-/

namespace ApUploader

inductive TransportSide where
  | transport | peer
  deriving Repr, DecidableEq

def TransportSide.other : TransportSide → TransportSide
  | .transport => .peer
  | .peer => .transport

/-- A transport and its peer, as the streams that they send to. -/
structure InMemoryTransport where
  sender : TransportSide → BlockingStream Bytes

inductive InMemoryMove where
  | send (side : TransportSide) (data : Bytes)
  /-- A `send()` that waits is cancelled. -/
  | cancelSend (side : TransportSide) (position : Nat)
  | receive (side : TransportSide)
  | cancelReceive (side : TransportSide)
  /-- The first and the second statement of `aclose()`. -/
  | closeSender (side : TransportSide)
  | closeReceiver (side : TransportSide)
  deriving Repr, DecidableEq

namespace InMemoryTransport

def new (bufferSize : Nat) : InMemoryTransport where
  sender _ := .create bufferSize

def receiver (t : InMemoryTransport) (side : TransportSide) : BlockingStream Bytes :=
  t.sender side.other

def put (t : InMemoryTransport) (side : TransportSide) (stream : BlockingStream Bytes) :
    InMemoryTransport where
  sender := Function.update t.sender side stream

def step (t : InMemoryTransport) : InMemoryMove → Option InMemoryTransport
  | .send side data => some (t.put side ((t.sender side).send data).2)
  | .cancelSend side position => ((t.sender side).cancelSend position).map (t.put side)
  | .receive side => some (t.put side.other (t.receiver side).receive.2)
  | .cancelReceive side => (t.receiver side).abandon.map (t.put side.other)
  | .closeSender side => some (t.put side (t.sender side).closeSend)
  | .closeReceiver side =>
      if (t.sender side).sendOpen = false then
        some (t.put side.other (t.receiver side).closeReceive)
      else none

def machine : Machine InMemoryTransport InMemoryMove := ⟨step⟩

/-! ## What a side sends and the other one receives -/

def sent (side : TransportSide) : InMemoryMove → List Bytes
  | .send other data => if other = side then [data] else []
  | _ => []

inductive Passes (side : TransportSide) (s s' : BlockingStream Bytes) : InMemoryMove → Prop where
  | elsewhere {move : InMemoryMove} (hsent : sent side move = []) (h : s' = s) :
      Passes side s s' move
  | send (data : Bytes) (h : s' = (s.send data).2) : Passes side s s' (.send side data)
  | cancelSend (position : Nat) (h : s.cancelSend position = some s') :
      Passes side s s' (.cancelSend side position)
  | receive (h : s' = s.receive.2) : Passes side s s' (.receive side.other)
  | cancelReceive (h : s.abandon = some s') : Passes side s s' (.cancelReceive side.other)
  | closeSender (h : s' = s.closeSend) : Passes side s s' (.closeSender side)
  | closeReceiver (h : s' = s.closeReceive) : Passes side s s' (.closeReceiver side.other)

variable {t t' : InMemoryTransport} {side : TransportSide}

@[simp] theorem other_other (side : TransportSide) : side.other.other = side := by
  cases side <;> rfl

theorem passes_of_put {move : InMemoryMove} {changed : TransportSide}
    {stream : BlockingStream Bytes}
    (hmoves : side = changed → Passes side (t.sender side) stream move)
    (hrest : side ≠ changed → sent side move = []) :
    Passes side (t.sender side) ((t.put changed stream).sender side) move := by
  by_cases hside : side = changed
  · have hchanged : (t.put changed stream).sender side = stream := by
      rw [hside]
      exact Function.update_self _ _ _
    rw [hchanged]
    exact hmoves hside
  · exact .elsewhere (hrest hside) (Function.update_of_ne hside _ _)

theorem passes_of_step {move : InMemoryMove} (hstep : machine.step t move = some t')
    (side : TransportSide) : Passes side (t.sender side) (t'.sender side) move := by
  cases move with
  | send changed data =>
      cases hstep
      refine passes_of_put (fun hside => ?_) fun hside => if_neg (Ne.symm hside)
      subst hside
      exact .send data rfl
  | cancelSend changed position =>
      obtain ⟨stream, hcancel, rfl⟩ := Option.map_eq_some_iff.mp hstep
      refine passes_of_put (fun hside => ?_) fun _ => rfl
      subst hside
      exact .cancelSend position hcancel
  | receive reader =>
      cases hstep
      refine passes_of_put (fun hside => ?_) fun _ => rfl
      subst hside
      have hpasses : Passes reader.other (t.sender reader.other) (t.sender reader.other).receive.2
          (.receive reader.other.other) := .receive rfl
      rwa [other_other] at hpasses
  | cancelReceive reader =>
      obtain ⟨stream, habandon, rfl⟩ := Option.map_eq_some_iff.mp hstep
      refine passes_of_put (fun hside => ?_) fun _ => rfl
      subst hside
      have hpasses : Passes reader.other (t.sender reader.other) stream
          (.cancelReceive reader.other.other) := .cancelReceive habandon
      rwa [other_other] at hpasses
  | closeSender changed =>
      cases hstep
      refine passes_of_put (fun hside => ?_) fun _ => rfl
      subst hside
      exact .closeSender rfl
  | closeReceiver closer =>
      obtain ⟨-, rfl⟩ := Machine.guarded hstep
      refine passes_of_put (fun hside => ?_) fun _ => rfl
      subst hside
      have hpasses : Passes closer.other (t.sender closer.other)
          (t.sender closer.other).closeReceive (.closeReceiver closer.other.other) :=
        .closeReceiver rfl
      rwa [other_other] at hpasses

theorem offered_step {move : InMemoryMove} (hstep : machine.step t move = some t') :
    (t'.sender side).offered = (t.sender side).offered ++ sent side move := by
  cases passes_of_step hstep side with
  | elsewhere hsent h => rw [h, hsent, List.append_nil]
  | send data h =>
      rw [h, BlockingStream.send_offered]
      simp [sent]
  | cancelSend position h => simp [(BlockingStream.cancelSend_keeps h).2.1, sent]
  | receive h => simp [h, (BlockingStream.receive_ends _).2.2, sent]
  | cancelReceive h => simp [(BlockingStream.abandon_keeps h).2.2, sent]
  | closeSender h => simp [h, BlockingStream.closeSend, sent]
  | closeReceiver h => simp [h, BlockingStream.closeReceive, sent]

/-- No `send()` of this side is refused or cancelled, and the other side does not close its receiver
while one waits. -/
def Undisturbed (side : TransportSide) (t : InMemoryTransport) : InMemoryMove → Prop
  | .send changed _ => changed = side →
      (t.sender side).sendOpen = true ∧ (t.sender side).receiveOpen = true
  | .cancelSend changed _ => changed ≠ side
  | .closeReceiver closer => closer.other = side → (t.sender side).waitingSenders = []
  | .receive _ | .cancelReceive _ | .closeSender _ => True

instance (side : TransportSide) (t : InMemoryTransport) : DecidablePred (Undisturbed side t)
  | .send changed _ => inferInstanceAs (Decidable (changed = side →
      (t.sender side).sendOpen = true ∧ (t.sender side).receiveOpen = true))
  | .cancelSend changed _ => inferInstanceAs (Decidable (changed ≠ side))
  | .closeReceiver closer => inferInstanceAs (Decidable (closer.other = side →
      (t.sender side).waitingSenders = []))
  | .receive _ | .cancelReceive _ | .closeSender _ => .isTrue trivial

theorem offered_run {moves : List InMemoryMove} (hrun : machine.run t moves = some t') :
    (t'.sender side).offered = (t.sender side).offered ++ moves.flatMap (sent side) := by
  induction moves generalizing t with
  | nil =>
      cases hrun
      exact (List.append_nil _).symm
  | cons move rest ih =>
      obtain ⟨next, hstep, hrest⟩ := Machine.exists_of_run_cons hrun
      rw [ih hrest, offered_step hstep, List.flatMap_cons, List.append_assoc]

/-- In every run a side receives what the other one sends, in order and each item once at most. -/
theorem received_sublist {bufferSize : Nat} {moves : List InMemoryMove}
    (hrun : machine.run (new bufferSize) moves = some t) (side : TransportSide) :
    List.Sublist (t.receiver side.other).received (moves.flatMap (sent side)) := by
  have hoffered : (t.sender side).offered = [] ++ moves.flatMap (sent side) := offered_run hrun
  rw [List.nil_append] at hoffered
  rw [← hoffered, receiver, other_other]
  exact (List.sublist_append_left _ _).trans (t.sender side).received_pending_sublist

/-- The second of three `send()` calls is cancelled while it waits. -/
theorem received_sublist_cancelled :
    let moves : List InMemoryMove :=
      [.send .transport [1], .send .transport [2], .send .transport [3], .cancelSend .transport 0,
        .receive .peer, .receive .peer]
    ∃ t, machine.run (new 1) moves = some t ∧ (t.receiver .peer).received = [[1], [3]] ∧
      List.Sublist (t.receiver TransportSide.transport.other).received
        (moves.flatMap (sent .transport)) := by
  intro moves
  have hrun : machine.run (new 1) moves = some _ := rfl
  exact ⟨_, hrun, rfl, received_sublist hrun .transport⟩

end InMemoryTransport

end ApUploader
