import ApUploader.Connection.Operations
import ApUploader.Connection.Pass
import ApUploader.Logic.Monitor

/-! # Bounded retransmission

Every hand-over of the command or of GET_SYNC is paid for by a retry, whatever the
transport does. The loop is seen through its `Position`: where it stands with
respect to the exchange. Seven abstract moves preserve the budget of each kind of
hand-over, and every pass of the real loop is one of them.
-/

namespace ApUploader

open Effect Protocol

variable {σ κ : Type}

/-! ## Traces -/

def Action.isSend (which : Outgoing) : Action → Bool
  | .sent w _ _ _ => w == which
  | _ => false

def sentCount (which : Outgoing) (trace : List Action) : Nat := trace.countP (Action.isSend which)

@[simp] theorem sentCount_nil (which : Outgoing) : sentCount which [] = 0 := rfl

@[simp] theorem sentCount_concat (which : Outgoing) (trace : List Action) (a : Action) :
    sentCount which (trace ++ [a]) =
      sentCount which trace + if a.isSend which then 1 else 0 := by
  simp [sentCount, List.countP_append, List.countP_cons]

inductive Phase where
  | clear | commandSent | syncSent
  deriving DecidableEq

/-- The command goes out in sync, and again only after a GET_SYNC was sent and answered. -/
def resync : Monitor Phase Action where
  next phase a := match a with
    | .sent .command _ _ _ => .commandSent
    | .sent .getSync _ _ _ => if phase = .clear then .clear else .syncSent
    | .reported (.response _) => if phase = .syncSent then .clear else phase
    | _ => phase
  allowed phase a := match a with
    | .sent .command _ synced _ => phase = .clear ∧ synced = true
    | _ => True

def AnsweredSync (stretch : List Action) : Prop :=
  ∃ front raw synced completion middle r back,
    stretch = front ++ .sent .getSync raw synced completion ::
      (middle ++ .reported (.response r) :: back)

private theorem response_of_clear {stretch : List Action} {phase : Phase} (hne : phase ≠ .clear)
    (h : resync.run phase stretch = .clear) :
    ∃ middle r back, stretch = middle ++ .reported (.response r) :: back := by
  induction stretch generalizing phase with
  | nil => exact (hne h).elim
  | cons a rest ih =>
      rw [Monitor.run_cons] at h
      by_cases hnext : resync.next phase a = .clear
      · refine ⟨[], ?_⟩
        cases a with
        | sent which raw synced completion =>
            cases which <;> simp [resync, hne] at hnext
        | received result => exact (hne hnext).elim
        | direct raw completion => exact (hne hnext).elim
        | reported event =>
            cases event with
            | response r => exact ⟨r, rest, rfl⟩
            | needMoreData => exact (hne hnext).elim
            | excessData payload => exact (hne hnext).elim
            | connectionClosed => exact (hne hnext).elim
            | command c => exact (hne hnext).elim
      · obtain ⟨middle, r, back, rfl⟩ := ih hnext h
        exact ⟨a :: middle, r, back, rfl⟩

private theorem answered_of_clear {stretch : List Action}
    (h : resync.run .commandSent stretch = .clear) : AnsweredSync stretch := by
  induction stretch with
  | nil => cases h
  | cons a rest ih =>
      rw [Monitor.run_cons] at h
      have hstay : resync.next .commandSent a = .commandSent → AnsweredSync (a :: rest) := by
        intro hnext
        rw [hnext] at h
        obtain ⟨front, raw, synced, completion, middle, r, back, rfl⟩ := ih h
        exact ⟨a :: front, raw, synced, completion, middle, r, back, rfl⟩
      cases a with
      | sent which raw synced completion =>
          cases which with
          | command => exact hstay rfl
          | getSync =>
              have hsync : resync.next .commandSent (.sent .getSync raw synced completion) =
                  .syncSent := rfl
              rw [hsync] at h
              obtain ⟨middle, r, back, rfl⟩ := response_of_clear (by decide) h
              exact ⟨[], raw, synced, completion, middle, r, back, rfl⟩
      | received result => exact hstay rfl
      | direct raw completion => exact hstay rfl
      | reported event => exact hstay (by cases event <;> rfl)

theorem answeredSync_of_accepts {trace front between back : List Action} {raw raw' : Bytes}
    {synced synced' : Bool} {completion completion' : Completion}
    (h : resync.Accepts .clear trace)
    (htrace : trace = front ++ .sent .command raw synced completion ::
      (between ++ .sent .command raw' synced' completion' :: back)) : AnsweredSync between := by
  subst htrace
  rw [Monitor.accepts_append, Monitor.accepts_cons] at h
  exact answered_of_clear h.2.2.allowed_at.1

/-! ## Positions -/

inductive Position where
  | idle | waitingSync | synced | waitingReply
  deriving DecidableEq

def position (l : Locals) (p : Protocol) : Position :=
  if p.inSync then .synced
  else if p.Waiting then if l.sent then .waitingReply else .waitingSync
  else .idle

theorem position_idle {l : Locals} {p : Protocol} (h : ¬ p.Waiting) (hs : p.inSync = false) :
    position l p = .idle := by
  simp [position, h, hs]

theorem position_synced {l : Locals} {p : Protocol} (hs : p.inSync = true) :
    position l p = .synced := by
  simp [position, hs]

theorem position_waiting {l : Locals} {p : Protocol} (h : p.Waiting) :
    position l p = if l.sent then .waitingReply else .waitingSync := by
  simp [position, h, inSync_of_waiting h]

/-! ## The budget -/

/-- Hand-overs so far are covered by the retries used and one initial allowance. -/
structure Budget (retries : Nat) (pos : Position) (left : Nat) (trace : List Action) : Prop where
  left_le : left ≤ retries
  commands : sentCount .command trace + (if pos = .waitingReply then 0 else 1) ≤
    retries - left + 1
  syncs : sentCount .getSync trace + (if pos = .idle then 1 else 0) ≤ retries - left + 1
  accepts : resync.Accepts .clear trace
  synced : pos = .synced → resync.run .clear trace = .clear
  waiting : pos = .waitingSync → resync.run .clear trace ≠ .commandSent

structure Spent (retries : Nat) (trace : List Action) : Prop where
  commands : sentCount .command trace ≤ retries + 1
  syncs : sentCount .getSync trace ≤ retries + 1
  accepts : resync.Accepts .clear trace

namespace Budget

variable {retries left : Nat} {pos : Position} {trace : List Action} {raw : Bytes}
  {completion : Completion} {synced : Bool}

theorem spent (h : Budget retries pos left trace) : Spent retries trace :=
  ⟨by have := h.commands; omega, by have := h.syncs; omega, h.accepts⟩

/-- An action that hands nothing over and is no response is free at a position. -/
theorem quiet (h : Budget retries pos left trace) {a : Action} (hsend : ∀ which, ¬ a.isSend which)
    (hallowed : ∀ phase, resync.allowed phase a) (hnext : ∀ phase, resync.next phase a = phase) :
    Budget retries pos left (trace ++ [a]) where
  left_le := h.left_le
  commands := by simpa [hsend] using h.commands
  syncs := by simpa [hsend] using h.syncs
  accepts := by simp [h.accepts, hallowed]
  synced := by simpa [hnext] using h.synced
  waiting := by simpa [hnext] using h.waiting

/-- A fault takes a retry and leads back to the idle position. -/
theorem fault (h : Budget retries pos left trace) (hleft : 0 < left) :
    Budget retries .idle (left - 1) trace where
  left_le := by have := h.left_le; omega
  commands := by
    have := h.commands
    have := h.left_le
    simp only [reduceCtorEq, ↓reduceIte]
    split_ifs at * <;> omega
  syncs := by
    have := h.syncs
    have := h.left_le
    simp only [↓reduceIte]
    split_ifs at * <;> omega
  accepts := h.accepts
  synced := by simp
  waiting := by simp

theorem sendSync (h : Budget retries .idle left trace) :
    Budget retries .waitingSync left (trace ++ [.sent .getSync raw synced completion]) where
  left_le := h.left_le
  commands := by simpa [Action.isSend] using h.commands
  syncs := by simpa [Action.isSend] using h.syncs
  accepts := by
    rw [Monitor.accepts_append]
    exact ⟨h.accepts, trivial, trivial⟩
  synced := by simp
  waiting := by
    intro _
    simp only [Monitor.run_append, Monitor.run_cons, Monitor.run_nil, resync]
    split_ifs <;> decide

theorem sendCommand (h : Budget retries .synced left trace) :
    Budget retries .waitingReply left (trace ++ [.sent .command raw true completion]) where
  left_le := h.left_le
  commands := by simpa [Action.isSend] using h.commands
  syncs := by simpa [Action.isSend] using h.syncs
  accepts := by
    rw [Monitor.accepts_append]
    exact ⟨h.accepts, ⟨h.synced rfl, rfl⟩, trivial⟩
  synced := by simp
  waiting := by simp

theorem response (h : Budget retries .waitingSync left trace) {r : Response} :
    Budget retries .synced left (trace ++ [.reported (.response r)]) where
  left_le := h.left_le
  commands := by simpa [Action.isSend] using h.commands
  syncs := by simpa [Action.isSend] using h.syncs
  accepts := by
    rw [Monitor.accepts_append]
    exact ⟨h.accepts, trivial, trivial⟩
  synced := by
    intro _
    have hphase := h.waiting rfl
    simp only [Monitor.run_append, Monitor.run_cons, Monitor.run_nil]
    cases hrun : resync.run .clear trace with
    | clear => rfl
    | syncSent => rfl
    | commandSent => exact (hphase hrun).elim
  waiting := by simp

theorem reply (h : Budget retries pos left trace) {r : Response} :
    Spent retries (trace ++ [.reported (.response r)]) where
  commands := by have := h.commands; simp [Action.isSend]; omega
  syncs := by have := h.syncs; simp [Action.isSend]; omega
  accepts := by
    rw [Monitor.accepts_append]
    exact ⟨h.accepts, trivial, trivial⟩

end Budget

/-! ## The loop -/

def Action.Encodes (call : Call) : Action → Prop
  | .sent which raw _ _ => (call.outgoing which).toBytes = .ok raw
  | .direct _ _ => False
  | _ => True

def Encodes (call : Call) (trace : List Action) : Prop := ∀ a ∈ trace, a.Encodes call

theorem Encodes.concat {call : Call} {trace : List Action} (h : Encodes call trace) {a : Action}
    (ha : a.Encodes call) : Encodes call (trace ++ [a]) := by
  intro b hb
  rcases List.mem_append.mp hb with hb | hb
  · exact h b hb
  · rw [List.mem_singleton.mp hb]
    exact ha

structure Retrying (call : Call) (l : Locals) (w : Link σ) : Prop where
  wellFormed : w.protocol.WellFormed
  unsent : w.protocol.inSync = true → l.sent = false
  budget : Budget call.maxRetries (position l w.protocol) l.retriesLeft w.trace
  bytes : Encodes call w.trace

/-- The transport raised the error itself, in its last answer. -/
def RaisedByTransport (error : Exn) (trace : List Action) : Prop :=
  ∃ front, (∃ which raw synced, trace = front ++ [.sent which raw synced (.raised error)]) ∨
    trace = front ++ [.received (.error error)]

structure Retransmitted (call : Call) (w : Link σ) : Prop where
  spent : Spent call.maxRetries w.trace
  bytes : Encodes call w.trace

/-- The three endings of a call: only a transport can raise the message of an invalid state. -/
def retransmission (call : Call) : Post Exn (Link σ) Bytes where
  ok _ w := Retransmitted call w
  raised error w := Retransmitted call w ∧
    (error = .runtimeError "invalid state" → RaisedByTransport error w.trace)
  running w := Retransmitted call w

theorem Retrying.retransmitted {call : Call} {l : Locals} {w : Link σ} (h : Retrying call l w) :
    Retransmitted call w := ⟨h.budget.spent, h.bytes⟩

/-- The budget at a position, over bytes of the two commands only. -/
structure Accounted (call : Call) (pos : Position) (left : Nat) (trace : List Action) : Prop where
  budget : Budget call.maxRetries pos left trace
  bytes : Encodes call trace

theorem Accounted.retransmitted {call : Call} {pos : Position} {left : Nat} {w : Link σ}
    {trace : List Action} (h : Accounted call pos left trace) (htrace : w.trace = trace) :
    Retransmitted call w := by
  subst htrace
  exact ⟨h.budget.spent, h.bytes⟩

namespace Retrying

variable {T : Transport σ} {call : Call} {l l' : Locals} {w w' : Link σ} {error : Exn}

theorem asked (h : Retrying call l w) (hquiet : w.protocol.Yields none w.protocol)
    (hsync : w.protocol.inSync = false) (completion : Completion) (s : σ) :
    Accounted call .waitingSync l.retriesLeft
      (w.afterSend .getSync syncBytes completion s).trace := by
  have hbudget := h.budget
  rw [position_idle (not_waiting_of_quiet hquiet).1 hsync] at hbudget
  exact ⟨hbudget.sendSync, h.bytes.concat rfl⟩

theorem handed (h : Retrying call l w) (hsync : w.protocol.inSync = true) {raw : Bytes}
    (hraw : call.command.toBytes = .ok raw) (completion : Completion) (s : σ) :
    Accounted call .waitingReply l.retriesLeft
      (w.afterSend .command raw completion s).trace := by
  have hbudget := h.budget
  rw [position_synced hsync] at hbudget
  refine ⟨?_, h.bytes.concat hraw⟩
  simp only [Link.afterSend, hsync]
  exact hbudget.sendCommand

theorem received (h : Retrying call l w) (result : Except Exn Bytes) :
    Accounted call (position l w.protocol) l.retriesLeft (w.trace ++ [.received result]) :=
  ⟨h.budget.quiet (by intro which; simp [Action.isSend]) (fun _ => trivial) (fun _ => rfl),
    h.bytes.concat trivial⟩

theorem reported (h : Retrying call l w) {event : Event} (hevent : ∀ r, event ≠ .response r) :
    Accounted call (position l w.protocol) l.retriesLeft (w.trace ++ [.reported event]) := by
  refine ⟨h.budget.quiet (by intro which; simp [Action.isSend]) (fun _ => trivial) ?_,
    h.bytes.concat trivial⟩
  intro phase
  cases event with
  | response r => exact (hevent r rfl).elim
  | needMoreData | excessData | connectionClosed | command => rfl

theorem answered (h : Retrying call l w) (r : Response) :
    Retransmitted call (w.afterEvent (.response r)) := ⟨h.budget.reply, h.bytes.concat trivial⟩

theorem fault (h : Retrying call l w) (hfault : Fault T call l w l' error w') :
    ∃ pos, Accounted call pos l.retriesLeft w'.trace := by
  cases hfault with
  | getSync hquiet hsync _ s _ => exact ⟨_, h.asked hquiet hsync _ s⟩
  | command _ hsync _ raw hraw _ s _ => exact ⟨_, h.handed hsync hraw _ s⟩
  | timeout _ s _ => exact ⟨_, h.received _⟩
  | excess payload q _ => exact ⟨_, h.reported (by simp)⟩

theorem retried (h : Retrying call l w) (hfault : Fault T call l w l' error w')
    (hleft : 0 < l.retriesLeft) :
    Retrying call { l' with retriesLeft := l'.retriesLeft - 1 } w' := by
  obtain ⟨pos, haccounted⟩ := h.fault hfault
  refine ⟨hfault.wellFormed, by simp [hfault.not_inSync], ?_, haccounted.bytes⟩
  rw [position_idle hfault.not_waiting hfault.not_inSync, hfault.retriesLeft]
  exact haccounted.budget.fault hleft

/-- A fault is an error of the transport itself, or one with another message. -/
theorem exhausted (h : Retrying call l w) (hfault : Fault T call l w l' error w') :
    (retransmission call).raised error w' := by
  obtain ⟨pos, haccounted⟩ := h.fault hfault
  refine ⟨haccounted.retransmitted rfl, ?_⟩
  intro herror
  cases hfault with
  | getSync | command => exact ⟨w.trace, .inl ⟨_, _, _, rfl⟩⟩
  | timeout | excess => cases herror

theorem failed (h : Retrying call l w) (hfailure : Failure T call l w error w') :
    (retransmission call).raised error w' := by
  cases hfailure with
  | unencodable hsync hsent error hraw =>
      refine ⟨h.retransmitted, ?_⟩
      rintro rfl
      exact absurd hraw (by unfold Command.toBytes; split_ifs <;> simp)
  | invalidState hsync hsent =>
      rw [h.unsent hsync] at hsent
      cases hsent
  | getSync hquiet hsync error _ s =>
      exact ⟨(h.asked hquiet hsync _ s).retransmitted rfl, fun _ => ⟨w.trace, .inl ⟨_, _, _, rfl⟩⟩⟩
  | command _ hsync _ raw hraw error _ s =>
      exact ⟨(h.handed hsync hraw _ s).retransmitted rfl, fun _ => ⟨w.trace, .inl ⟨_, _, _, rfl⟩⟩⟩
  | unfed _ data error hfeed s =>
      refine ⟨(h.received _).retransmitted rfl, ?_⟩
      rintro rfl
      exact absurd (feed_eq_error hfeed) (by decide)
  | unreceived _ error _ s =>
      exact ⟨(h.received _).retransmitted rfl, fun _ => ⟨w.trace, .inr rfl⟩⟩
  | response r q _ error herror =>
      refine ⟨⟨(h.answered r).spent, (h.answered r).bytes⟩, ?_⟩
      rintro rfl
      exact absurd herror
        (by unfold Response.getPayloadOrRaiseException; cases r.type <;> simp)
  | closed =>
      exact ⟨(h.reported (by simp)).retransmitted rfl, fun herror => absurd herror (by decide)⟩

end Retrying

/-- One pass keeps the loop invariant or ends the call within the budget. -/
theorem retrying_pass (T : Transport σ) {call : Call} {l : Locals} {w : Link σ}
    (h : Retrying call l w) :
    wp (pass T call l) (roundPost (Retrying call) (retransmission call)) w := by
  apply wp_pass h.wellFormed
  case hasked =>
    intro hquiet hsync s
    have hwait : w.protocol.startWaitingForSync.Waiting := .inr (.inr rfl)
    have haccounted := h.asked hquiet hsync .done s
    refine ⟨startWaitingForResponse_wellFormed _ 0, fun _ => rfl, ?_, haccounted.bytes⟩
    rw [position_waiting hwait]
    exact haccounted.budget
  case hhanded =>
    intro _ hsync _ raw hraw s
    have hwait := startWaitingForResponse_waiting w.protocol call.command.responseLength
    have haccounted := h.handed hsync hraw .done s
    refine ⟨startWaitingForResponse_wellFormed _ _, ?_, ?_, haccounted.bytes⟩
    · simp [inSync_of_waiting hwait]
    · rw [position_waiting hwait]
      exact haccounted.budget
  case hfed =>
    intro hstarved data p s _ hfeed
    have hwait := waiting_of_starved hstarved
    have hwait' := waiting_of_feed (settle_waiting hwait) hfeed
    have haccounted := h.received (.ok data)
    refine ⟨feed_wellFormed (settle_wellFormed h.wellFormed) hfeed, ?_, ?_, haccounted.bytes⟩
    · simp [inSync_of_waiting hwait']
    · rw [position_waiting hwait', ← position_waiting hwait]
      exact haccounted.budget
  case hagreed =>
    intro r q hyields hsent
    obtain ⟨hwait, hsync, hwf⟩ := response_spec hyields
    have hbudget := h.budget
    rw [position_waiting hwait, hsent] at hbudget
    refine ⟨hwf, fun _ => hsent, ?_, (h.answered r).bytes⟩
    rw [position_synced hsync]
    exact hbudget.response
  case hreturned => exact fun r q _ _ _ => ⟨(h.answered r).spent, (h.answered r).bytes⟩
  case hretried => exact fun l' error w' hfault hleft => h.retried hfault hleft
  case hexhausted => exact fun l' error w' hfault _ => h.exhausted hfault
  case hfailed => exact fun error w' hfailure => h.failed hfailure
  case hnever => exact fun _ s _ => ⟨h.retransmitted.spent, h.retransmitted.bytes⟩

theorem wp_retransmission (T : Transport σ) (call : Call) (fuel : Nat) {w : Link σ}
    (hw : w.protocol.WellFormed) (htrace : w.trace = []) :
    wp (processCommandInner T call fuel) (retransmission call) w := by
  apply wp_loop_invariant (Retrying call) (fun l w h => h.retransmitted)
    (fun l w h => retrying_pass T h)
  refine ⟨hw, fun _ => rfl, ?_, by simp [htrace, Encodes]⟩
  rw [htrace]
  have hne : position call.locals w.protocol ≠ .waitingReply := by
    unfold position Call.locals
    split_ifs <;> first | contradiction | decide
  constructor
  case left_le => exact Nat.le_refl _
  case commands => simp [hne]
  case syncs => simp only [sentCount_nil]; split_ifs <;> omega
  case accepts => exact trivial
  case synced => exact fun _ => rfl
  case waiting => exact fun _ => by decide

/-! ## Bounded retransmission -/

def Action.handsOver (raw : Bytes) : Action → Bool
  | .sent _ raw' _ _ => raw' == raw
  | .direct raw' _ => raw' == raw
  | _ => false

def handOvers (raw : Bytes) (trace : List Action) : Nat := trace.countP (Action.handsOver raw)

/-- A command of another type never looks like GET_SYNC. -/
theorem Command.toBytes_ne_sync {c : Command} {raw : Bytes} (h : c.toBytes = .ok raw)
    (hc : c.type ≠ .getSync) : raw ≠ syncBytes := by
  obtain ⟨rest, rfl⟩ := Command.toBytes_head h
  intro heq
  exact hc (OpCode.toByte_injective (List.cons.inj heq).1)

/-- Bytes of the command are handed over exactly where the loop sends the command. -/
theorem Action.Encodes.handsOver {call : Call} {a : Action} (h : a.Encodes call)
    (hc : call.command.type ≠ .getSync) {which : Outgoing} {raw : Bytes}
    (hraw : (call.outgoing which).toBytes = .ok raw) : a.handsOver raw = a.isSend which := by
  cases a with
  | direct raw' completion => exact h.elim
  | received result => rfl
  | reported event => rfl
  | sent which' raw' synced completion =>
      have hraw' : (call.outgoing which').toBytes = .ok raw' := h
      by_cases heq : which' = which
      · subst heq
        have hsame : raw' = raw := Except.ok.inj (hraw'.symm.trans hraw)
        simp [Action.handsOver, Action.isSend, hsame]
      · have hne : raw' ≠ raw := by
          cases which' with
          | getSync =>
              have hcommand : which = .command := by cases which <;> simp_all
              subst hcommand
              have hsync : raw' = syncBytes := (Except.ok.inj hraw').symm
              rw [hsync]
              exact (Command.toBytes_ne_sync hraw hc).symm
          | command =>
              have hcommand : which = .getSync := by cases which <;> simp_all
              subst hcommand
              have hsync : raw = syncBytes := (Except.ok.inj hraw).symm
              rw [hsync]
              exact Command.toBytes_ne_sync hraw' hc
        simp [Action.handsOver, Action.isSend, hne, heq]

theorem Encodes.handOvers {call : Call} {trace : List Action} (h : Encodes call trace)
    (hc : call.command.type ≠ .getSync) {which : Outgoing} {raw : Bytes}
    (hraw : (call.outgoing which).toBytes = .ok raw) :
    handOvers raw trace = sentCount which trace := by
  unfold ApUploader.handOvers sentCount
  exact List.countP_congr fun a ha => by rw [(h a ha).handsOver hc hraw]

structure Resent (call : Call) (raw : Bytes) (trace : List Action) : Prop where
  count : handOvers raw trace ≤ call.maxRetries + 1
  /-- The command goes out only in sync. -/
  inSync : ∀ which synced completion, .sent which raw synced completion ∈ trace → synced = true
  /-- Between two sends of the command a GET_SYNC was sent and answered. -/
  resynced : ∀ front between back a b, a.handsOver raw = true → b.handsOver raw = true →
    trace = front ++ a :: (between ++ b :: back) → AnsweredSync between

theorem Retransmitted.resent {call : Call} {w : Link σ} (h : Retransmitted call w)
    (hc : call.command.type ≠ .getSync) {raw : Bytes} (hraw : call.command.toBytes = .ok raw) :
    Resent call raw w.trace := by
  have hout : (call.outgoing .command).toBytes = .ok raw := hraw
  have hcommand : ∀ a ∈ w.trace, a.handsOver raw = a.isSend .command :=
    fun a ha => (h.bytes a ha).handsOver hc hout
  have hsend : ∀ a : Action, a.isSend .command = true → ∃ raw synced completion,
      a = .sent .command raw synced completion := by
    intro a ha
    cases a with
    | sent which raw synced completion =>
        have hwhich : which = .command := by simpa [Action.isSend] using ha
        exact ⟨raw, synced, completion, by rw [hwhich]⟩
    | received result => cases ha
    | reported event => cases ha
    | direct raw completion => cases ha
  constructor
  case count =>
    rw [h.bytes.handOvers hc hout]
    exact h.spent.commands
  case inSync =>
    intro which synced completion hmem
    have hover := hcommand _ hmem
    have hwhich : which = .command := by
      simpa [Action.handsOver, Action.isSend] using hover.symm
    subst hwhich
    obtain ⟨_, hallowed⟩ := Monitor.Accepts.allowed_of_mem resync h.spent.accepts hmem
    exact hallowed.2
  case resynced =>
    intro front between back a b ha hb htrace
    rw [hcommand a (by simp [htrace])] at ha
    rw [hcommand b (by simp [htrace])] at hb
    obtain ⟨_, _, _, rfl⟩ := hsend a ha
    obtain ⟨_, _, _, rfl⟩ := hsend b hb
    exact answeredSync_of_accepts h.spent.accepts htrace

theorem Retransmitted.syncs {call : Call} {w : Link σ} (h : Retransmitted call w)
    (hc : call.command.type ≠ .getSync) : handOvers syncBytes w.trace ≤ call.maxRetries + 1 := by
  have hraw : (call.outgoing .getSync).toBytes = .ok syncBytes := rfl
  rw [h.bytes.handOvers hc hraw]
  exact h.spent.syncs

theorem retransmission_always {call : Call} {m : Proc Exn (Link σ) Bytes} {w : Link σ}
    (h : wp m (retransmission call) w) : Retransmitted call (m w).2 := by
  have hall : wp m (.always (Retransmitted call)) w :=
    wp_mono h (fun _ _ h => h) (fun _ _ h => h.1) (fun _ h => h)
  exact wp_always_iff.mp hall

/-- A chunk is handed over at most once. -/
theorem programBytes_once (R : Runtime σ) (fuel : Nat) {v : BootloaderConnection σ κ}
    (hw : v.link.protocol.WellFormed) (htrace : v.link.trace = []) {data raw : Bytes} {c : Command}
    (hc : Command.programBytes data = .ok c) (hraw : c.toBytes = .ok raw) :
    handOvers raw (BootloaderConnection.programBytes R fuel data v).2.link.trace ≤ 1 := by
  have htype : c.type ≠ .getSync := by
    unfold Command.programBytes at hc
    split_ifs at hc
    cases hc
    exact OpCode.noConfusion
  let call : Call := { command := c, maxRetries := 0 }
  have hnone : handOvers raw v.link.trace ≤ 1 := by rw [htrace]; exact Nat.zero_le 1
  have hcount : ∀ link : Link σ, Retransmitted call link → handOvers raw link.trace ≤ 1 :=
    fun link h => (h.resent htype hraw).count
  have hall : wp (BootloaderConnection.programBytes R fuel data)
      (.always fun x => handOvers raw x.link.trace ≤ 1) v := by
    unfold BootloaderConnection.programBytes
    simp only [wp_bind, BootloaderConnection.wp_ofExcept, hc, wp_pure]
    apply BootloaderConnection.wp_processCommand
    · exact fun _ => hnone
    · exact fun _ _ _ => hnone
    · intro _ s _
      have hrun := wp_retransmission R.toTransport call fuel (w := { v.link with transport := s })
        hw htrace
      exact wp_mono hrun (fun _ link h => hcount link h) (fun _ link h => hcount link h.1) hcount
  exact wp_always_iff.mp hall

/-- One call hands its command over at most once more than it has retries, and never blindly. -/
theorem bounded_retransmission (T : Transport σ) (call : Call) (fuel : Nat) {w : Link σ}
    (hreach : w.protocol.Reachable) (htrace : w.trace = [])
    (hc : call.command.type ≠ .getSync) :
    (∀ raw, call.command.toBytes = .ok raw →
        Resent call raw (processCommandInner T call fuel w).2.trace) ∧
      handOvers syncBytes (processCommandInner T call fuel w).2.trace ≤ call.maxRetries + 1 ∧
      ((processCommandInner T call fuel w).1 = .raised (.runtimeError "invalid state") →
        RaisedByTransport (.runtimeError "invalid state")
          (processCommandInner T call fuel w).2.trace) ∧
      ∀ (R : Runtime σ) (v : BootloaderConnection σ κ) (data raw : Bytes) (c : Command),
        v.link.protocol.Reachable → v.link.trace = [] → Command.programBytes data = .ok c →
        c.toBytes = .ok raw →
        handOvers raw (BootloaderConnection.programBytes R fuel data v).2.link.trace ≤ 1 := by
  have hrun := wp_retransmission T call fuel hreach.wellFormed htrace
  have hsent := retransmission_always hrun
  refine ⟨fun raw hraw => hsent.resent hc hraw, hsent.syncs hc, ?_, ?_⟩
  · intro hraised
    unfold wp at hrun
    rcases hout : processCommandInner T call fuel w with ⟨outcome, w'⟩
    rw [hout] at hrun hraised
    subst hraised
    exact hrun.2 rfl
  · intro R v data raw c hv hv' hdata hraw
    exact programBytes_once R fuel hv.wellFormed hv' hdata hraw

/-- An erasure whose first acknowledgment is lost is handed over twice, with a sync in between. -/
theorem bounded_retransmission_erase :
    (processCommandInner scripted { command := .eraseFlashMemory } 20
        ⟨.new, [.ok [0x12, 0x10], .error .timeoutError, .ok [0x12], .ok [0x10], .ok [0x12, 0x10]],
          []⟩).1 = .ok [] ∧
      Resent { command := .eraseFlashMemory } [0x23, 0x20]
        (processCommandInner scripted { command := .eraseFlashMemory } 20
          ⟨.new, [.ok [0x12, 0x10], .error .timeoutError, .ok [0x12], .ok [0x10],
            .ok [0x12, 0x10]], []⟩).2.trace :=
  ⟨by decide +kernel, (bounded_retransmission (κ := Unit) scripted
    { command := .eraseFlashMemory } 20 .new rfl (by decide)).1 _ rfl⟩

end ApUploader
