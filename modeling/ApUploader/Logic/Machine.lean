import Mathlib.Logic.Basic

/-! # Machines driven by moves

A machine takes moves of an environment, each of which is enabled or not. A run is
a list of moves, so properties of every interleaving are statements about every
list. Invariants are proved once for a step and hold for every run; they may rest
on a condition that all steps of the run meet.
-/

structure Machine (State Move : Type) where
  step : State → Move → Option State

namespace Machine

theorem guarded {α : Type} {guard : Prop} [Decidable guard] {s s' : α}
    (h : (if guard then some s else none) = some s') : guard ∧ s' = s := by
  split at h
  · next hguard => exact ⟨hguard, (Option.some.inj h).symm⟩
  · cases h

variable {State Move : Type} (m : Machine State Move)

/-- The state behind a run, `none` when one of its moves is not enabled. -/
def run (s : State) : List Move → Option State
  | [] => some s
  | move :: rest => (m.step s move).bind fun s' => run s' rest

/-- Every step of the run meets the condition. -/
def Throughout (ok : State → Move → Prop) (s : State) : List Move → Prop
  | [] => True
  | move :: rest => ok s move ∧ ∀ s', m.step s move = some s' → Throughout ok s' rest

def decidableThroughout (ok : State → Move → Prop) [∀ s move, Decidable (ok s move)] :
    ∀ (moves : List Move) (s : State), Decidable (m.Throughout ok s moves)
  | [], _ => .isTrue trivial
  | move :: rest, s =>
      match hstep : m.step s move with
      | none => decidable_of_iff (ok s move) (by simp [Throughout, hstep])
      | some s' =>
          have hrest : Decidable (m.Throughout ok s' rest) := decidableThroughout ok rest s'
          decidable_of_iff (ok s move ∧ m.Throughout ok s' rest) (by simp [Throughout, hstep])

instance {ok : State → Move → Prop} [∀ s move, Decidable (ok s move)] (s : State)
    (moves : List Move) : Decidable (m.Throughout ok s moves) := m.decidableThroughout ok moves s

variable {m} in
/-- The first move of a run is enabled, and the rest of the run follows it. -/
theorem exists_of_run_cons {s s' : State} {move : Move} {rest : List Move}
    (hrun : m.run s (move :: rest) = some s') :
    ∃ next, m.step s move = some next ∧ m.run next rest = some s' :=
  Option.bind_eq_some_iff.mp hrun

/-- What every step that meets the condition preserves holds behind every such run. -/
theorem run_invariant {inv : State → Prop} {ok : State → Move → Prop}
    (hstep : ∀ s move s', inv s → ok s move → m.step s move = some s' → inv s')
    {s s' : State} {moves : List Move} (hok : m.Throughout ok s moves)
    (hrun : m.run s moves = some s') (h : inv s) : inv s' := by
  induction moves generalizing s with
  | nil =>
      cases hrun
      exact h
  | cons move rest ih =>
      obtain ⟨next, hmove, hrest⟩ := exists_of_run_cons hrun
      exact ih (hok.2 next hmove) hrest (hstep s move next h hok.1 hmove)

theorem throughout_true (s : State) (moves : List Move) :
    m.Throughout (fun _ _ => True) s moves := by
  induction moves generalizing s with
  | nil => trivial
  | cons move rest ih => exact ⟨trivial, fun s' _ => ih s'⟩

/-- A condition on the moves alone is met throughout. -/
theorem throughout_of_forall {ok : Move → Prop} {moves : List Move} (h : ∀ move ∈ moves, ok move)
    (s : State) : m.Throughout (fun _ move => ok move) s moves := by
  induction moves generalizing s with
  | nil => trivial
  | cons move rest ih =>
      exact ⟨h move (.head _), fun s' _ => ih (fun other hin => h other (.tail _ hin)) s'⟩

/-- What every step preserves holds behind every run. -/
theorem run_preserves {inv : State → Prop}
    (hstep : ∀ s move s', inv s → m.step s move = some s' → inv s') {s s' : State}
    {moves : List Move} (hrun : m.run s moves = some s') (h : inv s) : inv s' :=
  m.run_invariant (fun s move s' h _ => hstep s move s' h) (m.throughout_true s moves) hrun h

/-- The property holds in every state of the run, its first one included. -/
def Always (good : State → Prop) (s : State) : List Move → Prop
  | [] => good s
  | move :: rest => good s ∧ ∀ s', m.step s move = some s' → Always good s' rest

variable {m}

theorem Always.head {good : State → Prop} {s : State} {moves : List Move}
    (h : m.Always good s moves) : good s := by
  cases moves with
  | nil => exact h
  | cons move rest => exact h.1

theorem Always.last {good : State → Prop} {s s' : State} {moves : List Move}
    (h : m.Always good s moves) (hrun : m.run s moves = some s') : good s' := by
  induction moves generalizing s with
  | nil =>
      cases hrun
      exact h
  | cons move rest ih =>
      obtain ⟨next, hmove, hrest⟩ := exists_of_run_cons hrun
      exact ih (h.2 next hmove) hrest

theorem always_of_invariant {inv good : State → Prop}
    (hstep : ∀ s move s', inv s → m.step s move = some s' → inv s')
    (hgood : ∀ s, inv s → good s) {s : State} (moves : List Move) (h : inv s) :
    m.Always good s moves := by
  induction moves generalizing s with
  | nil => exact hgood s h
  | cons move rest ih => exact ⟨hgood s h, fun s' hmove => ih (hstep s move s' h hmove)⟩

theorem throughout_congr {inv : State → Prop} {ok ok' : State → Move → Prop}
    (hstep : ∀ s move s', inv s → m.step s move = some s' → inv s')
    (hok : ∀ s move, inv s → (ok s move ↔ ok' s move)) {s : State} (moves : List Move)
    (h : inv s) : m.Throughout ok s moves ↔ m.Throughout ok' s moves := by
  induction moves generalizing s with
  | nil => exact Iff.rfl
  | cons move rest ih =>
      apply and_congr (hok s move h)
      apply forall_congr'
      intro s'
      exact imp_congr_right fun hmove => ih (hstep s move s' h hmove)

/-- Conditions that agree on the states of an invariant that holds as long as they are met agree on
runs. -/
theorem throughout_iff_of_run {inv : State → Prop} {ok ok' : State → Move → Prop}
    (hstep : ∀ s move s', inv s → ok' s move → m.step s move = some s' → inv s')
    (hok : ∀ s move s', inv s → m.step s move = some s' → (ok s move ↔ ok' s move))
    {s s' : State} {moves : List Move} (hrun : m.run s moves = some s') (h : inv s) :
    m.Throughout ok s moves ↔ m.Throughout ok' s moves := by
  induction moves generalizing s with
  | nil => exact Iff.rfl
  | cons move rest ih =>
      obtain ⟨next, hmove, hrest⟩ := exists_of_run_cons hrun
      simp only [Throughout, hmove, Option.some.injEq, forall_eq']
      rw [hok s move next h hmove]
      exact and_congr_right fun hmet => ih hrest (hstep s move next h hmet hmove)

/-- When a step keeps a property exactly under a condition, so does a run. -/
theorem always_iff_throughout {inv good : State → Prop} {ok : State → Move → Prop}
    (hinv : ∀ s move s', inv s → m.step s move = some s' → inv s')
    (hstep : ∀ s move s', inv s → good s → m.step s move = some s' → (good s' ↔ ok s move))
    {s s' : State} {moves : List Move} (hrun : m.run s moves = some s') (h : inv s)
    (hgood : good s) : m.Always good s moves ↔ m.Throughout ok s moves := by
  induction moves generalizing s with
  | nil => exact iff_of_true hgood trivial
  | cons move rest ih =>
      obtain ⟨next, hmove, hrest⟩ := exists_of_run_cons hrun
      have hnext := hstep s move next h hgood hmove
      have hih := ih hrest (hinv s move next h hmove)
      constructor
      · intro halways
        have htail := halways.2 next hmove
        refine ⟨hnext.mp htail.head, ?_⟩
        intro other hother
        rw [hmove] at hother
        cases hother
        exact (hih htail.head).mp htail
      · intro hok
        refine ⟨hgood, ?_⟩
        intro other hother
        rw [hmove] at hother
        cases hother
        exact (hih (hnext.mpr hok.1)).mpr (hok.2 next hmove)

end Machine
