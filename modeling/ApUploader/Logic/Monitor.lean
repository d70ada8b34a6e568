import Mathlib.Logic.Basic

/-! # Monitors over traces

A monitor reads a trace from left to right, keeps a state, and allows or forbids
each entry by the state it is in. Properties of the order of entries are stated as
acceptance by a monitor, which composes with appending to the trace.
-/

structure Monitor (Phase Entry : Type) where
  next : Phase → Entry → Phase
  allowed : Phase → Entry → Prop

namespace Monitor

variable {Phase Entry : Type} (m : Monitor Phase Entry)

def run (phase : Phase) (trace : List Entry) : Phase := trace.foldl m.next phase

/-- Every entry is allowed in the state it is read in. -/
def Accepts (phase : Phase) : List Entry → Prop
  | [] => True
  | entry :: rest => m.allowed phase entry ∧ Accepts (m.next phase entry) rest

@[simp] theorem run_nil (phase : Phase) : m.run phase [] = phase := rfl

@[simp] theorem run_cons (phase : Phase) (entry : Entry) (rest : List Entry) :
    m.run phase (entry :: rest) = m.run (m.next phase entry) rest := rfl

@[simp] theorem run_append (phase : Phase) (front back : List Entry) :
    m.run phase (front ++ back) = m.run (m.run phase front) back := List.foldl_append

@[simp] theorem accepts_nil (phase : Phase) : m.Accepts phase [] := trivial

@[simp] theorem accepts_cons (phase : Phase) (entry : Entry) (rest : List Entry) :
    m.Accepts phase (entry :: rest) ↔ m.allowed phase entry ∧ m.Accepts (m.next phase entry) rest :=
  Iff.rfl

@[simp] theorem accepts_append (phase : Phase) (front back : List Entry) :
    m.Accepts phase (front ++ back) ↔
      m.Accepts phase front ∧ m.Accepts (m.run phase front) back := by
  induction front generalizing phase with
  | nil => simp
  | cons entry rest ih => simp [ih, and_assoc]

/-- Each entry of an accepted trace was allowed in the state its prefix leads to. -/
theorem Accepts.allowed_at {phase : Phase} {front back : List Entry} {entry : Entry}
    (h : m.Accepts phase (front ++ entry :: back)) : m.allowed (m.run phase front) entry :=
  ((m.accepts_append phase front (entry :: back)).mp h).2.1

theorem Accepts.allowed_of_mem {phase : Phase} {trace : List Entry} {entry : Entry}
    (h : m.Accepts phase trace) (hmem : entry ∈ trace) : ∃ state, m.allowed state entry := by
  obtain ⟨front, back, rfl⟩ := List.append_of_mem hmem
  exact ⟨_, h.allowed_at⟩

end Monitor
