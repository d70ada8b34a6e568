import Mathlib.Logic.Basic

/-! # Transducers

A transducer answers each input with an output and a new state. A run is a list of
inputs, so what holds of every run is a statement about every list. Two rules carry
an induction over a run: an invariant of the state and of the inputs and outputs so
far, and a bisimulation, which makes the outputs of two states agree.
-/

structure Transducer (State Input Output : Type) where
  output : State → Input → Output
  next : State → Input → State

namespace Transducer

variable {State Input Output : Type} (t : Transducer State Input Output)

def run (s : State) : List Input → State
  | [] => s
  | input :: rest => run (t.next s input) rest

def outputs (s : State) : List Input → List Output
  | [] => []
  | input :: rest => t.output s input :: outputs (t.next s input) rest

/-- An invariant of the state, the inputs read and the outputs written, over runs whose inputs meet
a condition. -/
theorem history_invariant (inv : State → List Input → List Output → Prop) {ok : Input → Prop}
    (hstep : ∀ s read written input, inv s read written → ok input →
      inv (t.next s input) (read ++ [input]) (written ++ [t.output s input]))
    {s : State} {inputs : List Input} (h : inv s [] []) (hok : ∀ input ∈ inputs, ok input) :
    inv (t.run s inputs) inputs (t.outputs s inputs) := by
  have hgeneral : ∀ s read written, inv s read written →
      inv (t.run s inputs) (read ++ inputs) (written ++ t.outputs s inputs) := by
    induction inputs with
    | nil =>
        intro s read written h
        simpa [run, outputs] using h
    | cons input rest ih =>
        obtain ⟨hinput, hrest⟩ := List.forall_mem_cons.mp hok
        intro s read written h
        have hnext := ih hrest _ _ _ (hstep s read written input h hinput)
        simpa [run, outputs, List.append_assoc] using hnext
  simpa using hgeneral s [] [] h

theorem run_invariant (inv : State → Prop) {ok : Input → Prop}
    (hstep : ∀ s input, inv s → ok input → inv (t.next s input)) {s : State} {inputs : List Input}
    (h : inv s) (hok : ∀ input ∈ inputs, ok input) : inv (t.run s inputs) := by
  induction inputs generalizing s with
  | nil => exact h
  | cons input rest ih =>
      obtain ⟨hinput, hrest⟩ := List.forall_mem_cons.mp hok
      exact ih (hstep s input h hinput) hrest

/-- Bisimilar states give the same outputs. -/
theorem outputs_eq_of_bisimulation {rel : State → State → Prop}
    (hstep : ∀ s s' input, rel s s' →
      t.output s input = t.output s' input ∧ rel (t.next s input) (t.next s' input))
    {s s' : State} (h : rel s s') (inputs : List Input) :
    t.outputs s inputs = t.outputs s' inputs := by
  induction inputs generalizing s s' with
  | nil => rfl
  | cons input rest ih =>
      obtain ⟨houtput, hnext⟩ := hstep s s' input h
      rw [outputs, outputs, houtput, ih hnext]

end Transducer
