import Mathlib.Data.List.Basic

/-! # States with one cell for each key

An event belongs to a key and changes the cell of this key only, so what a cell holds in
the end depends on the events of its key alone, however they are interleaved with the
others.
-/

namespace Keyed

variable {σ κ ε γ : Type}

def ofKey [DecidableEq κ] (key : κ) (events : List (κ × ε)) : List ε :=
  (events.filter fun e => e.1 = key).map Prod.snd

/-- A state with an invariant, whose events keep to their own cells. -/
structure Independent (step : σ → κ × ε → σ) (cell : σ → κ → γ) (own : κ → ε → γ → γ)
    (inv : σ → Prop) : Prop where
  keeps : ∀ s e, inv s → inv (step s e)
  same : ∀ s key event, inv s → cell (step s (key, event)) key = own key event (cell s key)
  other : ∀ s key event key', inv s → key' ≠ key → cell (step s (key, event)) key' = cell s key'

variable {step : σ → κ × ε → σ} {cell : σ → κ → γ} {own : κ → ε → γ → γ} {inv : σ → Prop}

theorem Independent.foldl_keeps (h : Independent step cell own inv) {s : σ} (hs : inv s)
    (events : List (κ × ε)) : inv (events.foldl step s) := by
  induction events generalizing s with
  | nil => exact hs
  | cons e rest ih => exact ih (h.keeps s e hs)

theorem Independent.cell_foldl [DecidableEq κ] (h : Independent step cell own inv) {s : σ}
    (hs : inv s) (events : List (κ × ε)) (key : κ) :
    cell (events.foldl step s) key =
      (ofKey key events).foldl (fun c event => own key event c) (cell s key) := by
  induction events generalizing s with
  | nil => rfl
  | cons e rest ih =>
      obtain ⟨key', event⟩ := e
      rw [List.foldl_cons, ih (h.keeps s _ hs)]
      by_cases hkey : key' = key
      · subst hkey
        simp [ofKey, h.same s key' event hs]
      · simp [ofKey, hkey, h.other s key' event key hs (Ne.symm hkey)]

/-- The events of the other keys may be left out. -/
theorem Independent.cell_foldl_filter [DecidableEq κ] (h : Independent step cell own inv) {s : σ}
    (hs : inv s) (events : List (κ × ε)) (key : κ) :
    cell (events.foldl step s) key =
      cell ((events.filter fun e => e.1 = key).foldl step s) key := by
  rw [h.cell_foldl hs, h.cell_foldl hs, ofKey, ofKey, List.filter_filter]
  simp

end Keyed
