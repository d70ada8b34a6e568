import ApUploader.Logic.Proc

/-! # Procedures that read from a stream

What is still to be read from a state is a parameter. A procedure reads a front of
it when it returns a value and leaves exactly the rest, whatever the rest is, and
it waits on what does not suffice. Both compose along binds and rounds of a loop.
-/

namespace Effect

variable {ε ω β τ α γ : Type} (unread : ω → List τ → Prop)

/-- The procedure returns the value and consumes the front, with anything behind it. -/
def Reads (m : Proc ε ω α) (front : List τ) (value : α) : Prop :=
  ∀ w back, unread w (front ++ back) → ∃ w', m w = (.ok value, w') ∧ unread w' back

/-- The procedure consumes all there is and asks for more. -/
def Waits (m : Proc ε ω α) (front : List τ) : Prop :=
  ∀ w, unread w front → ∃ w', m w = (.running, w') ∧ unread w' []

variable {unread}

theorem Reads.pure (value : α) : Reads unread (Pure.pure value : Proc ε ω α) [] value :=
  fun w _ h => ⟨w, rfl, h⟩

theorem Reads.bind {m : Proc ε ω α} {next : α → Proc ε ω γ} {front back : List τ} {value : α}
    {result : γ} (hm : Reads unread m front value) (hnext : Reads unread (next value) back result) :
    Reads unread (m >>= next) (front ++ back) result := by
  intro w rest h
  rw [List.append_assoc] at h
  obtain ⟨w', hfirst, h'⟩ := hm w _ h
  obtain ⟨w'', hsecond, h''⟩ := hnext w' _ h'
  exact ⟨w'', (Proc.bind_of_ok hfirst next).trans hsecond, h''⟩

theorem Reads.map {m : Proc ε ω α} {front : List τ} {value : α} (f : α → γ)
    (hm : Reads unread m front value) :
    Reads unread (m >>= fun x => Pure.pure (f x)) front (f value) := by
  have hbind : Reads unread (m >>= fun x => Pure.pure (f x)) (front ++ []) (f value) :=
    hm.bind (Reads.pure (f value))
  rwa [List.append_nil] at hbind

theorem Waits.bind {m : Proc ε ω α} {front : List τ} (h : Waits unread m front)
    (next : α → Proc ε ω γ) : Waits unread (m >>= next) front := by
  intro w hw
  obtain ⟨w', hrun, h'⟩ := h w hw
  exact ⟨w', Proc.bind_of_running hrun next, h'⟩

section Loop

variable {body : β → Proc ε ω (β ⊕ α)} {state state' : β} {front back : List τ} {value : α}

theorem Reads.loop_leave (h : Reads unread (body state) front (.inr value)) (fuel : Nat) :
    Reads unread (Proc.loop body (fuel + 1) state) front value := by
  intro w rest hw
  obtain ⟨w', hbody, h'⟩ := h w rest hw
  exact ⟨w', by rw [Proc.loop_succ, hbody], h'⟩

theorem Reads.loop_again {fuel : Nat} (h : Reads unread (body state) front (.inl state'))
    (hrest : Reads unread (Proc.loop body fuel state') back value) :
    Reads unread (Proc.loop body (fuel + 1) state) (front ++ back) value := by
  intro w rest hw
  rw [List.append_assoc] at hw
  obtain ⟨w', hbody, h'⟩ := h w _ hw
  obtain ⟨w'', hloop, h''⟩ := hrest w' rest h'
  exact ⟨w'', by rw [Proc.loop_succ, hbody]; exact hloop, h''⟩

theorem Waits.loop (h : Waits unread (body state) front) (fuel : Nat) :
    Waits unread (Proc.loop body (fuel + 1) state) front := by
  intro w hw
  obtain ⟨w', hbody, h'⟩ := h w hw
  exact ⟨w', by rw [Proc.loop_succ, hbody], h'⟩

theorem Waits.loop_again {fuel : Nat} (h : Reads unread (body state) front (.inl state'))
    (hrest : Waits unread (Proc.loop body fuel state') back) :
    Waits unread (Proc.loop body (fuel + 1) state) (front ++ back) := by
  intro w hw
  obtain ⟨w', hbody, h'⟩ := h w back hw
  obtain ⟨w'', hloop, h''⟩ := hrest w' h'
  exact ⟨w'', by rw [Proc.loop_succ, hbody]; exact hloop, h''⟩

end Loop

end Effect
