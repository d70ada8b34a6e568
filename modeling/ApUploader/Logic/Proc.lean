import Mathlib.Logic.Basic

/-! # Fuelled procedures with exceptions and their weakest preconditions

A procedure reads and writes a state of any type, may raise an exception, and may be
still running when its fuel is used up. The weakest precondition of a procedure says
what holds at each of the three endings, so one calculus serves partial claims
(the running ending promises nothing) and total ones (it promises `False`).
-/

namespace Effect

/-- How a procedure ends, or that it has not ended. -/
inductive Outcome (ε α : Type) where
  | ok (value : α)
  | raised (error : ε)
  | running
  deriving DecidableEq, Repr

def Outcome.ended {ε α : Type} : Outcome ε α → Prop
  | .running => False
  | _ => True

def Outcome.mapError {ε ε' α : Type} (f : ε → ε') : Outcome ε α → Outcome ε' α
  | .ok value => .ok value
  | .raised error => .raised (f error)
  | .running => .running

/-- A procedure over the state `ω`, raising errors of type `ε`. -/
def Proc (ε ω α : Type) : Type := ω → Outcome ε α × ω

namespace Proc

variable {ε ω χ α β : Type}

def pure (value : α) : Proc ε ω α := fun w => (.ok value, w)

def bind (m : Proc ε ω α) (next : α → Proc ε ω β) : Proc ε ω β := fun w =>
  match m w with
  | (.ok value, w) => next value w
  | (.raised error, w) => (.raised error, w)
  | (.running, w) => (.running, w)

instance : Monad (Proc ε ω) where
  pure := pure
  bind := bind

theorem bind_of_ok {m : Proc ε ω α} {value : α} {w w' : ω} (h : m w = (.ok value, w'))
    (next : α → Proc ε ω β) : (m >>= next) w = next value w' := by
  change bind m next w = _
  simp only [bind, h]

theorem bind_of_raised {m : Proc ε ω α} {error : ε} {w w' : ω} (h : m w = (.raised error, w'))
    (next : α → Proc ε ω β) : (m >>= next) w = (.raised error, w') := by
  change bind m next w = _
  simp only [bind, h]

theorem bind_of_running {m : Proc ε ω α} {w w' : ω} (h : m w = (.running, w'))
    (next : α → Proc ε ω β) : (m >>= next) w = (.running, w') := by
  change bind m next w = _
  simp only [bind, h]

def raise (error : ε) : Proc ε ω α := fun w => (.raised error, w)

def get : Proc ε ω ω := fun w => (.ok w, w)

theorem get_bind (next : ω → Proc ε ω α) (w : ω) : (get >>= next) w = next w w := rfl

def modify (f : ω → ω) : Proc ε ω Unit := fun w => (.ok (), f w)

/-- An `except` clause: the handler is chosen from the error, `none` lets it pass. -/
def catching (m : Proc ε ω α) (handler : ε → Option (Proc ε ω α)) : Proc ε ω α := fun w =>
  match m w with
  | (.raised error, w) =>
      match handler error with
      | some next => next w
      | none => (.raised error, w)
  | result => result

theorem catching_of_running {m : Proc ε ω α} {w w' : ω} (h : m w = (.running, w'))
    (handler : ε → Option (Proc ε ω α)) : m.catching handler w = (.running, w') := by
  simp only [catching, h]

/-- A `finally` clause: it runs at either ending and its own error wins. -/
def ensuring (m : Proc ε ω α) (cleanup : Proc ε ω Unit) : Proc ε ω α := fun w =>
  match m w with
  | (.running, w) => (.running, w)
  | (outcome, w) =>
      match cleanup w with
      | (.ok _, w) => (outcome, w)
      | (.raised error, w) => (.raised error, w)
      | (.running, w) => (.running, w)

def zoom (view : ω → χ) (put : χ → ω → ω) (m : Proc ε χ α) : Proc ε ω α := fun w =>
  ((m (view w)).1, put (m (view w)).2 w)

/-- A `while True` loop whose body goes round again or leaves with a value. -/
def loop (body : β → Proc ε ω (β ⊕ α)) : Nat → β → Proc ε ω α
  | 0, _ => fun w => (.running, w)
  | fuel + 1, state => bind (body state) fun
      | .inl state => loop body fuel state
      | .inr value => pure value

end Proc

/-! ## Postconditions -/

structure Post (ε ω α : Type) where
  ok : α → ω → Prop
  raised : ε → ω → Prop
  running : ω → Prop

variable {ε ω χ α β : Type}

def Post.Holds (post : Post ε ω α) : Outcome ε α × ω → Prop
  | (.ok value, w) => post.ok value w
  | (.raised error, w) => post.raised error w
  | (.running, w) => post.running w

/-- The procedure returns normally, and then `ok` holds. -/
def Post.returns (ok : α → ω → Prop) : Post ε ω α := ⟨ok, fun _ _ => False, fun _ => False⟩

def Post.always (holds : ω → Prop) : Post ε ω α := ⟨fun _ => holds, fun _ => holds, holds⟩

def Post.ifReturns (ok : α → ω → Prop) : Post ε ω α := ⟨ok, fun _ _ => True, fun _ => True⟩

def wp (m : Proc ε ω α) (post : Post ε ω α) (w : ω) : Prop := post.Holds (m w)

theorem wp_of_eq {m : Proc ε ω α} {post : Post ε ω α} {w : ω} {result : Outcome ε α × ω}
    (h : m w = result) : wp m post w ↔ post.Holds result := by
  unfold wp
  rw [h]

theorem wp_mono {m : Proc ε ω α} {post post' : Post ε ω α} {w : ω} (h : wp m post w)
    (hok : ∀ value w, post.ok value w → post'.ok value w)
    (hraised : ∀ error w, post.raised error w → post'.raised error w)
    (hrunning : ∀ w, post.running w → post'.running w) : wp m post' w := by
  unfold wp at h ⊢
  rcases hm : m w with ⟨outcome, w'⟩
  rw [hm] at h
  cases outcome with
  | ok value => exact hok value w' h
  | raised error => exact hraised error w' h
  | running => exact hrunning w' h

def Post.and (post post' : Post ε ω α) : Post ε ω α :=
  ⟨fun value w => post.ok value w ∧ post'.ok value w,
    fun error w => post.raised error w ∧ post'.raised error w,
    fun w => post.running w ∧ post'.running w⟩

theorem wp_and {m : Proc ε ω α} {post post' : Post ε ω α} {w : ω} (h : wp m post w)
    (h' : wp m post' w) : wp m (post.and post') w := by
  unfold wp at h h' ⊢
  rcases hm : m w with ⟨outcome, w'⟩
  rw [hm] at h h'
  cases outcome <;> exact ⟨h, h'⟩

theorem wp_returns_iff {m : Proc ε ω α} {ok : α → ω → Prop} {w : ω} :
    wp m (.returns ok) w ↔ ∃ value w', m w = (.ok value, w') ∧ ok value w' := by
  unfold wp
  rcases m w with ⟨outcome, w'⟩
  cases outcome <;> simp [Post.Holds, Post.returns, and_assoc]

theorem wp_ifReturns_iff {m : Proc ε ω α} {ok : α → ω → Prop} {w : ω} :
    wp m (.ifReturns ok) w ↔ ∀ value w', m w = (.ok value, w') → ok value w' := by
  unfold wp
  rcases m w with ⟨outcome, w'⟩
  cases outcome <;> simp [Post.Holds, Post.ifReturns]

theorem wp_ifReturns_true (m : Proc ε ω α) (w : ω) : wp m (.ifReturns fun _ _ => True) w :=
  wp_ifReturns_iff.mpr fun _ _ _ => trivial

theorem wp_ifReturns_and {m : Proc ε ω α} {ok ok' : α → ω → Prop} {w : ω}
    (h : wp m (.ifReturns ok) w) (h' : wp m (.ifReturns ok') w) :
    wp m (.ifReturns fun value w => ok value w ∧ ok' value w) w :=
  wp_mono (wp_and h h') (fun _ _ h => h) (fun _ _ _ => trivial) (fun _ _ => trivial)

theorem wp_always_iff {m : Proc ε ω α} {holds : ω → Prop} {w : ω} :
    wp m (.always holds) w ↔ holds (m w).2 := by
  unfold wp
  rcases m w with ⟨outcome, w'⟩
  cases outcome <;> exact Iff.rfl

/-! ## Rules for the constructs -/

@[simp] theorem wp_pure (value : α) (post : Post ε ω α) (w : ω) :
    wp (Pure.pure value : Proc ε ω α) post w ↔ post.ok value w := Iff.rfl

@[simp] theorem wp_raise (error : ε) (post : Post ε ω α) (w : ω) :
    wp (Proc.raise error : Proc ε ω α) post w ↔ post.raised error w := Iff.rfl

@[simp] theorem wp_get (post : Post ε ω ω) (w : ω) :
    wp (Proc.get : Proc ε ω ω) post w ↔ post.ok w w := Iff.rfl

@[simp] theorem wp_modify (f : ω → ω) (post : Post ε ω Unit) (w : ω) :
    wp (Proc.modify f : Proc ε ω Unit) post w ↔ post.ok () (f w) := Iff.rfl

@[simp] theorem wp_bind (m : Proc ε ω α) (next : α → Proc ε ω β) (post : Post ε ω β) (w : ω) :
    wp (m >>= next) post w ↔
      wp m ⟨fun value w => wp (next value) post w, post.raised, post.running⟩ w := by
  change post.Holds (Proc.bind m next w) ↔ _
  unfold Proc.bind wp
  rcases m w with ⟨outcome, w'⟩
  cases outcome <;> exact Iff.rfl

/-- Along normal returns what is known is passed from statement to statement. -/
theorem wp_bind_ifReturns {m : Proc ε ω α} {next : α → Proc ε ω β} {ok : α → ω → Prop}
    {ok' : β → ω → Prop} {w : ω} (hm : wp m (.ifReturns ok) w)
    (hnext : ∀ value w, ok value w → wp (next value) (.ifReturns ok') w) :
    wp (m >>= next) (.ifReturns ok') w := by
  rw [wp_bind]
  exact wp_mono hm hnext (fun _ _ h => h) (fun _ h => h)

@[simp] theorem wp_catching (m : Proc ε ω α) (handler : ε → Option (Proc ε ω α))
    (post : Post ε ω α) (w : ω) :
    wp (m.catching handler) post w ↔
      wp m ⟨post.ok, fun error w => match handler error with
        | some next => wp next post w
        | none => post.raised error w, post.running⟩ w := by
  simp only [wp, Proc.catching]
  rcases m w with ⟨outcome, w'⟩
  cases outcome with
  | ok value => exact Iff.rfl
  | running => exact Iff.rfl
  | raised error =>
      simp only [Post.Holds]
      cases handler error <;> exact Iff.rfl

@[simp] theorem wp_ensuring (m : Proc ε ω α) (cleanup : Proc ε ω Unit)
    (post : Post ε ω α) (w : ω) :
    wp (m.ensuring cleanup) post w ↔
      wp m ⟨fun value => wp cleanup ⟨fun _ => post.ok value, post.raised, post.running⟩,
        fun error => wp cleanup ⟨fun _ => post.raised error, post.raised, post.running⟩,
        post.running⟩ w := by
  simp only [wp, Proc.ensuring]
  rcases m w with ⟨outcome, w'⟩
  cases outcome with
  | running => exact Iff.rfl
  | ok value =>
      simp only [Post.Holds, wp]
      rcases cleanup w' with ⟨ending, w''⟩
      cases ending <;> exact Iff.rfl
  | raised error =>
      simp only [Post.Holds, wp]
      rcases cleanup w' with ⟨ending, w''⟩
      cases ending <;> exact Iff.rfl

@[simp] theorem wp_zoom (view : ω → χ) (put : χ → ω → ω) (m : Proc ε χ α)
    (post : Post ε ω α) (w : ω) :
    wp (m.zoom view put) post w ↔
      wp m ⟨fun value x => post.ok value (put x w), fun error x => post.raised error (put x w),
        fun x => post.running (put x w)⟩ (view w) := by
  simp only [wp, Proc.zoom]
  rcases m (view w) with ⟨outcome, x⟩
  cases outcome <;> exact Iff.rfl

/-! ## Loops -/

/-- The condition one pass of a loop body has to establish. -/
def roundPost (again : β → ω → Prop) (post : Post ε ω α) : Post ε ω (β ⊕ α) :=
  ⟨fun | .inl state => again state | .inr value => post.ok value, post.raised, post.running⟩

private theorem wp_loop_succ {body : β → Proc ε ω (β ⊕ α)} {fuel : Nat} {post : Post ε ω α}
    {state : β} {w : ω}
    (h : wp (body state) (roundPost (fun s => wp (Proc.loop body fuel s) post) post) w) :
    wp (Proc.loop body (fuel + 1) state) post w := by
  have hbind : Proc.loop body (fuel + 1) state = (body state >>= fun
      | .inl state => Proc.loop body fuel state
      | .inr value => Pure.pure value) := rfl
  rw [hbind, wp_bind]
  refine wp_mono h ?_ (fun _ _ h => h) (fun _ h => h)
  intro value w hvalue
  cases value <;> exact hvalue

/-- Partial rule: an invariant of the loop head carries the run. -/
theorem wp_loop_invariant {body : β → Proc ε ω (β ⊕ α)} {post : Post ε ω α}
    (inv : β → ω → Prop)
    (hstop : ∀ state w, inv state w → post.running w)
    (hround : ∀ state w, inv state w → wp (body state) (roundPost inv post) w)
    (fuel : Nat) {state : β} {w : ω} (h : inv state w) :
    wp (Proc.loop body fuel state) post w := by
  induction fuel generalizing state w with
  | zero => exact hstop state w h
  | succ fuel ih =>
      apply wp_loop_succ
      refine wp_mono (hround state w h) ?_ (fun _ _ h => h) (fun _ h => h)
      intro value w hvalue
      cases value with
      | inl state => exact ih hvalue
      | inr value => exact hvalue

/-- Total rule: a variant that every round lowers bounds the fuel the loop needs. -/
theorem wp_loop_variant {body : β → Proc ε ω (β ⊕ α)} {post : Post ε ω α}
    (inv : β → ω → Prop) (variant : β → ω → Nat)
    (hround : ∀ state w, inv state w → wp (body state)
      (roundPost (fun s x => inv s x ∧ variant s x < variant state w) post) w)
    (fuel : Nat) {state : β} {w : ω} (h : inv state w) (hfuel : variant state w < fuel) :
    wp (Proc.loop body fuel state) post w := by
  induction fuel generalizing state w with
  | zero => omega
  | succ fuel ih =>
      apply wp_loop_succ
      refine wp_mono (hround state w h) ?_ (fun _ _ h => h) (fun _ h => h)
      intro value w' hvalue
      cases value with
      | inl state' => exact ih hvalue.1 (by have := hvalue.2; omega)
      | inr value => exact hvalue

/-! ## Runs of a loop, round by round -/

/-- The body goes round `k` times from one loop head to another. -/
inductive Rounds (body : β → Proc ε ω (β ⊕ α)) : Nat → β → ω → β → ω → Prop where
  | refl (state : β) (w : ω) : Rounds body 0 state w state w
  | step {k : Nat} {state state' state'' : β} {w w' w'' : ω}
      (head : body state w = (.ok (.inl state'), w'))
      (rest : Rounds body k state' w' state'' w'') : Rounds body (k + 1) state w state'' w''

theorem Rounds.one {body : β → Proc ε ω (β ⊕ α)} {state state' : β} {w w' : ω}
    (h : body state w = (.ok (.inl state'), w')) : Rounds body 1 state w state' w' :=
  .step h (.refl _ _)

theorem Rounds.trans {body : β → Proc ε ω (β ⊕ α)} {j k : Nat} {s₁ s₂ s₃ : β} {w₁ w₂ w₃ : ω}
    (h₁ : Rounds body j s₁ w₁ s₂ w₂) (h₂ : Rounds body k s₂ w₂ s₃ w₃) :
    Rounds body (j + k) s₁ w₁ s₃ w₃ := by
  induction h₁ with
  | refl => simpa using h₂
  | step head rest ih =>
      rw [Nat.add_right_comm]
      exact .step head (ih h₂)

theorem Proc.loop_succ (body : β → Proc ε ω (β ⊕ α)) (fuel : Nat) (state : β) (w : ω) :
    Proc.loop body (fuel + 1) state w =
      match body state w with
      | (.ok (.inl state), w) => Proc.loop body fuel state w
      | (.ok (.inr value), w) => (.ok value, w)
      | (.raised error, w) => (.raised error, w)
      | (.running, w) => (.running, w) := by
  simp only [Proc.loop, Proc.bind]
  rcases body state w with ⟨outcome, w'⟩
  cases outcome with
  | ok value => cases value <;> rfl
  | raised error => rfl
  | running => rfl

theorem Rounds.loop_eq {body : β → Proc ε ω (β ⊕ α)} {k : Nat} {state state' : β} {w w' : ω}
    (h : Rounds body k state w state' w') (fuel : Nat) :
    Proc.loop body (k + fuel) state w = Proc.loop body fuel state' w' := by
  induction h with
  | refl => rw [Nat.zero_add]
  | step head rest ih =>
      rw [Nat.add_right_comm, Proc.loop_succ, head]
      exact ih

def Ends (body : β → Proc ε ω (β ⊕ α)) (state : β) (w : ω) (value : α) (w' : ω) : Prop :=
  ∃ k state' x, Rounds body k state w state' x ∧ body state' x = (.ok (.inr value), w')

theorem Rounds.ends {body : β → Proc ε ω (β ⊕ α)} {k : Nat} {state state' : β} {w w' w'' : ω}
    {value : α} (h : Rounds body k state w state' w') (hends : Ends body state' w' value w'') :
    Ends body state w value w'' := by
  obtain ⟨j, last, x, hrounds, hlast⟩ := hends
  exact ⟨k + j, last, x, h.trans hrounds, hlast⟩

/-- A loop that leaves gives one result at every large enough fuel. -/
theorem Ends.loop_eq {body : β → Proc ε ω (β ⊕ α)} {state : β} {w w' : ω} {value : α}
    (h : Ends body state w value w') :
    ∃ enough, ∀ fuel, enough ≤ fuel → Proc.loop body fuel state w = (.ok value, w') := by
  obtain ⟨k, last, x, hrounds, hlast⟩ := h
  refine ⟨k + 1, fun fuel hfuel => ?_⟩
  obtain ⟨extra, rfl⟩ : ∃ extra, fuel = k + (extra + 1) := ⟨fuel - k - 1, by omega⟩
  rw [hrounds.loop_eq, Proc.loop_succ, hlast]

def Raises (body : β → Proc ε ω (β ⊕ α)) (state : β) (w : ω) (error : ε) : Prop :=
  ∃ k state' x w', Rounds body k state w state' x ∧ body state' x = (.raised error, w')

theorem Rounds.raises {body : β → Proc ε ω (β ⊕ α)} {k : Nat} {state state' : β} {w w' : ω}
    {error : ε} (h : Rounds body k state w state' w') (hraises : Raises body state' w' error) :
    Raises body state w error := by
  obtain ⟨j, last, x, x', hrounds, hlast⟩ := hraises
  exact ⟨k + j, last, x, x', h.trans hrounds, hlast⟩

theorem Raises.loop_eq {body : β → Proc ε ω (β ⊕ α)} {state : β} {w : ω} {error : ε}
    (h : Raises body state w error) :
    ∃ enough w', ∀ fuel, enough ≤ fuel → Proc.loop body fuel state w = (.raised error, w') := by
  obtain ⟨k, last, x, w', hrounds, hlast⟩ := h
  refine ⟨k + 1, w', fun fuel hfuel => ?_⟩
  obtain ⟨extra, rfl⟩ : ∃ extra, fuel = k + (extra + 1) := ⟨fuel - k - 1, by omega⟩
  rw [hrounds.loop_eq, Proc.loop_succ, hlast]

/-- A run that has ended stays the same with more fuel. -/
theorem Proc.loop_more {body : β → Proc ε ω (β ⊕ α)} {fuel : Nat} {state : β} {w w' : ω}
    {outcome : Outcome ε α} (h : Proc.loop body fuel state w = (outcome, w'))
    (hended : outcome.ended) (more : Nat) :
    Proc.loop body (fuel + more) state w = (outcome, w') := by
  induction fuel generalizing state w with
  | zero =>
      cases h
      exact hended.elim
  | succ fuel ih =>
      rw [Proc.loop_succ] at h
      rw [Nat.add_right_comm, Proc.loop_succ]
      rcases hbody : body state w with ⟨ending, x⟩
      rw [hbody] at h
      cases ending with
      | raised error => exact h
      | running => exact h
      | ok next =>
          cases next with
          | inl state => exact ih h
          | inr value => exact h

end Effect
