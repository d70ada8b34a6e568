import ApUploader.Logic.Proc

/-! # Completion with enough fuel

`Completes m w post` says that from some amount of fuel on the procedure returns one
value and one state, the same for all larger amounts, and that they satisfy `post`.
The rules compose completions along the constructs, so a proof about a long
procedure never mentions how much fuel its parts need.
-/

namespace Effect

variable {ε ω χ α β : Type}

/-- With enough fuel the procedure returns normally, with one result that satisfies `post`. -/
def Completes (m : Nat → Proc ε ω α) (w : ω) (post : α → ω → Prop) : Prop :=
  ∃ value w', (∃ enough, ∀ fuel, enough ≤ fuel → m fuel w = (.ok value, w')) ∧ post value w'

namespace Completes

variable {m : Nat → Proc ε ω α} {w : ω} {post : α → ω → Prop}

theorem mono {post' : α → ω → Prop} (h : Completes m w post)
    (himp : ∀ value w', post value w' → post' value w') : Completes m w post' := by
  obtain ⟨value, w', hrun, hpost⟩ := h
  exact ⟨value, w', hrun, himp value w' hpost⟩

/-- What holds whenever the procedure returns holds of the result it completes with. -/
theorem and_wp {ok : α → ω → Prop} (h : Completes m w post)
    (hok : ∀ fuel, wp (m fuel) (.ifReturns ok) w) :
    Completes m w (fun value w' => post value w' ∧ ok value w') := by
  obtain ⟨value, w', ⟨enough, hrun⟩, hpost⟩ := h
  have hvalue := wp_ifReturns_iff.mp (hok enough) value w' (hrun enough (Nat.le_refl _))
  exact ⟨value, w', ⟨enough, hrun⟩, hpost, hvalue⟩

theorem of_eq {n : Proc ε ω α} {value : α} {w' : ω} (h : n w = (.ok value, w'))
    (hpost : post value w') : Completes (fun _ => n) w post :=
  ⟨value, w', ⟨0, fun _ _ => h⟩, hpost⟩

theorem pure {value : α} (h : post value w) :
    Completes (fun _ => (Pure.pure value : Proc ε ω α)) w post := of_eq rfl h

theorem modify {post : Unit → ω → Prop} (f : ω → ω) (h : post () (f w)) :
    Completes (fun _ => (Proc.modify f : Proc ε ω Unit)) w post := of_eq rfl h

theorem bind {next : Nat → α → Proc ε ω β} {post' : β → ω → Prop} (h : Completes m w post)
    (hnext : ∀ value w', post value w' → Completes (fun fuel => next fuel value) w' post') :
    Completes (fun fuel => m fuel >>= next fuel) w post' := by
  obtain ⟨value, w', ⟨enough, hm⟩, hpost⟩ := h
  obtain ⟨value', w'', ⟨enough', hn⟩, hpost'⟩ := hnext value w' hpost
  refine ⟨value', w'', ⟨max enough enough', fun fuel hfuel => ?_⟩, hpost'⟩
  exact (Proc.bind_of_ok (hm fuel (by omega)) _).trans (hn fuel (by omega))

theorem step {n : Proc ε ω α} {next : Nat → α → Proc ε ω β} {value : α} {w' : ω}
    {post' : β → ω → Prop} (h : n w = (.ok value, w'))
    (hnext : Completes (fun fuel => next fuel value) w' post') :
    Completes (fun fuel => n >>= next fuel) w post' := by
  have hfirst : Completes (fun _ => n) w (fun v x => v = value ∧ x = w') := of_eq h ⟨rfl, rfl⟩
  refine hfirst.bind fun v x hx => ?_
  rw [hx.1, hx.2]
  exact hnext

theorem catching {handler : Nat → ε → Option (Proc ε ω α)} (h : Completes m w post) :
    Completes (fun fuel => (m fuel).catching (handler fuel)) w post := by
  obtain ⟨value, w', ⟨enough, hm⟩, hpost⟩ := h
  refine ⟨value, w', ⟨enough, fun fuel hfuel => ?_⟩, hpost⟩
  simp only [Proc.catching, hm fuel hfuel]

theorem ensuring {cleanup : Nat → Proc ε ω Unit} {post' : α → ω → Prop} (h : Completes m w post)
    (hcleanup : ∀ value w', post value w' →
      Completes cleanup w' (fun _ w'' => post' value w'')) :
    Completes (fun fuel => (m fuel).ensuring (cleanup fuel)) w post' := by
  obtain ⟨value, w', ⟨enough, hm⟩, hpost⟩ := h
  obtain ⟨_, w'', ⟨enough', hc⟩, hpost'⟩ := hcleanup value w' hpost
  refine ⟨value, w'', ⟨max enough enough', fun fuel hfuel => ?_⟩, hpost'⟩
  have hfirst := hm fuel (by omega)
  have hlast := hc fuel (by omega)
  simp only [Proc.ensuring, hfirst, hlast]

theorem zoom {view : ω → χ} {put : χ → ω → ω} {n : Nat → Proc ε χ α} {post' : α → χ → Prop}
    (h : Completes n (view w) post') (himp : ∀ value x, post' value x → post value (put x w)) :
    Completes (fun fuel => (n fuel).zoom view put) w post := by
  obtain ⟨value, x, ⟨enough, hn⟩, hpost⟩ := h
  refine ⟨value, put x w, ⟨enough, fun fuel hfuel => ?_⟩, himp value x hpost⟩
  simp only [Proc.zoom, hn fuel hfuel]

/-! ## Loops whose body needs fuel as well -/

/-- The loop completes at every two large enough amounts of fuel, its own and its body's. -/
def Loop (body : Nat → β → Proc ε ω (β ⊕ α)) (state : β) (w : ω) (post : α → ω → Prop) : Prop :=
  ∃ value w', (∃ enough, ∀ fuel, enough ≤ fuel → ∀ inner, enough ≤ inner →
    Proc.loop (body inner) fuel state w = (.ok value, w')) ∧ post value w'

theorem Loop.last {body : Nat → β → Proc ε ω (β ⊕ α)} {state : β}
    (h : Completes (fun inner => body inner state) w
      (fun result w' => ∃ value, result = .inr value ∧ post value w')) :
    Loop body state w post := by
  obtain ⟨_, w', ⟨enough, hbody⟩, value, rfl, hpost⟩ := h
  refine ⟨value, w', ⟨enough + 1, fun fuel hfuel inner hinner => ?_⟩, hpost⟩
  obtain ⟨rest, rfl⟩ : ∃ rest, fuel = rest + 1 := ⟨fuel - 1, by omega⟩
  have hfirst : body inner state w = (.ok (.inr value), w') := hbody inner (by omega)
  rw [Proc.loop_succ, hfirst]

theorem Loop.round {body : Nat → β → Proc ε ω (β ⊕ α)} {state : β}
    (h : Completes (fun inner => body inner state) w
      (fun result w' => ∃ state', result = .inl state' ∧ Loop body state' w' post)) :
    Loop body state w post := by
  obtain ⟨_, w', ⟨enough, hbody⟩, state', rfl, value, w'', ⟨enough', hrest⟩, hpost⟩ := h
  refine ⟨value, w'', ⟨max enough enough' + 1, fun fuel hfuel inner hinner => ?_⟩, hpost⟩
  obtain ⟨rest, rfl⟩ : ∃ rest, fuel = rest + 1 := ⟨fuel - 1, by omega⟩
  have hfirst : body inner state w = (.ok (.inl state'), w') := hbody inner (by omega)
  rw [Proc.loop_succ, hfirst]
  exact hrest rest (by omega) inner (by omega)

theorem loop {body : Nat → β → Proc ε ω (β ⊕ α)} {state : β} (h : Loop body state w post) :
    Completes (fun fuel => Proc.loop (body fuel) fuel state) w post := by
  obtain ⟨value, w', ⟨enough, hrun⟩, hpost⟩ := h
  exact ⟨value, w', ⟨enough, fun fuel hfuel => hrun fuel hfuel fuel hfuel⟩, hpost⟩

end Completes

theorem Ends.completes {body : β → Proc ε ω (β ⊕ α)} {state : β} {value : α} {w w' : ω}
    {post : α → ω → Prop} (h : Ends body state w value w') (hpost : post value w') :
    Completes (fun fuel => Proc.loop body fuel state) w post :=
  ⟨value, w', h.loop_eq, hpost⟩

/-! ## Procedures that never end -/

/-- From some amount of fuel on the procedure is still running. -/
def Hangs (m : Nat → Proc ε ω α) (w : ω) : Prop :=
  ∃ enough, ∀ fuel, enough ≤ fuel → (m fuel w).1 = .running

namespace Hangs

variable {m : Nat → Proc ε ω α} {w : ω}

theorem not_completes (h : Hangs m w) (post : α → ω → Prop) : ¬ Completes m w post := by
  rintro ⟨value, w', ⟨enough, hrun⟩, _⟩
  obtain ⟨enough', hrunning⟩ := h
  have hfirst := hrunning (max enough enough') (by omega)
  rw [hrun (max enough enough') (by omega)] at hfirst
  cases hfirst

private theorem eq_running {n : Proc ε ω α} (h : (n w).1 = .running) :
    ∃ w', n w = (.running, w') := ⟨(n w).2, by rw [← h]⟩

theorem bind {next : Nat → α → Proc ε ω β} (h : Hangs m w) :
    Hangs (fun fuel => m fuel >>= next fuel) w := by
  obtain ⟨enough, hrun⟩ := h
  refine ⟨enough, fun fuel hfuel => ?_⟩
  obtain ⟨w', hrunning⟩ := eq_running (hrun fuel hfuel)
  exact congrArg Prod.fst (Proc.bind_of_running hrunning (next fuel))

theorem bind_next {next : Nat → α → Proc ε ω β} {post : α → ω → Prop} (h : Completes m w post)
    (hnext : ∀ value w', post value w' → Hangs (fun fuel => next fuel value) w') :
    Hangs (fun fuel => m fuel >>= next fuel) w := by
  obtain ⟨value, w', ⟨enough, hm⟩, hpost⟩ := h
  obtain ⟨enough', hn⟩ := hnext value w' hpost
  refine ⟨max enough enough', fun fuel hfuel => ?_⟩
  have hbind := Proc.bind_of_ok (hm fuel (by omega)) (next fuel)
  exact (congrArg Prod.fst hbind).trans (hn fuel (by omega))

theorem step {n : Proc ε ω α} {next : Nat → α → Proc ε ω β} {value : α} {w' : ω}
    (h : n w = (.ok value, w')) (hnext : Hangs (fun fuel => next fuel value) w') :
    Hangs (fun fuel => n >>= next fuel) w := by
  have hfirst : Completes (fun _ => n) w (fun v x => v = value ∧ x = w') :=
    .of_eq h ⟨rfl, rfl⟩
  refine bind_next hfirst fun v x hx => ?_
  rw [hx.1, hx.2]
  exact hnext

theorem catching {handler : Nat → ε → Option (Proc ε ω α)} (h : Hangs m w) :
    Hangs (fun fuel => (m fuel).catching (handler fuel)) w := by
  obtain ⟨enough, hrun⟩ := h
  refine ⟨enough, fun fuel hfuel => ?_⟩
  obtain ⟨w', hrunning⟩ := eq_running (hrun fuel hfuel)
  exact congrArg Prod.fst (Proc.catching_of_running hrunning _)

theorem ensuring {cleanup : Nat → Proc ε ω Unit} (h : Hangs m w) :
    Hangs (fun fuel => (m fuel).ensuring (cleanup fuel)) w := by
  obtain ⟨enough, hrun⟩ := h
  refine ⟨enough, fun fuel hfuel => ?_⟩
  obtain ⟨w', hrunning⟩ := eq_running (hrun fuel hfuel)
  simp only [Proc.ensuring, hrunning]

theorem zoom {view : ω → χ} {put : χ → ω → ω} {n : Nat → Proc ε χ α} (h : Hangs n (view w)) :
    Hangs (fun fuel => (n fuel).zoom view put) w := h

end Hangs

/-- A loop that comes to a pass that never ends does not end either. -/
theorem Rounds.hangs {body : β → Proc ε ω (β ⊕ α)} {k : Nat} {state state' : β} {w w' : ω}
    (h : Rounds body k state w state' w') (hlast : (body state' w').1 = .running) :
    Hangs (fun fuel => Proc.loop body fuel state) w := by
  refine ⟨k + 1, fun fuel hfuel => ?_⟩
  obtain ⟨rest, rfl⟩ : ∃ rest, fuel = k + (rest + 1) := ⟨fuel - k - 1, by omega⟩
  change (Proc.loop body (k + (rest + 1)) state w).1 = _
  rw [h.loop_eq, Proc.loop_succ]
  rcases hbody : body state' w' with ⟨outcome, w''⟩
  rw [hbody] at hlast
  cases hlast
  rfl

end Effect
