import ApUploader.Logic.Proc

/-! # Invariants that a procedure preserves

`Preserves I m` says that `m` keeps the condition `I` on the state, at whichever of
its endings it stops. The rules follow the constructs, so an invariant of a long
procedure is proved from what its primitive statements do.
-/

namespace Effect

variable {ε ω χ α β : Type} {I : ω → Prop}

/-- However the procedure ends, and while it is running, `I` holds if it held before. -/
def Preserves (I : ω → Prop) (m : Proc ε ω α) : Prop := ∀ w, I w → wp m (.always I) w

namespace Preserves

variable {m : Proc ε ω α}

theorem wp (h : Preserves I m) {w : ω} (hw : I w) {post : Post ε ω α}
    (hok : ∀ value w, I w → post.ok value w) (hraised : ∀ error w, I w → post.raised error w)
    (hrunning : ∀ w, I w → post.running w) : Effect.wp m post w :=
  wp_mono (h w hw) hok hraised hrunning

theorem wp_returns (h : Preserves I m) {w : ω} (hw : I w) {ok : α → ω → Prop}
    (hm : Effect.wp m (.ifReturns ok) w) {post : Post ε ω α}
    (hok : ∀ value w, I w → ok value w → post.ok value w)
    (hraised : ∀ error w, I w → post.raised error w)
    (hrunning : ∀ w, I w → post.running w) : Effect.wp m post w :=
  wp_mono (wp_and (h w hw) hm) (fun value w h => hok value w h.1 h.2)
    (fun error w h => hraised error w h.1) (fun w h => hrunning w h.1)

/-- A statement that keeps the invariant is passed. -/
theorem wp_bind (h : Preserves I m) {next : α → Proc ε ω β} {w : ω} (hw : I w)
    {post : Post ε ω β} (hnext : ∀ value w, I w → Effect.wp (next value) post w)
    (hraised : ∀ error w, I w → post.raised error w) (hrunning : ∀ w, I w → post.running w) :
    Effect.wp (m >>= next) post w := by
  rw [Effect.wp_bind]
  exact h.wp hw hnext hraised hrunning

theorem pure (value : α) : Preserves I (Pure.pure value : Proc ε ω α) := fun _ h => h

theorem raise (error : ε) : Preserves I (Proc.raise error : Proc ε ω α) := fun _ h => h

theorem get : Preserves I (Proc.get : Proc ε ω ω) := fun _ h => h

theorem modify {f : ω → ω} (h : ∀ w, I w → I (f w)) :
    Preserves I (Proc.modify f : Proc ε ω Unit) := h

theorem bind {next : α → Proc ε ω β} (hm : Preserves I m)
    (hnext : ∀ value, Preserves I (next value)) : Preserves I (m >>= next) := by
  intro w hw
  exact hm.wp_bind hw (fun value w h => hnext value w h) (fun _ _ h => h) (fun _ h => h)

theorem catching {handler : ε → Option (Proc ε ω α)} (hm : Preserves I m)
    (hhandler : ∀ error next, handler error = some next → Preserves I next) :
    Preserves I (m.catching handler) := by
  intro w hw
  rw [wp_catching]
  refine hm.wp hw (fun _ _ h => h) (fun error w h => ?_) (fun _ h => h)
  dsimp only
  cases hnext : handler error with
  | none => exact h
  | some next => exact hhandler error next hnext w h

theorem loop {body : β → Proc ε ω (β ⊕ α)} (h : ∀ state, Preserves I (body state)) (fuel : Nat)
    (state : β) : Preserves I (Proc.loop body fuel state) := by
  intro w hw
  apply wp_loop_invariant (fun _ w => I w) (fun _ _ h => h) ?_ fuel hw
  intro state w hw
  refine (h state).wp hw (fun value w h => ?_) (fun _ _ h => h) (fun _ h => h)
  cases value <;> exact h

/-- A procedure on one component preserves what putting that component back preserves. -/
theorem zoom {view : ω → χ} {put : χ → ω → ω} {n : Proc ε χ α} {J : χ → Prop}
    (hn : Preserves J n) (hview : ∀ w, I w → J (view w))
    (hput : ∀ x w, I w → J x → I (put x w)) : Preserves I (n.zoom view put) := by
  intro w hw
  rw [wp_zoom]
  apply hn.wp (hview w hw)
  · exact fun _ x h => hput x w hw h
  · exact fun _ x h => hput x w hw h
  · exact fun x h => hput x w hw h

end Preserves

end Effect
