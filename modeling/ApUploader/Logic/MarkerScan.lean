import Mathlib.Algebra.Group.Nat.Even
import Mathlib.Data.List.Induction

/-! # Scanning for a marker

A scanner looks for a marker that an accepted symbol follows directly. In front of
the first marker it discards everything; of a marker and a symbol that is not
accepted it discards both. So it looks at the symbols behind every second marker of
a run only, and whether it sees a pair depends on the parity of the run in front of
the accepted symbol.
-/

namespace MarkerScan

section Scan

variable {α : Type} (mark : α) (accepted : List α)

/-- The scanner stops: it needs more symbols, or has found a pair. -/
inductive Halted : List α → Prop where
  | nothing : Halted []
  | marker : Halted [mark]
  | pair {symbol : α} (rest : List α) (h : symbol ∈ accepted) : Halted (mark :: symbol :: rest)

/-- The pieces that are discarded one after the other, and what is left when the scanner stops. -/
inductive Scan : List α → List (List α) → List α → Prop where
  | halted {rest : List α} (h : Halted mark accepted rest) : Scan rest [] rest
  | noMarker {symbols : List α} (hsome : symbols ≠ []) (hnone : mark ∉ symbols) :
      Scan symbols [symbols] []
  | beforeMarker {front rest tail : List α} {pieces : List (List α)} (hsome : front ≠ [])
      (hnone : mark ∉ front) (hrest : Scan (mark :: rest) pieces tail) :
      Scan (front ++ mark :: rest) (front :: pieces) tail
  | badSymbol {symbol : α} {rest tail : List α} {pieces : List (List α)} (hbad : symbol ∉ accepted)
      (hrest : Scan rest pieces tail) :
      Scan (mark :: symbol :: rest) ([mark, symbol] :: pieces) tail

variable {mark accepted}

theorem scan_total (symbols : List α) : ∃ pieces tail, Scan mark accepted symbols pieces tail := by
  induction hlen : symbols.length using Nat.strong_induction_on generalizing symbols with
  | _ n ih =>
      by_cases hmark : mark ∈ symbols
      · obtain ⟨front, rest, rfl, hfront⟩ := List.eq_append_cons_of_mem hmark
        simp only [List.length_append, List.length_cons] at hlen
        by_cases hnil : front = []
        · subst hnil
          cases rest with
          | nil => exact ⟨[], _, .halted .marker⟩
          | cons symbol rest =>
              by_cases hgood : symbol ∈ accepted
              · exact ⟨[], _, .halted (.pair rest hgood)⟩
              · simp only [List.length_cons, List.length_nil] at hlen
                obtain ⟨pieces, tail, hscan⟩ := ih rest.length (by omega) rest rfl
                exact ⟨_, tail, .badSymbol hgood hscan⟩
        · have hpos := List.length_pos_iff.mpr hnil
          obtain ⟨pieces, tail, hscan⟩ := ih (rest.length + 1) (by omega) (mark :: rest) rfl
          exact ⟨_, tail, .beforeMarker hnil hfront hscan⟩
      · by_cases hnil : symbols = []
        · subst hnil
          exact ⟨[], [], .halted .nothing⟩
        · exact ⟨[symbols], [], .noMarker hnil hmark⟩

/-- Nothing is lost: the pieces and the rest are the symbols. -/
theorem Scan.flatten_append {symbols tail : List α} {pieces : List (List α)}
    (h : Scan mark accepted symbols pieces tail) : pieces.flatten ++ tail = symbols := by
  induction h with
  | halted => rfl
  | noMarker => simp
  | beforeMarker _ _ _ ih => rw [List.flatten_cons, List.append_assoc, ih]
  | badSymbol _ _ ih => rw [List.flatten_cons, List.append_assoc, ih, List.cons_append,
      List.cons_append, List.nil_append]

theorem Scan.ne_nil {symbols piece tail : List α} {pieces : List (List α)}
    (h : Scan mark accepted symbols (piece :: pieces) tail) : symbols ≠ [] := by
  cases h with
  | noMarker hsome => exact hsome
  | beforeMarker => simp
  | badSymbol => simp

end Scan

/-! ## The run of markers at the end -/

section Run

variable {α : Type} [DecidableEq α] (mark : α) (accepted : List α)

def runAtEnd (symbols : List α) : Nat := (symbols.reverse.takeWhile (· == mark)).length

/-- No accepted symbol stands where the scanner would look for one. -/
def Unseen (symbols : List α) : Prop :=
  ∀ front symbol back, symbols = front ++ symbol :: back → symbol ∈ accepted →
    Even (runAtEnd mark front)

variable {mark accepted}

@[simp] theorem runAtEnd_nil : runAtEnd mark [] = 0 := rfl

theorem runAtEnd_concat (symbols : List α) (symbol : α) :
    runAtEnd mark (symbols ++ [symbol]) =
      if symbol = mark then runAtEnd mark symbols + 1 else 0 := by
  unfold runAtEnd
  by_cases h : symbol = mark
  · simp [h]
  · simp [h]

theorem runAtEnd_of_not_mem {symbols : List α} (h : mark ∉ symbols) :
    runAtEnd mark symbols = 0 := by
  induction symbols using List.reverseRecOn with
  | nil => rfl
  | append_singleton front symbol _ =>
      have hne : symbol ≠ mark := by
        intro heq
        simp [heq] at h
      rw [runAtEnd_concat, if_neg hne]

/-- A piece without markers has no part in the run behind it. -/
theorem runAtEnd_append_of_not_mem {front : List α} (h : mark ∉ front) (symbols : List α) :
    runAtEnd mark (front ++ symbols) = runAtEnd mark symbols := by
  induction symbols using List.reverseRecOn with
  | nil => rw [List.append_nil, runAtEnd_of_not_mem h, runAtEnd_nil]
  | append_singleton symbols symbol ih =>
      rw [← List.append_assoc, runAtEnd_concat, runAtEnd_concat, ih]

/-- A discarded pair keeps the parity of the run behind it. -/
theorem runAtEnd_pair_even (symbol : α) (symbols : List α) :
    Even (runAtEnd mark (mark :: symbol :: symbols)) ↔ Even (runAtEnd mark symbols) := by
  induction symbols using List.reverseRecOn with
  | nil =>
      have hone : runAtEnd mark [mark, symbol] = if symbol = mark then 2 else 0 := by
        rw [← List.singleton_append, runAtEnd_concat]
        simp [runAtEnd]
      rw [hone, runAtEnd_nil]
      split_ifs
      · decide
      · rfl
  | append_singleton symbols last ih =>
      rw [← List.cons_append, ← List.cons_append, runAtEnd_concat, runAtEnd_concat]
      split_ifs
      · rw [Nat.even_add_one, Nat.even_add_one, ih]
      · rfl

/-! ## What the scanner sees -/

/-- In front of what the scanner discards as a whole nothing changes behind it. -/
theorem unseen_append {piece symbols : List α}
    (hparity : ∀ front, Even (runAtEnd mark (piece ++ front)) ↔ Even (runAtEnd mark front))
    (hpiece : Unseen mark accepted piece) :
    Unseen mark accepted (piece ++ symbols) ↔ Unseen mark accepted symbols := by
  constructor
  · intro h front symbol back heq hmem
    have hwhole := h (piece ++ front) symbol back (by rw [heq, List.append_assoc]) hmem
    exact (hparity front).mp hwhole
  · intro h front symbol back heq hmem
    rcases List.append_eq_append_iff.mp heq with ⟨middle, hfront, hback⟩ | ⟨middle, hfront, hback⟩
    · rw [hfront]
      exact (hparity middle).mpr (h middle symbol back hback hmem)
    · cases middle with
      | nil =>
          rw [List.append_nil] at hfront
          rw [← hfront]
          have hnil := (hparity []).mpr (by simp)
          simpa using hnil
      | cons first middle =>
          injection hback with hfirst hrest
          rw [← hfirst] at hfront
          exact hpiece front symbol middle hfront hmem

theorem unseen_of_not_mem {symbols : List α} (h : mark ∉ symbols) :
    Unseen mark accepted symbols := by
  intro front symbol back heq _
  have hfront : mark ∉ front := by
    intro hmem
    exact h (heq ▸ List.mem_append_left _ hmem)
  rw [runAtEnd_of_not_mem hfront]
  exact Even.zero

theorem unseen_pair {symbol : α} (hmark : mark ∉ accepted) (hbad : symbol ∉ accepted) :
    Unseen mark accepted [mark, symbol] := by
  intro front found back heq hmem
  have hfound : found ∈ [mark, symbol] := by simp [heq]
  have hcases : found = mark ∨ found = symbol := by simpa using hfound
  rcases hcases with rfl | rfl
  · exact (hmark hmem).elim
  · exact (hbad hmem).elim

/-- A pair behind an even run is seen. -/
theorem not_unseen_of_pair {front : List α} {symbol : α} (back : List α) (hmem : symbol ∈ accepted)
    (hrun : Even (runAtEnd mark front)) :
    ¬ Unseen mark accepted (front ++ mark :: symbol :: back) := by
  intro h
  have hodd := h (front ++ [mark]) symbol back (by simp) hmem
  rw [runAtEnd_concat, if_pos rfl, Nat.even_add_one] at hodd
  exact hodd hrun

variable (mark accepted) in
/-- What the scanner leaves: nothing or one marker when it has seen no accepted symbol, and else
the first pair behind an even run of markers. -/
inductive Leaves : List α → List α → Prop where
  | nothing {symbols : List α} (hunseen : Unseen mark accepted symbols)
      (hrun : Even (runAtEnd mark symbols)) : Leaves symbols []
  | marker {symbols : List α} (hunseen : Unseen mark accepted symbols)
      (hrun : ¬ Even (runAtEnd mark symbols)) : Leaves symbols [mark]
  | pair {front : List α} {symbol : α} (back : List α) (hmem : symbol ∈ accepted)
      (hrun : Even (runAtEnd mark front)) : Leaves (front ++ mark :: symbol :: back)
        (mark :: symbol :: back)

/-- A piece that is discarded as a whole does not change what is left. -/
theorem Leaves.prepend {piece symbols tail : List α} (h : Leaves mark accepted symbols tail)
    (hparity : ∀ front, Even (runAtEnd mark (piece ++ front)) ↔ Even (runAtEnd mark front))
    (hpiece : Unseen mark accepted piece) : Leaves mark accepted (piece ++ symbols) tail := by
  cases h with
  | nothing hunseen hrun =>
      exact .nothing ((unseen_append hparity hpiece).mpr hunseen) ((hparity _).mpr hrun)
  | marker hunseen hrun =>
      have hrun' : ¬ Even (runAtEnd mark (piece ++ symbols)) := fun h => hrun ((hparity _).mp h)
      exact .marker ((unseen_append hparity hpiece).mpr hunseen) hrun'
  | pair back hmem hrun =>
      rw [← List.append_assoc]
      exact .pair back hmem ((hparity _).mpr hrun)

/-- Where the scanner stops is told by the parity of the runs of markers. -/
theorem Scan.leaves {symbols tail : List α} {pieces : List (List α)}
    (h : Scan mark accepted symbols pieces tail) (hmark : mark ∉ accepted) :
    Leaves mark accepted symbols tail := by
  induction h with
  | halted hhalted =>
      cases hhalted with
      | nothing => exact .nothing (unseen_of_not_mem (by simp)) (by simp)
      | marker =>
          refine .marker ?_ (by simp [runAtEnd])
          intro front symbol back heq hmem
          have hfound : symbol = mark := by
            have hin : symbol ∈ [mark] := by simp [heq]
            simpa using hin
          exact (hmark (hfound ▸ hmem)).elim
      | pair rest hmem =>
          have hempty : Even (runAtEnd mark ([] : List α)) := by simp
          exact .pair rest hmem hempty
  | noMarker _ hnone =>
      have hzero := runAtEnd_of_not_mem hnone
      exact .nothing (unseen_of_not_mem hnone) (by rw [hzero]; exact Even.zero)
  | beforeMarker _ hnone _ ih =>
      apply ih.prepend
      · intro front
        rw [runAtEnd_append_of_not_mem hnone]
      · exact unseen_of_not_mem hnone
  | badSymbol hbad _ ih =>
      exact ih.prepend (runAtEnd_pair_even _) (unseen_pair hmark hbad)

/-- A single marker is left exactly of symbols without a seen pair that end in an odd run. -/
theorem Leaves.marker_iff {symbols tail : List α} (h : Leaves mark accepted symbols tail) :
    tail = [mark] ↔ Unseen mark accepted symbols ∧ ¬ Even (runAtEnd mark symbols) := by
  cases h with
  | nothing _ hrun => simp [hrun]
  | marker hunseen hrun => simp [hunseen, hrun]
  | pair back hmem hrun => simp [not_unseen_of_pair back hmem hrun]

end Run

end MarkerScan
