import Mathlib.Data.List.Basic

/-! # Cutting a stream into frames

The length of the frame at the front of a stream is known once enough of it has come,
and more data does not change it. Such a stream is cut into its complete frames and a
rest in one way only, however it was cut into chunks when it came.
-/

structure Framing (α : Type) where
  /-- The length of the frame at the front, `none` while it is not complete. -/
  length : List α → Option Nat
  length_pos : ∀ {data n}, length data = some n → 0 < n
  length_le : ∀ {data n}, length data = some n → n ≤ data.length
  stable : ∀ {data n} more, length data = some n → length (data ++ more) = some n

namespace Framing

variable {α : Type} (F : Framing α)

def cutWith : Nat → List α → List (List α) × List α
  | 0, data => ([], data)
  | fuel + 1, data =>
      match F.length data with
      | none => ([], data)
      | some n =>
          let (frames, rest) := cutWith fuel (data.drop n)
          (data.take n :: frames, rest)

/-- The complete frames, and what remains. -/
def cut (data : List α) : List (List α) × List α := F.cutWith data.length data

def cutChunks (data : List α) : List (List α) → List (List α) × List α
  | [] => ([], data)
  | chunk :: chunks =>
      let (frames, rest) := F.cut (data ++ chunk)
      let (later, last) := cutChunks rest chunks
      (frames ++ later, last)

variable {F} {data : List α} {n : Nat}

theorem cutWith_of_le {fuel : Nat} (h : data.length ≤ fuel) : F.cutWith fuel data = F.cut data := by
  unfold cut
  generalize hbound : data.length = bound at *
  induction bound using Nat.strongRecOn generalizing fuel data with
  | ind bound ih =>
      cases hlength : F.length data with
      | none => cases fuel <;> cases bound <;> simp [cutWith, hlength]
      | some n =>
          have hpos := F.length_pos hlength
          have hle := F.length_le hlength
          cases fuel with
          | zero => omega
          | succ fuel =>
              cases bound with
              | zero => omega
              | succ bound =>
                  have hdrop : (data.drop n).length = bound + 1 - n := by
                    rw [List.length_drop, hbound]
                  have hfuel : ∀ fuel, bound + 1 - n ≤ fuel → F.cutWith fuel (data.drop n) =
                      F.cutWith (bound + 1 - n) (data.drop n) := by
                    intro fuel hle
                    exact ih (bound + 1 - n) (by omega) hdrop hle
                  simp only [cutWith, hlength, hfuel fuel (by omega), hfuel bound (by omega)]

theorem cut_of_none (h : F.length data = none) : F.cut data = ([], data) := by
  unfold cut
  cases data.length <;> simp [cutWith, h]

theorem cut_of_some (h : F.length data = some n) :
    F.cut data = (data.take n :: (F.cut (data.drop n)).1, (F.cut (data.drop n)).2) := by
  have hpos := F.length_pos h
  have hle := F.length_le h
  obtain ⟨bound, hbound⟩ : ∃ bound, data.length = bound + 1 := ⟨data.length - 1, by omega⟩
  have hrest : F.cutWith bound (data.drop n) = F.cut (data.drop n) :=
    cutWith_of_le (by rw [List.length_drop]; omega)
  rw [cut, hbound, cutWith, h]
  simp only [hrest]

theorem cut_induction {motive : List α → Prop}
    (hnone : ∀ data, F.length data = none → motive data)
    (hsome : ∀ data n, F.length data = some n → motive (data.drop n) → motive data)
    (data : List α) : motive data := by
  generalize hbound : data.length = bound
  induction bound using Nat.strongRecOn generalizing data with
  | ind bound ih =>
      cases hlength : F.length data with
      | none => exact hnone data hlength
      | some n =>
          have hpos := F.length_pos hlength
          have hle := F.length_le hlength
          exact hsome data n hlength (ih _ (by rw [List.length_drop]; omega) _ rfl)

theorem cut_flatten (data : List α) : (F.cut data).1.flatten ++ (F.cut data).2 = data := by
  induction data using F.cut_induction with
  | hnone data h => simp [cut_of_none h]
  | hsome data n h ih =>
      rw [cut_of_some h, List.flatten_cons, List.append_assoc, ih, List.take_append_drop]

theorem length_rest (data : List α) : F.length (F.cut data).2 = none := by
  induction data using F.cut_induction with
  | hnone data h => rwa [cut_of_none h]
  | hsome data n h ih => rwa [cut_of_some h]

/-- Cutting before more data has come takes nothing away from the frames. -/
theorem cut_append (data more : List α) :
    F.cut (data ++ more) =
      ((F.cut data).1 ++ (F.cut ((F.cut data).2 ++ more)).1,
        (F.cut ((F.cut data).2 ++ more)).2) := by
  induction data using F.cut_induction with
  | hnone data h => simp [cut_of_none h]
  | hsome data n h ih =>
      have hle := F.length_le h
      rw [cut_of_some (F.stable more h), cut_of_some h, List.drop_append_of_le_length hle,
        List.take_append_of_le_length hle, ih]
      rfl

/-- However the stream comes, its frames are the same. -/
theorem cutChunks_eq (hdata : F.length data = none) (chunks : List (List α)) :
    F.cutChunks data chunks = F.cut (data ++ chunks.flatten) := by
  induction chunks generalizing data with
  | nil => simp [cutChunks, cut_of_none hdata]
  | cons chunk chunks ih =>
      have hrest := ih (F.length_rest (data ++ chunk))
      simp only [cutChunks, hrest, List.flatten_cons, ← List.append_assoc,
        cut_append (data ++ chunk) chunks.flatten]

/-- The first chunk settles what has been there before it. -/
theorem cutChunks_cons (data chunk : List α) (chunks : List (List α)) :
    F.cutChunks data (chunk :: chunks) = F.cut (data ++ (chunk :: chunks).flatten) := by
  simp only [cutChunks, cutChunks_eq (F.length_rest (data ++ chunk)), List.flatten_cons,
    ← List.append_assoc, cut_append (data ++ chunk) chunks.flatten]

theorem cutChunks_flatten (data : List α) (chunks : List (List α)) :
    (F.cutChunks data chunks).1.flatten ++ (F.cutChunks data chunks).2 =
      data ++ chunks.flatten := by
  cases chunks with
  | nil => simp [cutChunks]
  | cons chunk chunks =>
      rw [cutChunks_cons]
      exact F.cut_flatten _

/-- Two splits of a stream into chunks that are not empty have the same frames. -/
theorem cutChunks_congr {chunks chunks' : List (List α)} (hne : ∀ chunk ∈ chunks, chunk ≠ [])
    (hne' : ∀ chunk ∈ chunks', chunk ≠ []) (h : chunks.flatten = chunks'.flatten) :
    F.cutChunks data chunks = F.cutChunks data chunks' := by
  have hnil : ∀ {front : List α} {rest : List (List α)},
      (∀ chunk ∈ front :: rest, chunk ≠ []) → (front :: rest).flatten ≠ [] := by
    intro front rest hne hflatten
    rw [List.flatten_cons, List.append_eq_nil_iff] at hflatten
    exact hne front List.mem_cons_self hflatten.1
  cases chunks with
  | nil =>
      cases chunks' with
      | nil => rfl
      | cons chunk' chunks' => exact absurd h.symm (hnil hne')
  | cons chunk chunks =>
      cases chunks' with
      | nil => exact absurd h (hnil hne)
      | cons chunk' chunks' => rw [cutChunks_cons, cutChunks_cons, h]

end Framing
