import Mathlib.Data.List.Basic
import Mathlib.Data.List.Perm.Subperm

/-! # A semaphore that knows its holders

A counting semaphore with a list of those who hold a slot. Nobody holds two, and there
are no more holders than slots: both are part of the type, so no operation can lead
out of it. Acquiring and releasing are partial, and tell by `none` that they refuse.
-/

structure Semaphore (Id : Type) where
  capacity : Nat
  holders : List Id
  nodup : holders.Nodup
  bounded : holders.length ≤ capacity

namespace Semaphore

variable {Id : Type} [DecidableEq Id]

def free (capacity : Nat) : Semaphore Id := ⟨capacity, [], List.nodup_nil, Nat.zero_le _⟩

/-- Take a slot, if there is a free one and none is held already. -/
def acquire (s : Semaphore Id) (id : Id) : Option (Semaphore Id) :=
  if h : id ∉ s.holders ∧ s.holders.length < s.capacity then
    some {
      capacity := s.capacity
      holders := id :: s.holders
      nodup := List.nodup_cons.mpr ⟨h.1, s.nodup⟩
      bounded := h.2 }
  else none

/-- Give the slot back, if one is held. -/
def release (s : Semaphore Id) (id : Id) : Option (Semaphore Id) :=
  if id ∈ s.holders then
    some {
      capacity := s.capacity
      holders := s.holders.erase id
      nodup := s.nodup.erase id
      bounded := Nat.le_trans List.length_erase_le s.bounded }
  else none

variable {s s' : Semaphore Id} {id : Id}

theorem acquire_spec (h : s.acquire id = some s') :
    s'.capacity = s.capacity ∧ ∀ other, other ∈ s'.holders ↔ other = id ∨ other ∈ s.holders := by
  unfold acquire at h
  split at h
  · cases h
    exact ⟨rfl, fun other => List.mem_cons⟩
  · cases h

theorem release_spec (h : s.release id = some s') :
    s'.capacity = s.capacity ∧ ∀ other, other ∈ s'.holders ↔ other ≠ id ∧ other ∈ s.holders := by
  unfold release at h
  split at h
  · cases h
    exact ⟨rfl, fun other => s.nodup.mem_erase_iff⟩
  · cases h

theorem release_of_mem (h : id ∈ s.holders) : ∃ s', s.release id = some s' := by
  unfold release
  rw [if_pos h]
  exact ⟨_, rfl⟩

omit [DecidableEq Id] in
/-- Those who are known to hold a slot are not more than the slots. -/
theorem length_le_capacity {ids : List Id} (hids : ids.Nodup) (h : ∀ id ∈ ids, id ∈ s.holders) :
    ids.length ≤ s.capacity :=
  Nat.le_trans (hids.subperm h).length_le s.bounded

end Semaphore
